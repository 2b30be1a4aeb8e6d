import PoolPage.Proofs.Page.Writers

/-!
# Sparklines under the pointer

The overview draws up to three sparklines.  While the pointer is over a point of one, a
text region of the overview shows the label of that point instead of the current
figure.  Drawings and labels, the texts, and the viewport of each drawing are kept apart,
and a refresh rewrites them in part only: two of the series are optional.

A page is done to by `Touch`es: whole batches of its writers, the pointer, layouts, and
the one who takes its flag.  `lastSeries` is read off the touches alone: the series that
the overview had last for a region.  The page shows just these series, each in the usual
viewport and with a label for each point, and its text is the resting one or a label
(`hover_after`).  The proof carries `Page.Hangs` through the touches.
-/

namespace PoolPage

/-! ## Touches -/

/-- What is done to a page in one go. -/
inductive Touch where
  | batch (batch : Batch)
  | pointerMove (id : String) (index : Nat)
  | pointerOut (id : String)
  | resize
  | resizeChart (id : String)
  | taken

namespace Page

def touch (page : Page) : Touch → Page
  | .batch batch => page.applyAll batch.updates
  | .pointerMove id index => page.pointerMove id index
  | .pointerOut id => page.pointerOut id
  | .resize => page.resize
  | .resizeChart id => page.resizeChart id
  | .taken => page.takeDirty.2

def touchAll (page : Page) (touches : List Touch) : Page := touches.foldl touch page

end Page

/-- The series that a batch has for a region. -/
def Batch.series? : Batch → String → Option (List Binary64)
  | .pool stats _, id =>
    if id = PoolPanel.poolRateChart then some (stats.charts.hashRate.map RatePoint.rate)
    else if id = PoolPanel.workersChart then stats.charts.workers
    else if id = PoolPanel.addressesChart then stats.charts.addresses
    else none
  | _, _ => none

def Touch.series? : Touch → String → Option (List Binary64)
  | .batch b, id => b.series? id
  | _, _ => none

/-- The series that came last for a region. -/
def lastSeries (touches : List Touch) (id : String) : Option (List Binary64) :=
  touches.foldl (fun last touch => (touch.series? id).or last) none

/-! ## What a refresh of the overview does to a sparkline -/

/-- A drawing in the viewport of the overview. -/
def framed (svg : Svg) : Svg :=
  { svg with viewBox := some PoolPanel.viewBox, preserveAspectRatio := some "none" }

theorem reframe_eq (drawing : Svg × Hover) :
    Update.reframe PoolPanel.viewBox "none" drawing = (framed drawing.1, drawing.2) := by
  simp [Update.reframe, Svg.setAttribute, framed]

theorem framed_framed (svg : Svg) : framed (framed svg) = framed svg := rfl

namespace Update

def drawAll (us : List Update) (table : Table (Svg × Hover)) : Table (Svg × Hover) :=
  us.foldl (fun table u => u.onSparklines table) table

def writeAll (us : List Update) (table : Table String) : Table String :=
  us.foldl (fun table u => u.onText table) table

section All

variable (u : Update) (us vs : List Update) (drawings : Table (Svg × Hover)) (texts : Table String)

@[simp] theorem drawAll_nil : drawAll [] drawings = drawings := rfl

@[simp] theorem drawAll_cons : drawAll (u :: us) drawings = drawAll us (u.onSparklines drawings) :=
  rfl

@[simp] theorem drawAll_append : drawAll (us ++ vs) drawings = drawAll vs (drawAll us drawings) :=
  List.foldl_append

theorem drawAll_of_owner?_ne {us : List Update} (h : ∀ u ∈ us, u.owner? ≠ some .pool) :
    drawAll us drawings = drawings := by
  induction us with
  | nil => rfl
  | cons u us ih =>
    obtain ⟨hu, hus⟩ := List.forall_mem_cons.mp h
    have hnothing : u.onSparklines drawings = drawings := by
      cases u with
      | sparkline id svg hover => exact absurd rfl hu
      | normalize viewBox preserveAspectRatio => exact absurd rfl hu
      | _ => rfl
    rw [drawAll_cons, hnothing, ih hus]

@[simp] theorem writeAll_nil : writeAll [] texts = texts := rfl

@[simp] theorem writeAll_cons : writeAll (u :: us) texts = writeAll us (u.onText texts) := rfl

@[simp] theorem writeAll_append : writeAll (us ++ vs) texts = writeAll vs (writeAll us texts) :=
  List.foldl_append

theorem get?_writeAll_of_owner?_ne {us : List Update} {writer : Writer}
    (h : ∀ u ∈ us, u.owner? ≠ some writer) {id : String} (hid : Writer.ofRegion? id = some writer) :
    (writeAll us texts).get? id = texts.get? id := by
  induction us generalizing texts with
  | nil => rfl
  | cons u us ih =>
    obtain ⟨hu, hus⟩ := List.forall_mem_cons.mp h
    have hnothing : (u.onText texts).get? id = texts.get? id := by
      cases u with
      | text other new =>
        have hne : id ≠ other := fun heq => hu (heq ▸ hid)
        simp [hne]
      | _ => rfl
    rw [writeAll_cons, ih _ hus, hnothing]

end All
end Update

theorem Page.sparklines_applyAll (page : Page) (us : List Update) :
    (page.applyAll us).sparklines = Update.drawAll us page.sparklines := applyAll_sparklines page us

theorem Page.text_applyAll (page : Page) (us : List Update) :
    (page.applyAll us).text = Update.writeAll us page.text := applyAll_text page us

namespace PoolPanel

/-- The sparklines of the overview and the regions that show their labels. -/
def hovered : List (String × String) :=
  [(poolRateChart, poolRateText), (workersChart, workersText), (addressesChart, addressesText)]

theorem eq_of_hovered {a b text : String} (ha : (a, text) ∈ hovered) (hb : (b, text) ∈ hovered) :
    a = b := by
  have hall : ∀ p ∈ hovered, ∀ q ∈ hovered, p.2 = q.2 → p.1 = q.1 := by decide
  exact hall _ ha _ hb rfl

theorem ofRegion?_of_hovered {chart text : String} (h : (chart, text) ∈ hovered) :
    Writer.ofRegion? text = some .pool := by
  have hall : ∀ p ∈ hovered, Writer.ofRegion? p.2 = some .pool := by decide
  exact hall _ h

def drawing (text : String) (values : List Binary64) (label : Binary64 → String)
    (current : Binary64) : Svg × Hover :=
  (Sparkline.draw values, ⟨text, values.map label, label current⟩)

def draw? (chart text : String) (values : Option (List Binary64)) (current : Binary64)
    (table : Table (Svg × Hover)) : Table (Svg × Hover) :=
  match values with
  | some values => table.insert chart (drawing text values Figure.plain current)
  | none => table

@[simp] theorem drawAll_text? (id : String) (text : Option String) (table : Table (Svg × Hover)) :
    Update.drawAll (text? id text) table = table := by
  cases text <;> rfl

@[simp] theorem drawAll_series? (chart text : String) (values : Option (List Binary64))
    (current : Binary64) (table : Table (Svg × Hover)) :
    Update.drawAll (series? chart text values current) table =
      draw? chart text values current table := by
  cases values <;> rfl

theorem sparklines_render (stats : PoolStats) (settings : Settings) (page : Page) :
    (page.applyAll (render stats settings)).sparklines =
      (draw? addressesChart addressesText stats.charts.addresses stats.connectedAddresses
        (draw? workersChart workersText stats.charts.workers stats.connectedWorkers
          (page.sparklines.insert poolRateChart (drawing poolRateText
            (stats.charts.hashRate.map RatePoint.rate) Figure.hashRate stats.poolRate)))).map
        (Update.reframe viewBox "none") := by
  rw [Page.sparklines_applyAll]
  simp [render, series, drawing]

def write? (text : String) (values : Option (List Binary64)) (current : Binary64)
    (table : Table String) : Table String :=
  match values with
  | some _ => table.insert text (Figure.plain current)
  | none => table

@[simp] theorem writeAll_series? (chart text : String) (values : Option (List Binary64))
    (current : Binary64) (table : Table String) :
    Update.writeAll (series? chart text values current) table =
      write? text values current table := by
  cases values <;> rfl

theorem get?_writeAll_text? {id other : String} (h : other ≠ id) (text : Option String)
    (table : Table String) : (Update.writeAll (text? id text) table).get? other = table.get? other := by
  cases text with
  | none => rfl
  | some new => simp [text?, h]

/-- The texts of the overview that no sparkline has to do with. -/
def fixedTexts : List String :=
  [networkRate, height, blocksFound, effort, fee, minimumPayout, payoutWindow, lastBlock]

theorem ne_of_hovered {chart text id : String} (h : (chart, text) ∈ hovered)
    (hid : id ∈ fixedTexts) : text ≠ id := by
  have hall : ∀ p ∈ hovered, ∀ id ∈ fixedTexts, p.2 ≠ id := by decide
  exact hall _ h id hid

theorem get?_draw?_of_ne {id chart : String} (h : id ≠ chart) (text : String)
    (values : Option (List Binary64)) (current : Binary64) (table : Table (Svg × Hover)) :
    (draw? chart text values current table).get? id = table.get? id := by
  cases values <;> simp [draw?, h]

theorem get?_write?_of_ne {id text : String} (h : id ≠ text) (values : Option (List Binary64))
    (current : Binary64) (table : Table String) :
    (write? text values current table).get? id = table.get? id := by
  cases values <;> simp [write?, h]

theorem get?_write?_congr {id text : String} (values : Option (List Binary64)) (current : Binary64)
    {s t : Table String} (h : s.get? id = t.get? id) :
    (write? text values current s).get? id = (write? text values current t).get? id := by
  cases values with
  | none => exact h
  | some values => simp [write?, h]

/-- Of the texts that a refresh sets, those under sparklines come with their series. -/
theorem get?_text_render {chart text : String} (h : (chart, text) ∈ hovered) (stats : PoolStats)
    (settings : Settings) (page : Page) :
    (page.applyAll (render stats settings)).text.get? text =
      (write? addressesText stats.charts.addresses stats.connectedAddresses
        (write? workersText stats.charts.workers stats.connectedWorkers
          (page.text.insert poolRateText (Figure.hashRate stats.poolRate)))).get? text := by
  have hne : ∀ id ∈ fixedTexts, text ≠ id := fun id hid => ne_of_hovered h hid
  simp only [fixedTexts, List.forall_mem_cons] at hne
  obtain ⟨hrate, hheight, hfound, heffort, hfee, hminimum, hwindow, hblock, -⟩ := hne
  rw [Page.text_applyAll]
  simp only [render, series, Update.writeAll_append, Update.writeAll_cons, Update.writeAll_nil,
    Update.onText, writeAll_series?, get?_writeAll_text? hfee, get?_writeAll_text? hminimum,
    get?_writeAll_text? hwindow, get?_writeAll_text? hblock]
  refine get?_write?_congr _ _ (get?_write?_congr _ _ ?_)
  simp [hrate, hheight, hfound, heffort]

/-- A refresh draws the series that it has, and sets their texts to the current figures.  Of the
others it leaves the texts alone. -/
theorem render_hovered {chart text : String} (h : (chart, text) ∈ hovered) (stats : PoolStats)
    (settings : Settings) (page : Page) :
    match (Batch.pool stats settings).series? chart with
    | some values => ∃ label current,
        (page.applyAll (render stats settings)).sparklines.get? chart =
          some (framed (Sparkline.draw values), (drawing text values label current).2) ∧
        (page.applyAll (render stats settings)).text.get? text = some (label current)
    | none =>
        (page.applyAll (render stats settings)).sparklines.get? chart =
          (page.sparklines.get? chart).map (Update.reframe viewBox "none") ∧
        (page.applyAll (render stats settings)).text.get? text = page.text.get? text := by
  have hcharts : poolRateChart ≠ workersChart ∧ poolRateChart ≠ addressesChart ∧
      workersChart ≠ addressesChart := by decide
  have htexts : poolRateText ≠ workersText ∧ poolRateText ≠ addressesText ∧
      workersText ≠ addressesText := by decide
  obtain ⟨hpw, hpa, hwa⟩ := hcharts
  obtain ⟨hpw', hpa', hwa'⟩ := htexts
  rw [get?_text_render h, sparklines_render, Table.get?_map]
  simp only [hovered, List.mem_cons, Prod.mk.injEq, List.not_mem_nil, or_false] at h
  rcases h with ⟨rfl, rfl⟩ | ⟨rfl, rfl⟩ | ⟨rfl, rfl⟩
  · have hseries : (Batch.pool stats settings).series? poolRateChart =
        some (stats.charts.hashRate.map RatePoint.rate) := by
      simp [Batch.series?]
    rw [hseries, get?_draw?_of_ne hpa, get?_draw?_of_ne hpw, get?_write?_of_ne hpa',
      get?_write?_of_ne hpw', Table.get?_insert, if_pos rfl, Table.get?_insert, if_pos rfl,
      Option.map_some, reframe_eq]
    exact ⟨Figure.hashRate, stats.poolRate, rfl, rfl⟩
  · have hseries : (Batch.pool stats settings).series? workersChart = stats.charts.workers := by
      simp [Batch.series?, hpw.symm]
    rw [hseries, get?_draw?_of_ne hwa, get?_write?_of_ne hwa']
    cases stats.charts.workers with
    | none => simp [draw?, write?, hpw.symm, hpw'.symm]
    | some values =>
      refine ⟨Figure.plain, stats.connectedWorkers, ?_, ?_⟩
      · simp [draw?, drawing, reframe_eq]
      · simp [write?]
  · have hseries : (Batch.pool stats settings).series? addressesChart = stats.charts.addresses := by
      simp [Batch.series?, hpa.symm, hwa.symm]
    rw [hseries]
    cases stats.charts.addresses with
    | none =>
      refine ⟨?_, ?_⟩
      · rw [draw?, get?_draw?_of_ne hwa.symm, Table.get?_insert, if_neg hpa.symm]
      · rw [write?, get?_write?_of_ne hwa'.symm, Table.get?_insert, if_neg hpa'.symm]
    | some values =>
      refine ⟨Figure.plain, stats.connectedAddresses, ?_, ?_⟩
      · simp [draw?, drawing, reframe_eq]
      · simp [write?]

theorem exists_hovered {stats : PoolStats} {settings : Settings} {id : String}
    {values : List Binary64} (h : (Batch.pool stats settings).series? id = some values) :
    ∃ text, (id, text) ∈ hovered := by
  unfold Batch.series? at h
  dsimp only at h
  split at h
  next hid => exact ⟨poolRateText, by simp [hovered, hid]⟩
  next =>
    split at h
    next hid => exact ⟨workersText, by simp [hovered, hid]⟩
    next =>
      split at h
      next hid => exact ⟨addressesText, by simp [hovered, hid]⟩
      next => exact absurd h.symm (Option.some_ne_none values)

/-- A refresh without a series for a region only sets the viewport of what is there. -/
theorem get?_sparklines_render {id : String} {stats : PoolStats} {settings : Settings}
    (h : (Batch.pool stats settings).series? id = none) (page : Page) :
    (page.applyAll (render stats settings)).sparklines.get? id =
      (page.sparklines.get? id).map (Update.reframe viewBox "none") := by
  by_cases hid : ∃ text, (id, text) ∈ hovered
  · obtain ⟨text, htext⟩ := hid
    have hrender := render_hovered htext stats settings page
    rw [h] at hrender
    exact hrender.1
  · have hne : ∀ p ∈ hovered, id ≠ p.1 := by
      rintro ⟨chart, text⟩ hp rfl
      exact hid ⟨text, hp⟩
    simp only [hovered, List.forall_mem_cons] at hne
    obtain ⟨hpool, hworkers, haddresses, -⟩ := hne
    rw [sparklines_render, Table.get?_map, get?_draw?_of_ne haddresses, get?_draw?_of_ne hworkers,
      Table.get?_insert, if_neg hpool]

end PoolPanel

/-! ## What hangs on a page -/

namespace Page

/-- A series is drawn in a region with a label for each point, and its text is the resting one or a
label. -/
structure IsHung (page : Page) (id : String) (values : List Binary64) (hover : Hover) : Prop where
  drawn : page.sparklines.get? id = some (framed (Sparkline.draw values), hover)
  region : (id, hover.target) ∈ PoolPanel.hovered
  labels : hover.labels.length = values.length
  text : ∃ shown, page.text.get? hover.target = some shown ∧
    (shown = hover.resting ∨ shown ∈ hover.labels)

/-- What a region shows of the series that came last for it. -/
def ShowsSeries (page : Page) (id : String) : Option (List Binary64) → Prop
  | some values => ∃ hover, page.IsHung id values hover
  | none => page.sparklines.get? id = none

def Hangs (page : Page) (series : String → Option (List Binary64)) : Prop :=
  ∀ id, page.ShowsSeries id (series id)

theorem IsHung.hover_eq {page : Page} {id : String} {values : List Binary64} {svg : Svg}
    {hover found : Hover} (h : page.IsHung id values found)
    (hget : page.sparklines.get? id = some (svg, hover)) : found = hover :=
  congrArg Prod.snd (Option.some.inj (h.drawn.symm.trans hget))

namespace Hangs

variable {page other : Page} {series : String → Option (List Binary64)}

theorem isHung (h : page.Hangs series) {id : String} {svg : Svg} {hover : Hover}
    (hget : page.sparklines.get? id = some (svg, hover)) :
    ∃ values, series id = some values ∧ page.IsHung id values hover := by
  have hid := h id
  cases hseries : series id with
  | none =>
    rw [hseries] at hid
    exact absurd (hget.symm.trans hid) (Option.some_ne_none _)
  | some values =>
    rw [hseries] at hid
    obtain ⟨found, hhung⟩ := hid
    exact ⟨values, rfl, hhung.hover_eq hget ▸ hhung⟩

/-- Nothing changes for a page with the same drawings and the same texts under them. -/
theorem of_same (h : page.Hangs series) (hdrawn : other.sparklines = page.sparklines)
    (htext : ∀ id text, (id, text) ∈ PoolPanel.hovered →
      other.text.get? text = page.text.get? text) : other.Hangs series := by
  intro id
  have hid := h id
  cases hseries : series id with
  | none =>
    rw [hseries] at hid
    exact (congrArg (Table.get? · id) hdrawn).trans hid
  | some values =>
    rw [hseries] at hid
    obtain ⟨hover, hhung⟩ := hid
    refine ⟨hover, ?_, hhung.region, hhung.labels, ?_⟩
    · rw [hdrawn]
      exact hhung.drawn
    · rw [htext id _ hhung.region]
      exact hhung.text

/-- The pointer changes the text of the sparkline that it is over, and no other's. -/
theorem setText (h : page.Hangs series) {id : String} {svg : Svg} {hover : Hover}
    (hget : page.sparklines.get? id = some (svg, hover)) {new : String}
    (hnew : new = hover.resting ∨ new ∈ hover.labels) :
    (page.setText hover.target new).Hangs series := by
  obtain ⟨_, -, hpointed⟩ := h.isHung hget
  intro id'
  have hid := h id'
  rw [setText_eq]
  cases hseries : series id' with
  | none =>
    rw [hseries] at hid
    exact hid
  | some values =>
    rw [hseries] at hid
    obtain ⟨found, hhung⟩ := hid
    refine ⟨found, hhung.drawn, hhung.region, hhung.labels, ?_⟩
    by_cases htarget : found.target = hover.target
    · have hregion := hhung.region
      rw [htarget] at hregion
      -- no two sparklines share a text
      have hsame : id' = id := PoolPanel.eq_of_hovered hregion hpointed.region
      subst hsame
      rw [hhung.hover_eq hget]
      exact ⟨new, by simp, hnew⟩
    · obtain ⟨shown, hshown, hresting⟩ := hhung.text
      exact ⟨shown, by simpa [htarget] using hshown, hresting⟩

theorem pointerMove (h : page.Hangs series) (id : String) (index : Nat) :
    (page.pointerMove id index).Hangs series := by
  unfold Page.pointerMove
  split
  next svg hover hget =>
    cases hlabel : hover.labels[index]? with
    | none =>
      simp only [Hover.over?, hlabel, Option.map_none]
      exact h
    | some label =>
      simp only [Hover.over?, hlabel, Option.map_some]
      exact h.setText hget (.inr (List.mem_of_getElem? hlabel))
  next => exact h

theorem pointerOut (h : page.Hangs series) (id : String) : (page.pointerOut id).Hangs series := by
  unfold Page.pointerOut
  split
  next svg hover hget => exact h.setText hget (.inl rfl)
  next => exact h

/-- A refresh of the overview hangs the series that it has, and leaves the others. -/
theorem render (h : page.Hangs series) (stats : PoolStats) (settings : Settings) :
    (page.applyAll (PoolPanel.render stats settings)).Hangs fun id =>
      ((Batch.pool stats settings).series? id).or (series id) := by
  intro id
  dsimp only
  cases hnew : (Batch.pool stats settings).series? id with
  | some values =>
    obtain ⟨text, htext⟩ := PoolPanel.exists_hovered hnew
    have hrender := PoolPanel.render_hovered htext stats settings page
    rw [hnew] at hrender
    obtain ⟨label, current, hdrawn, hresting⟩ := hrender
    exact ⟨_, hdrawn, htext, List.length_map label, label current, hresting, .inl rfl⟩
  | none =>
    have hkept := PoolPanel.get?_sparklines_render hnew page
    have hid := h id
    rw [Option.none_or]
    cases hseries : series id with
    | none =>
      rw [hseries] at hid
      rw [ShowsSeries, hkept, hid, Option.map_none]
    | some values =>
      rw [hseries] at hid
      obtain ⟨hover, hhung⟩ := hid
      have hrender := PoolPanel.render_hovered hhung.region stats settings page
      rw [hnew] at hrender
      refine ⟨hover, ?_, hhung.region, hhung.labels, ?_⟩
      · rw [hkept, hhung.drawn, Option.map_some, reframe_eq, framed_framed]
      · rw [hrender.2]
        exact hhung.text

/-- The other writers draw nothing, and write no text that is under a sparkline. -/
theorem batch (h : page.Hangs series) {batch : Batch} (hwriter : batch.writer ≠ .pool) :
    (page.applyAll batch.updates).Hangs series := by
  have howner := Batch.owner?_ne_of_mem hwriter
  refine h.of_same ?_ fun id text htext => ?_
  · rw [sparklines_applyAll, Update.drawAll_of_owner?_ne _ howner]
  · rw [text_applyAll, Update.get?_writeAll_of_owner?_ne _ howner
      (PoolPanel.ofRegion?_of_hovered htext)]

theorem touch (h : page.Hangs series) (t : Touch) :
    (page.touch t).Hangs fun id => (t.series? id).or (series id) := by
  cases t with
  | batch batch =>
    cases batch with
    | pool stats settings => exact h.render stats settings
    | _ => exact h.batch (by simp [Batch.writer])
  | pointerMove id index => exact h.pointerMove id index
  | pointerOut id => exact h.pointerOut id
  | resizeChart id =>
    rw [Page.touch, resizeChart_eq]
    exact h.of_same rfl fun _ _ _ => rfl
  | resize => exact h.of_same rfl fun _ _ _ => rfl
  | taken => exact h.of_same rfl fun _ _ _ => rfl

theorem touchAll (h : page.Hangs series) (touches : List Touch) :
    (page.touchAll touches).Hangs fun id =>
      touches.foldl (fun last t => (t.series? id).or last) (series id) := by
  induction touches generalizing page series with
  | nil => exact h
  | cons t touches ih => exact ih (h.touch t)

end Hangs

theorem hangs_loaded : Page.loaded.Hangs fun _ => none := fun _ => rfl

/-- A sparkline of a series under the pointer: it is drawn in the usual viewport and has a label for
each point, its text is the resting one or a label, and the pointer changes it to what it should. -/
structure Reacts (page : Page) (id : String) (values : List Binary64) (svg : Svg)
    (hover : Hover) : Prop where
  viewBox : svg.viewBox = some "0 0 200 100"
  aspectRatio : svg.preserveAspectRatio = some "none"
  body : svg.body = (Sparkline.draw values).body
  labels : hover.labels.length = values.length
  text : ∃ shown, page.text.get? hover.target = some shown ∧
    (shown = hover.resting ∨ shown ∈ hover.labels)
  out : (page.pointerOut id).text.get? hover.target = some hover.resting
  pointed : ∀ index label, hover.labels[index]? = some label →
    (page.pointerMove id index).text.get? hover.target = some label
  beyond : ∀ index, hover.labels.length ≤ index → page.pointerMove id index = page

theorem IsHung.reacts {page : Page} {id : String} {values : List Binary64} {hover : Hover}
    (h : page.IsHung id values hover) :
    page.Reacts id values (framed (Sparkline.draw values)) hover where
  viewBox := rfl
  aspectRatio := rfl
  body := rfl
  labels := h.labels
  text := h.text
  out := by simp [pointerOut, h.drawn, Hover.out, setText_eq]
  pointed index label hlabel := by simp [pointerMove, h.drawn, Hover.over?, hlabel, setText_eq]
  beyond index hindex := by
    have hnone : hover.labels[index]? = none := List.getElem?_eq_none hindex
    simp [pointerMove, h.drawn, Hover.over?, hnone]

/-- Whatever is done to a loaded page, the sparklines on it are those of the series that came last,
and they react to the pointer; over regions without one the pointer changes nothing. -/
theorem hover_after (touches : List Touch) (id : String) :
    let page := Page.loaded.touchAll touches
    match lastSeries touches id with
    | some values => ∃ svg hover,
        page.sparklines.get? id = some (svg, hover) ∧ page.Reacts id values svg hover
    | none =>
        page.sparklines.get? id = none ∧ page.pointerOut id = page ∧
          ∀ index, page.pointerMove id index = page := by
  have hid := hangs_loaded.touchAll touches id
  dsimp only
  unfold lastSeries
  dsimp only at hid
  split
  next values hseries =>
    rw [hseries] at hid
    obtain ⟨hover, hhung⟩ := hid
    exact ⟨_, hover, hhung.drawn, hhung.reacts⟩
  next hseries =>
    rw [hseries] at hid
    have hnone : (Page.loaded.touchAll touches).sparklines.get? id = none := hid
    refine ⟨hnone, ?_, fun index => ?_⟩
    · simp [pointerOut, hnone]
    · simp [pointerMove, hnone]

end Page
end PoolPage
