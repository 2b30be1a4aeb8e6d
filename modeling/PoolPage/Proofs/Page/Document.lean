import PoolPage.Page.Screen
import PoolPage.Proofs.Page.Parts

/-!
# The document of a page and its flag

The document is made of the texts, the markup, the flags and the drawings of a page and
of the data of its charts.  How often a chart was laid out, how many there were and the
alerts do not enter into it, so pages with the `SameContent` have one document.

Each kind of change raises `dirty` by a rule of its own.  `Tells` is what these rules have
in common: a flag that is down afterwards was down before, and the content is the same.
It holds of every update and call, and it is transitive, so while the flag is down the
document is the one that was there when it was last taken (`toHtml_of_dirty_eq_false`).
-/

namespace PoolPage

theorem Table.names_map {α β : Type} (f : α → β) (table : Table α) :
    (table.map f).names = table.names := by
  simp [names, map]

namespace Page

/-! ## Content -/

/-- All that the document of a page is made of. -/
structure SameContent (p q : Page) : Prop where
  text : p.text = q.text
  html : p.html = q.html
  visible : p.visible = q.visible
  sparklines : p.sparklines = q.sparklines
  charts : p.charts.map ChartSlot.chart = q.charts.map ChartSlot.chart

namespace SameContent

variable {p q r : Page}

theorem refl (p : Page) : p.SameContent p := ⟨rfl, rfl, rfl, rfl, rfl⟩

theorem trans (h : p.SameContent q) (h' : q.SameContent r) : p.SameContent r where
  text := h.text.trans h'.text
  html := h.html.trans h'.html
  visible := h.visible.trans h'.visible
  sparklines := h.sparklines.trans h'.sparklines
  charts := h.charts.trans h'.charts

theorem regionIds (h : p.SameContent q) : p.regionIds = q.regionIds := by
  have hnames : p.charts.names = q.charts.names := by
    rw [← Table.names_map ChartSlot.chart, h.charts, Table.names_map]
  unfold Page.regionIds
  rw [h.text, h.html, h.visible, h.sparklines, hnames]

theorem content (h : p.SameContent q) (id : String) : p.content id = q.content id := by
  have hchart : (p.charts.get? id).map ChartSlot.chart = (q.charts.get? id).map ChartSlot.chart := by
    rw [← Table.get?_map, h.charts, Table.get?_map]
  unfold Page.content
  rw [h.text, h.html, h.sparklines]
  -- the charts are read last, and only their data
  cases hp : p.charts.get? id with
  | none =>
    have hq : q.charts.get? id = none := by simpa [hp] using hchart.symm
    rw [hq]
  | some slot =>
    rw [hp, Option.map_some] at hchart
    obtain ⟨other, hq, hdata⟩ := Option.map_eq_some_iff.mp hchart.symm
    rw [hq]
    simp only [hdata]

theorem element (h : p.SameContent q) (id : String) : p.element id = q.element id := by
  unfold Page.element hiddenStyle
  rw [h.html, h.visible, h.content]

theorem toHtml (h : p.SameContent q) : p.toHtml = q.toHtml := by
  have helement : p.element = q.element := funext h.element
  unfold Page.toHtml
  rw [h.regionIds, helement]

end SameContent

/-! ## The flag -/

/-- The flag tells what became of a page: where it is down afterwards, it was down before, and the
content is the same. -/
def Tells (before after : Page) : Prop :=
  after.dirty = false → before.dirty = false ∧ after.SameContent before

theorem Tells.refl (page : Page) : page.Tells page := fun h => ⟨h, .refl page⟩

theorem Tells.trans {p q r : Page} (h : p.Tells q) (h' : q.Tells r) : p.Tells r := by
  intro hclean
  obtain ⟨hq, hsame'⟩ := h' hclean
  obtain ⟨hp, hsame⟩ := h hq
  exact ⟨hp, hsame'.trans hsame⟩

theorem tells_of_dirty {before after : Page} (h : after.dirty = true) : before.Tells after := by
  intro hclean
  rw [h] at hclean
  exact absurd hclean Bool.noConfusion

theorem charts_resizeChart (page : Page) (id : String) :
    (page.resizeChart id).charts.map ChartSlot.chart = page.charts.map ChartSlot.chart := by
  rw [resizeChart_eq]
  simp only [Update.onCharts]
  split
  next slot hslot =>
    refine Table.ext_get? fun other => ?_
    by_cases hother : other = id
    · simp [hother, hslot]
    · simp [hother]
  next => rfl

theorem charts_resize (page : Page) :
    page.resize.charts.map ChartSlot.chart = page.charts.map ChartSlot.chart := by
  refine Table.ext_get? fun id => ?_
  simp only [resize, Table.get?_map, Option.map_map]
  rfl

theorem tells_apply (page : Page) (u : Update) : page.Tells (page.apply u) := by
  intro hclean
  have hflag := hclean
  rw [apply_eq] at hflag
  obtain ⟨hbefore, hsoils⟩ := Bool.or_eq_false_iff.mp hflag
  refine ⟨hbefore, ?_⟩
  cases u with
  | text id new =>
    -- the flag stays down only if the text was there already
    have hthere : page.text.get? id = some new := by simpa using hsoils
    have hsame : page.apply (.text id new) = page := if_pos hthere
    rw [hsame]
    exact .refl page
  | visible id new =>
    have hthere : page.visible.get? id = some new := by simpa using hsoils
    exact ⟨rfl, rfl, Table.insert_of_get? hthere, rfl, rfl⟩
  | resizeChart id =>
    have hframe := resizeChart_eq page id
    rw [apply, hframe]
    refine ⟨rfl, rfl, rfl, rfl, ?_⟩
    rw [← charts_resizeChart page id, hframe]
  | alert message => exact ⟨rfl, rfl, rfl, rfl, rfl⟩
  | _ => simp at hsoils

theorem tells_applyAll (page : Page) (us : List Update) : page.Tells (page.applyAll us) := by
  induction us generalizing page with
  | nil => exact .refl page
  | cons u us ih => exact (tells_apply page u).trans (ih (page.apply u))

theorem tells_pointerMove (page : Page) (id : String) (index : Nat) :
    page.Tells (page.pointerMove id index) := by
  unfold pointerMove
  split
  · split
    · exact tells_apply page (.text _ _)
    · exact .refl page
  · exact .refl page

theorem tells_pointerOut (page : Page) (id : String) : page.Tells (page.pointerOut id) := by
  unfold pointerOut
  split
  · exact tells_apply page (.text _ _)
  · exact .refl page

theorem tells_resize (page : Page) : page.Tells page.resize := by
  intro hclean
  exact ⟨hclean, rfl, rfl, rfl, rfl, charts_resize page⟩

theorem tells_change (page : Page) (c : Snapshot.Call) : page.Tells (Screen.change page c) := by
  cases c with
  | applyAll us => exact tells_applyAll page us
  | apply u => exact tells_apply page u
  | pointerMove id index => exact tells_pointerMove page id index
  | pointerOut id => exact tells_pointerOut page id
  | resize => exact tells_resize page
  | reset => exact tells_of_dirty rfl

theorem sameContent_takeDirty (page : Page) : page.takeDirty.2.SameContent page :=
  ⟨rfl, rfl, rfl, rfl, rfl⟩

end Page

/-! ## Watching the flag -/

/-- What is done to a page by those who change it and by the one who watches its flag. -/
inductive Use where
  | call (c : Snapshot.Call)
  | take

/-- A page and the document it had when its flag was last taken, or at first if it never was. -/
structure Watched where
  page : Page
  document : String

namespace Watched

def start (page : Page) : Watched := ⟨page, page.toHtml⟩

def use (w : Watched) : Use → Watched
  | .call c => { w with page := Screen.change w.page c }
  | .take => ⟨w.page.takeDirty.2, w.page.toHtml⟩

def useAll (w : Watched) (uses : List Use) : Watched := uses.foldl use w

/-- A page whose flag is down has the document of that time. -/
def IsCurrent (w : Watched) : Prop := w.page.dirty = false → w.page.toHtml = w.document

theorem isCurrent_start (page : Page) : (start page).IsCurrent := fun _ => rfl

theorem IsCurrent.use {w : Watched} (h : w.IsCurrent) (u : Use) : (w.use u).IsCurrent := by
  intro hclean
  cases u with
  | call c =>
    obtain ⟨hbefore, hsame⟩ := Page.tells_change w.page c hclean
    exact hsame.toHtml.trans (h hbefore)
  | take => exact (Page.sameContent_takeDirty w.page).toHtml

theorem IsCurrent.useAll {w : Watched} (h : w.IsCurrent) (uses : List Use) :
    (w.useAll uses).IsCurrent := by
  induction uses generalizing w with
  | nil => exact h
  | cons u uses ih => exact ih (h.use u)

/-- Whatever is done to a page, while its flag is down it has the document that it had when the flag
was last taken. -/
theorem toHtml_of_dirty_eq_false (page : Page) (uses : List Use)
    (h : ((start page).useAll uses).page.dirty = false) :
    ((start page).useAll uses).page.toHtml = ((start page).useAll uses).document :=
  (isCurrent_start page).useAll uses h

/-- A chart is drawn and the flag is taken; layouts, an alert and a pointer over nothing then leave
the flag down. -/
theorem toHtml_of_laid_out_chart :
    let chart : LineChart := ⟨"rate", [], [], "red"⟩
    let uses : List Use :=
      [.call (.apply (.chart "minerChart" chart)), .take, .call .resize,
       .call (.applyAll [.resizeChart "minerChart", .alert "down"]), .call (.pointerMove "pool" 0)]
    ((start .blank).useAll uses).page.dirty = false ∧
      ((start .blank).useAll uses).page.toHtml = ((start .blank).useAll uses).document := by
  intro chart uses
  have hclean : ((start .blank).useAll uses).page.dirty = false := by decide
  exact ⟨hclean, toHtml_of_dirty_eq_false .blank uses hclean⟩

end Watched
end PoolPage
