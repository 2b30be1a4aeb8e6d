import PoolPage.Page.Basic

/-!
# The parts of a page

A page has six parts that are shown or raised (texts, markup, visibility, drawings,
charts, alerts), a count of the charts it created and the flag `dirty`.  An update
changes one part, and what becomes of that part depends on it and the update
alone.  `Page.apply_eq` says so: it writes `Page.apply` out part by part.

Two updates are `Apart` if they are about different parts, or about different
regions of one part.  `Page.apply_comm` is what this module is for: updates that
are apart may be made in either order, and so may lists of them
(`Page.applyAll_comm`).
-/

namespace PoolPage

/-! ## Tables -/

namespace Table

variable {α : Type}

theorem insert_of_get? {table : Table α} {name : String} {value : α}
    (h : table.get? name = some value) : table.insert name value = table := by
  refine ext_get? fun other => ?_
  by_cases ho : other = name
  · subst ho
    simp [h]
  · simp [ho]

/-- The last of two values with one name stays. -/
theorem insert_insert (table : Table α) (name : String) (old new : α) :
    (table.insert name old).insert name new = table.insert name new := by
  refine ext_get? fun other => ?_
  by_cases ho : other = name <;> simp [ho]

theorem insert_comm {a b : String} (hab : a ≠ b) (table : Table α) (x y : α) :
    (table.insert a x).insert b y = (table.insert b y).insert a x := by
  refine ext_get? fun other => ?_
  by_cases ha : other = a
  · subst ha
    simp [hab]
  · simp [ha]

end Table

/-! ## Updates by part -/

inductive Part where
  | text
  | html
  | visibility
  | drawings
  | charts
  | alerts
deriving DecidableEq, Repr

namespace Update

def part : Update → Part
  | text .. => .text
  | html .. => .html
  | visible .. => .visibility
  | sparkline .. | normalize .. => .drawings
  | chart .. | resizeChart .. => .charts
  | alert .. => .alerts

@[simp] def onText : Update → Table String → Table String
  | .text id new, table => table.insert id new
  | _, table => table

@[simp] def onHtml : Update → Table String → Table String
  | .html id new, table => table.insert id new
  | _, table => table

@[simp] def onVisible : Update → Table Bool → Table Bool
  | .visible id new, table => table.insert id new
  | _, table => table

/-- A drawing with another viewport. -/
def reframe (viewBox preserveAspectRatio : String) (drawing : Svg × Hover) : Svg × Hover :=
  ((drawing.1.setAttribute "viewBox" viewBox).setAttribute "preserveAspectRatio"
    preserveAspectRatio, drawing.2)

@[simp] def onSparklines : Update → Table (Svg × Hover) → Table (Svg × Hover)
  | .sparkline id svg hover, table => table.insert id (svg, hover)
  | .normalize viewBox preserveAspectRatio, table => table.map (reframe viewBox preserveAspectRatio)
  | _, table => table

/-- How often the chart of a region was laid out anew. -/
def resizesOf (table : Table ChartSlot) (id : String) : Nat :=
  ((table.get? id).map ChartSlot.resizes).getD 0

@[simp] def onCharts : Update → Table ChartSlot → Table ChartSlot
  | .chart id new, table => table.insert id ⟨new, resizesOf table id⟩
  | .resizeChart id, table =>
    match table.get? id with
    | some slot => table.insert id { slot with resizes := slot.resizes + 1 }
    | none => table
  | _, table => table

@[simp] def created : Update → Table ChartSlot → Nat
  | .chart id _, table => if (table.get? id).isSome then 0 else 1
  | _, _ => 0

@[simp] def onAlerts : Update → List String → List String
  | .alert message, alerts => alerts ++ [message]
  | _, alerts => alerts

/-- Whether an update makes a page with these texts and visible regions dirty. -/
@[simp] def soils : Update → Table String → Table Bool → Bool
  | .text id new, texts, _ => texts.get? id != some new
  | .visible id new, _, flags => flags.get? id != some new
  | .html .., _, _ | .sparkline .., _, _ | .normalize .., _, _ | .chart .., _, _ => true
  | .resizeChart _, _, _ | .alert _, _, _ => false

end Update

namespace Page

theorem setText_eq (page : Page) (id text : String) :
    page.setText id text =
      { page with
        text := page.text.insert id text
        dirty := page.dirty || page.text.get? id != some text } := by
  unfold setText
  split
  next h =>
    rw [Table.insert_of_get? h, h]
    simp
  next h =>
    have hne : (page.text.get? id != some text) = true := by simpa using h
    simp [hne]

theorem setChart_eq (page : Page) (id : String) (chart : LineChart) :
    page.setChart id chart =
      { page with
        charts := (Update.chart id chart).onCharts page.charts
        chartInits := page.chartInits + (Update.chart id chart).created page.charts
        dirty := true } := by
  unfold setChart
  split
  next slot h => simp [Update.onCharts, Update.created, Update.resizesOf, h]
  next h => simp [Update.onCharts, Update.created, Update.resizesOf, h]

theorem resizeChart_eq (page : Page) (id : String) :
    page.resizeChart id =
      { page with charts := (Update.resizeChart id).onCharts page.charts } := by
  unfold resizeChart
  split
  next slot h => simp [Update.onCharts, h]
  next h => simp [Update.onCharts, h]

theorem apply_eq (page : Page) (u : Update) :
    page.apply u =
      { text := u.onText page.text
        html := u.onHtml page.html
        visible := u.onVisible page.visible
        sparklines := u.onSparklines page.sparklines
        charts := u.onCharts page.charts
        chartInits := page.chartInits + u.created page.charts
        alerts := u.onAlerts page.alerts
        dirty := page.dirty || u.soils page.text page.visible } := by
  cases u with
  | text id new => exact setText_eq page id new
  | html id new => simp [apply]
  | visible id new => rfl
  | sparkline id svg hover => simp [apply]
  | normalize viewBox preserveAspectRatio =>
    simp only [apply, normalizeDrawings, Update.onText, Update.onHtml, Update.onVisible,
      Update.onSparklines, Update.onCharts, Update.created, Update.onAlerts, Update.soils,
      Bool.or_true, Nat.add_zero]
    rfl
  | chart id new =>
    rw [apply, setChart_eq]
    simp
  | resizeChart id =>
    rw [apply, resizeChart_eq]
    simp
  | alert message => simp [apply]

end Page

/-! ## Updates that are apart -/

/-- Two updates of different parts of a page, or of different regions. -/
def Update.Apart (u v : Update) : Prop :=
  u.part ≠ v.part ∨ ∃ a b, u.target? = some a ∧ v.target? = some b ∧ a ≠ b

namespace Update

theorem Apart.symm {u v : Update} (h : u.Apart v) : v.Apart u := by
  rcases h with h | ⟨a, b, ha, hb, hab⟩
  · exact .inl h.symm
  · exact .inr ⟨b, a, hb, ha, hab.symm⟩

/-- Updates of one kind that are apart have different regions. -/
theorem Apart.ne {u v : Update} {a b : String} (h : u.Apart v) (hpart : u.part = v.part)
    (ha : u.target? = some a) (hb : v.target? = some b) : a ≠ b := by
  rcases h with h | ⟨a', b', ha', hb', hab⟩
  · exact absurd hpart h
  · rw [ha, Option.some.injEq] at ha'
    rw [hb, Option.some.injEq] at hb'
    rwa [ha', hb']

/-- An update of all drawings is apart only from updates of other parts. -/
theorem not_apart_of_target?_eq_none {u v : Update} (hpart : u.part = v.part)
    (hu : u.target? = none) : ¬ u.Apart v := by
  rintro (h | ⟨a, b, ha, hb, hab⟩)
  · exact h hpart
  · simp [hu] at ha

section Commute

variable {u v : Update}

theorem onText_comm (h : u.Apart v) (table : Table String) :
    v.onText (u.onText table) = u.onText (v.onText table) := by
  cases u with
  | text a x =>
    cases v with
    | text b y => exact Table.insert_comm (h.ne rfl rfl rfl) table x y
    | _ => rfl
  | _ => rfl

theorem onHtml_comm (h : u.Apart v) (table : Table String) :
    v.onHtml (u.onHtml table) = u.onHtml (v.onHtml table) := by
  cases u with
  | html a x =>
    cases v with
    | html b y => exact Table.insert_comm (h.ne rfl rfl rfl) table x y
    | _ => rfl
  | _ => rfl

theorem onVisible_comm (h : u.Apart v) (table : Table Bool) :
    v.onVisible (u.onVisible table) = u.onVisible (v.onVisible table) := by
  cases u with
  | visible a x =>
    cases v with
    | visible b y => exact Table.insert_comm (h.ne rfl rfl rfl) table x y
    | _ => rfl
  | _ => rfl

theorem onSparklines_comm (h : u.Apart v) (table : Table (Svg × Hover)) :
    v.onSparklines (u.onSparklines table) = u.onSparklines (v.onSparklines table) := by
  cases u with
  | sparkline a x hx =>
    cases v with
    | sparkline b y hy => exact Table.insert_comm (h.ne rfl rfl rfl) table _ _
    | normalize => exact absurd h.symm (not_apart_of_target?_eq_none rfl rfl)
    | _ => rfl
  | normalize =>
    cases v with
    | sparkline => exact absurd h (not_apart_of_target?_eq_none rfl rfl)
    | normalize => exact absurd h (not_apart_of_target?_eq_none rfl rfl)
    | _ => rfl
  | _ => rfl

theorem onAlerts_comm (h : u.Apart v) (alerts : List String) :
    v.onAlerts (u.onAlerts alerts) = u.onAlerts (v.onAlerts alerts) := by
  cases u with
  | alert =>
    cases v with
    | alert => exact absurd h (not_apart_of_target?_eq_none rfl rfl)
    | _ => rfl
  | _ => rfl

theorem get?_onCharts (u : Update) (table : Table ChartSlot) {id : String}
    (h : u.part = .charts → u.target? ≠ some id) :
    (u.onCharts table).get? id = table.get? id := by
  cases u with
  | chart a x =>
    have hne : id ≠ a := fun heq => h rfl (by rw [heq]; rfl)
    simp [hne]
  | resizeChart a =>
    have hne : id ≠ a := fun heq => h rfl (by rw [heq]; rfl)
    simp only [onCharts]
    split
    · simp [hne]
    · rfl
  | _ => rfl

theorem get?_onCharts_congr (u : Update) {s t : Table ChartSlot} {id : String}
    (h : s.get? id = t.get? id) : (u.onCharts s).get? id = (u.onCharts t).get? id := by
  cases u with
  | chart a x =>
    by_cases ha : id = a
    · subst ha
      simp [resizesOf, h]
    · simp [ha, h]
  | resizeChart a =>
    by_cases ha : id = a
    · subst ha
      cases ht : t.get? id <;> simp [h, ht]
    · have hne : ∀ table : Table ChartSlot,
          ((resizeChart a).onCharts table).get? id = table.get? id := fun table =>
        get?_onCharts _ table fun _ heq => ha (Option.some.inj heq).symm
      rw [hne, hne, h]
  | _ => exact h

theorem get?_onCharts_of_apart (h : u.Apart v) (table : Table ChartSlot) {id : String}
    (hpart : v.part = .charts) (hid : v.target? = some id) :
    (u.onCharts table).get? id = table.get? id :=
  get?_onCharts u table fun hu ht => h.ne (hu.trans hpart.symm) ht hid rfl

theorem onCharts_comm (h : u.Apart v) (table : Table ChartSlot) :
    v.onCharts (u.onCharts table) = u.onCharts (v.onCharts table) := by
  refine Table.ext_get? fun id => ?_
  by_cases hv : v.part = .charts ∧ v.target? = some id
  · have hu : ∀ t : Table ChartSlot, (u.onCharts t).get? id = t.get? id := fun t =>
      get?_onCharts_of_apart h t hv.1 hv.2
    rw [hu, get?_onCharts_congr v (hu table)]
  · have hother : ∀ t : Table ChartSlot, (v.onCharts t).get? id = t.get? id := fun t =>
      get?_onCharts v t fun hpart hid => hv ⟨hpart, hid⟩
    rw [hother, get?_onCharts_congr u (hother table)]

theorem created_onCharts (h : u.Apart v) (table : Table ChartSlot) :
    v.created (u.onCharts table) = v.created table := by
  cases v with
  | chart b y => simp only [created, get?_onCharts_of_apart h table rfl rfl]
  | _ => rfl

theorem soils_comm (h : u.Apart v) (texts : Table String) (flags : Table Bool) :
    v.soils (u.onText texts) (u.onVisible flags) = v.soils texts flags := by
  cases v with
  | text b y =>
    cases u with
    | text a x =>
      have hba : b ≠ a := (h.ne rfl rfl rfl).symm
      simp [hba]
    | _ => rfl
  | visible b y =>
    cases u with
    | visible a x =>
      have hba : b ≠ a := (h.ne rfl rfl rfl).symm
      simp [hba]
    | _ => rfl
  | _ => rfl

end Commute
end Update

namespace Page

theorem apply_comm {u v : Update} (h : u.Apart v) (page : Page) :
    (page.apply u).apply v = (page.apply v).apply u := by
  have hcreated : page.chartInits + u.created page.charts + v.created (u.onCharts page.charts) =
      page.chartInits + v.created page.charts + u.created (v.onCharts page.charts) := by
    rw [Update.created_onCharts h, Update.created_onCharts h.symm]
    omega
  have hdirty : (page.dirty || u.soils page.text page.visible ||
        v.soils (u.onText page.text) (u.onVisible page.visible)) =
      (page.dirty || v.soils page.text page.visible ||
        u.soils (v.onText page.text) (v.onVisible page.visible)) := by
    rw [Update.soils_comm h, Update.soils_comm h.symm, Bool.or_right_comm]
  simp only [apply_eq]
  rw [Update.onText_comm h, Update.onHtml_comm h, Update.onVisible_comm h,
    Update.onSparklines_comm h, Update.onCharts_comm h, Update.onAlerts_comm h, hcreated, hdirty]

@[simp] theorem applyAll_nil (page : Page) : page.applyAll [] = page := rfl

@[simp] theorem applyAll_cons (page : Page) (u : Update) (us : List Update) :
    page.applyAll (u :: us) = (page.apply u).applyAll us := rfl

theorem applyAll_append (page : Page) (us vs : List Update) :
    page.applyAll (us ++ vs) = (page.applyAll us).applyAll vs := List.foldl_append

@[simp] theorem applyAll_text (page : Page) (us : List Update) :
    (page.applyAll us).text = us.foldl (fun table u => u.onText table) page.text := by
  induction us generalizing page with
  | nil => rfl
  | cons u us ih => rw [applyAll_cons, ih, apply_eq, List.foldl_cons]

theorem applyAll_visible (page : Page) (us : List Update) :
    (page.applyAll us).visible = us.foldl (fun table u => u.onVisible table) page.visible := by
  induction us generalizing page with
  | nil => rfl
  | cons u us ih => rw [applyAll_cons, ih, apply_eq, List.foldl_cons]

theorem applyAll_sparklines (page : Page) (us : List Update) :
    (page.applyAll us).sparklines = us.foldl (fun table u => u.onSparklines table) page.sparklines := by
  induction us generalizing page with
  | nil => rfl
  | cons u us ih => rw [applyAll_cons, ih, apply_eq, List.foldl_cons]

theorem applyAll_charts (page : Page) (us : List Update) :
    (page.applyAll us).charts = us.foldl (fun table u => u.onCharts table) page.charts := by
  induction us generalizing page with
  | nil => rfl
  | cons u us ih => rw [applyAll_cons, ih, apply_eq, List.foldl_cons]

/-- An update may be made before or after a list of updates that are apart from it. -/
theorem applyAll_apply {u : Update} {vs : List Update} (h : ∀ v ∈ vs, u.Apart v) (page : Page) :
    (page.apply u).applyAll vs = (page.applyAll vs).apply u := by
  induction vs generalizing page with
  | nil => rfl
  | cons v vs ih =>
    have hv : u.Apart v := h v List.mem_cons_self
    have hvs : ∀ w ∈ vs, u.Apart w := fun w hw => h w (List.mem_cons_of_mem v hw)
    calc (page.apply u).applyAll (v :: vs)
        = ((page.apply v).apply u).applyAll vs := by rw [applyAll_cons, apply_comm hv]
      _ = (page.applyAll (v :: vs)).apply u := ih hvs (page.apply v)

theorem applyAll_comm {us vs : List Update} (h : ∀ u ∈ us, ∀ v ∈ vs, u.Apart v) (page : Page) :
    (page.applyAll us).applyAll vs = (page.applyAll vs).applyAll us := by
  induction us generalizing page with
  | nil => rfl
  | cons u us ih =>
    have hu : ∀ v ∈ vs, u.Apart v := h u List.mem_cons_self
    have hus : ∀ w ∈ us, ∀ v ∈ vs, w.Apart v := fun w hw => h w (List.mem_cons_of_mem u hw)
    rw [applyAll_cons, ih hus, applyAll_apply hu, applyAll_cons]

end Page
end PoolPage
