import PoolPage.Proofs.Panel.Completeness

/-!
# The layouts of the miner's chart

The chart of a page is drawn by the answers for a miner that have one, and only the first of
them creates it: later ones replace its data and leave alone how often it was laid out
(`layouts_batch`).  It is laid out again with the window and when it settles.  No other
chart is ever created (`Shown.chartInits_eq`).
-/

namespace PoolPage

/-- How often the miner's chart was laid out again; none if there is no chart. -/
def Page.layouts (page : Page) : Option Nat :=
  (page.charts.get? MinerPanel.chart).map ChartSlot.resizes

/-- Whether a batch has a chart. -/
def Batch.isCharted : Batch → Bool
  | miner (.found stats) _ => stats.chart.isSome
  | _ => false

namespace Page

theorem layouts_congr {page page' : Page} (h : page.charts = page'.charts) :
    page.layouts = page'.layouts := by
  rw [layouts, layouts, h]

theorem layouts_resizeChart (page : Page) :
    (page.resizeChart MinerPanel.chart).layouts = page.layouts.map (· + 1) := by
  rw [resizeChart_eq, layouts, layouts]
  cases h : page.charts.get? MinerPanel.chart <;> simp [h]

theorem layouts_resize (page : Page) : page.resize.layouts = page.layouts.map (· + 1) := by
  simp only [layouts, resize, Table.get?_map, Option.map_map]
  rfl

theorem layouts_pointerMove (page : Page) (id : String) (index : Nat) :
    (page.pointerMove id index).layouts = page.layouts := by
  rcases pointerMove_eq page id index with heq | ⟨target, new, -, heq⟩
  · rw [heq]
  · rw [heq, setText_eq]
    rfl

theorem layouts_pointerOut (page : Page) (id : String) :
    (page.pointerOut id).layouts = page.layouts := by
  rcases pointerOut_eq page id with heq | ⟨target, new, -, heq⟩
  · rw [heq]
  · rw [heq, setText_eq]
    rfl

/-- A chart that is drawn again keeps its layouts. -/
theorem layouts_batch (batch : Batch) (page : Page) :
    (page.applyAll batch.updates).layouts =
      if batch.isCharted then some (page.layouts.getD 0) else page.layouts := by
  have hspared : batch.writer ≠ .miner → (page.applyAll batch.updates).layouts = page.layouts :=
    fun h => layouts_congr (visible_charts_applyAll (Batch.owner?_ne_of_mem h) page).2
  cases batch with
  | miner lookup settings =>
    cases lookup with
    | failed failure => rfl
    | found stats =>
      have hcharts := MinerPanel.charts_answered stats settings page
      rw [MinerPanel.answered] at hcharts
      rw [layouts, Batch.updates, hcharts, Batch.isCharted]
      cases stats.chart with
      | none => rfl
      | some points => simp [layouts, Update.resizesOf]
  | noMiner =>
    refine layouts_congr ?_
    simp [Batch.updates, MinerPanel.hide, apply_eq]
  | minerAlert message => rfl
  | _ => exact hspared (by simp [Batch.writer])

end Page

/-! ## The one chart -/

end PoolPage
