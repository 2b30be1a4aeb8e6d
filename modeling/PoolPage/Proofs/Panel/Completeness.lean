import PoolPage.Proofs.Dashboard.Pages
import PoolPage.Proofs.Dashboard.Teardown
import PoolPage.Proofs.Page.Document
import PoolPage.Proofs.Panel.Leftovers

/-!
# The miner's panel is complete

The texts of the panel, its table of payouts, its flags and its chart are kept apart, and the
outcomes of a lookup write different parts of them: an answer writes nearly all, a missing
address only hides the panel, and failures write nothing.  The panel is complete
(`IsComplete`) if it shows all that belongs to it whenever it is visible, and the chart
is there whenever that is visible.

Within the batch of an answer this fails for a moment: the chart is made visible before it is
drawn.  So the induction over a shown page (`Shown.isComplete`) goes batch by batch and
not, as `Shown.invariant` does, update by update.
-/

namespace PoolPage

/-! ## What stays on a page -/

namespace Page

variable {p q : Page} {cell : Cell}

def Holds (p : Page) : Cell → Prop
  | .text id => (p.text.get? id).isSome = true
  | .html id => (p.html.get? id).isSome = true
  | .visible id => (p.visible.get? id).isSome = true

theorem Agree.holds (h : p.Agree q cell) (hq : q.Holds cell) : p.Holds cell := by
  cases cell <;> exact (congrArg Option.isSome h).trans hq

theorem holds_apply {u : Update} (h : u.cell? = some cell ∨ p.Holds cell) :
    (p.apply u).Holds cell := by
  by_cases hu : u.cell? = some cell
  · cases u with
    | text id new =>
      cases hu
      simp [Holds, apply_eq]
    | html id new =>
      cases hu
      simp [Holds, apply_eq]
    | visible id new =>
      cases hu
      simp [Holds, apply_eq]
    | _ => simp [Update.cell?] at hu
  · exact (agree_apply_of_cell?_ne hu p).holds (h.resolve_left hu)

/-- Updates fill the cells that they write, and empty none. -/
theorem holds_applyAll {us : List Update} (h : cell ∈ us.filterMap Update.cell? ∨ p.Holds cell) :
    (p.applyAll us).Holds cell := by
  induction us generalizing p with
  | nil => simpa using h
  | cons u us ih =>
    rw [applyAll_cons]
    refine ih ?_
    rcases h with hwritten | hheld
    · rw [List.mem_filterMap] at hwritten
      obtain ⟨v, hv, hcell⟩ := hwritten
      rcases List.mem_cons.mp hv with rfl | hrest
      · exact .inr (holds_apply (.inl hcell))
      · exact .inl (List.mem_filterMap.mpr ⟨v, hrest, hcell⟩)
    · exact .inr (holds_apply (.inr hheld))

/-- Only the miner's panel has flags and charts. -/
theorem visible_charts_applyAll {us : List Update} (h : ∀ u ∈ us, u.owner? ≠ some .miner)
    (page : Page) :
    (page.applyAll us).visible = page.visible ∧ (page.applyAll us).charts = page.charts := by
  induction us generalizing page with
  | nil => exact ⟨rfl, rfl⟩
  | cons u us ih =>
    obtain ⟨hu, hus⟩ := List.forall_mem_cons.mp h
    obtain ⟨hvisible, hcharts⟩ := ih hus (page.apply u)
    rw [applyAll_cons, hvisible, hcharts, apply_eq]
    cases u with
    | visible id new => exact absurd rfl hu
    | chart id new => exact absurd rfl hu
    | resizeChart id => exact absurd rfl hu
    | _ => exact ⟨rfl, rfl⟩

end Page

/-! ## The panel -/

namespace MinerPanel

/-- What belongs to the panel whoever is asked for. -/
def essential : List Cell :=
  [.text hashRate, .text balance, .text unconfirmed, .text paid, .html payouts, .visible chart]

structure IsComplete (page : Page) : Prop where
  filled : page.visible.get? area = some true → ∀ cell ∈ essential, page.Holds cell
  charted : page.visible.get? chart = some true → page.HasChart
  labelled : ∀ id slot, page.charts.get? id = some slot →
    slot.chart.xLabels.length = slot.chart.values.length

theorem isComplete_loaded : IsComplete .loaded where
  filled h := by simp [Page.loaded, Page.blank] at h
  charted h := by simp [Page.loaded, Page.blank] at h
  labelled id slot h := by simp [Page.loaded, Page.blank] at h

namespace IsComplete

variable {page page' : Page}

/-- A change that touches no flag, leaves the charts what they are and empties no cell. -/
theorem of_same (h : IsComplete page) (hvisible : page'.visible = page.visible)
    (hcharts : page'.charts.map ChartSlot.chart = page.charts.map ChartSlot.chart)
    (hholds : ∀ cell, page.Holds cell → page'.Holds cell) : IsComplete page' where
  filled harea := by
    rw [hvisible] at harea
    exact fun cell hcell => hholds cell (h.filled harea cell hcell)
  charted hchart := by
    rw [hvisible] at hchart
    have hsome := congrArg (fun charts => (charts.get? chart).isSome) hcharts
    simp only [Table.get?_map, Option.isSome_map] at hsome
    exact hsome.trans (h.charted hchart)
  labelled id slot hslot := by
    have hsame := congrArg (Table.get? · id) hcharts
    simp only [Table.get?_map, hslot, Option.map_some] at hsame
    obtain ⟨old, hold, heq⟩ := Option.map_eq_some_iff.mp hsame.symm
    rw [← heq]
    exact h.labelled id old hold

theorem setText (h : IsComplete page) (id new : String) : IsComplete (page.setText id new) := by
  refine h.of_same ?_ ?_ fun cell hcell => Page.holds_apply (u := .text id new) (.inr hcell)
  · rw [Page.setText_eq]
  · rw [Page.setText_eq]

theorem batch_of_writer_ne (h : IsComplete page) {batch : Batch} (hwriter : batch.writer ≠ .miner) :
    IsComplete (page.applyAll batch.updates) := by
  obtain ⟨hvisible, hcharts⟩ :=
    Page.visible_charts_applyAll (Batch.owner?_ne_of_mem hwriter) page
  exact h.of_same hvisible (by rw [hcharts]) fun cell hcell => Page.holds_applyAll (.inr hcell)

theorem alert (h : IsComplete page) (message : String) :
    IsComplete (page.applyAll [.alert message]) :=
  h.of_same rfl rfl fun _ hcell => Page.holds_applyAll (.inr hcell)

theorem hide (h : IsComplete page) : IsComplete (page.applyAll MinerPanel.hide) where
  filled harea := by
    simp [MinerPanel.hide, Page.apply_eq] at harea
  charted hchart := by
    have hne : chart ≠ area := by decide
    refine h.charted ?_
    simpa [MinerPanel.hide, Page.apply_eq, hne] using hchart
  labelled := by
    simpa [MinerPanel.hide, Page.apply_eq] using h.labelled

end IsComplete

/-! ### Answers -/

section Answer

variable (stats : MinerStats) (settings : Settings) (page : Page)

theorem visible_answered : (answered stats settings page).visible =
    (page.visible.insert chart stats.chart.isSome).insert area true := by
  have hestimate : ∀ (text : Option String) (table : Table Bool),
      (PoolPanel.text? pendingEstimate text).foldl (fun table u => u.onVisible table) table =
        table := by
    intro text table
    cases text <;> rfl
  have hchart : ∀ table : Table Bool,
      (chartUpdates stats.chart).foldl (fun table u => u.onVisible table) table =
        table.insert chart stats.chart.isSome := by
    intro table
    cases stats.chart <;> rfl
  rw [answered, Page.applyAll_visible, render, renderStats, List.foldl_append, List.foldl_append,
    List.foldl_append, hestimate, hchart]
  rfl

theorem charts_answered : (answered stats settings page).charts =
    match stats.chart with
    | some points =>
      page.charts.insert chart ⟨rateChart points, Update.resizesOf page.charts chart⟩
    | none => page.charts := by
  have hestimate : ∀ (text : Option String) (table : Table ChartSlot),
      (PoolPanel.text? pendingEstimate text).foldl (fun table u => u.onCharts table) table =
        table := by
    intro text table
    cases text <;> rfl
  rw [answered, Page.applyAll_charts, render, renderStats, List.foldl_append, List.foldl_append,
    List.foldl_append, hestimate]
  cases stats.chart <;> rfl

theorem holds_answered {cell : Cell} (hcell : cell ∈ essential) :
    (answered stats settings page).Holds cell := by
  refine Page.holds_applyAll (.inl ?_)
  rw [filterMap_cell?_render, mem_written_iff]
  have hall : ∀ cell ∈ essential, cell ∈ used ∧ cell ≠ .text pendingEstimate := by decide
  obtain ⟨hused, hne⟩ := hall cell hcell
  exact ⟨hused, fun heq => absurd heq hne⟩

theorem length_rateChart (points : List RatePoint) :
    (rateChart points).xLabels.length = (rateChart points).values.length := by
  simp [rateChart]

end Answer

/-- An answer completes the panel; the charts that are not drawn anew keep their labels. -/
theorem IsComplete.answered {page : Page} (h : IsComplete page) (stats : MinerStats)
    (settings : Settings) : IsComplete (answered stats settings page) where
  filled _ _ hcell := holds_answered stats settings page hcell
  charted hchart := by
    have hne : chart ≠ area := by decide
    -- the flag is the one that this answer has set
    have hsome : stats.chart.isSome = true := by
      simpa [visible_answered, hne] using hchart
    obtain ⟨points, hpoints⟩ := Option.isSome_iff_exists.mp hsome
    simp [Page.HasChart, charts_answered, hpoints]
  labelled id slot hslot := by
    rw [charts_answered] at hslot
    cases hpoints : stats.chart with
    | none =>
      rw [hpoints] at hslot
      exact h.labelled id slot hslot
    | some points =>
      rw [hpoints] at hslot
      by_cases hid : id = chart
      · simp only [Table.get?_insert, hid, if_true, Option.some.injEq] at hslot
        rw [← hslot]
        exact length_rateChart points
      · simp only [Table.get?_insert, hid, if_false] at hslot
        exact h.labelled id slot hslot

theorem IsComplete.batch {page : Page} (h : IsComplete page) (batch : Batch) :
    IsComplete (page.applyAll batch.updates) := by
  cases batch with
  | miner lookup settings =>
    cases lookup with
    | failed failure => exact h.alert _
    | found stats => exact h.answered stats settings
  | noMiner => exact h.hide
  | minerAlert message => exact h.alert message
  | _ => exact h.batch_of_writer_ne (by simp [Batch.writer])

end MinerPanel

/-- The panel is complete on every page that is shown. -/
theorem Shown.isComplete {page : Page} (h : Shown page) : MinerPanel.IsComplete page := by
  induction h with
  | loaded => exact MinerPanel.isComplete_loaded
  | batch batch _ ih => exact ih.batch batch
  | pointerMove id index _ ih =>
    rcases Page.pointerMove_eq _ id index with heq | ⟨target, new, -, heq⟩
    · rwa [heq]
    · rw [heq]
      exact ih.setText target new
  | pointerOut id _ ih =>
    rcases Page.pointerOut_eq _ id with heq | ⟨target, new, -, heq⟩
    · rwa [heq]
    · rw [heq]
      exact ih.setText target new
  | resize _ ih =>
    refine ih.of_same rfl (Page.charts_resize _) fun cell hcell => ?_
    cases cell <;> exact hcell
  | @settled page _ ih =>
    have hvisible : (page.resizeChart MinerPanel.chart).visible = page.visible := by
      rw [Page.resizeChart_eq]
    exact ih.of_same hvisible (Page.charts_resizeChart page _) fun cell hcell =>
      Page.holds_apply (u := .resizeChart MinerPanel.chart) (.inr hcell)
  | taken _ ih =>
    refine ih.of_same rfl rfl fun cell hcell => ?_
    cases cell <;> exact hcell

namespace Dashboard

/-- Whatever happens to a dashboard, and in whatever order the answers come, the panel that it shows
is complete. -/
theorem isComplete_of_lived {d : Dashboard} (h : Lived d) : MinerPanel.IsComplete d.screen.page :=
  h.shown.isComplete

/-- The stored address is looked up, and the answer has a chart. -/
theorem isComplete_of_stored_address :
    let d := ((Dashboard.new .standard .attended charted (.memory .blank)
      ⟨false, some (Table.empty.insert addressKey someAddress)⟩ 0).start "").live [.wait 0]
    Lived d ∧ d.screen.page.visible.get? MinerPanel.area = some true ∧
      d.screen.page.visible.get? MinerPanel.chart = some true ∧
      MinerPanel.IsComplete d.screen.page := by
  intro d
  have hlived : Lived d := (Lived.started _ "").live [.wait 0]
  exact ⟨hlived, by decide, by decide, isComplete_of_lived hlived⟩

end Dashboard
end PoolPage
