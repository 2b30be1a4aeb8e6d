import PoolPage.Proofs.Page.Shown

/-!
# What stays in the miner's panel

An answer for a miner is written over whatever the panel showed before.  A `Cell` is a
text, a markup or a flag of one region, and two pages `Agree` in a cell if it holds the
same in both.  The same updates make two pages agree in the cells that they write, and
leave all other cells as they were (`Page.agree_applyAll_iff`).

So the panel shows the answer alone exactly if every cell of it that the answer does not
write was the same before (`samePanel_iff`).  Of the cells that ever hold something, this
is the estimate of the pending balance where the answer has none: the estimate of the miner
asked for before stays (`pendingEstimate_survives`).
-/

namespace PoolPage

/-! ## Cells -/

/-- A place of a page that can be read. -/
inductive Cell where
  | text (id : String)
  | html (id : String)
  | visible (id : String)
deriving DecidableEq, Repr

def Cell.region : Cell → String
  | text id | html id | visible id => id

def Update.cell? : Update → Option Cell
  | text id _ => some (.text id)
  | html id _ => some (.html id)
  | visible id _ => some (.visible id)
  | _ => none

namespace Page

def Agree (p q : Page) : Cell → Prop
  | .text id => p.text.get? id = q.text.get? id
  | .html id => p.html.get? id = q.html.get? id
  | .visible id => p.visible.get? id = q.visible.get? id

def Lacks (p : Page) : Cell → Prop
  | .text id => p.text.get? id = none
  | .html id => p.html.get? id = none
  | .visible id => p.visible.get? id = none

theorem Lacks.agree {p q : Page} {cell : Cell} (hp : p.Lacks cell) (hq : q.Lacks cell) :
    p.Agree q cell := by
  cases cell <;> exact Eq.trans hp (Eq.symm hq)

theorem agree_apply_of_cell?_eq {u : Update} {cell : Cell} (h : u.cell? = some cell)
    (p q : Page) : (p.apply u).Agree (q.apply u) cell := by
  cases u with
  | text id new =>
    cases h
    simp [Agree, apply_eq]
  | html id new =>
    cases h
    simp [Agree, apply_eq]
  | visible id new =>
    cases h
    simp [Agree, apply_eq]
  | _ => simp [Update.cell?] at h

theorem agree_apply_of_cell?_ne {u : Update} {cell : Cell} (h : u.cell? ≠ some cell)
    (p : Page) : (p.apply u).Agree p cell := by
  cases u with
  | text id new =>
    cases cell with
    | text other =>
      have hne : other ≠ id := fun heq => h (by rw [heq]; rfl)
      simp [Agree, apply_eq, hne]
    | _ => simp [Agree, apply_eq]
  | html id new =>
    cases cell with
    | html other =>
      have hne : other ≠ id := fun heq => h (by rw [heq]; rfl)
      simp [Agree, apply_eq, hne]
    | _ => simp [Agree, apply_eq]
  | visible id new =>
    cases cell with
    | visible other =>
      have hne : other ≠ id := fun heq => h (by rw [heq]; rfl)
      simp [Agree, apply_eq, hne]
    | _ => simp [Agree, apply_eq]
  | _ => cases cell <;> simp [Agree, apply_eq]

theorem Agree.symm {p q : Page} {cell : Cell} (h : p.Agree q cell) : q.Agree p cell := by
  cases cell <;> exact Eq.symm h

theorem Agree.trans {p q r : Page} {cell : Cell} (h : p.Agree q cell) (h' : q.Agree r cell) :
    p.Agree r cell := by
  cases cell <;> exact Eq.trans h h'

theorem Agree.lacks {p q : Page} {cell : Cell} (h : p.Agree q cell) (hq : q.Lacks cell) :
    p.Lacks cell := by
  cases cell <;> exact Eq.trans h hq

/-- After an update two pages agree in the cell it writes, and in the cells they agreed in. -/
theorem agree_apply_iff (u : Update) (cell : Cell) (p q : Page) :
    (p.apply u).Agree (q.apply u) cell ↔ u.cell? = some cell ∨ p.Agree q cell := by
  by_cases h : u.cell? = some cell
  · simp [h, agree_apply_of_cell?_eq h p q]
  · have hp := agree_apply_of_cell?_ne h p
    have hq := agree_apply_of_cell?_ne h q
    constructor
    · intro hafter
      exact .inr ((hp.symm.trans hafter).trans hq)
    · intro hbefore
      exact (hp.trans (hbefore.resolve_left h)).trans hq.symm

theorem agree_applyAll_iff (us : List Update) (cell : Cell) (p q : Page) :
    (p.applyAll us).Agree (q.applyAll us) cell ↔
      cell ∈ us.filterMap Update.cell? ∨ p.Agree q cell := by
  induction us generalizing p q with
  | nil => simp
  | cons u us ih =>
    rw [applyAll_cons, applyAll_cons, ih, agree_apply_iff]
    cases hu : u.cell? with
    | none => simp [hu]
    | some written =>
      have hcell : written = cell ↔ cell = written := eq_comm
      simp only [List.filterMap_cons, hu, List.mem_cons, Option.some.injEq, hcell]
      exact or_left_comm.trans or_assoc.symm

end Page

/-! ## Cells that stay empty -/

namespace Batch

section Hover

variable {id : String} {svg : Svg} {hover : Hover}

theorem sparkline_notMem_text? {region : String} {text : Option String} :
    Update.sparkline id svg hover ∉ PoolPanel.text? region text := by
  cases text <;> simp [PoolPanel.text?]

theorem target_of_mem_series {chart text : String} {values : List Binary64}
    {label : Binary64 → String} {current : Binary64}
    (h : Update.sparkline id svg hover ∈ PoolPanel.series chart text values label current) :
    hover.target = text := by
  simp only [PoolPanel.series, List.mem_cons, reduceCtorEq, Update.sparkline.injEq,
    List.not_mem_nil, or_false, false_or] at h
  rw [h.2.2]

theorem target_of_mem_series? {chart text : String} {values : Option (List Binary64)}
    {current : Binary64}
    (h : Update.sparkline id svg hover ∈ PoolPanel.series? chart text values current) :
    hover.target = text := by
  cases values with
  | none => simp [PoolPanel.series?] at h
  | some values => exact target_of_mem_series h

/-- The labels of a sparkline are shown in a region of the overview. -/
theorem ofRegion?_of_mem_sparkline {batch : Batch}
    (h : Update.sparkline id svg hover ∈ batch.updates) :
    Writer.ofRegion? hover.target = some .pool := by
  have hwriter : batch.writer = .pool := (Option.some.inj (owner?_of_mem h)).symm
  cases batch with
  | pool stats settings =>
    simp only [updates, PoolPanel.render, List.mem_append, List.mem_cons, List.not_mem_nil,
      or_false, reduceCtorEq, or_self, false_or, sparkline_notMem_text?] at h
    rcases h with (h | h) | h
    · rw [target_of_mem_series h]
      decide
    · rw [target_of_mem_series? h]
      decide
    · rw [target_of_mem_series? h]
      decide
  | _ => simp [writer] at hwriter

end Hover
end Batch

def Page.HoversInOverview (page : Page) : Prop :=
  ∀ target, page.IsHovered target → Writer.ofRegion? target = some .pool

theorem isKept_hoversInOverview : IsKept Page.HoversInOverview where
  loaded := by
    rintro target ⟨id, svg, hover, hget, -⟩
    simp [Page.loaded, Page.blank] at hget
  update := by
    intro page batch u hu hpage target ⟨id, svg, hover, hget, htarget⟩
    rw [Page.apply_eq] at hget
    cases u with
    | sparkline a drawing labels =>
      by_cases ha : id = a
      · simp only [Update.onSparklines, Table.get?_insert, ha, if_true, Option.some.injEq,
          Prod.mk.injEq] at hget
        rw [← htarget, ← hget.2]
        exact Batch.ofRegion?_of_mem_sparkline hu
      · simp only [Update.onSparklines, Table.get?_insert, ha, if_false] at hget
        exact hpage target ⟨id, svg, hover, hget, htarget⟩
    | normalize viewBox preserveAspectRatio =>
      simp only [Update.onSparklines, Table.get?_map, Option.map_eq_some_iff] at hget
      obtain ⟨⟨old, labels⟩, hold, heq⟩ := hget
      have hlabels : labels = hover := congrArg Prod.snd heq
      exact hpage target ⟨id, old, hover, hlabels ▸ hold, htarget⟩
    | _ => exact hpage target ⟨id, svg, hover, hget, htarget⟩
  hover := by
    intro page target new _ hpage other ⟨id, svg, hover, hget, htarget⟩
    rw [Page.setText_eq] at hget
    exact hpage other ⟨id, svg, hover, hget, htarget⟩
  resize := fun hpage => hpage
  settled := by
    intro page hpage target ⟨id, svg, hover, hget, htarget⟩
    rw [Page.resizeChart_eq] at hget
    exact hpage target ⟨id, svg, hover, hget, htarget⟩
  taken := fun hpage => hpage

/-- A cell that no batch writes, and that no label is shown in, holds nothing. -/
theorem isKept_lacks {cell : Cell} (hcell : ∀ batch : Batch, ∀ u ∈ batch.updates,
    u.cell? ≠ some cell) (hregion : Writer.ofRegion? cell.region ≠ some .pool) :
    IsKept fun page => page.HoversInOverview ∧ page.Lacks cell where
  loaded := by
    refine ⟨isKept_hoversInOverview.loaded, ?_⟩
    cases cell <;> rfl
  update := by
    intro page batch u hu hpage
    have hagree := Page.agree_apply_of_cell?_ne (hcell batch u hu) page
    exact ⟨isKept_hoversInOverview.update u hu hpage.1, hagree.lacks hpage.2⟩
  hover := by
    intro page target new hhover hpage
    refine ⟨isKept_hoversInOverview.hover new hhover hpage.1, ?_⟩
    have hne : (Update.text target new).cell? ≠ some cell := by
      intro heq
      apply hregion
      rw [← Option.some.inj heq]
      exact hpage.1 target hhover
    exact (Page.agree_apply_of_cell?_ne hne page).lacks hpage.2
  resize := by
    intro page hpage
    refine ⟨isKept_hoversInOverview.resize hpage.1, ?_⟩
    cases cell <;> exact hpage.2
  settled := by
    intro page hpage
    refine ⟨isKept_hoversInOverview.settled hpage.1, ?_⟩
    have hne : (Update.resizeChart MinerPanel.chart).cell? ≠ some cell := by
      simp [Update.cell?]
    exact (Page.agree_apply_of_cell?_ne hne page).lacks hpage.2
  taken := by
    intro page hpage
    refine ⟨isKept_hoversInOverview.taken hpage.1, ?_⟩
    cases cell <;> exact hpage.2

/-! ## The panel -/

namespace MinerPanel

def cells : List Cell :=
  regions.map .text ++ regions.map .html ++ regions.map .visible

def written (stats : MinerStats) : List Cell :=
  [.text hashRate, .text balance, .text unconfirmed, .text paid] ++
  (if stats.pendingEstimate.isSome then [.text pendingEstimate] else []) ++
  [.visible chart, .html payouts, .visible area]

theorem filterMap_cell?_render (stats : MinerStats) (settings : Settings) :
    (render (.found stats) settings).filterMap Update.cell? = written stats := by
  have hestimate : (PoolPanel.text? pendingEstimate
      (stats.pendingEstimate.map fun amount => balanceText amount 5 settings)).filterMap
        Update.cell? = if stats.pendingEstimate.isSome then [.text pendingEstimate] else [] := by
    cases stats.pendingEstimate <;> rfl
  have hchart : (chartUpdates stats.chart).filterMap Update.cell? = [.visible chart] := by
    cases stats.chart <;> rfl
  simp only [render, renderStats, List.filterMap_append, hestimate, hchart]
  rw [List.append_assoc]
  rfl

/-- The cells of the panel that are ever written. -/
def used : List Cell :=
  [.text hashRate, .text balance, .text unconfirmed, .text paid, .text pendingEstimate,
   .visible chart, .html payouts, .visible area]

/-- An answer writes all of them but perhaps the estimate. -/
theorem mem_written_iff {stats : MinerStats} {cell : Cell} :
    cell ∈ written stats ↔
      cell ∈ used ∧ (cell = .text pendingEstimate → stats.pendingEstimate.isSome) := by
  have hdistinct : Cell.text pendingEstimate ∉
      [.text hashRate, .text balance, .text unconfirmed, .text paid, .visible chart,
       .html payouts, .visible area] := by decide
  by_cases hcell : cell = .text pendingEstimate
  · subst hcell
    cases h : stats.pendingEstimate <;> simp_all [written, used]
  · cases h : stats.pendingEstimate <;> simp [written, used, h, hcell]

theorem region_mem_of_mem_cells {cell : Cell} (h : cell ∈ cells) : cell.region ∈ regions := by
  simp only [cells, List.mem_append, List.mem_map] at h
  rcases h with (⟨id, hid, rfl⟩ | ⟨id, hid, rfl⟩) | ⟨id, hid, rfl⟩ <;> exact hid

theorem ofRegion?_of_mem {id : String} (h : id ∈ regions) : Writer.ofRegion? id = some .miner := by
  have hall : ∀ id ∈ regions, Writer.ofRegion? id = some .miner := by decide
  exact hall id h

theorem owner?_of_cell?_mem_cells {u : Update} {cell : Cell} (hcell : cell ∈ cells)
    (hu : u.cell? = some cell) : u.owner? = some .miner := by
  have hregion := region_mem_of_mem_cells hcell
  cases u with
  | text id new =>
    cases hu
    exact ofRegion?_of_mem hregion
  | html id new =>
    cases hu
    exact ofRegion?_of_mem hregion
  | visible id new => rfl
  | _ => simp [Update.cell?] at hu

theorem mem_used_of_mem_updates {batch : Batch} {u : Update} {cell : Cell} (hcell : cell ∈ cells)
    (hu : u ∈ batch.updates) (hwrites : u.cell? = some cell) : cell ∈ used := by
  have hwriter : batch.writer = .miner := by
    have howner := (Batch.owner?_of_mem hu).symm.trans (owner?_of_cell?_mem_cells hcell hwrites)
    exact Option.some.inj howner
  cases batch with
  | miner lookup settings =>
    cases lookup with
    | failed failure =>
      rw [Batch.updates, render, List.mem_singleton] at hu
      simp [hu, Update.cell?] at hwrites
    | found stats =>
      have hwritten : cell ∈ written stats := by
        rw [← filterMap_cell?_render stats settings]
        exact List.mem_filterMap.mpr ⟨u, hu, hwrites⟩
      exact (mem_written_iff.mp hwritten).1
  | noMiner =>
    rw [Batch.updates, hide, List.mem_singleton] at hu
    rw [hu] at hwrites
    rw [← Option.some.inj hwrites]
    decide
  | minerAlert message =>
    rw [Batch.updates, List.mem_singleton] at hu
    simp [hu, Update.cell?] at hwrites
  | _ => simp [Batch.writer] at hwriter

theorem lacks_of_notMem_used {page : Page} (hpage : Shown page) {cell : Cell}
    (hcell : cell ∈ cells) (hused : cell ∉ used) : page.Lacks cell := by
  have hnever : ∀ batch : Batch, ∀ u ∈ batch.updates, u.cell? ≠ some cell :=
    fun _ _ hu hwrites => hused (mem_used_of_mem_updates hcell hu hwrites)
  have hregion : Writer.ofRegion? cell.region ≠ some .pool := by
    rw [ofRegion?_of_mem (region_mem_of_mem_cells hcell)]
    decide
  exact (hpage.invariant (isKept_lacks hnever hregion)).2

def SamePanel (p q : Page) : Prop := ∀ cell ∈ cells, p.Agree q cell

def answered (stats : MinerStats) (settings : Settings) (page : Page) : Page :=
  page.applyAll (render (.found stats) settings)

theorem samePanel_answered_iff (stats : MinerStats) (settings : Settings) (p q : Page) :
    SamePanel (answered stats settings p) (answered stats settings q) ↔
      ∀ cell ∈ cells, cell ∈ written stats ∨ p.Agree q cell := by
  simp only [SamePanel, answered, Page.agree_applyAll_iff, filterMap_cell?_render]

/-- After an answer two pages show the same panel exactly if every cell of it that the answer does
not write was the same in both.  Of pages that come about, this is the case exactly if the answer
has an estimate of the pending balance, or the estimate shown was the same. -/
theorem samePanel_iff (stats : MinerStats) (settings : Settings) (p q : Page) :
    (SamePanel (answered stats settings p) (answered stats settings q) ↔
      ∀ cell ∈ cells, cell ∈ written stats ∨ p.Agree q cell) ∧
    (Shown p → Shown q →
      (SamePanel (answered stats settings p) (answered stats settings q) ↔
        stats.pendingEstimate.isSome ∨
          p.text.get? pendingEstimate = q.text.get? pendingEstimate)) := by
  have hpanel := samePanel_answered_iff stats settings p q
  refine ⟨hpanel, fun hp hq => hpanel.trans ⟨fun h => ?_, fun h cell hcell => ?_⟩⟩
  · rcases h (.text pendingEstimate) (by decide) with hwritten | hagree
    · exact .inl ((mem_written_iff.mp hwritten).2 rfl)
    · exact .inr hagree
  · by_cases hused : cell ∈ used
    · by_cases hestimate : cell = .text pendingEstimate
      · subst hestimate
        exact h.imp (fun hsome => mem_written_iff.mpr ⟨hused, fun _ => hsome⟩) id
      · exact .inl (mem_written_iff.mpr ⟨hused, fun heq => absurd heq hestimate⟩)
    · exact .inr ((lacks_of_notMem_used hp hcell hused).agree (lacks_of_notMem_used hq hcell hused))

/-- The estimate of the miner asked for before stays when the answer has none. -/
theorem pendingEstimate_survives :
    let before : MinerStats := ⟨0, 0, 0, 0, some (3 / 2), none, []⟩
    let stats : MinerStats := ⟨0, 0, 0, 0, none, none, []⟩
    ¬ SamePanel (answered stats .standard (answered before .standard .loaded))
      (answered stats .standard .loaded) := by
  intro before stats hsame
  have hshown : (answered before .standard .loaded).text.get? pendingEstimate =
      some (balanceText (3 / 2) 5 .standard) := by
    rw [answered, Page.applyAll_text]
    simp [before, render, renderStats, PoolPanel.text?, chartUpdates, pendingEstimate]
  rcases (samePanel_answered_iff ..).mp hsame (.text pendingEstimate) (by decide) with
    hwritten | hagree
  · exact absurd ((mem_written_iff.mp hwritten).2 rfl) (by simp [stats])
  · rw [Page.Agree, hshown] at hagree
    simp [Page.loaded, Page.blank] at hagree

end MinerPanel
end PoolPage
