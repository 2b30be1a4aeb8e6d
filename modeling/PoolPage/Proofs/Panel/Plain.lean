import PoolPage.Proofs.Page.Skeleton

/-!
# Panels without their data

A plain update has the kind of another one, and blanks where that has data.  Every update of a panel
is of the same shape as a plain one that is made with the number of rows of the panel's table and
with the series that have finite values (`Batch.sameShape_plain`).  So the tags of a page that panels
have written are those of a page that was written plainly (`Page.SameShape.applyBatches`).
-/

namespace PoolPage

open Markup

/-! ## Plain updates -/

/-- What is left of an update without its data. -/
inductive Update.Kind where
  | text (id : String)
  | html (id : String)
  | visible (id : String) (flag : Bool)
  | sparkline (id : String)
  | normalize
  | chart (id : String)
  | resizeChart (id : String)
  | alert
deriving DecidableEq

def Update.kind : Update → Update.Kind
  | .text id _ => .text id
  | .html id _ => .html id
  | .visible id flag => .visible id flag
  | .sparkline id _ _ => .sparkline id
  | .normalize _ _ => .normalize
  | .chart id _ => .chart id
  | .resizeChart id => .resizeChart id
  | .alert _ => .alert

/-- The cells after the link in a row of a table.  The pool's payments also have a number of
destinations. -/
def plainCells (id : String) : List String :=
  if id = PoolPanel.payouts then ["", "", ""] else ["", ""]

def plainRow (id : String) : String := Markup.row (Markup.anchor "" "" :: plainCells id)

/-- The update of a kind that has blanks for data. -/
def Update.Kind.plain (rows : Nat) (hasPoints : String → Bool) : Update.Kind → Update
  | .text id => .text id ""
  | .html id => .html id (String.join (List.replicate rows (plainRow id)))
  | .visible id flag => .visible id flag
  | .sparkline id => .sparkline id (Sparkline.draw (if hasPoints id then [0] else [])) ⟨"", [], ""⟩
  | .normalize => .normalize "" ""
  | .chart id => .chart id ⟨"", [], [], ""⟩
  | .resizeChart id => .resizeChart id
  | .alert => .alert ""

/-! ## Rows and drawings -/

theorem isRows_tr (markup : String) : Page.isRows ("<tr>" ++ markup) = true := by
  unfold Page.isRows
  rw [String.toList_append]
  rfl

theorem isRows_row (cells : List String) (markup : String) :
    Page.isRows (Markup.row cells ++ markup) = true := by
  unfold Markup.row
  rw [String.append_assoc, String.append_assoc]
  exact isRows_tr _

theorem isRows_join_rows {α : Type} (cells : α → List String) (xs : List α) :
    Page.isRows (String.join (xs.map fun x => Markup.row (cells x))) = !xs.isEmpty := by
  cases xs with
  | nil => rfl
  | cons x xs =>
    rw [List.map_cons, String.join_cons]
    exact isRows_row _ _

def plainTags (id : String) : List Tag := rowTags (anchorTags :: (plainCells id).map fun _ => [])

theorem reads_plainRow (id : String) : Reads (plainRow id) (plainTags id) := by
  refine reads_row (.cons (reads_anchor "" "") ?_)
  unfold plainCells
  split
  · exact .cons rfl (.cons rfl (.cons rfl .nil))
  · exact .cons rfl (.cons rfl .nil)

theorem sameRows_join_rows {α : Type} {cells : α → List String} {id : String}
    (hcells : ∀ x, Reads (Markup.row (cells x)) (plainTags id)) (xs : List α) :
    SameRows (String.join (xs.map fun x => Markup.row (cells x)))
      (String.join (List.replicate xs.length (plainRow id))) := by
  have hplain : List.replicate xs.length (plainRow id) = xs.map fun _ => plainRow id :=
    List.map_const'.symm
  rw [hplain]
  constructor
  · exact ⟨_, Reads.join_map hcells xs, Reads.join_map (fun _ => reads_plainRow id) xs⟩
  · rw [isRows_join_rows]
    exact (isRows_join_rows _ xs).symm

theorem Sparkline.sameShape_draw {values values' : List Binary64}
    (h : values.any Binary64.isFinite = values'.any Binary64.isFinite) :
    (Sparkline.draw values).SameShape (Sparkline.draw values') where
  viewBox := rfl
  preserveAspectRatio := rfl
  body := by
    refine ⟨bodyTags values, reads_body values, ?_⟩
    have htags : bodyTags values = bodyTags values' := by
      unfold bodyTags
      rw [h]
    rw [htags]
    exact reads_body values'

/-! ## Batches -/

namespace Batch

/-- The number of rows in the table that a batch writes. -/
def rowCount : Batch → Nat
  | pool stats _ => stats.payments.length
  | miner (.found stats) _ => stats.payments.length
  | blocks luck _ => luck.rows.length
  | _ => 0

/-- The series that a batch draws, with the regions of their drawings. -/
def series : Batch → List (String × List Binary64)
  | pool stats _ =>
    (PoolPanel.poolRateChart, stats.charts.hashRate.map RatePoint.rate) ::
      ((stats.charts.workers.map fun values => (PoolPanel.workersChart, values)).toList ++
        (stats.charts.addresses.map fun values => (PoolPanel.addressesChart, values)).toList)
  | _ => []

/-- Which of the series of a batch have a finite value. -/
def finiteSeries (b : Batch) : List (String × Bool) :=
  b.series.map fun (id, values) => (id, values.any Binary64.isFinite)

def hasPoints (b : Batch) (id : String) : Bool := (b.finiteSeries.lookup id).getD false

/-- The updates of a batch with blanks for its data. -/
def plain (b : Batch) : List Update :=
  b.updates.map fun u => u.kind.plain b.rowCount b.hasPoints

/-- Batches that agree in all but their data. -/
structure Alike (b b' : Batch) : Prop where
  kinds : b.updates.map Update.kind = b'.updates.map Update.kind
  rowCount : b.rowCount = b'.rowCount
  finiteSeries : b.finiteSeries = b'.finiteSeries

theorem Alike.plain_eq {b b' : Batch} (h : b.Alike b') : b.plain = b'.plain := by
  have hkinds : ∀ b : Batch, b.plain =
      (b.updates.map Update.kind).map (Update.Kind.plain b.rowCount b.hasPoints) := by
    intro b
    rw [List.map_map]
    rfl
  have hpoints : b.hasPoints = b'.hasPoints := by
    unfold hasPoints
    rw [h.finiteSeries]
  rw [hkinds, hkinds, h.kinds, h.rowCount, hpoints]

/-! ### Panels -/

def HasShape (rows : Nat) (hasPoints : String → Bool) (u : Update) : Prop :=
  u.SameShape (u.kind.plain rows hasPoints)

section HasShape

variable {rows : Nat} {points : String → Bool}

theorem hasShape_text (id text : String) : HasShape rows points (.text id text) :=
  .text id text ""

theorem hasShape_of_mem_text? {id : String} {text : Option String} {u : Update}
    (hu : u ∈ PoolPanel.text? id text) : HasShape rows points u := by
  cases text with
  | none => exact absurd hu List.not_mem_nil
  | some text =>
    rw [List.mem_singleton.mp hu]
    exact hasShape_text id text

theorem hasShape_of_mem_series {chart text : String} {values : List Binary64}
    {label : Binary64 → String} {current : Binary64} {u : Update}
    (hpoints : points chart = values.any Binary64.isFinite)
    (hu : u ∈ PoolPanel.series chart text values label current) : HasShape rows points u := by
  simp only [PoolPanel.series, List.mem_cons, List.not_mem_nil, or_false] at hu
  rcases hu with rfl | rfl
  · exact hasShape_text text _
  · refine .sparkline chart (Sparkline.sameShape_draw ?_) _ _
    rw [hpoints]
    cases values.any Binary64.isFinite <;> decide

theorem hasShape_of_mem_series? {chart text : String} {values : Option (List Binary64)}
    {current : Binary64} {u : Update}
    (hpoints : ∀ new, values = some new → points chart = new.any Binary64.isFinite)
    (hu : u ∈ PoolPanel.series? chart text values current) : HasShape rows points u := by
  cases values with
  | none => exact absurd hu List.not_mem_nil
  | some values => exact hasShape_of_mem_series (hpoints values rfl) hu

end HasShape

theorem reads_poolPayment (settings : Settings) (payment : PoolPayment) :
    Reads (PoolPanel.paymentRow settings payment) (plainTags PoolPanel.payouts) :=
  reads_row (.cons (reads_anchor _ _) (.cons (Reads.escape _)
    (.cons (Reads.of_isPlain (isPlain_toString _)) (.cons (Reads.escape _) .nil))))

theorem reads_minerPayment (settings : Settings) (payment : MinerPayment) :
    Reads (MinerPanel.paymentRow settings payment) (plainTags MinerPanel.payouts) :=
  reads_row (.cons (reads_anchor _ _) (.cons (Reads.escape _) (.cons (Reads.escape _) .nil)))

theorem reads_blockRow (settings : Settings) (block : BlockRow) :
    Reads (BlocksPanel.row settings block) (plainTags BlocksPanel.table) :=
  reads_row (.cons (reads_anchor _ _) (.cons (Reads.escape _) (.cons (Reads.escape _) .nil)))

theorem hasPoints_rate (stats : PoolStats) (settings : Settings) :
    (pool stats settings).hasPoints PoolPanel.poolRateChart =
      (stats.charts.hashRate.map RatePoint.rate).any Binary64.isFinite := by
  simp [hasPoints, finiteSeries, series]

theorem hasPoints_workers {stats : PoolStats} (settings : Settings) {values : List Binary64}
    (h : stats.charts.workers = some values) :
    (pool stats settings).hasPoints PoolPanel.workersChart = values.any Binary64.isFinite := by
  have hne : (PoolPanel.workersChart == PoolPanel.poolRateChart) = false := by decide
  simp [hasPoints, finiteSeries, series, h, List.lookup_cons, hne]

theorem hasPoints_addresses {stats : PoolStats} (settings : Settings) {values : List Binary64}
    (h : stats.charts.addresses = some values) :
    (pool stats settings).hasPoints PoolPanel.addressesChart = values.any Binary64.isFinite := by
  have hrate : (PoolPanel.addressesChart == PoolPanel.poolRateChart) = false := by decide
  have hworkers : (PoolPanel.addressesChart == PoolPanel.workersChart) = false := by decide
  cases hnone : stats.charts.workers <;>
    simp [hasPoints, finiteSeries, series, h, hnone, List.lookup_cons, hrate, hworkers]

theorem hasShape_pool {stats : PoolStats} {settings : Settings} {u : Update}
    (hu : u ∈ PoolPanel.render stats settings) :
    HasShape (pool stats settings).rowCount (pool stats settings).hasPoints u := by
  simp only [PoolPanel.render, List.mem_append, List.mem_cons, List.not_mem_nil, or_false] at hu
  rcases hu with ((((((((h | h) | h) | h) | h) | h) | h) | h) | h) | h
  · rcases h with rfl | rfl | rfl | rfl <;> exact hasShape_text _ _
  · exact hasShape_of_mem_series (hasPoints_rate stats settings) h
  · exact hasShape_of_mem_series? (fun _ => hasPoints_workers settings) h
  · exact hasShape_of_mem_series? (fun _ => hasPoints_addresses settings) h
  · rw [h]
    exact .normalize _ _ _ _
  · exact hasShape_of_mem_text? h
  · exact hasShape_of_mem_text? h
  · exact hasShape_of_mem_text? h
  · exact hasShape_of_mem_text? h
  · rw [h]
    exact .html PoolPanel.payouts (sameRows_join_rows (reads_poolPayment settings) stats.payments)

theorem hasShape_miner {lookup : MinerLookup} {settings : Settings} {u : Update}
    (hu : u ∈ MinerPanel.render lookup settings) :
    HasShape (miner lookup settings).rowCount (miner lookup settings).hasPoints u := by
  cases lookup with
  | failed failure =>
    rw [List.mem_singleton.mp hu]
    exact .alert _ _
  | found stats =>
    simp only [MinerPanel.render, MinerPanel.renderStats, List.mem_append, List.mem_cons,
      List.not_mem_nil, or_false] at hu
    rcases hu with ((h | h) | h) | h
    · rcases h with rfl | rfl | rfl | rfl <;> exact hasShape_text _ _
    · exact hasShape_of_mem_text? h
    · cases hchart : stats.chart with
      | none =>
        rw [hchart] at h
        rw [List.mem_singleton.mp h]
        exact .visible _ _
      | some points =>
        rw [hchart] at h
        simp only [MinerPanel.chartUpdates, List.mem_cons, List.not_mem_nil, or_false] at h
        rcases h with rfl | rfl
        · exact .visible _ _
        · exact .chart _ _ _
    · rcases h with rfl | rfl
      · exact .html MinerPanel.payouts
          (sameRows_join_rows (reads_minerPayment settings) stats.payments)
      · exact .visible _ _

theorem hasShape_blocks {luck : BlockLuck} {settings : Settings} {u : Update}
    (hu : u ∈ BlocksPanel.render luck settings) :
    HasShape (blocks luck settings).rowCount (blocks luck settings).hasPoints u := by
  simp only [BlocksPanel.render, List.mem_cons, List.not_mem_nil, or_false] at hu
  rcases hu with rfl | rfl | rfl | rfl | rfl
  · exact .html BlocksPanel.table (sameRows_join_rows (reads_blockRow settings) luck.rows)
  all_goals exact hasShape_text _ _

/-- All panels are of the shape of plain ones; only the router writes markup of its own. -/
theorem sameShape_plain {b : Batch} (hb : b.writer ≠ .router) :
    ∀ u ∈ b.updates, u.SameShape (u.kind.plain b.rowCount b.hasPoints) := by
  intro u hu
  cases b with
  | pool stats settings => exact hasShape_pool hu
  | miner lookup settings => exact hasShape_miner hu
  | noMiner =>
    rw [List.mem_singleton.mp hu]
    exact .visible _ _
  | minerAlert message =>
    rw [List.mem_singleton.mp hu]
    exact .alert _ _
  | blocks luck settings => exact hasShape_blocks hu
  | profit input params blockTime =>
    rw [List.mem_singleton.mp hu]
    exact hasShape_text _ _
  | fragment body => exact absurd rfl hb

end Batch

/-! ## Runs -/

theorem Page.SameShape.applyBatches {p q : Page} (h : p.SameShape q) {run : List Batch}
    (hrun : ∀ b ∈ run, b.writer ≠ .router) :
    (p.applyBatches run).SameShape (q.applyAll (run.flatMap Batch.plain)) := by
  induction run generalizing p q with
  | nil => exact h
  | cons b run ih =>
    have hb := h.applyAll (Batch.sameShape_plain (hrun b List.mem_cons_self))
    rw [Page.applyBatches_cons, List.flatMap_cons, Page.applyAll_append]
    exact ih hb fun other hother => hrun other (List.mem_cons_of_mem b hother)

theorem flatMap_plain_eq {run run' : List Batch} (h : List.Forall₂ Batch.Alike run run') :
    run.flatMap Batch.plain = run'.flatMap Batch.plain := by
  induction h with
  | nil => rfl
  | cons hb _ ih => rw [List.flatMap_cons, List.flatMap_cons, hb.plain_eq, ih]

/-- The documents of two runs of panels have the same tags, whatever is shown in them. -/
theorem skeleton_toHtml_eq {run run' : List Batch} (h : List.Forall₂ Batch.Alike run run')
    (hrun : ∀ b ∈ run, b.writer ≠ .router) (hrun' : ∀ b ∈ run', b.writer ≠ .router) :
    skeleton (Page.blank.applyBatches run).toHtml =
      skeleton (Page.blank.applyBatches run').toHtml := by
  have hshape := Page.SameShape.blank.applyBatches hrun
  have hshape' := Page.SameShape.blank.applyBatches hrun'
  rw [hshape.toHtml.skeleton_eq, hshape'.toHtml.skeleton_eq, flatMap_plain_eq h]

/-- A hash and an explorer that try to close the link they are put into. -/
theorem skeleton_of_hostile_hash :
    let luck (hash : String) : BlockLuck :=
      ⟨[⟨hash, .unavailable, 0⟩], .unavailable, .unavailable, .unavailable, .unavailable,
        .unavailable⟩
    let hostile : Settings := { Settings.standard with explorerBlockUrl := "\"><script>" }
    skeleton (Page.blank.applyBatches [.blocks (luck "</a><b onload=\"x\">") hostile]).toHtml =
      skeleton (Page.blank.applyBatches [.blocks (luck "00ff") .standard]).toHtml := by
  intro luck hostile
  have halike : Batch.Alike (.blocks (luck "</a><b onload=\"x\">") hostile)
      (.blocks (luck "00ff") .standard) := by
    refine ⟨?_, rfl, rfl⟩
    simp only [Batch.updates, BlocksPanel.render, List.map_cons, List.map_nil, Update.kind]
  exact skeleton_toHtml_eq (.cons halike .nil) (by simp [Batch.writer]) (by simp [Batch.writer])

end PoolPage
