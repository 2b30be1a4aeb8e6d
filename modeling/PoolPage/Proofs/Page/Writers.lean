import PoolPage.Panel.Blocks
import PoolPage.Panel.Miner
import PoolPage.Panel.Profit
import PoolPage.Proofs.Page.Parts
import PoolPage.Route

/-!
# The writers of a page

Five parts of a dashboard write to its page: the overview of the pool, the miner's
panel, the table of blocks, the profit calculator and the router.  Each writes whole
`Batch`es of updates.

Every update has one owner (`Update.owner?`), read off its region and its kind, and a
batch holds updates of its own writer only (`Batch.owner?_of_mem`).  Updates of
different owners are apart, so batches of different writers may be made in either
order, and `applyBatches_eq_of_interleaves` follows: the page does not depend on how the
streams of the writers were interleaved.
-/

namespace PoolPage

inductive Writer where
  | pool
  | miner
  | blocks
  | profit
  | router
deriving DecidableEq, Repr

/-! ## Owners -/

/-- The writer of a region's text and markup. -/
def Writer.ofRegion? (id : String) : Option Writer :=
  if id ∈ PoolPanel.regions then some .pool
  else if id ∈ MinerPanel.regions then some .miner
  else if id ∈ BlocksPanel.regions then some .blocks
  else if id = Profit.region then some .profit
  else if id = Route.container then some .router
  else none

namespace Update

/-- The writer that makes updates like this one.  Only the overview draws sparklines, and only the
miner's panel has charts, hidden regions and alerts. -/
def owner? : Update → Option Writer
  | .text id _ | .html id _ => Writer.ofRegion? id
  | .sparkline .. | .normalize .. => some .pool
  | .visible .. | .chart .. | .resizeChart .. | .alert .. => some .miner

/-- Updates of different owners are apart: one owner has all drawings, and one has all charts, flags
and alerts, so that two updates of one part are about texts or markup of different regions. -/
theorem apart_of_owner?_ne {u v : Update} (h : u.owner? ≠ v.owner?) : u.Apart v := by
  by_cases hpart : u.part = v.part
  · cases u with
    | text a x =>
      cases v with
      | text b y =>
        have hab : a ≠ b := fun hab => h (by rw [hab]; rfl)
        exact .inr ⟨a, b, rfl, rfl, hab⟩
      | _ => simp [part] at hpart
    | html a x =>
      cases v with
      | html b y =>
        have hab : a ≠ b := fun hab => h (by rw [hab]; rfl)
        exact .inr ⟨a, b, rfl, rfl, hab⟩
      | _ => simp [part] at hpart
    | _ =>
      cases v with
      | text => simp [part] at hpart
      | html => simp [part] at hpart
      | _ => simp [owner?, part] at h hpart
  · exact .inl hpart

end Update

/-! ## Batches -/

/-- What a writer writes at a time. -/
inductive Batch where
  | pool (stats : PoolStats) (settings : Settings)
  | miner (lookup : MinerLookup) (settings : Settings)
  /-- There is no address to look up. -/
  | noMiner
  /-- The question for a miner had no answer. -/
  | minerAlert (message : String)
  | blocks (luck : BlockLuck) (settings : Settings)
  | profit (input : String) (params : NetworkParams) (blockTime : Binary64)
  | fragment (body : String)

namespace Batch

def writer : Batch → Writer
  | pool .. => .pool
  | miner .. | noMiner | minerAlert _ => .miner
  | blocks .. => .blocks
  | profit .. => .profit
  | fragment _ => .router

def updates : Batch → List Update
  | pool stats settings => PoolPanel.render stats settings
  | miner lookup settings => MinerPanel.render lookup settings
  | noMiner => MinerPanel.hide
  | minerAlert message => [.alert message]
  | blocks luck settings => BlocksPanel.render luck settings
  | profit input params blockTime => Profit.render input params blockTime
  | fragment body => [.html Route.container body]

theorem owner?_of_mem_text? {id : String} {text : Option String} {u : Update} {w : Writer}
    (hid : Writer.ofRegion? id = some w) (hu : u ∈ PoolPanel.text? id text) :
    u.owner? = some w := by
  cases text with
  | none => simp [PoolPanel.text?] at hu
  | some new =>
    rw [PoolPanel.text?, List.mem_singleton] at hu
    rw [hu]
    exact hid

theorem owner?_of_mem_series {chart text : String} {values : List Binary64}
    {label : Binary64 → String} {current : Binary64} {u : Update}
    (hid : Writer.ofRegion? text = some .pool)
    (hu : u ∈ PoolPanel.series chart text values label current) : u.owner? = some .pool := by
  simp only [PoolPanel.series, List.mem_cons, List.not_mem_nil, or_false] at hu
  rcases hu with rfl | rfl
  · exact hid
  · rfl

theorem owner?_of_mem_series? {chart text : String} {values : Option (List Binary64)}
    {current : Binary64} {u : Update} (hid : Writer.ofRegion? text = some .pool)
    (hu : u ∈ PoolPanel.series? chart text values current) : u.owner? = some .pool := by
  cases values with
  | none => simp [PoolPanel.series?] at hu
  | some values => exact owner?_of_mem_series hid hu

theorem owner?_of_mem_pool {stats : PoolStats} {settings : Settings} {u : Update}
    (hu : u ∈ PoolPanel.render stats settings) : u.owner? = some .pool := by
  simp only [PoolPanel.render, List.mem_append, List.mem_cons, List.not_mem_nil, or_false] at hu
  rcases hu with ((((((((h | h) | h) | h) | h) | h) | h) | h) | h) | h
  · rcases h with rfl | rfl | rfl | rfl <;> (show Writer.ofRegion? _ = some .pool; decide)
  · exact owner?_of_mem_series (by decide) h
  · exact owner?_of_mem_series? (by decide) h
  · exact owner?_of_mem_series? (by decide) h
  · rw [h]
    rfl
  · exact owner?_of_mem_text? (by decide) h
  · exact owner?_of_mem_text? (by decide) h
  · exact owner?_of_mem_text? (by decide) h
  · exact owner?_of_mem_text? (by decide) h
  · rw [h]
    show Writer.ofRegion? _ = some .pool
    decide

theorem owner?_of_mem_chartUpdates {chart : Option (List RatePoint)} {u : Update}
    (hu : u ∈ MinerPanel.chartUpdates chart) : u.owner? = some .miner := by
  cases chart with
  | none =>
    rw [MinerPanel.chartUpdates, List.mem_singleton] at hu
    rw [hu]
    rfl
  | some points =>
    simp only [MinerPanel.chartUpdates, List.mem_cons, List.not_mem_nil, or_false] at hu
    rcases hu with rfl | rfl <;> rfl

theorem owner?_of_mem_renderStats {stats : MinerStats} {settings : Settings} {u : Update}
    (hu : u ∈ MinerPanel.renderStats stats settings) : u.owner? = some .miner := by
  simp only [MinerPanel.renderStats, List.mem_append, List.mem_cons, List.not_mem_nil,
    or_false] at hu
  rcases hu with ((h | h) | h) | h
  · rcases h with rfl | rfl | rfl | rfl <;> (show Writer.ofRegion? _ = some .miner; decide)
  · exact owner?_of_mem_text? (by decide) h
  · exact owner?_of_mem_chartUpdates h
  · rcases h with rfl | rfl
    · show Writer.ofRegion? _ = some .miner
      decide
    · rfl

theorem owner?_of_mem_miner {lookup : MinerLookup} {settings : Settings} {u : Update}
    (hu : u ∈ MinerPanel.render lookup settings) : u.owner? = some .miner := by
  cases lookup with
  | failed failure =>
    rw [MinerPanel.render, List.mem_singleton] at hu
    rw [hu]
    rfl
  | found stats => exact owner?_of_mem_renderStats hu

theorem owner?_of_mem_blocks {luck : BlockLuck} {settings : Settings} {u : Update}
    (hu : u ∈ BlocksPanel.render luck settings) : u.owner? = some .blocks := by
  simp only [BlocksPanel.render, List.mem_cons, List.not_mem_nil, or_false] at hu
  rcases hu with rfl | rfl | rfl | rfl | rfl <;>
    (show Writer.ofRegion? _ = some .blocks; decide)

theorem owner?_of_mem {batch : Batch} {u : Update} (hu : u ∈ batch.updates) :
    u.owner? = some batch.writer := by
  cases batch with
  | pool stats settings => exact owner?_of_mem_pool hu
  | miner lookup settings => exact owner?_of_mem_miner hu
  | noMiner =>
    rw [updates, MinerPanel.hide, List.mem_singleton] at hu
    rw [hu]
    rfl
  | minerAlert message =>
    rw [updates, List.mem_singleton] at hu
    rw [hu]
    rfl
  | blocks luck settings => exact owner?_of_mem_blocks hu
  | profit input params blockTime =>
    rw [updates, Profit.render, List.mem_singleton] at hu
    rw [hu]
    show Writer.ofRegion? _ = some .profit
    decide
  | fragment body =>
    rw [updates, List.mem_singleton] at hu
    rw [hu]
    show Writer.ofRegion? _ = some .router
    decide

theorem owner?_ne_of_mem {batch : Batch} {writer : Writer} (h : batch.writer ≠ writer) :
    ∀ u ∈ batch.updates, u.owner? ≠ some writer := by
  intro u hu
  rw [owner?_of_mem hu]
  exact fun heq => h (Option.some.inj heq)

theorem apart_of_writer_ne {a b : Batch} (h : a.writer ≠ b.writer) :
    ∀ u ∈ a.updates, ∀ v ∈ b.updates, u.Apart v := by
  intro u hu v hv
  apply Update.apart_of_owner?_ne
  rw [owner?_of_mem hu, owner?_of_mem hv]
  exact fun heq => h (Option.some.inj heq)

end Batch

/-! ## Interleavings -/

namespace Page

/-- Makes whole batches, one after the other. -/
def applyBatches (page : Page) (run : List Batch) : Page :=
  run.foldl (fun page batch => page.applyAll batch.updates) page

theorem applyBatches_cons (page : Page) (batch : Batch) (run : List Batch) :
    page.applyBatches (batch :: run) = (page.applyAll batch.updates).applyBatches run := rfl

theorem applyBatches_append (page : Page) (run run' : List Batch) :
    page.applyBatches (run ++ run') = (page.applyBatches run).applyBatches run' :=
  List.foldl_append

theorem applyBatches_applyAll {batch : Batch} {run : List Batch}
    (h : ∀ other ∈ run, other.writer ≠ batch.writer) (page : Page) :
    (page.applyAll batch.updates).applyBatches run =
      (page.applyBatches run).applyAll batch.updates := by
  induction run generalizing page with
  | nil => rfl
  | cons other run ih =>
    have hother : batch.writer ≠ other.writer := (h other List.mem_cons_self).symm
    have hrun : ∀ b ∈ run, b.writer ≠ batch.writer := fun b hb =>
      h b (List.mem_cons_of_mem other hb)
    rw [applyBatches_cons, applyAll_comm (Batch.apart_of_writer_ne hother), ih hrun,
      applyBatches_cons]

/-- A batch may be moved to the front of all batches of other writers. -/
theorem applyBatches_front {batch : Batch} {before : List Batch}
    (h : ∀ other ∈ before, other.writer ≠ batch.writer) (after : List Batch) (page : Page) :
    page.applyBatches (before ++ batch :: after) =
      page.applyBatches (batch :: (before ++ after)) := by
  rw [applyBatches_append, applyBatches_cons, ← applyBatches_applyAll h, ← applyBatches_append,
    ← applyBatches_cons]

end Page

def ofWriter (writer : Writer) (run : List Batch) : List Batch :=
  run.filter fun batch => batch.writer = writer

/-- A run holds the batches of each writer in the writer's order. -/
def Interleaves (streams : Writer → List Batch) (run : List Batch) : Prop :=
  ∀ writer, ofWriter writer run = streams writer

theorem exists_first_of_ofWriter_eq_cons {batch : Batch} {run rest : List Batch}
    (h : ofWriter batch.writer run = batch :: rest) :
    ∃ before after, run = before ++ batch :: after ∧
      ∀ other ∈ before, other.writer ≠ batch.writer := by
  obtain ⟨before, after, hrun, hbefore, -⟩ := List.filter_eq_cons_iff.mp h
  exact ⟨before, after, hrun, fun other hother => by simpa using hbefore other hother⟩

/-- Runs with the same streams end in the same page.  The induction is on the first run: its first
batch is the first of its writer in the second run too, where it may be moved to the front. -/
theorem applyBatches_eq_of_ofWriter_eq {run run' : List Batch}
    (h : ∀ writer, ofWriter writer run = ofWriter writer run') (page : Page) :
    page.applyBatches run = page.applyBatches run' := by
  induction run generalizing run' page with
  | nil =>
    cases run' with
    | nil => rfl
    | cons batch rest =>
      have hbatch := h batch.writer
      simp [ofWriter] at hbatch
  | cons batch rest ih =>
    have hfirst : ofWriter batch.writer run' = batch :: ofWriter batch.writer rest := by
      rw [← h]
      simp [ofWriter]
    obtain ⟨before, after, rfl, hbefore⟩ := exists_first_of_ofWriter_eq_cons hfirst
    have hrest : ∀ writer, ofWriter writer rest = ofWriter writer (before ++ after) := by
      intro writer
      have hw := h writer
      by_cases hwriter : batch.writer = writer
      · subst hwriter
        have hnone : (before.filter fun b => b.writer = batch.writer) = [] := by
          simpa [List.filter_eq_nil_iff] using hbefore
        simpa [ofWriter, hnone] using hw
      · simpa [ofWriter, hwriter] using hw
    rw [Page.applyBatches_front hbefore, Page.applyBatches_cons, Page.applyBatches_cons,
      ih hrest]

/-- Any two interleavings of the writers' streams end in the same page. -/
theorem applyBatches_eq_of_interleaves {streams : Writer → List Batch} {run run' : List Batch}
    (h : Interleaves streams run) (h' : Interleaves streams run') (page : Page) :
    page.applyBatches run = page.applyBatches run' :=
  applyBatches_eq_of_ofWriter_eq (fun writer => (h writer).trans (h' writer).symm) page

/-- The panel is hidden, an alert is raised, and the calculator and the router write in between. -/
theorem applyBatches_eq_of_two_orders :
    let run : List Batch :=
      [.noMiner, .fragment "<p>", .minerAlert "down", .profit "" .unknown 15]
    let run' : List Batch :=
      [.profit "" .unknown 15, .noMiner, .minerAlert "down", .fragment "<p>"]
    Interleaves (fun writer => ofWriter writer run) run ∧
      Interleaves (fun writer => ofWriter writer run) run' ∧
      Page.loaded.applyBatches run = Page.loaded.applyBatches run' := by
  intro run run'
  have h : Interleaves (fun writer => ofWriter writer run) run := fun _ => rfl
  have h' : Interleaves (fun writer => ofWriter writer run) run' := by
    intro writer
    cases writer <;> rfl
  exact ⟨h, h', applyBatches_eq_of_interleaves h h' .loaded⟩

end PoolPage
