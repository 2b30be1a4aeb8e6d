import PoolPage.Panel.Blocks
import PoolPage.Panel.Miner
import PoolPage.Proofs.Markup.Trees
import PoolPage.Proofs.Panel.Figures

/-!
# Tables

The payments and the found blocks are shown as rows of cells: a link to an explorer with what it
identifies, and texts.  All of them read back, in their order (`tables_read_back`).
-/

namespace PoolPage

open Markup (Node Spells Writes linkNode textNodes)

/-- A row of a table: a link, and texts in the other cells. -/
def tableRow (link id : String) (texts : List String) : Node :=
  .element "tr" [] (.element "td" [] [linkNode link id] ::
    texts.map fun text => .element "td" [] (textNodes text))

/-- The updates set one table, and its markup reads as these rows only. -/
def ShowsTable (updates : List Update) (table : String) (rows : List Node) : Prop :=
  ∃ html, (∀ id markup, Update.html id markup ∈ updates ↔ id = table ∧ markup = html) ∧
    ∀ nodes, Spells nodes html.toList ↔ nodes = rows

section

variable {id html table : String} {updates : List Update}

/-! ## Rows -/

theorem writes_tableRow (link id : String) (texts : List String) :
    Writes (tableRow link id texts)
      (Markup.row (Markup.anchor link id :: texts.map Markup.escape)) := by
  have hcells : List.Forall₂ (fun cell children => Spells children cell.toList)
      (Markup.anchor link id :: texts.map Markup.escape)
      ([linkNode link id] :: texts.map textNodes) := by
    refine .cons (Markup.writes_anchor link id).spells ?_
    induction texts with
    | nil => exact .nil
    | cons text texts ih => exact .cons (Markup.spells_escape text) ih
  have hrow := Markup.writes_row hcells
  rwa [List.map_cons, List.map_map] at hrow

theorem writes_poolPayment (settings : Settings) (payment : PoolPayment) :
    Writes (tableRow (settings.txLink payment.txid) payment.txid
      [PoolPanel.amountText payment.amount settings.ticker, toString payment.destinations,
        dateTimeText payment.time]) (PoolPanel.paymentRow settings payment) := by
  have hrow := writes_tableRow (settings.txLink payment.txid) payment.txid
    [PoolPanel.amountText payment.amount settings.ticker, toString payment.destinations,
      dateTimeText payment.time]
  simp only [List.map_cons, List.map_nil, escape_toString] at hrow
  exact hrow

theorem writes_minerPayment (settings : Settings) (payment : MinerPayment) :
    Writes (tableRow (settings.txLink payment.txid) payment.txid
      [PoolPanel.amountText payment.amount settings.ticker, dateTimeText payment.time])
      (MinerPanel.paymentRow settings payment) :=
  writes_tableRow _ _ [_, _]

theorem writes_block (settings : Settings) (block : BlockRow) :
    Writes (tableRow (settings.blockLink block.hash) block.hash
      [BlocksPanel.percentText block.luck, dateTimeText block.time])
      (BlocksPanel.row settings block) :=
  writes_tableRow _ _ [_, _]

/-! ## Updates -/

theorem showsTable_of_writes {α : Type} {records : List α} {row : α → Node} {markup : α → String}
    (hupdates : ∀ id html, Update.html id html ∈ updates ↔
      id = table ∧ html = String.join (records.map markup))
    (h : ∀ a, Writes (row a) (markup a)) : ShowsTable updates table (records.map row) := by
  have hrows := Markup.spells_join h records
  exact ⟨_, hupdates, fun nodes => ⟨fun hnodes => hnodes.unique hrows, fun heq => heq ▸ hrows⟩⟩

theorem html_notMem_text? (region : String) (text : Option String) :
    Update.html id html ∉ PoolPanel.text? region text := by
  cases text <;> simp [PoolPanel.text?]

theorem html_notMem_series? (chart region : String) (values : Option (List Binary64))
    (current : Binary64) : Update.html id html ∉ PoolPanel.series? chart region values current := by
  cases values <;> simp [PoolPanel.series?, PoolPanel.series]

theorem html_notMem_chartUpdates (points : Option (List RatePoint)) :
    Update.html id html ∉ MinerPanel.chartUpdates points := by
  cases points <;> simp [MinerPanel.chartUpdates]

theorem html_mem_pool (stats : PoolStats) (settings : Settings) :
    Update.html id html ∈ PoolPanel.render stats settings ↔ id = PoolPanel.payouts ∧
      html = String.join (stats.payments.map (PoolPanel.paymentRow settings)) := by
  simp [PoolPanel.render, PoolPanel.series, html_notMem_text?, html_notMem_series?]

theorem html_mem_miner (stats : MinerStats) (settings : Settings) :
    Update.html id html ∈ MinerPanel.render (.found stats) settings ↔ id = MinerPanel.payouts ∧
      html = String.join (stats.payments.map (MinerPanel.paymentRow settings)) := by
  simp [MinerPanel.render, MinerPanel.renderStats, html_notMem_text?, html_notMem_chartUpdates]

theorem html_mem_blocks (luck : BlockLuck) (settings : Settings) :
    Update.html id html ∈ BlocksPanel.render luck settings ↔ id = BlocksPanel.table ∧
      html = String.join (luck.rows.map (BlocksPanel.row settings)) := by
  simp [BlocksPanel.render]

/-- The tables of the pool's payments, of a miner's payments and of the found blocks read as one row
for each record, in their order, and as nothing else.  In the first cell are the link to the record
and its identity, and in the others the amount or the luck, the number of destinations, and the
time. -/
theorem tables_read_back (settings : Settings) :
    (∀ stats : PoolStats, ShowsTable (PoolPanel.render stats settings) PoolPanel.payouts
      (stats.payments.map fun payment =>
        tableRow (settings.txLink payment.txid) payment.txid
          [PoolPanel.amountText payment.amount settings.ticker, toString payment.destinations,
            dateTimeText payment.time])) ∧
    (∀ stats : MinerStats, ShowsTable (MinerPanel.render (.found stats) settings) MinerPanel.payouts
      (stats.payments.map fun payment =>
        tableRow (settings.txLink payment.txid) payment.txid
          [PoolPanel.amountText payment.amount settings.ticker, dateTimeText payment.time])) ∧
    ∀ (blocks : List FoundBlock) (poolRate now : Binary64) (shortTerm : Nat) (blockTime : Binary64),
      ShowsTable
        (BlocksPanel.render (BlockLuck.ofBlocks blocks poolRate now shortTerm blockTime) settings)
        BlocksPanel.table
        (blocks.map fun block =>
          tableRow (settings.blockLink block.hash) block.hash
            [BlocksPanel.percentText ((Metric.finite (block.effort * 100)).per
                (Metric.mean (blocks.map FoundBlock.effort))),
              dateTimeText block.time]) := by
  refine ⟨fun stats => ?_, fun stats => ?_, fun blocks poolRate now shortTerm blockTime => ?_⟩
  · exact showsTable_of_writes (fun _ _ => html_mem_pool stats settings)
      (writes_poolPayment settings)
  · exact showsTable_of_writes (fun _ _ => html_mem_miner stats settings)
      (writes_minerPayment settings)
  · have hrows := showsTable_of_writes
      (fun _ _ => html_mem_blocks (BlockLuck.ofBlocks blocks poolRate now shortTerm blockTime)
        settings) (writes_block settings)
    rwa [BlockLuck.ofBlocks, List.map_map] at hrows

end

end PoolPage
