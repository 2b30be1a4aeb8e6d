import PoolPage.Dashboard.Basic
import PoolPage.Panel.Blocks
import PoolPage.Panel.Miner
import PoolPage.Pool.Endpoint

/-!
What a dashboard asks the pool, and what it does with the answers.

The overall figures are asked for by three parts: the overview, which shares a refresh
with the miner's panel, the table of blocks, and the profit calculator.  A failure is
logged and leaves the page as it was; only a failed question for a miner raises an alert.
-/

namespace PoolPage
namespace Dashboard

/-- Addresses of this many bytes or fewer are none. -/
def shortAddress : Nat := 10

def isShort (address : String) : Bool := address.utf8ByteSize ≤ shortAddress

/-! ### Refreshes of the overview and the miner's panel -/

def refreshScope : String := "stats.refresh"

def askPool (d : Dashboard) (lane : Lane) : Dashboard × Nat :=
  let reply := d.backend.stats d.occasion
  (((d.ask .stats).proceed reply.delay lane (.poolArrived reply)), reply.delay)

/-- Asks for the figures of a miner; without an address the panel is hidden. -/
def askMiner (d : Dashboard) (lane : Lane) : Dashboard × Nat :=
  let address := d.session.address
  if isShort address then (d.update MinerPanel.hide, 0)
  else
    let reply := d.backend.miner address d.occasion
    ((d.ask (.miner address)).proceed reply.delay lane (.minerArrived address reply), reply.delay)

/-- Asks for both at once. -/
def refresh (d : Dashboard) (occurrence : Occurrence) : Dashboard :=
  let lane := occurrence.lane
  let (d, poolDelay) := d.askPool lane
  let (d, minerDelay) := d.askMiner lane
  d.proceed (max poolDelay minerDelay) lane (.refreshEnded occurrence)

def receivePool (d : Dashboard) (answer : Except String PoolStats) : Dashboard :=
  match answer with
  | .ok stats => d.update (PoolPanel.render stats d.settings)
  | .error causes => d.note [Log.fetchFailed "stats" Endpoint.stats causes]

def isChart : Update → Bool
  | .chart .. => true
  | _ => false

/-- Orders the second layout of the chart when it is drawn for the first time: its container has no
size before. -/
def settleChart (d : Dashboard) (updates : List Update) : Dashboard :=
  if updates.any isChart && !d.session.chartDrawn then
    { d with session := { d.session with chartDrawn := true } }.order d.settings.chartSettle
      .chartSettles
  else d

/-- The record of a miner that the pool does not know. -/
def notFoundRecord (address message : String) : Log.Record :=
  Log.record .warn .api "miner_not_found"
    [("address", .string address), ("msg", .string message)]

def lookupRecords (address : String) : MinerLookup → List Log.Record
  | .failed failure => [notFoundRecord address failure.message]
  | .found _ => []

def receiveMiner (d : Dashboard) (address : String) (answer : Except String MinerLookup) :
    Dashboard :=
  match answer with
  | .ok lookup =>
    let updates := MinerPanel.render lookup d.settings
    ((d.note (lookupRecords address lookup)).update updates).settleChart updates
  | .error causes =>
    let endpoint := Endpoint.miner (Log.shortenAddress address)
    (d.note [Log.fetchFailed "miner" endpoint causes]).update [.alert ("error: " ++ causes)]

/-- Puts the next turn of a periodic task on the agenda when one ends. -/
def renewTurn (d : Dashboard) (period : Nat) (turn : Turn) (event : Turn → Event) : Dashboard :=
  let next := turn.next period (d.now - turn.start)
  d.proceedAt next.start .scheduled (event next)

def endRefresh (d : Dashboard) (occurrence : Occurrence) : Dashboard :=
  let d := d.note [Log.timed refreshScope]
  match occurrence with
  | .periodic turn => d.renewTurn d.settings.statsRefresh turn .refreshDue
  | .visitor => d

/-! ### Blocks -/

def blocksScope : String := "blocks.refresh"

def askBlocks (d : Dashboard) : Dashboard :=
  let reply := d.backend.stats d.occasion
  (d.ask .stats).proceed reply.delay .scheduled (.blocksArrived reply)

/-- Seconds since the start of 1970. -/
def clock (d : Dashboard) : Binary64 := Binary64.ofNat (d.epoch + d.now) / 1000

def blocksRecord (luck : BlockLuck) : Log.Record :=
  Log.record .info .api "blocks_loaded"
    [("blocks", .number (Binary64.ofNat luck.rows.length)),
     ("mean_effort", Json.ofOption .number luck.longTermEffort.value?)]

def receiveBlocks (d : Dashboard) (answer : Except String PoolStats) : Dashboard :=
  match answer with
  | .ok stats =>
    let luck := BlockLuck.ofBlocks stats.recentBlocks stats.poolRate d.clock d.settings.shortTerm
      d.settings.blockTime
    (d.note [blocksRecord luck]).update (BlocksPanel.render luck d.settings)
  | .error causes => d.note [Log.fetchFailed "blocks" Endpoint.stats causes]

/-! ### Profit -/

def askParams (d : Dashboard) : Dashboard :=
  let reply := d.backend.stats d.occasion
  (d.ask .stats).proceed reply.delay .scheduled (.paramsArrived reply)

def computeProfit (d : Dashboard) : Dashboard :=
  d.update (Profit.render d.session.input d.session.params d.settings.blockTime)

def paramsRecord (params : NetworkParams) : Log.Record :=
  Log.record .info .calculator "network_params"
    [("block_reward", .number params.blockReward), ("net_hr", .number params.networkRate)]

/-- Takes over the network's figures, and computes the profit from them. -/
def receiveParams (d : Dashboard) (answer : Except String PoolStats) : Dashboard :=
  match answer with
  | .ok stats =>
    let params := NetworkParams.ofNetwork stats.reward stats.networkRate
    let d := { d with session := { d.session with params } }
    (d.note [paramsRecord params]).computeProfit
  | .error causes => d.note [Log.fetchFailed "calculator" Endpoint.stats causes]

end Dashboard
end PoolPage
