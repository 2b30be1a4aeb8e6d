import PoolPage.Json.Schema
import PoolPage.Pool.Stats

/-!
Reading the pool's answers.  Numbers that are absent are zero, and lists may be null.

The overall figures are read in the order of the text.  The answer to a question for a miner is read
completely first; it is a failure if it is an object with a proper error, and the miner's figures
otherwise.
-/

namespace PoolPage

/-! ### Fields -/

abbrev ratePointFields : Fields :=
  .cons "t" true .integer <|
  .cons "h" true .float .nil

abbrev poolChartsFields : Fields :=
  .cons "hashrate" false (.nullable (.list (.record ratePointFields))) <|
  .cons "workers" false (.optional (.list .float)) <|
  .cons "addresses" false (.optional (.list .float)) .nil

abbrev foundBlockFields : Fields :=
  .cons "height" false (.natural 64) <|
  .cons "hash" true .text <|
  .cons "effort" true .float <|
  .cons "time" true .integer .nil

abbrev lastBlockFields : Fields :=
  .cons "height" false (.natural 64) <|
  .cons "timestamp" false .integer <|
  .cons "hash" false .text .nil

abbrev poolPaymentFields : Fields :=
  .cons "txid" true .text <|
  .cons "time" true .integer <|
  .cons "amount" true .float <|
  .cons "destinations" false (.natural 32) .nil

abbrev poolStatsFields : Fields :=
  .cons "pool_hr" false .float <|
  .cons "net_hr" false .float <|
  .cons "connected_addresses" false .float <|
  .cons "connected_workers" false .float <|
  .cons "chart" false (.record poolChartsFields) <|
  .cons "num_blocks_found" false (.natural 64) <|
  .cons "recent_blocks_found" false (.nullable (.list (.record foundBlockFields))) <|
  .cons "height" false (.natural 64) <|
  .cons "last_block" false (.optional (.record lastBlockFields)) <|
  .cons "reward" false .float <|
  .cons "pplns_window_seconds" false (.optional .float) <|
  .cons "withdrawals" false (.nullable (.list (.record poolPaymentFields))) <|
  .cons "effort" false .float <|
  .cons "pool_fee_percent" false (.optional .float) <|
  .cons "payment_threshold" false (.optional .float) .nil

abbrev minerPaymentFields : Fields :=
  .cons "txid" true .text <|
  .cons "amount" true .float <|
  .cons "time" true .integer .nil

abbrev minerStatsFields : Fields :=
  .cons "hashrate" false .float <|
  .cons "balance" false .float <|
  .cons "balance_pending" false .float <|
  .cons "paid" false .float <|
  .cons "est_pending" false (.optional .float) <|
  .cons "hr_chart" false (.optional (.list (.record ratePointFields))) <|
  .cons "withdrawals" false (.nullable (.list (.record minerPaymentFields))) .nil

abbrev lookupFailureFields : Fields :=
  .cons "code" false .integer <|
  .cons "message" false .text .nil

abbrev failedFields : Fields := .cons "error" true (.record lookupFailureFields) .nil

/-! ### Values -/

def RatePoint.ofValues : ratePointFields.Values → RatePoint
  | (time, rate, ()) => ⟨time, rate⟩

def PoolCharts.ofValues : poolChartsFields.Values → PoolCharts
  | (hashRate, workers, addresses, ()) => ⟨List.map RatePoint.ofValues hashRate, workers, addresses⟩

def FoundBlock.ofValues : foundBlockFields.Values → FoundBlock
  | (height, hash, effort, time, ()) => ⟨height, hash, effort, time⟩

def LastBlock.ofValues : lastBlockFields.Values → LastBlock
  | (height, timestamp, hash, ()) => ⟨height, timestamp, hash⟩

def PoolPayment.ofValues : poolPaymentFields.Values → PoolPayment
  | (txid, time, amount, destinations, ()) => ⟨txid, time, amount, destinations⟩

def PoolStats.ofValues : poolStatsFields.Values → PoolStats
  | (poolRate, networkRate, connectedAddresses, connectedWorkers, charts, blockCount, recentBlocks,
      height, lastBlock, reward, payoutWindow, payments, effort, feePercent, paymentThreshold,
      ()) =>
    { poolRate, networkRate, connectedAddresses, connectedWorkers
      charts := PoolCharts.ofValues charts
      blockCount
      recentBlocks := List.map FoundBlock.ofValues recentBlocks
      height
      lastBlock := Option.map LastBlock.ofValues lastBlock
      reward, payoutWindow
      payments := List.map PoolPayment.ofValues payments
      effort, feePercent, paymentThreshold }

def MinerPayment.ofValues : minerPaymentFields.Values → MinerPayment
  | (txid, amount, time, ()) => ⟨txid, amount, time⟩

def MinerStats.ofValues : minerStatsFields.Values → MinerStats
  | (hashRate, balance, pendingBalance, paid, pendingEstimate, chart, payments, ()) =>
    { hashRate, balance, pendingBalance, paid, pendingEstimate
      chart := Option.map (List.map RatePoint.ofValues) chart
      payments := List.map MinerPayment.ofValues payments }

def LookupFailure.ofValues : lookupFailureFields.Values → LookupFailure
  | (code, message, ()) => ⟨code, message⟩

/-! ### Documents -/

def PoolStats.read (text : String) : Except Fault PoolStats :=
  (Schema.readText (.record poolStatsFields) text).map PoolStats.ofValues

/-- Arrays and objects may be nested this deep in an answer about a miner. -/
def MinerLookup.maxDepth : Nat := 127

def LookupFailure.ofDoc? : Doc → Option LookupFailure
  | .object members cut =>
    match Schema.read (.record failedFields) (.object members cut) with
    | .ok (failure, ()) => some (LookupFailure.ofValues failure)
    | .error _ => none
  | _ => none

def MinerLookup.ofDoc? (doc : Doc) : Option MinerLookup :=
  match LookupFailure.ofDoc? doc with
  | some failure => some (.failed failure)
  | none =>
    match Schema.read (.record minerStatsFields) doc with
    | .ok values => some (.found (MinerStats.ofValues values))
    | .error _ => none

def MinerLookup.read (text : String) : Except Fault MinerLookup := do
  let document := Document.ofText text
  Doc.check maxDepth document.root
  match ofDoc? document.root with
  | none => .error .unexpected
  | some lookup => if document.trailing then .error .malformed else .ok lookup

end PoolPage
