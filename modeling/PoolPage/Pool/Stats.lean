import PoolPage.Number.Arithmetic

/-!
What a mining pool reports: its overall figures, and those of one miner.
-/

namespace PoolPage

/-- A hash rate at a time in seconds since 1970. -/
structure RatePoint where
  time : Int
  rate : Binary64
deriving DecidableEq

/-- The pool's series over time.  Workers and addresses may be missing. -/
structure PoolCharts where
  hashRate : List RatePoint
  workers : Option (List Binary64)
  addresses : Option (List Binary64)
deriving DecidableEq

/-- A block the pool found.  An effort of one is exactly the work that was expected. -/
structure FoundBlock where
  height : Nat
  hash : String
  effort : Binary64
  time : Int
deriving DecidableEq

/-- The newest block of the pool. -/
structure LastBlock where
  height : Nat
  timestamp : Int
  hash : String
deriving DecidableEq

/-- A payment of the pool to some number of destinations. -/
structure PoolPayment where
  txid : String
  time : Int
  amount : Binary64
  destinations : Nat
deriving DecidableEq

/-- The overall figures of a pool. -/
structure PoolStats where
  poolRate : Binary64
  networkRate : Binary64
  connectedAddresses : Binary64
  connectedWorkers : Binary64
  charts : PoolCharts
  blockCount : Nat
  recentBlocks : List FoundBlock
  height : Nat
  lastBlock : Option LastBlock
  reward : Binary64
  payoutWindow : Option Binary64
  payments : List PoolPayment
  effort : Binary64
  feePercent : Option Binary64
  paymentThreshold : Option Binary64
deriving DecidableEq

/-- A payment to a miner. -/
structure MinerPayment where
  txid : String
  amount : Binary64
  time : Int
deriving DecidableEq

/-- The figures of a miner. -/
structure MinerStats where
  hashRate : Binary64
  balance : Binary64
  pendingBalance : Binary64
  paid : Binary64
  pendingEstimate : Option Binary64
  chart : Option (List RatePoint)
  payments : List MinerPayment
deriving DecidableEq

/-- The pool's reason for having no figures of a miner. -/
structure LookupFailure where
  code : Int
  message : String
deriving DecidableEq

/-- The answer to a question for a miner. -/
inductive MinerLookup where
  | failed (failure : LookupFailure)
  | found (stats : MinerStats)
deriving DecidableEq

end PoolPage
