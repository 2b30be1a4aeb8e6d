import PoolPage.Log
import PoolPage.Pool.Stats

/-!
The outside world of a dashboard: what it asks, and what comes back.

An answer is settled when the question is put, and arrives some time later.
-/

namespace PoolPage

inductive Question where
  /-- For the overall figures of the pool. -/
  | stats
  /-- For a miner, by address. -/
  | miner (address : String)
  /-- For a page fragment, by path. -/
  | fragment (path : String)
deriving DecidableEq, Repr

/-- When a question is put: the time in milliseconds, and how many were put before it since the page
was loaded. -/
structure Occasion where
  time : Nat
  number : Nat
deriving DecidableEq, Repr

structure Reply (α : Type) where
  /-- What was asked for, or the causes of a failure in one line. -/
  answer : Except String α
  /-- Milliseconds until it arrives. -/
  delay : Nat
  /-- The records of asking. -/
  records : List Log.Record

def Reply.now {α : Type} (answer : Except String α) : Reply α := ⟨answer, 0, []⟩

structure Backend where
  stats : Occasion → Reply PoolStats
  miner : String → Occasion → Reply MinerLookup
  fragment : String → Occasion → Reply String

end PoolPage
