import PoolPage.Figure

/-!
Derived figures that may be undefined.  Every ratio and mean on the page is a
`Metric`, so that a zero denominator, an empty window or an overflow shows as
`N/A` and never as a number that is none.
-/

namespace PoolPage

inductive Metric where
  | value (x : Binary64)
  | unavailable
deriving DecidableEq

namespace Metric

/-- What is shown in place of an unavailable figure. -/
def sentinel : String := "N/A"

/-- A figure that is available where it is finite. -/
def finite (x : Binary64) : Metric := if x.isFinite then value x else unavailable

def ratio (num den : Binary64) : Metric :=
  if den.isZero then unavailable else finite (num / den)

def mean (xs : List Binary64) : Metric :=
  if xs.isEmpty then unavailable else ratio (Binary64.sum xs) (Binary64.ofNat xs.length)

def value? : Metric → Option Binary64
  | value x => some x
  | unavailable => none

def map (f : Binary64 → Binary64) : Metric → Metric
  | value x => finite (f x)
  | unavailable => unavailable

/-- Divided by another figure; unavailable if either is. -/
def per : Metric → Metric → Metric
  | value num, value den => ratio num den
  | _, _ => unavailable

def render (f : Binary64 → String) : Metric → String
  | value x => f x
  | unavailable => sentinel

def fixed (m : Metric) (places : Nat) : String := m.render (Figure.fixed · places)

end Metric
end PoolPage
