import PoolPage.Number.Decimal

/-!
The shortest decimal that reads back as a given double-precision number.

The decimals that read back as a number form an interval around it, its *basin*:
from halfway to the number below to halfway to the number above, with both ends
when the significand is even.  `shortest` tries the grids of decimals with ever
more digits.  On each grid only the two neighbours of the number matter, for if
any point of the grid lies in the basin, so does one of these.
-/

namespace PoolPage

/-- An interval of magnitudes, its ends in half units. -/
structure Basin where
  low : Nat
  high : Nat
  closed : Bool

namespace Basin

/-- The magnitudes that are nearer to the given rank than to any other. -/
def ofRank (rank : Nat) : Basin where
  low := rankUnits (rank - 1) + rankUnits rank
  high := rankUnits rank + rankUnits (rank + 1)
  closed := rank % 2 = 0

/-- Membership of `num / den` half units. -/
def contains (b : Basin) (num den : Nat) : Bool :=
  if b.closed then b.low * den ≤ num && num ≤ b.high * den
  else b.low * den < num && num < b.high * den

end Basin

/-- The exponent of the leading decimal digit of a nonzero rank's magnitude.  The
scale 10³²⁴ makes the smallest magnitude at least one. -/
def rankOrder (rank : Nat) : Int :=
  (digitsOf (rankUnits rank * Nat.pow 10 324 / unitsPerOne)).length - 325

/-- The multiple of `10 ^ exponent` that reads back as the rank, the nearer one if
two neighbours do; of two that are equally near, the one that `half` picks. -/
def shortestOnGrid? (half : Half) (rank : Nat) (exponent : Int) : Option Decimal :=
  let basin := Basin.ofRank rank
  let step := Nat.pow 10 exponent.toNat * (2 * unitsPerOne)
  let den := Nat.pow 10 (-exponent).toNat
  let target := 2 * rankUnits rank * den
  let below := target / step
  let hitBelow := basin.contains (below * step) den
  let hitAbove := basin.contains ((below + 1) * step) den
  if hitBelow && hitAbove then some ⟨half.roundDiv target step, exponent⟩
  else if hitBelow then some ⟨below, exponent⟩
  else if hitAbove then some ⟨below + 1, exponent⟩
  else none

/-- The decimal with the fewest digits that reads back as the rank, the nearest of
these to its magnitude.  Seventeen digits always suffice; the last resort is the
magnitude itself, which is a decimal with 1074 places. -/
def shortest (half : Half) (rank : Nat) : Decimal :=
  let order := rankOrder rank
  ((List.range 18).findSome? fun digits : Nat =>
    shortestOnGrid? half rank (order + 1 - digits)).getD
    ⟨rankUnits rank * Nat.pow 5 1074, -1074⟩

end PoolPage
