import PoolPage.Number.Shortest
import PoolPage.Number.Numeral
import PoolPage.Text.Blank

/-!
Figures: numbers as a page shows them.

The notation is the one of browsers.  A bare number (`plain`) has the fewest digits
that read back; `fixed` has a given number of places and `precision` a given number
of significant digits, and in both an exact half goes away from zero.  The digit
generator itself sends halves to even, so a number that is an exact half (`isTie`) is
moved to the next number first, which lies past the half and close to it.
-/

namespace PoolPage
namespace Figure

def sign (negative : Bool) : List Char := if negative then ['-'] else []

/-- All digits of a number without an exponent. -/
def positional : Binary64 → List Char
  | .nan => "NaN".toList
  | .infinite negative => sign negative ++ "inf".toList
  | .finite negative rank =>
    sign negative ++ if rank.val = 0 then ['0'] else (shortest .up rank).positional

/-- Below 10²¹ whole numbers are written as integers. -/
def integerLimit : Binary64 := (Decimal.mk 1 21).toBinary64 false

/-- A bare number.  Whole numbers are written within the range of 64-bit integers, and
those past its ends as its ends. -/
def plain (x : Binary64) : String :=
  if x.isWhole && x.abs.lt integerLimit then toString x.toInt64
  else String.ofList (positional x)

/-! ### Exact halves -/

/-- The rank nearest to 10³⁸, the largest power of ten in a 128-bit word. -/
def tieLimit : Nat := (Decimal.mk 1 38).nearestRank

/-- Whether the magnitude of a rank lies exactly halfway between two multiples of
`10 ^ -places`.  To the right of the point, `significand · 2 ^ exponent · 10 ^ places`
is a half-integer exactly if `2 · significand · 2 ^ places` has as many factors of two
as the exponent takes away, since factors of five do not matter.  To its left only whole numbers
qualify, and none from 10³⁸ on: it would need more factors of five than a significand has. -/
def isTie (rank : Nat) (places : Int) : Bool :=
  if rank = 0 then false
  else match places with
  | .ofNat places =>
    rankShift rank < 1074 &&
      (BitVec.ofNat 64 (rankSignificand rank)).ctz.toNat + places + 1 = 1074 - rankShift rank
  | .negSucc less =>
    let places := less + 1
    if rankUnits rank % unitsPerOne ≠ 0 ∨ tieLimit ≤ rank ∨ 38 < places then false
    else rankUnits rank / unitsPerOne % Nat.pow 10 places = Nat.pow 10 places / 2

/-- The rank whose digits are written in place of an exact half. -/
def breakTie (rank : Nat) (places : Int) : Nat :=
  if isTie rank places then rank + 1 else rank

/-! ### Fixed places -/

/-- A rank's magnitude with a fixed number of places. -/
def fixedRank (rank places : Nat) : List Char :=
  fixedDigits (Half.toEven.roundDiv (rankUnits rank * Nat.pow 10 places) unitsPerOne) places

/-- A number with the given number of places; from 10²¹ on, and where it is not finite, a bare
number. -/
def fixed (x : Binary64) (places : Nat) : String :=
  match x with
  | .finite negative rank =>
    if x.abs.lt integerLimit then
      String.ofList (sign negative ++ fixedRank (breakTie rank places) places)
    else plain x
  | _ => plain x

/-- A number with the given number of places, an exact half going to the even digit. -/
def halfEvenPlaces (x : Binary64) (places : Nat) : String :=
  match x with
  | .finite negative rank => String.ofList (sign negative ++ fixedRank rank places)
  | _ => String.ofList (positional x)

/-! ### Significant digits -/

/-- The magnitude of a nonzero rank rounded to `digits` significant digits, with the exponent of
the leading one.  Rounding up to the next power of ten leaves one digit too many, a zero. -/
def significant (rank digits : Nat) : Nat × Int :=
  let order := rankOrder rank
  let places := (digits : Int) - 1 - order
  let n := Half.toEven.roundDiv (rankUnits rank * Nat.pow 10 places.toNat)
    (unitsPerOne * Nat.pow 10 (-places).toNat)
  if n = Nat.pow 10 digits then (n / 10, order + 1) else (n, order)

/-- The digits of a number in scientific notation: a point after the first digit. -/
def mantissa (n digits : Nat) : List Char :=
  match digitsOf n with
  | first :: rest => if digits ≤ 1 then [first] else first :: '.' :: rest
  | [] => []

/-- A number with the given number of significant digits, at least one.  Scientific notation serves
exponents below -6 and those that the digits do not reach.  Where the leading digit stands
is read off the shortest decimal. -/
def precision (x : Binary64) (digits : Nat) : String :=
  let digits := max digits 1
  match x with
  | .finite negative rank =>
    if rank.val = 0 then String.ofList (fixedDigits 0 (digits - 1))
    else
      let rank := breakTie rank ((digits : Int) - 1 - (shortest .up rank).order)
      let (n, exponent) := significant rank digits
      String.ofList <| sign negative ++
        if exponent < -6 ∨ digits ≤ exponent then
          mantissa n digits ++ 'e' :: (if exponent < 0 then '-' else '+') ::
            digitsOf exponent.natAbs
        else fixedRank rank ((digits : Int) - 1 - exponent).toNat
  | _ => plain x

/-! ### Rounded values -/

/-- A number rounded to decimal places by scaling it up, rounding and scaling it down. -/
def roundTo (x : Binary64) (places : Int) : Binary64 :=
  let scale := Binary64.pow 10 places
  (x * scale).round / scale

/-! ### Hash rates and durations -/

/-- The units of hash rates, largest first. -/
def hashUnits : List (Binary64 × String) :=
  [(1000000000000, "T"), (1000000000, "G"), (1000000, "M"), (1000, "k")]

/-- A hash count in the largest unit not above it, with two places, and its unit; below one thousand
a whole number and an empty unit. -/
def hashCount (x : Binary64) : String :=
  if !x.isFinite then "N/A "
  else match hashUnits.find? fun (scale, _) => scale.le x with
    | some (scale, unit) => fixed (x / scale) 2 ++ " " ++ unit
    | none => plain x.round ++ " "

def hashRate (x : Binary64) : String := hashCount x ++ "H/s"

/-- A duration in seconds, in its two leading units. -/
def duration (seconds : Binary64) : String :=
  if !seconds.isFinite || seconds.lt 0 then "N/A"
  else
    let total := seconds.round.toNat64
    let hours := total / 3600
    let minutes := total % 3600 / 60
    let rest := total % 60
    if 0 < hours then toString hours ++ "h " ++ toString minutes ++ "m"
    else if 0 < minutes then toString minutes ++ "m " ++ toString rest ++ "s"
    else toString rest ++ "s"

/-! ### Reading -/

def infinityWord : List Char := "Infinity".toList

/-- The number at the front of a text, after white space: the longest numeral with an optional sign,
or the word for infinity.  None if the text starts with neither. -/
def read? (text : String) : Option Binary64 :=
  let (negative, unsigned) := scanSign (trimLeft text.toList)
  if infinityWord.isPrefixOf unsigned then some (.infinite negative)
  else (Numeral.scan? unsigned).map fun (numeral, _) => numeral.toBinary64 negative

end Figure
end PoolPage
