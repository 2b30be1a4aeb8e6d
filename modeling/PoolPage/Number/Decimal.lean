import PoolPage.Number.Arithmetic

/-!
Decimal numbers: how they are written with digits and a point, and which
double-precision number lies nearest to one.
-/

namespace PoolPage

/-- The number `significand · 10 ^ exponent`. -/
structure Decimal where
  significand : Nat
  exponent : Int
deriving DecidableEq, Repr

/-- The decimal digits of a number, without leading zeros; zero has one digit. -/
def digitsOf (n : Nat) : List Char := Nat.toDigits 10 n

/-- The number written by a list of digits. -/
def ofDigits (digits : List Char) : Nat :=
  digits.foldl (fun n c => 10 * n + (c.toNat - '0'.toNat)) 0

/-- `n / 10 ^ places` with exactly `places` digits after the point, and no point
when there are none. -/
def fixedDigits (n places : Nat) : List Char :=
  if places = 0 then digitsOf n
  else
    let fraction := digitsOf (n % Nat.pow 10 places)
    digitsOf (n / Nat.pow 10 places) ++ '.' ::
      (List.replicate (places - fraction.length) '0' ++ fraction)

namespace Decimal

/-- A decimal without exponent: digits, and a point only where the exponent is
negative. -/
def positional (d : Decimal) : List Char :=
  fixedDigits (d.significand * Nat.pow 10 d.exponent.toNat) (-d.exponent).toNat

def order (d : Decimal) : Int :=
  d.exponent + ((digitsOf d.significand).length - 1 : Nat)

/-- The rank nearest to a decimal.  Decimals that are certainly past the largest
magnitude or below half the smallest are answered from their order alone, so that
a written exponent of any size is no work. -/
def nearestRank (d : Decimal) : Nat :=
  if d.significand = 0 ∨ d.order < -400 then 0
  else if 400 < d.order then rankLimit
  else
    PoolPage.nearestRank (d.significand * Nat.pow 10 d.exponent.toNat * unitsPerOne)
      (Nat.pow 10 (-d.exponent).toNat)

/-- The double-precision number nearest to plus or minus a decimal. -/
def toBinary64 (d : Decimal) (negative : Bool) : Binary64 :=
  Binary64.ofRank negative d.nearestRank

end Decimal
end PoolPage
