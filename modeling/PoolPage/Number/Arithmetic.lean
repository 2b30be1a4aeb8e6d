import PoolPage.Number.Binary64

/-!
Arithmetic on double-precision numbers.  Each operation computes the exact
result in units and rounds it once, to the nearest number with halves to even;
the cases without an exact result give infinities and NaNs.
-/

namespace PoolPage
namespace Binary64

/-- A finite number in units, with its sign. -/
def signedUnits (negative : Bool) (rank : Nat) : Int :=
  if negative then -(rankUnits rank : Int) else rankUnits rank

/-- Sum.  An exact sum of zero is positive unless both terms are negative. -/
def add : Binary64 → Binary64 → Binary64
  | nan, _ | _, nan => nan
  | infinite s, infinite t => if s = t then infinite s else nan
  | infinite s, finite .. => infinite s
  | finite .., infinite t => infinite t
  | finite s a, finite t b =>
    let total := signedUnits s a + signedUnits t b
    ofQuotient (if total = 0 then s && t else total < 0) total.natAbs 1

def sub (x y : Binary64) : Binary64 := x.add y.neg

def mul : Binary64 → Binary64 → Binary64
  | nan, _ | _, nan => nan
  | infinite s, infinite t => infinite (s != t)
  | infinite s, finite t b => if b.val = 0 then nan else infinite (s != t)
  | finite s a, infinite t => if a.val = 0 then nan else infinite (s != t)
  | finite s a, finite t b => ofQuotient (s != t) (rankUnits a * rankUnits b) unitsPerOne

def div : Binary64 → Binary64 → Binary64
  | nan, _ | _, nan => nan
  | infinite _, infinite _ => nan
  | infinite s, finite t _ => infinite (s != t)
  | finite s _, infinite t => signedZero (s != t)
  | finite s a, finite t b =>
    if b.val = 0 then (if a.val = 0 then nan else infinite (s != t))
    else ofQuotient (s != t) (rankUnits a * unitsPerOne) (rankUnits b)

instance : Add Binary64 := ⟨add⟩
instance : Sub Binary64 := ⟨sub⟩
instance : Mul Binary64 := ⟨mul⟩
instance : Div Binary64 := ⟨div⟩

/-- Sum from the left.  It starts at negative zero, the one number whose addition
changes nothing. -/
def sum (xs : List Binary64) : Binary64 := xs.foldl add (signedZero true)

/-- A power with a natural exponent by repeated squaring: the factors are the
squares `x`, `x²`, `x⁴`, … at the binary digits of the exponent, lowest first. -/
def powNat (x : Binary64) (exponent : Nat) : Binary64 :=
  go x exponent 1 (exponent.log2 + 1)
where
  go (square : Binary64) (exponent : Nat) (product : Binary64) : Nat → Binary64
    | 0 => product
    | digits + 1 =>
      let product := if exponent % 2 = 1 then product * square else product
      if exponent / 2 = 0 then product else go (square * square) (exponent / 2) product digits

/-- A power with an integer exponent; a negative one gives the reciprocal of the
positive power. -/
def pow (x : Binary64) : Int → Binary64
  | .ofNat n => x.powNat n
  | .negSucc n => 1 / x.powNat (n + 1)

/-! ### Whole numbers -/

def isWhole : Binary64 → Bool
  | finite _ rank => rankUnits rank % unitsPerOne = 0
  | _ => false

/-- The nearest whole number, an exact half going away from zero.  The sign is kept,
also that of zero. -/
def round : Binary64 → Binary64
  | finite negative rank =>
    ofQuotient negative (Half.up.roundDiv (rankUnits rank) unitsPerOne * unitsPerOne) 1
  | x => x

/-- The whole part, clamped to the given bounds; zero for a NaN. -/
def clampTo (low high : Int) : Binary64 → Int
  | nan => 0
  | infinite negative => if negative then low else high
  | finite negative rank =>
    let whole : Int := rankUnits rank / unitsPerOne
    Max.max low (Min.min high (if negative then -whole else whole))

/-- The whole part within the range of signed 64-bit integers. -/
def toInt64 (x : Binary64) : Int := x.clampTo (-(signedLimit : Int)) (signedLimit - 1)

/-- The whole part within the range of unsigned 64-bit integers. -/
def toNat64 (x : Binary64) : Nat := (x.clampTo 0 (wordLimit - 1)).toNat

end Binary64
end PoolPage
