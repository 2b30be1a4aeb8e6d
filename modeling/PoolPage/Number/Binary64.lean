import PoolPage.Number.Rounding
import PoolPage.Number.Word

/-!
Double-precision numbers: 53 significant bits, exponents from -1074 to 971.

A finite number is a sign and the *rank* of its magnitude, its place when all
finite magnitudes are listed in increasing order from zero.  Order, successor
and parity of the last significant bit are then order, successor and parity of
ranks, and the neighbours of a number need no cases for powers of two.  The
rank is also the word of the interchange format without its sign bit.

All magnitudes are whole multiples of the *unit* 2⁻¹⁰⁷⁴, so that exact
arithmetic on them is arithmetic of natural numbers, followed by one rounding,
`Binary64.ofQuotient`.
-/

namespace PoolPage

/-- Magnitudes with one exponent: 2⁵². -/
abbrev binadeSize : Nat := 0x10000000000000

/-- Number of finite magnitudes, of 2047 exponents.  It is also the rank that infinity
would have. -/
abbrev rankLimit : Nat := 2047 * binadeSize

/-- Units in the number one. -/
abbrev unitsPerOne : Nat := 1 <<< 1074

inductive Binary64 where
  | nan
  | infinite (negative : Bool)
  | finite (negative : Bool) (rank : Fin rankLimit)
deriving DecidableEq

/-- How far the significand of a rank is shifted to the left.  The first two
binades share a spacing of one unit, and each later one doubles it. -/
def rankShift (rank : Nat) : Nat := rank / binadeSize - 1

/-- The significand of a rank: below 2⁵³, and at least 2⁵² past the first binade. -/
def rankSignificand (rank : Nat) : Nat := rank - rankShift rank * binadeSize

def rankUnits (rank : Nat) : Nat := rankSignificand rank <<< rankShift rank

/-- The rank whose magnitude is nearest to `num / den` units, an exact half going
to the even significand.  Ranks past `rankLimit` stand for magnitudes the format
would have with larger exponents.  The significand may round up to 2⁵³; adding
instead of packing it carries into the exponent then. -/
def nearestRank (num den : Nat) : Nat :=
  let shift := (num / den).log2 - 52
  shift * binadeSize + Half.toEven.roundDiv num (den <<< shift)

namespace Binary64

def zero : Binary64 := finite false ⟨0, by decide⟩

def signedZero (negative : Bool) : Binary64 := finite negative ⟨0, by decide⟩

/-- The magnitude of a rank, infinite from `rankLimit` on. -/
def ofRank (negative : Bool) (rank : Nat) : Binary64 :=
  if h : rank < rankLimit then finite negative ⟨rank, h⟩ else infinite negative

/-- The number nearest to plus or minus `num / den` units; infinite when that
lies half a step or more past the largest finite magnitude. -/
def ofQuotient (negative : Bool) (num den : Nat) : Binary64 :=
  ofRank negative (nearestRank num den)

def ofInt (n : Int) : Binary64 :=
  ofQuotient (n < 0) (n.natAbs * unitsPerOne) 1

def ofNat (n : Nat) : Binary64 := ofInt n

instance {n : Nat} : OfNat Binary64 n := ⟨ofNat n⟩

def isFinite : Binary64 → Bool
  | finite .. => true
  | _ => false

def isNan : Binary64 → Bool
  | nan => true
  | _ => false

def neg : Binary64 → Binary64
  | nan => nan
  | infinite negative => infinite (!negative)
  | finite negative rank => finite (!negative) rank

def abs : Binary64 → Binary64
  | nan => nan
  | infinite _ => infinite false
  | finite _ rank => finite false rank

instance : Neg Binary64 := ⟨neg⟩

/-! ### Order -/

/-- Place in the order of numbers; both zeros have place zero, and a NaN has none. -/
def place? : Binary64 → Option Int
  | nan => none
  | infinite negative => some (if negative then -(rankLimit : Int) else rankLimit)
  | finite negative rank => some (if negative then -(rank.val : Int) else rank.val)

/-- Below; never with a NaN on either side. -/
def lt (a b : Binary64) : Bool :=
  match a.place?, b.place? with
  | some i, some j => i < j
  | _, _ => false

/-- At most; never with a NaN on either side. -/
def le (a b : Binary64) : Bool :=
  match a.place?, b.place? with
  | some i, some j => i ≤ j
  | _, _ => false

/-- Above; never with a NaN on either side. -/
def gt (a b : Binary64) : Bool := b.lt a

/-- Equal as numbers: the two zeros are, a NaN is not equal to itself. -/
def eq (a b : Binary64) : Bool :=
  match a.place?, b.place? with
  | some i, some j => i == j
  | _, _ => false

def isZero (x : Binary64) : Bool := x.eq zero

/-- The smaller number; a NaN gives way to the other operand. -/
def min (a b : Binary64) : Binary64 :=
  if a.isNan then b else if b.lt a then b else a

/-- The larger number; a NaN gives way to the other operand. -/
def max (a b : Binary64) : Binary64 :=
  if a.isNan then b else if a.lt b then b else a

/-! ### The interchange format -/

/-- The 64-bit word of a number.  Of the many words for a NaN it is one. -/
def toWord : Binary64 → Nat
  | nan => rankLimit + binadeSize / 2
  | infinite negative => (if negative then signedLimit else 0) + rankLimit
  | finite negative rank => (if negative then signedLimit else 0) + rank.val

def ofWord (word : Nat) : Binary64 :=
  let rank := word % signedLimit
  if rank ≤ rankLimit then ofRank (word / signedLimit % 2 = 1) rank else nan

theorem ofRank_of_lt (negative : Bool) {rank : Nat} (h : rank < rankLimit) :
    ofRank negative rank = finite negative ⟨rank, h⟩ := dif_pos h

theorem ofWord_of_rank {word rank : Nat} (h : rank < rankLimit)
    (hrank : word % signedLimit = rank) :
    ofWord word = finite (word / signedLimit % 2 = 1) ⟨rank, h⟩ := by
  unfold ofWord
  rw [hrank, if_pos (Nat.le_of_lt h), ofRank_of_lt _ h]

theorem ofWord_toWord (x : Binary64) : ofWord x.toWord = x := by
  cases x with
  | nan => decide
  | infinite negative => cases negative <;> decide
  | finite negative rank =>
    obtain ⟨r, h⟩ := rank
    have hr : r < signedLimit := Nat.lt_of_lt_of_le h (by decide)
    cases negative with
    | false =>
      have hword : toWord (finite false ⟨r, h⟩) = r := Nat.zero_add r
      have hsign : r / signedLimit = 0 := Nat.div_eq_of_lt hr
      rw [hword, ofWord_of_rank h (Nat.mod_eq_of_lt hr), hsign]
      rfl
    | true =>
      have hword : toWord (finite true ⟨r, h⟩) = signedLimit + r := rfl
      have hrank : (signedLimit + r) % signedLimit = r :=
        (Nat.add_mod_left ..).trans (Nat.mod_eq_of_lt hr)
      have hsign : (signedLimit + r) / signedLimit = 1 := by
        rw [Nat.add_div_left r (by decide), Nat.div_eq_of_lt hr]
      rw [hword, ofWord_of_rank h hrank, hsign]
      rfl

end Binary64
end PoolPage
