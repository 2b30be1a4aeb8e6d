import PoolPage.Number.Decimal

/-!
Reading decimal numerals: digits with an optional point among or beside them and
an optional exponent.  A scan takes the longest numeral at the front of a text
and gives the rest back.
-/

namespace PoolPage

/-- The parts of an unsigned numeral; `fraction` stands after the point. -/
structure Numeral where
  whole : List Char
  fraction : List Char
  exponent : Int
deriving DecidableEq, Repr

/-- Takes an optional sign: whether it was a minus, and the rest. -/
def scanSign : List Char → Bool × List Char
  | '-' :: rest => (true, rest)
  | '+' :: rest => (false, rest)
  | cs => (false, cs)

/-- The digits at the front, and the rest. -/
def scanDigits (cs : List Char) : List Char × List Char :=
  (cs.takeWhile Char.isDigit, cs.dropWhile Char.isDigit)

namespace Numeral

/-- A point with the digits after it.  A point without digits on either side of it
is no part of a numeral, and is left. -/
def scanFraction (whole : List Char) : List Char → List Char × List Char
  | '.' :: rest =>
    let (fraction, after) := scanDigits rest
    if whole.isEmpty && fraction.isEmpty then ([], '.' :: rest) else (fraction, after)
  | cs => ([], cs)

/-- The digits of an exponent after its letter; without digits the letter and sign are
no exponent. -/
def exponentDigits? (cs : List Char) : Option (Int × List Char) :=
  let (negative, unsigned) := scanSign cs
  match scanDigits unsigned with
  | ([], _) => none
  | (digits, rest) =>
    let n : Int := ofDigits digits
    some (if negative then -n else n, rest)

/-- An exponent; zero, and nothing taken, where there is none. -/
def scanExponent : List Char → Int × List Char
  | c :: cs =>
    if c = 'e' ∨ c = 'E' then (exponentDigits? cs).getD (0, c :: cs) else (0, c :: cs)
  | [] => (0, [])

/-- The longest numeral at the front of a text, and the rest. -/
def scan? (cs : List Char) : Option (Numeral × List Char) :=
  let (whole, afterWhole) := scanDigits cs
  let (fraction, afterFraction) := scanFraction whole afterWhole
  if whole.isEmpty && fraction.isEmpty then none
  else
    let (exponent, rest) := scanExponent afterFraction
    some (⟨whole, fraction, exponent⟩, rest)

def toDecimal (n : Numeral) : Decimal where
  significand := ofDigits (n.whole ++ n.fraction)
  exponent := n.exponent - n.fraction.length

/-- The double-precision number nearest to a numeral with a sign. -/
def toBinary64 (n : Numeral) (negative : Bool) : Binary64 := n.toDecimal.toBinary64 negative

end Numeral
end PoolPage
