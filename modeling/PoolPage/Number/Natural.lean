/-!
Reading natural numbers below a limit.
-/

namespace PoolPage

/-- Why a text is no natural number. -/
inductive NaturalFault where
  | empty
  | invalidDigit
  | tooLarge
deriving DecidableEq, Repr

def NaturalFault.message : NaturalFault → String
  | empty => "cannot parse integer from empty string"
  | invalidDigit => "invalid digit found in string"
  | tooLarge => "number too large to fit in target type"

/-- Adds digits to a number from the left.  The first character that is no digit, or the first digit
that takes the number to the limit, decides the fault. -/
def readDigits (limit value : Nat) : List Char → Except NaturalFault Nat
  | [] => .ok value
  | c :: rest =>
    if c.isDigit then
      let next := 10 * value + (c.toNat - '0'.toNat)
      if next < limit then readDigits limit next rest else .error .tooLarge
    else .error .invalidDigit

/-- Digits, after an optional plus. -/
def readNatural (limit : Nat) (cs : List Char) : Except NaturalFault Nat :=
  match cs with
  | [] => .error .empty
  | ['+'] => .error .invalidDigit
  | '+' :: digits => readDigits limit 0 digits
  | digits => readDigits limit 0 digits

end PoolPage
