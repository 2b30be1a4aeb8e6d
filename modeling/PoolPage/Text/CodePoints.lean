/-!
Sets and replacements of characters, read from lines of text.

The lines hold entries between blanks, in the form in which the tables of Unicode are printed.
A code point is written in hexadecimal digits, `41-5A` stands for all from one to another, and
`100-12E/2` for every second of them.  Replacements follow a colon, those of a range one after
the other: `41-5A:61` gives small letters for capital ones, and `BD:31,2044,32` three characters
for one.
-/

namespace PoolPage

def entriesOf (lines : List String) : List (List Char) :=
  lines.flatMap fun line => line.toList.splitOn ' '

/-! ### Ranges -/

def hexadecimal (digits : List Char) : Nat :=
  digits.foldl (fun n c => 16 * n + (if c.isDigit then c.toNat - 48 else c.toNat - 55)) 0

/-- Every `step`th code point from a first to a last one. -/
structure CodePointRange where
  first : Nat
  last : Nat
  step : Nat

namespace CodePointRange

def contains (r : CodePointRange) (n : Nat) : Bool :=
  r.first ≤ n && n ≤ r.last && (n - r.first) % r.step = 0

def ofText (text : List Char) : CodePointRange :=
  let ends := text.takeWhile (· ≠ '/')
  let first := hexadecimal (ends.takeWhile (· ≠ '-'))
  { first
    last := if ends.contains '-' then hexadecimal ((ends.dropWhile (· ≠ '-')).drop 1) else first
    step := if text.contains '/' then hexadecimal ((text.dropWhile (· ≠ '/')).drop 1) else 1 }

end CodePointRange

/-! ### Sets -/

/-- A set of characters. -/
structure CodePointSet where
  ranges : List CodePointRange

namespace CodePointSet

def ofLines (lines : List String) : CodePointSet := ⟨(entriesOf lines).map .ofText⟩

def contains (s : CodePointSet) (c : Char) : Bool := s.ranges.any (·.contains c.toNat)

end CodePointSet

/-! ### Replacements -/

/-- What stands for the characters of a range: the given ones for the first, and for every other
character those as far behind them as it is behind the first. -/
structure CodePointRule where
  range : CodePointRange
  targets : List Nat

namespace CodePointRule

def ofText (text : List Char) : CodePointRule where
  range := .ofText (text.takeWhile (· ≠ ':'))
  targets := (((text.dropWhile (· ≠ ':')).drop 1).splitOn ',').map hexadecimal

/-- What stands for a code point of the range. -/
def apply (r : CodePointRule) (n : Nat) : List Char :=
  r.targets.map fun target => Char.ofNat (target + (n - r.range.first))

/-- The code point for which given ones stand by this rule. -/
def source? (r : CodePointRule) (cs : List Char) : Option Nat :=
  match r.targets, cs with
  | target :: _, c :: _ =>
    let n := r.range.first + (c.toNat - target)
    if r.range.contains n && r.apply n = cs then some n else none
  | _, _ => none

end CodePointRule

/-- Replacements for some characters. -/
structure CodePointMap where
  rules : List CodePointRule

namespace CodePointMap

def ofLines (lines : List String) : CodePointMap := ⟨(entriesOf lines).map .ofText⟩

def find? (m : CodePointMap) (c : Char) : Option (List Char) :=
  (m.rules.find? (·.range.contains c.toNat)).map (·.apply c.toNat)

def source? (m : CodePointMap) (cs : List Char) : Option Char :=
  (m.rules.findSome? (·.source? cs)).map Char.ofNat

end CodePointMap
end PoolPage
