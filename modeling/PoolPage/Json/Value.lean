import PoolPage.Figure
import PoolPage.Table

/-!
JSON values and their compact text: no spaces, members in the order of the value, escapes
only where the format demands them.
-/

namespace PoolPage

inductive Json where
  | null
  | bool (b : Bool)
  | int (n : Int)
  | number (x : Binary64)
  | string (text : String)
  | array (items : List Json)
  | object (members : List (String × Json))

namespace Json

/-- An object with its members sorted by name, the last of several with one name. -/
def record (members : List (String × Json)) : Json := object (Table.ofList members).entries

def ofOption (f : α → Json) : Option α → Json
  | some a => f a
  | none => null

def hexDigit (n : Nat) : Char := if n < 10 then Char.ofNat (48 + n) else Char.ofNat (87 + n)

/-- What stands for a character inside a string. -/
def escapeChar (c : Char) : List Char :=
  if c = '"' then "\\\"".toList
  else if c = '\\' then "\\\\".toList
  else if c = '\n' then "\\n".toList
  else if c = '\r' then "\\r".toList
  else if c = '\t' then "\\t".toList
  else if c.toNat = 8 then "\\b".toList
  else if c.toNat = 12 then "\\f".toList
  else if c.toNat < 32 then "\\u00".toList ++ [hexDigit (c.toNat / 16), hexDigit (c.toNat % 16)]
  else [c]

def writeString (text : String) : List Char :=
  '"' :: text.toList.flatMap escapeChar ++ ['"']

/-- A magnitude in scientific notation.  The exponent has a sign, and the point is left out after a
single digit. -/
def writeScientific (d : Decimal) : List Char :=
  Figure.mantissa d.significand (digitsOf d.significand).length ++
    'e' :: (if d.order < 0 then '-' else '+') :: digitsOf d.order.natAbs

/-- A number has the fewest digits that read back.  Exponents from -5 to 15 are written out, whole
numbers with one zero after the point; what is not finite is null. -/
def writeNumber : Binary64 → List Char
  | .finite negative rank =>
    let d := shortest .toEven rank.val
    Figure.sign negative ++
      if rank.val = 0 then "0.0".toList
      else if -5 ≤ d.order ∧ d.order ≤ 15 then
        d.positional ++ if 0 ≤ d.exponent then ".0".toList else []
      else writeScientific d
  | _ => "null".toList

mutual

def write : Json → List Char
  | null => "null".toList
  | bool b => (if b then "true" else "false").toList
  | int n => (toString n).toList
  | number x => writeNumber x
  | string text => writeString text
  | array items => '[' :: writeItems items ++ [']']
  | object members => '\x7b' :: writeMembers members ++ ['\x7d']

def writeItems : List Json → List Char
  | [] => []
  | [item] => item.write
  | item :: rest => item.write ++ ',' :: writeItems rest

def writeMembers : List (String × Json) → List Char
  | [] => []
  | [(name, value)] => writeString name ++ ':' :: value.write
  | (name, value) :: rest => writeString name ++ ':' :: value.write ++ ',' :: writeMembers rest

end

def render (value : Json) : String := String.ofList value.write

end Json
end PoolPage
