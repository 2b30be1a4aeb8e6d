import PoolPage.Json.Value
import PoolPage.Json.Schema

/-!
JSON values of texts.  A number without point and exponent that fits 64 bits is an integer,
every other one the nearest double-precision number.  The members of an object are sorted by
name, and of several with one name the last one counts.
-/

namespace PoolPage
namespace Json

/-- The number nearest to a literal; none if it is out of range. -/
def nearest? (l : Literal) : Option Json :=
  let x := l.numeral.toBinary64 l.negative
  if x.isFinite then some (number x) else none

/-- The value of a literal; none if it is out of range. -/
def ofLiteral? (l : Literal) : Option Json :=
  match l.toInt? with
  | some n => if -(signedLimit : Int) ≤ n ∧ n < wordLimit then some (int n) else nearest? l
  | none => nearest? l

mutual

/-- The value of a document; none if it is not complete. -/
def ofDoc? : Doc → Option Json
  | .null => some null
  | .bool b => some (bool b)
  | .number l => ofLiteral? l
  | .string text => text.map string
  | .array items none => do
    let values ← ofItems? items
    return array values
  | .object members none => do
    let values ← ofMembers? members
    return record values
  | .array _ (some _) | .object _ (some _) | .broken _ => none

def ofItems? : List Doc → Option (List Json)
  | [] => some []
  | item :: rest => do
    let value ← ofDoc? item
    let values ← ofItems? rest
    return value :: values

def ofMembers? : List (Option String × Doc) → Option (List (String × Json))
  | [] => some []
  | (name, item) :: rest => do
    let name ← name
    let value ← ofDoc? item
    let values ← ofMembers? rest
    return (name, value) :: values

end

def parse? (text : String) : Option Json :=
  let document := Document.ofText text
  if document.trailing then none else ofDoc? document.root

/-! ### Access -/

/-- The member of an object with a name. -/
def member? (name : String) : Json → Option Json
  | object members => members.lookup name
  | _ => none

def string? : Json → Option String
  | string text => some text
  | _ => none

def int? : Json → Option Int
  | int n => some n
  | _ => none

def bool? : Json → Option Bool
  | bool b => some b
  | _ => none

def array? : Json → Option (List Json)
  | array items => some items
  | _ => none

end Json
end PoolPage
