import PoolPage.Json.Document

/-!
Reading documents by the type of value that is expected.

A `Schema` describes a type of values, `Schema.Value`, and `Schema.read` gives the value of a
document or the first fault in the order of the text.  A record is read from an object, in any
order of its members and with others among them, or from an array of its fields in their order.
-/

namespace PoolPage

/-! ### Literals -/

namespace Literal

/-- Takes digits into a number while it fits 64 bits.  Gives the digits that are left. -/
def pack (n : Nat) : List Char → Nat × List Char
  | [] => (n, [])
  | digit :: rest =>
    let next := 10 * n + (digit.toNat - '0'.toNat)
    if next < wordLimit then pack next rest else (n, digit :: rest)

/-- The decimal of a literal with no more digits than fit.  A digit before the point that is left
counts as a place, one after it as nothing. -/
def toDecimal (l : Literal) : Decimal :=
  let (whole, wholeLeft) := pack 0 l.numeral.whole
  let (significand, fractionLeft) := pack whole l.numeral.fraction
  { significand
    exponent := l.numeral.exponent + wholeLeft.length -
      (l.numeral.fraction.length - fractionLeft.length : Nat) }

/-- The largest exponent of a finite power of ten. -/
def largestPower : Nat := 308

def powerOfTen (exponent : Nat) : Binary64 := (Decimal.mk 1 exponent).toBinary64 false

/-- Divides by the largest power of ten so many times, or until nothing is left. -/
def shrink (x : Binary64) : Nat → Binary64
  | 0 => x
  | steps + 1 => if x.isZero then x else shrink (x / powerOfTen largestPower) steps

/-- A number times a power of ten.  The power is rounded, and then the product. -/
def scale (x : Binary64) (exponent : Int) : Binary64 :=
  let places := exponent.natAbs
  if 0 ≤ exponent then
    if places ≤ largestPower then x * powerOfTen places
    else if x.isZero then x
    else .infinite false
  else
    let steps := (places - 1) / largestPower
    shrink x steps / powerOfTen (places - steps * largestPower)

/-- The number as which a literal is read.  It is not always the nearest one: the significand, a
power of ten and their product are each rounded. -/
def toBinary64 (l : Literal) : Binary64 :=
  let x := scale (Binary64.ofNat l.toDecimal.significand) l.toDecimal.exponent
  if l.negative then -x else x

/-- The integer of a literal; none if it has a point or an exponent, or is a zero with a minus. -/
def toInt? (l : Literal) : Option Int :=
  let n := ofDigits l.numeral.whole
  if !l.integral then none
  else if l.negative then (if n = 0 then none else some (-n))
  else some n

/-- Past the range of numbers. -/
def overflows (l : Literal) : Bool := !l.toBinary64.isFinite

end Literal

namespace Doc

/-- The fault of a value of the wrong type.  The value itself is still read, so that a text which is
no JSON there says so. -/
def mismatch : Doc → Fault
  | number l => if l.overflows then .malformed else .unexpected
  | string none => .malformed
  | broken cut => cut.onRead
  | _ => .unexpected

/-- Passes a value that is not wanted. -/
def endOf (fault : Cut → Fault) : Option Cut → Except Fault Unit
  | some cut => .error (fault cut)
  | none => .ok ()

mutual

/-- Skips a value: its text is only checked for being JSON. -/
def skip : Doc → Except Fault Unit
  | broken cut => .error cut.onSkip
  | array items cut => do skipItems items; endOf Cut.onSkip cut
  | object members cut => do skipMembers members; endOf Cut.onSkip cut
  | _ => .ok ()

def skipItems : List Doc → Except Fault Unit
  | [] => .ok ()
  | item :: rest => do item.skip; skipItems rest

def skipMembers : List (Option String × Doc) → Except Fault Unit
  | [] => .ok ()
  | (_, value) :: rest => do value.skip; skipMembers rest

end

mutual

/-- Checks that a value can be read completely: no cut, no number out of range, no string without
text, and no nesting deeper than the given depth. -/
def check : Nat → Doc → Except Fault Unit
  | _, null => .ok ()
  | _, bool _ => .ok ()
  | _, string text => if text.isSome then .ok () else .error .malformed
  | _, number l => if l.overflows then .error .malformed else .ok ()
  | _, broken cut => .error cut.onRead
  | 0, array .. => .error .malformed
  | depth + 1, array items cut => do checkItems depth items; endOf Cut.onRead cut
  | 0, object .. => .error .malformed
  | depth + 1, object members cut => do checkMembers depth members; endOf Cut.onRead cut

def checkItems : Nat → List Doc → Except Fault Unit
  | _, [] => .ok ()
  | depth, item :: rest => do check depth item; checkItems depth rest

def checkMembers : Nat → List (Option String × Doc) → Except Fault Unit
  | _, [] => .ok ()
  | depth, (name, value) :: rest =>
    if name.isSome then do check depth value; checkMembers depth rest
    else .error .malformed

end

end Doc

/-! ### Single values -/

def Doc.readFloat (doc : Doc) : Except Fault Binary64 :=
  match doc with
  | .number l => if l.overflows then .error .malformed else .ok l.toBinary64
  | _ => .error doc.mismatch

def Doc.readInteger (low high : Int) (doc : Doc) : Except Fault Int :=
  match doc with
  | .number l =>
    match l.toInt? with
    | some n => if low ≤ n ∧ n ≤ high then .ok n else .error doc.mismatch
    | none => .error doc.mismatch
  | _ => .error doc.mismatch

def Doc.readText (doc : Doc) : Except Fault String :=
  match doc with
  | .string (some text) => .ok text
  | _ => .error doc.mismatch

/-! ### Schemas -/

mutual

/-- A type of values. -/
inductive Schema where
  | float
  | integer
  | natural (bits : Nat)
  | text
  | optional (inner : Schema)
  | list (item : Schema)
  | nullable (inner : Schema)
  | record (fields : Fields)

/-- The fields of a record in their order.  One that is not required has a default. -/
inductive Fields where
  | nil
  | cons (name : String) (required : Bool) (schema : Schema) (rest : Fields)

end

mutual

def Schema.Value : Schema → Type
  | .float => Binary64
  | .integer => Int
  | .natural _ => Nat
  | .text => String
  | .optional inner => Option inner.Value
  | .list item => List item.Value
  | .nullable inner => inner.Value
  | .record fields => fields.Values

def Fields.Values : Fields → Type
  | .nil => Unit
  | .cons _ _ schema rest => schema.Value × rest.Values

end

/-- The fields that have been read so far. -/
def Fields.Draft : Fields → Type
  | .nil => Unit
  | .cons _ _ schema rest => Option schema.Value × rest.Draft

def Fields.emptyDraft : (fields : Fields) → fields.Draft
  | .nil => ()
  | .cons _ _ _ rest => (none, rest.emptyDraft)

mutual

/-- The value of a field that is absent: zero, the empty text, nothing, or a record of these. -/
def Schema.default : (schema : Schema) → schema.Value
  | .float => Binary64.zero
  | .integer => (0 : Int)
  | .natural _ => (0 : Nat)
  | .text => ""
  | .optional _ => none
  | .list _ => []
  | .nullable inner => inner.default
  | .record fields => fields.defaults

def Fields.defaults : (fields : Fields) → fields.Values
  | .nil => ()
  | .cons _ _ schema rest => (schema.default, rest.defaults)

end

/-- The values of a record from the fields that were present. -/
def Fields.finish : (fields : Fields) → fields.Draft → Except Fault fields.Values
  | .nil, () => .ok ()
  | .cons _ _ _ rest, (some value, draft) => do
    let values ← rest.finish draft
    return (value, values)
  | .cons _ required schema rest, (none, draft) =>
    if required then .error .unexpected
    else do
      let values ← rest.finish draft
      return (schema.default, values)

mutual

/-- The value of a document, or its first fault. -/
def Schema.read : (schema : Schema) → Doc → Except Fault schema.Value
  | .float, doc => doc.readFloat
  | .integer, doc => doc.readInteger (-(signedLimit : Int)) (signedLimit - 1)
  | .natural bits, doc => (doc.readInteger 0 ((1 <<< bits : Nat) - 1)).map Int.toNat
  | .text, doc => doc.readText
  | .optional inner, doc =>
    match doc with
    | .null => .ok none
    | doc => do
      let value ← inner.read doc
      return some value
  | .list item, doc =>
    match doc with
    | .array items cut => do
      let values ← items.mapM fun doc => item.read doc
      Doc.endOf Cut.onRead cut
      return values
    | doc => .error doc.mismatch
  | .nullable inner, doc =>
    match doc with
    | .null => .ok inner.default
    | doc => inner.read doc
  | .record fields, doc =>
    match doc with
    | .array items cut => fields.readItems items cut
    | .object members cut => do
      let draft ← members.foldlM (fun draft (name, value) =>
        match name with
        | some name => fields.store name value draft
        | none => .error .malformed) fields.emptyDraft
      Doc.endOf Cut.onRead cut
      fields.finish draft
    | doc => .error doc.mismatch

/-- Puts a member into its field.  A second member for a field is a fault, whatever its value, and a
member for no field is skipped. -/
def Fields.store : (fields : Fields) → String → Doc → fields.Draft → Except Fault fields.Draft
  | .nil, _, value, () => value.skip
  | .cons field _ schema rest, name, value, (old, draft) =>
    if name = field then
      if old.isSome then .error .unexpected
      else do
        let new ← schema.read value
        return (some new, draft)
    else do
      let draft ← rest.store name value draft
      return (old, draft)

/-- Reads the items of an array one for each field.  Fields past its end have their
defaults, and items past the last field are a fault. -/
def Fields.readItems : (fields : Fields) → List Doc → Option Cut → Except Fault fields.Values
  | .nil, [], cut => Doc.endOf Cut.onRead cut
  | .nil, _ :: _, _ => .error .malformed
  | .cons _ required schema rest, items, cut =>
    match items, cut with
    | item :: items, cut => do
      let value ← schema.read item
      let values ← rest.readItems items cut
      return (value, values)
    | [], some cut => .error cut.onRead
    | [], none =>
      if required then .error .unexpected
      else do
        let values ← rest.readItems [] none
        return (schema.default, values)

end

/-- Reads a whole text: its document by the schema, then the end of the text. -/
def Schema.readText (schema : Schema) (text : String) : Except Fault schema.Value := do
  let document := Document.ofText text
  let value ← schema.read document.root
  if document.trailing then .error .malformed else .ok value

end PoolPage
