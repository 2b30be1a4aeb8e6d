import PoolPage.Number.Numeral

/-!
The structure of a JSON text, as far as it goes.

`Document.ofText` never fails.  Where a text breaks off or stops being JSON, the document has a
*cut* in the place that could not be read, and nothing after it.  A reader that walks a document
in the order of the text then meets faults in that order too: if a member has the wrong type and
the text breaks later, the wrong type comes first.

A cut knows two causes, since a value that is read is checked more closely than one that is
skipped: half of a surrogate pair is no text but can be skipped, and a number that breaks off is
truncated for a reader and malformed for the rest.
-/

namespace PoolPage

/-- Why a text has no value: it is no JSON, it ends too early, or its values are not those expected.
-/
inductive Fault where
  | malformed
  | truncated
  | unexpected
deriving DecidableEq, Repr

def Fault.message : Fault → String
  | malformed => "malformed document"
  | truncated => "unexpected end of document"
  | unexpected => "unexpected value"

/-- The place where a text stops being JSON. -/
structure Cut where
  onRead : Fault
  onSkip : Fault
deriving DecidableEq, Repr

namespace Cut

def same (fault : Fault) : Cut := ⟨fault, fault⟩

def malformed : Cut := same .malformed

def truncated : Cut := same .truncated

/-- A number that breaks off. -/
def openNumber : Cut := ⟨.truncated, .malformed⟩

end Cut

/-- A number as it is written; `integral` when it has neither point nor exponent. -/
structure Literal where
  negative : Bool
  integral : Bool
  numeral : Numeral
deriving DecidableEq, Repr

/-- The structure of a JSON value.  A string is `none` when its escapes form no text.  Arrays and
objects may be cut short after some of their elements. -/
inductive Doc where
  | null
  | bool (b : Bool)
  | number (literal : Literal)
  | string (text : Option String)
  | array (items : List Doc) (cut : Option Cut)
  | object (members : List (Option String × Doc)) (cut : Option Cut)
  | broken (cut : Cut)

/-- A document and whether more than white space follows it. -/
structure Document where
  root : Doc
  trailing : Bool

namespace Doc

def isSpace (c : Char) : Bool := c = ' ' || c = '\n' || c = '\t' || c = '\r'

def skipSpaces (cs : List Char) : List Char := cs.dropWhile isSpace

/-! ### Strings -/

def hexValue? (c : Char) : Option Nat :=
  if c.isDigit then some (c.toNat - 48)
  else if 'a' ≤ c ∧ c ≤ 'f' then some (c.toNat - 87)
  else if 'A' ≤ c ∧ c ≤ 'F' then some (c.toNat - 55)
  else none

/-- Four hexadecimal digits.  Fewer than four bytes of text left are a text that ends too early,
whatever they are. -/
def hexEscape (cs : List Char) : Except Fault (Nat × List Char) :=
  if (String.ofList (cs.take 4)).utf8ByteSize < 4 then .error .truncated
  else
    match cs with
    | a :: b :: c :: d :: rest =>
      match hexValue? a, hexValue? b, hexValue? c, hexValue? d with
      | some a, some b, some c, some d => .ok (((a * 16 + b) * 16 + c) * 16 + d, rest)
      | _, _, _, _ => .error .malformed
    | _ => .error .malformed

def simpleEscape? (c : Char) : Option Char :=
  if c = '"' ∨ c = '\\' ∨ c = '/' then some c
  else if c = 'b' then some (Char.ofNat 8)
  else if c = 'f' then some (Char.ofNat 12)
  else if c = 'n' then some '\n'
  else if c = 'r' then some '\r'
  else if c = 't' then some '\t'
  else none

/-- A string after its opening quote: its text, or where it is cut. -/
inductive Scanned where
  | closed (text : Option String) (rest : List Char)
  | cut (cut : Cut)

/-- The outcome of one escape. -/
inductive Escape where
  | char (c : Char) (rest : List Char)
  | half (rest : List Char)
  | fault (fault : Fault)

/-- The second half of a surrogate pair whose first half was just read. -/
def lowSurrogate (high : Nat) (cs : List Char) : Escape :=
  match cs with
  | [] => .fault .truncated
  | ['\\'] => .fault .truncated
  | '\\' :: 'u' :: digits =>
    match hexEscape digits with
    | .error fault => .fault fault
    | .ok (low, rest) =>
      if 0xDC00 ≤ low ∧ low ≤ 0xDFFF then
        .char (Char.ofNat (0x10000 + (high - 0xD800) * 0x400 + (low - 0xDC00))) rest
      else .half cs
  | _ => .half cs

def escape (cs : List Char) : Escape :=
  match cs with
  | [] => .fault .truncated
  | 'u' :: digits =>
    match hexEscape digits with
    | .error fault => .fault fault
    | .ok (n, rest) =>
      if 0xDC00 ≤ n ∧ n ≤ 0xDFFF then .half rest
      else if 0xD800 ≤ n ∧ n ≤ 0xDBFF then lowSurrogate n rest
      else .char (Char.ofNat n) rest
  | c :: rest =>
    match simpleEscape? c with
    | some c => .char c rest
    | none => .fault .malformed

/-- The rest of a string; `text` holds what came before in reverse, or nothing once half a surrogate
pair was met.  From then on a reader's fault is that half. -/
def scanString : Nat → Option (List Char) → List Char → Scanned
  | 0, _, _ => .cut .truncated
  | fuel + 1, text, cs =>
    let cutAt (fault : Fault) : Scanned :=
      .cut ⟨if text.isSome then fault else .malformed, fault⟩
    match cs with
    | [] => cutAt .truncated
    | c :: rest =>
      if c = '"' then .closed (text.map fun chars => String.ofList chars.reverse) rest
      else if c = '\\' then
        match escape rest with
        | .char c rest => scanString fuel (text.map (c :: ·)) rest
        | .half rest => scanString fuel none rest
        | .fault fault => cutAt fault
      else if c.toNat < 32 then cutAt .malformed
      else scanString fuel (text.map (c :: ·)) rest

def stringBody (cs : List Char) : Scanned := scanString (cs.length + 1) (some []) cs

/-! ### Numbers -/

/-- What was read and, unless it is cut, the text after it. -/
abbrev Partial (α : Type) := α × Option (List Char)

/-- The exponent of a number after its letter. -/
def scanExponent (cs : List Char) : Except Cut (Int × List Char) :=
  let (negative, unsigned) := scanSign cs
  match scanDigits unsigned with
  | ([], []) => .error .openNumber
  | ([], _) => .error .malformed
  | (digits, rest) =>
    let n : Int := ofDigits digits
    .ok (if negative then -n else n, rest)

/-- A point with the digits after it; none where there is no point. -/
def scanFraction : List Char → Except Cut (List Char × List Char)
  | '.' :: cs =>
    match scanDigits cs with
    | ([], []) => .error .openNumber
    | ([], _) => .error .malformed
    | (digits, rest) => .ok (digits, rest)
  | cs => .ok ([], cs)

/-- A number without its sign.  A leading zero is followed by no other digit. -/
def scanUnsigned (negative : Bool) (cs : List Char) : Except Cut (Literal × List Char) :=
  match scanDigits cs with
  | ([], []) => .error .openNumber
  | ([], _) => .error .malformed
  | ('0' :: _ :: _, _) => .error .malformed
  | (whole, afterWhole) => do
    let (fraction, afterFraction) ← scanFraction afterWhole
    let integral := fraction.isEmpty
    match afterFraction with
    | c :: afterLetter =>
      if c = 'e' ∨ c = 'E' then
        let (exponent, rest) ← scanExponent afterLetter
        return (⟨negative, false, ⟨whole, fraction, exponent⟩⟩, rest)
      else return (⟨negative, integral, ⟨whole, fraction, 0⟩⟩, afterFraction)
    | [] => return (⟨negative, integral, ⟨whole, fraction, 0⟩⟩, [])

def scanNumber (negative : Bool) (cs : List Char) : Partial Doc :=
  match scanUnsigned negative cs with
  | .ok (literal, rest) => (.number literal, some rest)
  | .error cut => (.broken cut, none)

/-! ### Values -/

/-- The rest of a word whose first letter was met. -/
def word (value : Doc) : (letters cs : List Char) → Partial Doc
  | [], rest => (value, some rest)
  | _ :: _, [] => (.broken .truncated, none)
  | letter :: letters, c :: rest =>
    if c = letter then word value letters rest else (.broken .malformed, none)

mutual

/-- The value at the front of a text, after white space. -/
def scanValue : Nat → List Char → Partial Doc
  | 0, _ => (.broken .truncated, none)
  | fuel + 1, cs =>
    match skipSpaces cs with
    | [] => (.broken .truncated, none)
    | 'n' :: rest => word .null ['u', 'l', 'l'] rest
    | 't' :: rest => word (.bool true) ['r', 'u', 'e'] rest
    | 'f' :: rest => word (.bool false) ['a', 'l', 's', 'e'] rest
    | '-' :: rest => scanNumber true rest
    | '"' :: rest =>
      match stringBody rest with
      | .closed text rest => (.string text, some rest)
      | .cut cut => (.broken cut, none)
    | '[' :: rest =>
      let ((items, cut), rest) := scanFirstItem fuel rest
      (.array items cut, rest)
    | '\x7b' :: rest =>
      let ((members, cut), rest) := scanFirstMember fuel rest
      (.object members cut, rest)
    | c :: rest => if c.isDigit then scanNumber false (c :: rest) else (.broken .malformed, none)

/-- The items of an array after its opening bracket. -/
def scanFirstItem : Nat → List Char → Partial (List Doc × Option Cut)
  | 0, _ => (([], some .truncated), none)
  | fuel + 1, cs =>
    match skipSpaces cs with
    | [] => (([], some .truncated), none)
    | ']' :: rest => (([], none), some rest)
    | rest => scanItem fuel rest

def scanItem : Nat → List Char → Partial (List Doc × Option Cut)
  | 0, _ => (([], some .truncated), none)
  | fuel + 1, cs =>
    match scanValue fuel cs with
    | (item, none) => (([item], none), none)
    | (item, some rest) =>
      let ((items, cut), rest) := scanMoreItems fuel rest
      ((item :: items, cut), rest)

/-- What follows an item: a comma and another one, or the closing bracket. -/
def scanMoreItems : Nat → List Char → Partial (List Doc × Option Cut)
  | 0, _ => (([], some .truncated), none)
  | fuel + 1, cs =>
    match skipSpaces cs with
    | [] => (([], some .truncated), none)
    | ']' :: rest => (([], none), some rest)
    | ',' :: rest => scanItem fuel rest
    | _ => (([], some .malformed), none)

/-- The members of an object after its opening brace. -/
def scanFirstMember : Nat → List Char → Partial (List (Option String × Doc) × Option Cut)
  | 0, _ => (([], some .truncated), none)
  | fuel + 1, cs =>
    match skipSpaces cs with
    | '\x7d' :: rest => (([], none), some rest)
    | rest => scanMember fuel rest

def scanMember : Nat → List Char → Partial (List (Option String × Doc) × Option Cut)
  | 0, _ => (([], some .truncated), none)
  | fuel + 1, cs =>
    match skipSpaces cs with
    | [] => (([], some .truncated), none)
    | '"' :: rest =>
      match stringBody rest with
      | .cut cut => (([], some cut), none)
      | .closed name rest =>
        match skipSpaces rest with
        | [] => (([(name, .broken .truncated)], none), none)
        | ':' :: rest =>
          match scanValue fuel rest with
          | (value, none) => (([(name, value)], none), none)
          | (value, some rest) =>
            let ((members, cut), rest) := scanMoreMembers fuel rest
            (((name, value) :: members, cut), rest)
        | _ => (([(name, .broken .malformed)], none), none)
    | _ => (([], some .malformed), none)

/-- What follows a member: a comma and another one, or the closing brace. -/
def scanMoreMembers : Nat → List Char → Partial (List (Option String × Doc) × Option Cut)
  | 0, _ => (([], some .truncated), none)
  | fuel + 1, cs =>
    match skipSpaces cs with
    | [] => (([], some .truncated), none)
    | '\x7d' :: rest => (([], none), some rest)
    | ',' :: rest => scanMember fuel rest
    | _ => (([], some .malformed), none)

end

end Doc

/-- The document of a text.  Each step of the scan either takes a character or leads to one that
does, within two further steps. -/
def Document.ofText (text : String) : Document :=
  let cs := text.toList
  match Doc.scanValue (3 * cs.length + 3) cs with
  | (root, none) => ⟨root, false⟩
  | (root, some rest) => ⟨root, !(Doc.skipSpaces rest).isEmpty⟩

end PoolPage
