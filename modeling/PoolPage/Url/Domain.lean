import PoolPage.Text.Composed
import PoolPage.Text.Mark
import PoolPage.Url.Domain.Direction
import PoolPage.Url.Domain.Joining
import PoolPage.Url.Domain.Replacement
import PoolPage.Url.Punycode

/-!
Domain names: labels between dots, in any script, and their ASCII form.

Every character is replaced by what stands for it, and the text is composed.  A label may come
encoded, after `xn--`; it is decoded to be checked, and has to be what its own replacement gives.
A label with characters past ASCII is encoded in the end.
-/

namespace PoolPage
namespace Domain

/-- The characters of a domain name that every way to write it leads to, if they are allowed. -/
def normalized? (cs : List Char) : Option (List Char) := do
  return composed (← cs.mapM fold).flatten

def isAscii (cs : List Char) : Bool := cs.all fun c => c.toNat < 128

/-- ASCII characters that must not stand in a domain name. -/
def isForbidden (c : Char) : Bool :=
  c.toNat ≤ 0x20 || c.toNat = 0x7F ||
    ['%', '#', '/', ':', '<', '>', '?', '@', '[', '\\', ']', '^', '|'].contains c

/-! ### Labels -/

/-- A label as it is read, and in ASCII. -/
structure Label where
  text : List Char
  ascii : List Char

namespace Label

/-- The most characters of a label that is encoded. -/
def encodedLimit : Nat := 1000

def decodedLimit : Nat := 2000

/-- What starts a label that comes encoded. -/
def mark : List Char := "xn--".toList

/-- Whether a label with characters past ASCII is allowed. -/
def isAllowed (text : List Char) : Bool :=
  !(text.head?.any isMark) && joinersFit [] text && !text.any isForbidden

/-- The label that an encoded text stands for. -/
def decode? (encoded : List Char) : Option (List Char) := do
  if decodedLimit < encoded.length then none
  let text ← Punycode.decode encoded
  if isAscii text || normalized? text ≠ some text || !isAllowed text then none
  return text

/-- Reads a label of a text that is normalized. -/
def ofNormalized? (text : List Char) : Option Label :=
  if mark.isPrefixOf text then
    if isAscii text then (decode? (text.drop mark.length)).map (⟨·, text⟩) else none
  else if isAscii text then if text.any isForbidden then none else some ⟨text, text⟩
  else if isAllowed text && text.length ≤ encodedLimit then
    some ⟨text, mark ++ Punycode.encode text⟩
  else none

end Label

/-! ### Names -/

/-- The labels of a domain name, if it is allowed.  In one with characters that run from right to
left each label has to keep to one direction. -/
def labels? (cs : List Char) : Option (List Label) := do
  let labels ← ((← normalized? cs).splitOn '.').mapM Label.ofNormalized?
  if labels.any (isBidirectional ·.text) && !labels.all (keepsDirection ·.text) then none
  return labels

def toAscii? (cs : List Char) : Option (List Char) :=
  (labels? cs).map fun labels => ['.'].intercalate (labels.map Label.ascii)

end Domain
end PoolPage
