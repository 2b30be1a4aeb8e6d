import PoolPage.Url.Basic
import PoolPage.Url.Domain

/-!
Hosts: addresses of both kinds and domain names.
-/

namespace PoolPage
namespace Url

/-! ### IPv4 -/

/-- The value of a digit in a base up to sixteen. -/
def digitIn? (base : Nat) (c : Char) : Option Nat :=
  let value : Nat :=
    if c.isDigit then c.toNat - 48
    else if 'a' ≤ c ∧ c ≤ 'f' then c.toNat - 87
    else if 'A' ≤ c ∧ c ≤ 'F' then c.toNat - 55
    else base
  if value < base then some value else none

def numberIn? (base : Nat) (cs : List Char) : Option Nat :=
  cs.foldlM (fun n c => (digitIn? base c).map (base * n + ·)) 0

/-- A part of an IPv4 address: hexadecimal after `0x`, octal after another leading zero. -/
def ipv4Number? : List Char → Option Nat
  | [] => none
  | '0' :: 'x' :: digits | '0' :: 'X' :: digits => numberIn? 16 digits
  | '0' :: c :: digits => numberIn? 8 (c :: digits)
  | cs => numberIn? 10 cs

def splitDots (cs : List Char) : List (List Char) := cs.splitOn '.'

/-- The parts of a domain, without an empty one at its end. -/
def domainParts (cs : List Char) : List (List Char) :=
  let parts := splitDots cs
  if 1 < parts.length && parts.getLast? = some [] then parts.dropLast else parts

/-- Whether the last part of a domain is a number, so that it has to be an address. -/
def endsInNumber (cs : List Char) : Bool :=
  match (domainParts cs).getLast? with
  | some last => (!last.isEmpty && last.all Char.isDigit) || (ipv4Number? last).isSome
  | none => false

/-- An IPv4 address.  The last number fills all bytes that the others leave. -/
def parseIpv4 (cs : List Char) : Except Error Nat :=
  let parts := domainParts cs
  match parts.mapM ipv4Number? with
  | none => .error .invalidIpv4
  | some numbers =>
    match numbers.reverse with
    | [] => .error .invalidIpv4
    | last :: others =>
      let leading := others.reverse
      if 4 < numbers.length ∨ leading.any (255 < ·) ∨ 1 <<< (8 * (4 - leading.length)) ≤ last then
        .error .invalidIpv4
      else
        .ok <| leading.zipIdx.foldl (fun address (n, i) => address + n <<< (8 * (3 - i))) last

/-! ### IPv6 -/

/-- Four decimal parts as the last two pieces of an IPv6 address; no part has a leading zero. -/
def embeddedIpv4? (cs : List Char) : Option (List Nat) := do
  let parts ← (splitDots cs).mapM fun part =>
    if part.isEmpty ∨ 3 < part.length ∨ (1 < part.length ∧ part.head? = some '0') then none
    else do
      let n ← numberIn? 10 part
      if n < 256 then some n else none
  match parts with
  | [a, b, c, d] => some [a * 256 + b, c * 256 + d]
  | _ => none

/-- A piece of one to four hexadecimal digits. -/
def ipv6Piece? (cs : List Char) : Option Nat :=
  if cs.isEmpty ∨ 4 < cs.length then none else numberIn? 16 cs

/-- Pieces between colons; the last may be an IPv4 address. -/
def ipv6Pieces? (cs : List Char) : Option (List Nat) :=
  if cs.isEmpty then some []
  else
    let parts := cs.splitOn ':'
    match parts.getLast? with
    | none => none
    | some last =>
      if last.contains '.' then do
        let front ← parts.dropLast.mapM ipv6Piece?
        let back ← embeddedIpv4? last
        return front ++ back
      else parts.mapM ipv6Piece?

def plainIpv6Pieces? (cs : List Char) : Option (List Nat) :=
  if cs.isEmpty then some [] else (cs.splitOn ':').mapM ipv6Piece?

/-- The text before two colons, and the text after them. -/
def splitDoubleColon : List Char → Option (List Char × List Char)
  | ':' :: ':' :: rest => some ([], rest)
  | c :: rest => (splitDoubleColon rest).map fun (front, back) => (c :: front, back)
  | [] => none

/-- An IPv6 address.  Two colons stand for the zeros that are missing, at least one. -/
def parseIpv6 (cs : List Char) : Except Error (List Nat) :=
  let pieces? : Option (List Nat) :=
    match splitDoubleColon cs with
    | none => do
      let pieces ← ipv6Pieces? cs
      if pieces.length = 8 then some pieces else none
    | some (front, back) => do
      let front ← plainIpv6Pieces? front
      let back ← ipv6Pieces? back
      let given := front.length + back.length
      if given < 8 then some (front ++ List.replicate (8 - given) 0 ++ back) else none
  match pieces? with
  | some pieces => .ok pieces
  | none => .error .invalidIpv6

/-! ### Domains -/

/-- The bytes of a text after its escapes are undone. -/
def unescapeBytes : List Char → List UInt8
  | '%' :: a :: b :: rest =>
    match digitIn? 16 a, digitIn? 16 b with
    | some a, some b => UInt8.ofNat (16 * a + b) :: unescapeBytes rest
    | _, _ => '%'.toNat.toUInt8 :: unescapeBytes (a :: b :: rest)
  | c :: rest => String.utf8EncodeChar c ++ unescapeBytes rest
  | [] => []

/-- The host in a URL of a special scheme. -/
def parseHost (cs : List Char) : Except Error Host :=
  match cs with
  | '[' :: rest =>
    if rest.getLast? = some ']' then (parseIpv6 rest.dropLast).map .ipv6 else .error .invalidIpv6
  | cs =>
    match String.fromUTF8? ⟨(unescapeBytes cs).toArray⟩ with
    | none => .error .invalidDomain
    | some domain =>
      match Domain.toAscii? domain.toList with
      | none => .error .invalidDomain
      | some domain =>
        if domain.isEmpty then .error .emptyHost
        else if endsInNumber domain then (parseIpv4 domain).map .ipv4
        else .ok (.domain (String.ofList domain))

/-- Characters that must not stand in a host of another scheme. -/
def isForbiddenInHost (c : Char) : Bool :=
  c.toNat = 0 ||
    ['\t', '\n', '\r', ' ', '#', '/', ':', '<', '>', '?', '@', '[', '\\', ']', '^', '|'].contains c

/-- The host in a URL of another scheme. -/
def parsePlainHost (cs : List Char) : Except Error Host :=
  match cs with
  | '[' :: rest =>
    if rest.getLast? = some ']' then (parseIpv6 rest.dropLast).map .ipv6 else .error .invalidIpv6
  | cs =>
    if cs.any isForbiddenInHost then .error .invalidDomainCharacter
    else .ok (.domain (String.ofList (escapeWhere isControl cs)))

end Url
end PoolPage
