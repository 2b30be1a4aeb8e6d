/-!
URLs: their parts, their text, and the escapes that keep reserved characters out of the parts.
-/

namespace PoolPage

namespace Url

/-- The host of a URL.  A domain may be empty where the scheme has no need of one. -/
inductive Host where
  | domain (name : String)
  | ipv4 (address : Nat)
  | ipv6 (pieces : List Nat)
deriving DecidableEq, Repr

/-- The path of a URL: segments, each after a slash, or one text without structure. -/
inductive Path where
  | whole (text : String)
  | segments (segments : List String)
deriving DecidableEq, Repr

/-- Why a text is no URL. -/
inductive Error where
  | emptyHost
  | invalidDomain
  | invalidDomainCharacter
  | invalidPort
  | invalidIpv4
  | invalidIpv6
  | relativeWithoutBase
  | relativeToWhole
deriving DecidableEq, Repr

def Error.message : Error → String
  | emptyHost => "empty host"
  | invalidDomain => "invalid international domain name"
  | invalidDomainCharacter => "invalid domain character"
  | invalidPort => "invalid port number"
  | invalidIpv4 => "invalid IPv4 address"
  | invalidIpv6 => "invalid IPv6 address"
  | relativeWithoutBase => "relative URL without a base"
  | relativeToWhole => "relative URL with a cannot-be-a-base base"

end Url

structure Url where
  scheme : String
  username : String
  password : String
  /-- None where the URL has no authority. -/
  host : Option Url.Host
  port : Option Nat
  path : Url.Path
  query : Option String
  fragment : Option String
deriving DecidableEq, Repr

namespace Url

/-! ### Schemes -/

/-- The schemes with a structure of their own, and their usual ports. -/
def specialSchemes : List (String × Option Nat) :=
  [("ftp", some 21), ("file", none), ("http", some 80), ("https", some 443), ("ws", some 80),
   ("wss", some 443)]

def isSpecial (scheme : String) : Bool := specialSchemes.any fun (name, _) => name = scheme

def defaultPort? (scheme : String) : Option Nat := (specialSchemes.lookup scheme).join

/-! ### Escapes -/

def upperHexDigit (n : Nat) : Char := if n < 10 then Char.ofNat (48 + n) else Char.ofNat (55 + n)

/-- The escapes of the bytes of a character. -/
def escapeBytes (c : Char) : List Char :=
  (String.utf8EncodeChar c).flatMap fun byte =>
    ['%', upperHexDigit (byte.toNat / 16), upperHexDigit (byte.toNat % 16)]

/-- Controls and everything past ASCII are always escaped. -/
def isControl (c : Char) : Bool := c.toNat < 0x20 || 0x7E < c.toNat

def isFragmentEscaped (c : Char) : Bool := isControl c || [' ', '"', '<', '>', '\x60'].contains c

def isPathEscaped (c : Char) : Bool :=
  isFragmentEscaped c || ['#', '?', '\x7b', '\x7d'].contains c

def isUserEscaped (c : Char) : Bool :=
  isPathEscaped c || ['/', ':', ';', '=', '@', '[', '\\', ']', '^', '|'].contains c

def isQueryEscaped (special : Bool) (c : Char) : Bool :=
  isControl c || [' ', '"', '#', '<', '>'].contains c || (special && c = '\'')

def escapeWhere (escaped : Char → Bool) (cs : List Char) : List Char :=
  cs.flatMap fun c => if escaped c then escapeBytes c else [c]

/-! ### Text -/

/-- Where the longest run of at least two zeros starts, and its length; the first of several. -/
def longestZeroRun (pieces : List Nat) : Option (Nat × Nat) :=
  let runs := (List.range pieces.length).map fun start =>
    (start, ((pieces.drop start).takeWhile (· = 0)).length)
  runs.foldl (fun best (start, length) =>
    match best with
    | some (_, most) => if most < length then some (start, length) else best
    | none => if 2 ≤ length then some (start, length) else none) none

def hexText (n : Nat) : String := String.ofList (Nat.toDigits 16 n)

/-- The text of an IPv6 address, a run of zeros shortened to two colons. -/
def ipv6Text (pieces : List Nat) : String :=
  let join (ps : List Nat) : String := String.intercalate ":" (ps.map hexText)
  match longestZeroRun pieces with
  | some (start, length) => join (pieces.take start) ++ "::" ++ join (pieces.drop (start + length))
  | none => join pieces

def ipv4Text (address : Nat) : String :=
  String.intercalate "." <| [24, 16, 8, 0].map fun shift => toString ((address >>> shift) % 256)

def Host.text : Host → String
  | domain name => name
  | ipv4 address => ipv4Text address
  | ipv6 pieces => "[" ++ ipv6Text pieces ++ "]"

def Path.text : Path → String
  | whole text => text
  | segments parts => String.join (parts.map fun segment => "/" ++ segment)

/-- The user before the host. -/
def credentials (url : Url) : String :=
  if url.username.isEmpty && url.password.isEmpty then ""
  else url.username ++ (if url.password.isEmpty then "" else ":" ++ url.password) ++ "@"

/-- What stands between scheme and path.  Without an authority, a path that starts with an empty
segment gets a dot before it, since two slashes would start an authority. -/
def authority (url : Url) : String :=
  match url.host with
  | some host =>
    "//" ++ url.credentials ++ host.text ++
      match url.port with
      | some port => ":" ++ toString port
      | none => ""
  | none =>
    match url.path with
    | .segments ("" :: _ :: _) => "/."
    | _ => ""

def render (url : Url) : String :=
  url.scheme ++ ":" ++ url.authority ++ url.path.text ++
    (match url.query with
      | some query => "?" ++ query
      | none => "") ++
    match url.fragment with
    | some fragment => "#" ++ fragment
    | none => ""

end Url
end PoolPage
