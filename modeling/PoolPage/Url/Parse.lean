import PoolPage.Url.Host
import PoolPage.Url.Path

/-!
Reading URLs, absolute or relative to a base.

A text is first rid of white space around it and of tabs and line ends within it.  A scheme
decides how the rest is read; a text without one is relative, and takes the parts it does not
give from the base.
-/

namespace PoolPage
namespace Url

/-! ### Pieces -/

def isIgnoredInText (c : Char) : Bool := c = '\t' || c = '\n' || c = '\r'

/-- A text without controls and spaces at its ends, and without tabs and line ends. -/
def cleaned (text : String) : List Char :=
  let front := text.toList.dropWhile (·.toNat ≤ 0x20)
  ((front.reverse.dropWhile (·.toNat ≤ 0x20)).reverse).filter (!isIgnoredInText ·)

def isSchemeChar (c : Char) : Bool := c.isAlphanum || c = '+' || c = '-' || c = '.'

/-- The scheme in small letters, and the text after its colon. -/
def splitScheme (cs : List Char) : Option (String × List Char) :=
  match cs with
  | c :: _ =>
    if c.isAlpha then
      match cs.dropWhile isSchemeChar with
      | ':' :: rest => some (String.ofList ((cs.takeWhile isSchemeChar).map Char.toLower), rest)
      | _ => none
    else none
  | [] => none

def slashCount (cs : List Char) : Nat := (cs.takeWhile (isSlash true)).length

/-- What is not yet read of path, query and fragment. -/
structure Tail where
  path : List Char
  query : Option (List Char)
  fragment : Option (List Char)

/-- Splits a text at its question mark and its number sign. -/
def Tail.ofText (cs : List Char) : Tail :=
  let front := cs.takeWhile (· ≠ '#')
  let fragment : Option (List Char) :=
    match cs.dropWhile (· ≠ '#') with
    | _ :: fragment => some fragment
    | [] => none
  { path := front.takeWhile (· ≠ '?')
    query :=
      match front.dropWhile (· ≠ '?') with
      | _ :: query => some query
      | [] => none
    fragment }

def queryText (special : Bool) (cs : List Char) : String :=
  String.ofList (escapeWhere (isQueryEscaped special) cs)

def fragmentText (cs : List Char) : String := String.ofList (escapeWhere isFragmentEscaped cs)

/-! ### Paths -/

/-- The path that a text gives from the root. -/
def pathFromRoot (scheme : String) (cs : List Char) : Path :=
  .segments (readPath scheme .root cs).1

def pathAfterAuthority (scheme : String) (cs : List Char) : Path :=
  match cs with
  | [] => .segments (if isSpecial scheme then [""] else [])
  | c :: rest => pathFromRoot scheme (if isSlash (isSpecial scheme) c then rest else cs)

/-! ### Authorities -/

/-- The credentials before the last at sign, if there is one, and the rest. -/
def splitCredentials (cs : List Char) : Option (List Char) × List Char :=
  let host := (cs.reverse.takeWhile (· ≠ '@')).reverse
  if host.length = cs.length then (none, cs)
  else (some (cs.take (cs.length - host.length - 1)), host)

/-- The host in front of a port.  Colons in brackets belong to the host. -/
def hostLength (brackets : Bool) : List Char → Nat
  | [] => 0
  | c :: rest =>
    if c = ':' && !brackets then 0
    else hostLength (if c = '[' then true else if c = ']' then false else brackets) rest + 1

/-- A port; none where it is not given or is the usual one of the scheme. -/
def parsePort (scheme : String) (digits : List Char) : Except Error (Option Nat) :=
  match digits.foldlM (fun n c =>
    if c.isDigit then
      let n := 10 * n + (c.toNat - 48)
      if n < 65536 then some n else none
    else none) 0 with
  | none => .error .invalidPort
  | some port =>
    .ok (if digits.isEmpty ∨ defaultPort? scheme = some port then none else some port)

/-- Reads what follows two slashes.  A backslash ends a port, whether it counts as a slash or not.
-/
def parseAuthority (scheme : String) (cs : List Char) : Except Error Url := do
  let special := isSpecial scheme
  let ends (c : Char) : Bool := isSlash special c || c = '?' || c = '#'
  let authority := cs.takeWhile (!ends ·)
  let rest := cs.dropWhile (!ends ·)
  let (credentials?, hostAndPort) := splitCredentials authority
  let credentials := credentials?.getD []
  if credentials? = some [] ∧ hostAndPort.isEmpty ∧ !rest.isEmpty then throw .emptyHost
  let username := String.ofList (escapeWhere isUserEscaped (credentials.takeWhile (· ≠ ':')))
  let password :=
    String.ofList (escapeWhere isUserEscaped ((credentials.dropWhile (· ≠ ':')).drop 1))
  let length := hostLength false hostAndPort
  let hostText := hostAndPort.take length
  let portText := hostAndPort.drop length
  let digits := (portText.drop 1).takeWhile (· ≠ '\\')
  if special && hostText.isEmpty then throw .emptyHost
  let host ← if special then parseHost hostText else parsePlainHost hostText
  if host = .domain "" ∧ !portText.isEmpty then throw .emptyHost
  let port ← parsePort scheme digits
  if host = .domain "" ∧ (username ≠ "" ∨ password ≠ "") then throw .emptyHost
  let tail := Tail.ofText (portText.drop (digits.length + 1) ++ rest)
  return {
    scheme, username, password
    host := some host
    port
    path := pathAfterAuthority scheme tail.path
    query := tail.query.map (queryText special)
    fragment := tail.fragment.map fragmentText }

/-! ### Files -/

def noHost : Option Host := some (.domain "")

/-- The URL of a file.  A drive at the front of its path leaves it without a host. -/
def fileUrl (host : Option Host) (path : OpenPath) (cs : List Char) : Url :=
  let tail := Tail.ofText cs
  let (segments, hasDrive) := readPath "file" path tail.path
  { scheme := "file", username := "", password := ""
    host := if hasDrive then noHost else host
    port := none
    path := .segments segments
    query := tail.query.map (queryText true)
    fragment := tail.fragment.map fragmentText }

/-- The segments of a path; none of a path without structure. -/
def Path.list : Path → List String
  | whole _ => []
  | segments parts => parts

/-- Reads what follows the two slashes of a file.  Without a host the slash behind it starts another
segment. -/
def parseFileHost (cs : List Char) : Except Error Url := do
  let ends (c : Char) : Bool := isSlash true c || c = '?' || c = '#'
  let hostText := cs.takeWhile (!ends ·)
  let rest := cs.dropWhile (!ends ·)
  if isDrive hostText then return fileUrl noHost .root cs
  let host ← if hostText.isEmpty then pure (Host.domain "") else parseHost hostText
  if host = .domain "" ∨ host = .domain "localhost" then return fileUrl noHost .root rest
  return fileUrl (some host) .root (if rest.head?.any (isSlash true) then rest.drop 1 else rest)

def withTail (url : Url) (path : Path) (tail : Tail) : Url :=
  { url with
    path
    query := tail.query.map (queryText (isSpecial url.scheme))
    fragment := tail.fragment.map fragmentText }

/-- Reads a text relative to a base without its front: its path is empty or starts within the
base's. -/
def parseWithin (base : Url) (cs : List Char) : Url :=
  let tail := Tail.ofText cs
  if tail.path.isEmpty then
    match tail.query with
    | some _ => base.withTail base.path tail
    | none => { base with fragment := tail.fragment.map fragmentText }
  else
    base.withTail
      (.segments (readPath base.scheme
        ((OpenPath.ofSegments base.path.list).clear (base.scheme = "file")) tail.path).1) tail

/-- Reads a file's text after its scheme, or relative to a file. -/
def parseFile (base : Option Url) (cs : List Char) : Except Error Url :=
  match cs with
  | a :: b :: rest =>
    if isSlash true a && isSlash true b then parseFileHost rest
    else if isSlash true a then .ok (afterSlash (b :: rest))
    else .ok (within cs)
  | [a] => .ok (if isSlash true a then afterSlash [] else within cs)
  | [] => .ok (within cs)
where
  /-- A path from the root keeps the base's drive, or its host. -/
  afterSlash (rest : List Char) : Url :=
    match base with
    | some base =>
      if startsWithDrive rest then fileUrl noHost .root rest
      else
        match base.path.list.head?.filter fun first => isPlainDrive first.toList with
        | some drive => fileUrl noHost (OpenPath.ofSegments [drive]).slash rest
        | none => { fileUrl noHost .root rest with host := base.host }
    | none => fileUrl noHost .root rest
  within (cs : List Char) : Url :=
    match base with
    | some base => if startsWithDrive cs then fileUrl noHost .root cs else parseWithin base cs
    | none => fileUrl noHost .root cs

/-! ### All texts -/

/-- Reads a text relative to a base that is no file. -/
def parseRelative (base : Url) (cs : List Char) : Except Error Url :=
  let slashes := slashCount cs
  if 2 ≤ slashes then
    match cs with
    | '/' :: '/' :: rest => parseAuthority base.scheme rest
    | _ => parseAuthority base.scheme (cs.drop slashes)
  else if slashes = 1 then
    let tail := Tail.ofText (cs.drop 1)
    .ok (base.withTail (pathFromRoot base.scheme tail.path) tail)
  else .ok (parseWithin base cs)

/-- Reads the text after a scheme that is not special. -/
def parsePlain (scheme : String) (cs : List Char) : Except Error Url :=
  let url (path : Path) (tail : Tail) : Url :=
    { scheme, username := "", password := "", host := none, port := none, path
      query := tail.query.map (queryText false)
      fragment := tail.fragment.map fragmentText }
  match cs with
  | '/' :: '/' :: rest => parseAuthority scheme rest
  | '/' :: rest =>
    let tail := Tail.ofText rest
    .ok (url (pathFromRoot scheme tail.path) tail)
  | cs =>
    let tail := Tail.ofText cs
    .ok (url (.whole (String.ofList (escapeWhere isControl tail.path))) tail)

def parseWithScheme (base : Option Url) (scheme : String) (cs : List Char) : Except Error Url :=
  if scheme = "file" then parseFile (base.filter fun base => base.scheme = "file") cs
  else if isSpecial scheme then
    match base with
    | some base =>
      if slashCount cs < 2 ∧ base.scheme = scheme then parseRelative base cs
      else parseAuthority scheme (cs.drop (slashCount cs))
    | none => parseAuthority scheme (cs.drop (slashCount cs))
  else parsePlain scheme cs

def parseWithoutScheme (base : Option Url) (cs : List Char) : Except Error Url :=
  match base with
  | none => .error .relativeWithoutBase
  | some base =>
    match base.path, cs with
    | _, '#' :: fragment => .ok { base with fragment := some (fragmentText fragment) }
    | .whole _, _ => .error .relativeToWhole
    | .segments _, cs =>
      if base.scheme = "file" then parseFile (some base) cs else parseRelative base cs

/-- Reads a text, relative to a base if there is one. -/
def parseRelativeTo (base : Option Url) (text : String) : Except Error Url :=
  let cs := cleaned text
  match splitScheme cs with
  | some (scheme, rest) => parseWithScheme base scheme rest
  | none => parseWithoutScheme base cs

def parse (text : String) : Except Error Url := parseRelativeTo none text

def join (base : Url) (text : String) : Except Error Url := parseRelativeTo (some base) text

end Url
end PoolPage
