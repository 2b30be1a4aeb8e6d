import PoolPage.Http
import PoolPage.Json.Document
import PoolPage.Text.Blank

/-!
The messages of HTTP/1.1: the text of a request, and reading a response.

A response is read after the server has closed the connection, so a body without a length is
complete.
-/

namespace PoolPage
namespace Http

def target (url : Url) : String :=
  url.path.text ++
    match url.query with
    | some query => "?" ++ query
    | none => ""

def hostText (url : Url) : String :=
  (url.host.map Url.Host.text).getD "" ++
    match url.port with
    | some port => ":" ++ toString port
    | none => ""

/-- The text of a request that lets the server close the connection. -/
def requestText (url : Url) : String :=
  String.intercalate "\r\n"
    ["GET " ++ target url ++ " HTTP/1.1", "Host: " ++ hostText url, "Accept: */*",
     "Connection: close", "", ""]

/-! ### Responses -/

/-- The bytes before a line end, and those after it. -/
def splitLine : List UInt8 → Option (List UInt8 × List UInt8)
  | [] => none
  | 13 :: 10 :: rest => some ([], rest)
  | byte :: rest => (splitLine rest).map fun (line, after) => (byte :: line, after)

/-- Header text is one character a byte. -/
def headerText (bytes : List UInt8) : String :=
  String.ofList (bytes.map fun b => Char.ofNat b.toNat)

/-- The lines before the empty line, and the bytes after it; at most as many lines as given. -/
def splitHead : Nat → List UInt8 → Option (List String × List UInt8)
  | 0, _ => none
  | limit + 1, bytes => do
    let (line, rest) ← splitLine bytes
    if line.isEmpty then return ([], rest)
    let (lines, body) ← splitHead limit rest
    return (headerText line :: lines, body)

/-- The value of a header, by its name in small letters. -/
def header? (name : String) (lines : List String) : Option String :=
  lines.findSome? fun line =>
    let cs := line.toList
    if (cs.takeWhile (· ≠ ':')).map Char.toLower = name.toList then
      some (String.ofList (trimBlanks ((cs.dropWhile (· ≠ ':')).drop 1)))
    else none

/-- The status of a status line, its second word. -/
def status? (line : String) : Option Nat :=
  let (_, rest) := splitAtBlank line.toList
  let (word, _) := splitAtBlank (trimLeft rest)
  (String.ofList word).toNat?

/-- A number in hexadecimal digits at the front of a line. -/
def chunkSize? (line : String) : Option Nat :=
  let digits := (line.toList.map Doc.hexValue?).takeWhile Option.isSome
  if digits.isEmpty then none else some (digits.foldl (fun n d => 16 * n + d.getD 0) 0)

/-- The bytes of a body in chunks; at most as many chunks as given. -/
def joinChunks : Nat → List UInt8 → Option (List UInt8)
  | 0, _ => none
  | limit + 1, bytes => do
    let (line, rest) ← splitLine bytes
    let size ← chunkSize? (headerText line)
    if size = 0 then return []
    if rest.length < size then none
    else
      let (_, later) ← splitLine (rest.drop size)
      return rest.take size ++ (← joinChunks limit later)

/-- The bytes of a body; none if it breaks off. -/
def body? (lines : List String) (bytes : List UInt8) : Option (List UInt8) :=
  if (header? "transfer-encoding" lines).isSome then joinChunks (bytes.length + 1) bytes
  else
    match (header? "content-length" lines).bind String.toNat? with
    | some size => if bytes.length < size then none else some (bytes.take size)
    | none => some bytes

def Response.ofBytes? (bytes : ByteArray) : Option Response := do
  let (lines, rest) ← splitHead (bytes.size + 1) bytes.toList
  let status ← status? (← lines.head?)
  return {
    status
    location := header? "location" lines
    body := (body? lines rest).bind fun body => String.fromUTF8? ⟨body.toArray⟩ }

end Http
end PoolPage
