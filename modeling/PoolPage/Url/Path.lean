import PoolPage.Url.Basic

/-!
Reading the path of a URL, segment by segment.

A segment of one dot leads nowhere and one of two dots leads up; both leave the last segment empty.
A letter with a colon or a bar behind it names a drive, and nothing leads up past a drive.  At the
front of a file's path a drive is written with a colon.
-/

namespace PoolPage
namespace Url

/-! ### Segments -/

/-- A letter and a colon or a bar. -/
def isDrive : List Char → Bool
  | [letter, mark] => letter.isAlpha && (mark = ':' || mark = '|')
  | _ => false

/-- A drive as it is written in the end, with a colon. -/
def isPlainDrive (cs : List Char) : Bool := isDrive cs && cs.getLast? = some ':'

/-- Whether the first segment of a text is a drive. -/
def startsWithDrive (cs : List Char) : Bool :=
  isDrive (cs.take 2) && (cs.drop 2).head?.all ['/', '\\', '?', '#'].contains

def isSingleDot (cs : List Char) : Bool :=
  cs = ['.'] || cs.map Char.toLower = ['%', '2', 'e']

def isDoubleDot (cs : List Char) : Bool :=
  let lower := cs.map Char.toLower
  [['.', '.'], ['.', '%', '2', 'e'], ['%', '2', 'e', '.'],
    ['%', '2', 'e', '%', '2', 'e']].contains lower

/-! ### Paths under way -/

/-- A path that is being read. -/
structure OpenPath where
  /-- The segments that have ended, the last one first. -/
  parents : List String
  /-- What there is of the segment after them. -/
  current : String
  /-- Whether a drive was read at the front. -/
  hasDrive : Bool

namespace OpenPath

/-- A path of which the first slash has been read. -/
def root : OpenPath := ⟨[], "", false⟩

/-- Goes on with a path. -/
def ofSegments (segments : List String) : OpenPath :=
  match segments.reverse with
  | [] => root
  | current :: parents => ⟨parents, current, false⟩

def toSegments (p : OpenPath) : List String := (p.current :: p.parents).reverse

def slash (p : OpenPath) : OpenPath := { p with parents := p.current :: p.parents, current := "" }

/-- Ends the current segment unless it is empty. -/
def ended (p : OpenPath) : OpenPath := if p.current.isEmpty then p else p.slash

/-- Forgets the current segment.  In the path of a file a drive stays. -/
def clear (file : Bool) (p : OpenPath) : OpenPath :=
  if file && isPlainDrive p.current.toList then p else { p with current := "" }

/-- Leads up: forgets the current segment, or the one before it if there is nothing of it yet.  A
drive before it stays. -/
def up (file : Bool) (p : OpenPath) : OpenPath :=
  if p.current.isEmpty then
    match p.parents with
    | parent :: parents => if startsWithDrive parent.toList then p else { p with parents }
    | [] => p
  else p.clear file

/-- Adds a text without dots that lead anywhere to the current segment. -/
def append (file : Bool) (p : OpenPath) (text : List Char) : OpenPath :=
  if file && p.parents.isEmpty && p.current.isEmpty && isDrive text then
    { p with current := String.ofList (text.take 1 ++ [':']), hasDrive := true }
  else { p with current := p.current ++ String.ofList (escapeWhere isPathEscaped text) }

/-- Reads a segment, and the slash behind it if there is one.  What comes after a drive alone is
a segment of its own. -/
def read (file closed : Bool) (p : OpenPath) (text : List Char) : OpenPath :=
  let afterDrive := file && p.parents.isEmpty && isPlainDrive p.current.toList && !text.isEmpty
  let p := if afterDrive then p.slash else p
  if isDoubleDot text then if closed then (p.up file).ended else p.up file
  else if isSingleDot text then p.ended
  else if closed then (p.append file text).slash
  else p.append file text

def readAll (file : Bool) (p : OpenPath) : List (List Char) → OpenPath
  | [] => p
  | [last] => p.read file false last
  | text :: rest => readAll file (p.read file true text) rest

end OpenPath

/-! ### Whole paths -/

/-- A slash, or a backslash where it counts as one. -/
def isSlash (special : Bool) (c : Char) : Bool := c = '/' || (special && c = '\\')

def splitSegments (special : Bool) (cs : List Char) : List (List Char) :=
  (cs.map fun c => if isSlash special c then '/' else c).splitOn '/'

/-- Reads a text as the rest of a path.  The path of a file does not start with empty segments. -/
def readPath (scheme : String) (p : OpenPath) (cs : List Char) : List String × Bool :=
  let file := scheme = "file"
  let p := p.readAll file (splitSegments (isSpecial scheme) cs)
  let segments :=
    if file then
      match p.toSegments.dropWhile (·.isEmpty) with
      | [] => [""]
      | segments => segments
    else p.toSegments
  (segments, p.hasDrive)

end Url
end PoolPage
