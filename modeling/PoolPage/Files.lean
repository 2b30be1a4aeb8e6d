/-!
Files in a tree of directories, and the ways in which a path can fail.

A path is a list of names between slashes, each of which is looked up in the directory that those
before it lead to.
-/

namespace PoolPage

/-- Why something cannot be done with a path. -/
inductive FileFault where
  | missing
  | occupied
  | notDirectory
  | isDirectory
  | nameTooLong
deriving DecidableEq, Repr

def FileFault.message : FileFault → String
  | missing => "No such file or directory (os error 2)"
  | occupied => "File exists (os error 17)"
  | notDirectory => "Not a directory (os error 20)"
  | isDirectory => "Is a directory (os error 21)"
  | nameTooLong => "File name too long (os error 36)"

inductive FileNode where
  | directory
  | file (content : ByteArray)

structure Files where
  /-- The names that lead to the directory where paths start that have no slash in front. -/
  home : List String
  /-- What there is besides the root, by the names that lead to it. -/
  nodes : List (List String × FileNode)

namespace Files

def longestName : Nat := 255

def longestPath : Nat := 4095

/-- What there is at a place.  The root is a directory. -/
def node? (files : Files) (place : List String) : Option FileNode :=
  if place.isEmpty then some .directory else files.nodes.lookup place

/-- The place to which a name leads.  Directories that are missing may be taken to be there. -/
def follow (files : Files) (making : Bool) (place : List String) (name : String) :
    Except FileFault (List String) :=
  match files.node? place, making with
  | some (.file _), _ => .error .notDirectory
  | none, false => .error .missing
  | _, _ =>
    if name.isEmpty || name = "." then .ok place
    else if name = ".." then .ok place.dropLast
    else if longestName < name.utf8ByteSize then .error .nameTooLong
    else .ok (place ++ [name])

def resolve (files : Files) (making : Bool) (path : String) : Except FileFault (List String) :=
  if path.isEmpty then if making then .ok files.home else .error .missing
  else if longestPath < path.utf8ByteSize then .error .nameTooLong
  else
    let names := (path.toList.splitOn '/').map String.ofList
    names.foldlM (files.follow making) (if path.toList.head? = some '/' then [] else files.home)

/-- The content of the file at a path. -/
def read (files : Files) (path : String) : Except FileFault ByteArray := do
  match files.node? (← files.resolve false path) with
  | some (.file content) => return content
  | some .directory => throw .isDirectory
  | none => throw .missing

/-- Why no file can be written at a path. -/
def writeFault? (files : Files) (path : String) : Option FileFault :=
  match files.resolve false path with
  | .error fault => some fault
  | .ok place =>
    match files.node? place with
    | some .directory => some .isDirectory
    | _ => none

/-- Why no directory can be made at a path, with all those that lead to it. -/
def makeFault? (files : Files) (path : String) : Option FileFault :=
  match files.resolve true path with
  | .error fault => some fault
  | .ok place =>
    match files.node? place with
    | some (.file _) => some .occupied
    | _ => none

/-- Whether two paths lead to the same place. -/
def isSame (files : Files) (a b : String) : Bool :=
  match files.resolve false a, files.resolve false b with
  | .ok a, .ok b => a = b
  | _, _ => false

/-- A home with one directory, which holds some files.  Outside there is an empty file. -/
def ofDirectory (name : String) (files : List (String × ByteArray)) : Files where
  home := ["home"]
  nodes :=
    [(["dev"], .directory), (["dev", "null"], .file .empty), (["home"], .directory),
      (["home", name], .directory)] ++
    files.map fun (file, content) => (["home", name, file], .file content)

end Files
end PoolPage
