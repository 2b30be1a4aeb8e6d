import PoolPage.Http
import PoolPage.Pool.Endpoint

/-!
Where page fragments come from: a directory, or a server.
-/

namespace PoolPage
namespace FragmentSource

/-- The file of a path in a directory. -/
def filePath (directory path : String) : String :=
  let relative := Endpoint.relativePath path
  if directory.isEmpty || directory.toList.getLast? = some '/' then directory ++ relative
  else directory ++ "/" ++ relative

def readFailed (file reason : String) : List String := ["reading " ++ file, reason]

/-- A fragment from a directory.  It has to be UTF-8 text. -/
def fromDirectory (directory : String) (contentOf : String → Except String ByteArray)
    (path : String) : Except (List String) String :=
  let file := filePath directory path
  match contentOf file with
  | .error reason => .error (readFailed file reason)
  | .ok bytes =>
    match String.fromUTF8? bytes with
    | some text => .ok text
    | none => .error (readFailed file "stream did not contain valid UTF-8")

/-- A fragment from a server, which has to answer with success. -/
def fromServer (base : Url) (transport : Http.Transport) (path : String) :
    List Url × Except (List String) String :=
  match base.join (Endpoint.relativePath path) with
  | .error e => ([], .error [e.message])
  | .ok url =>
    let (asked, response) := Http.get transport url
    let answer := match response with
      | .error reason => .error (Http.requestFailed url reason)
      | .ok response =>
        match Http.statusFault? response, response.body with
        | some fault, _ => .error (Http.requestFailed url fault)
        | none, some body => .ok body
        | none, none => .error ["error decoding response body"]
    (asked, answer)

end FragmentSource
end PoolPage
