import PoolPage.Text.Quoted
import PoolPage.Url.Parse

/-!
Where the pool answers: paths below the base of its interface.
-/

namespace PoolPage
namespace Endpoint

def stats : String := "/stats"

def miner (address : String) : String := stats ++ "/" ++ address

/-- A base that is no URL. -/
structure BaseError where
  text : String
  cause : Url.Error
deriving DecidableEq, Repr

/-- The messages from the error to its cause. -/
def BaseError.causes (e : BaseError) : List String :=
  ["invalid base url " ++ quoted e.text, e.cause.message]

/-- Reads a base.  Without a slash at its end its last segment would be lost when a path is added.
-/
def parseBase (text : String) : Except BaseError Url :=
  let base := if text.toList.getLast? = some '/' then text else text ++ "/"
  (Url.parse base).mapError fun cause => ⟨text, cause⟩

/-- A path that cannot be added to a base. -/
structure JoinError where
  path : String
  base : Url
  cause : Url.Error
deriving DecidableEq, Repr

def JoinError.causes (e : JoinError) : List String :=
  ["joining " ++ e.path ++ " onto " ++ e.base.render, e.cause.message]

/-- A path without the slashes at its front, which would take it out of the base. -/
def relativePath (path : String) : String := String.ofList (path.toList.dropWhile (· = '/'))

def resolve (base : Url) (path : String) : Except JoinError Url :=
  (base.join (relativePath path)).mapError fun cause => ⟨path, base, cause⟩

end Endpoint

/-- An error and what lies behind it in one line. -/
def causeChain (causes : List String) : String := String.intercalate ": " causes

end PoolPage
