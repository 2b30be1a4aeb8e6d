import PoolPage.Text.Quoted

/-!
Routes: the fragment after the hash sign of the page's address names a page fragment to load
into the main container.
-/

namespace PoolPage
namespace Route

def container : String := "spa-main"

/-- The route of the page without a fragment. -/
def home : String := "home"

/-- A hash that names no fragment. -/
structure Error where
  fragment : String
deriving DecidableEq, Repr

def Error.message (e : Error) : String := "invalid route fragment " ++ quoted e.fragment

def isFragmentChar (c : Char) : Bool := c.isAlphanum || c = '-' || c = '_'

/-- The fragment of a hash, with or without its sign. -/
def fragment (hash : String) : List Char :=
  match hash.toList with
  | '#' :: rest => rest
  | cs => cs

/-- The path of the fragment to load; none for the page without one. -/
def path (hash : String) : Except Error (Option String) :=
  let name := fragment hash
  if name.isEmpty || name = home.toList then .ok none
  else if name.all isFragmentChar then .ok (some (String.ofList ('/' :: name ++ ".html".toList)))
  else .error ⟨String.ofList name⟩

end Route
end PoolPage
