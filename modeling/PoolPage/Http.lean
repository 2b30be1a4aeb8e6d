import PoolPage.Url.Parse

/-!
Requests over HTTP: what a server answers, and how redirections are followed.

How a request gets to a server is not said here; a `Transport` does that.
-/

namespace PoolPage
namespace Http

structure Response where
  status : Nat
  /-- Where to ask instead. -/
  location : Option String
  /-- The text; none if it breaks off. -/
  body : Option String
deriving DecidableEq, Repr

/-- Takes a request to a server and brings its answer, or a reason why there is none. -/
abbrev Transport := Url → Except String Response

def unreachable (reason : String) : Transport := fun _ => .error reason

def isRedirection (status : Nat) : Bool := [301, 302, 303, 307, 308].contains status

/-- The URL that a response to a request sends to. -/
def redirection? (url : Url) (response : Response) : Option Url :=
  if isRedirection response.status then
    response.location.bind fun location => (url.join location).toOption
  else none

def redirectionLimit : Nat := 10

/-- The answer to a request after at most the given number of redirections, and the URLs that were
asked on the way. -/
def follow (transport : Transport) : Nat → Url → List Url × Except String Response
  | limit, url =>
    match transport url with
    | .error reason => ([], .error reason)
    | .ok response =>
      match redirection? url response, limit with
      | none, _ => ([url], .ok response)
      | some _, 0 => ([url], .error "too many redirects")
      | some next, limit + 1 =>
        let (asked, answer) := follow transport limit next
        (url :: asked, answer)

def get (transport : Transport) (url : Url) : List Url × Except String Response :=
  follow transport redirectionLimit url

/-- The reason for refusing a response with an error status. -/
def statusFault? (response : Response) : Option String :=
  if 400 ≤ response.status ∧ response.status < 500 then
    some ("HTTP status client error (" ++ toString response.status ++ ")")
  else if 500 ≤ response.status ∧ response.status < 600 then
    some ("HTTP status server error (" ++ toString response.status ++ ")")
  else none

def requestFailed (url : Url) (reason : String) : List String := ["GET " ++ url.render, reason]

end Http
end PoolPage
