import PoolPage.Log
import PoolPage.Page.Basic
import PoolPage.Route

/-!
Navigation: what a change of the hash does.

Most hashes name a fragment, which has to be fetched first (`Step.fetch`); it then replaces the
content of the main container.  All other hashes, and all failures, leave the page alone.
-/

namespace PoolPage
namespace Navigation

/-- The end of a navigation: whether the container was replaced, or the causes of a failure. -/
structure Outcome where
  result : Except String Bool
  updates : List Update
  records : List Log.Record

inductive Step where
  | finished (outcome : Outcome)
  | fetch (path : String)

def failedRecord (hash causes : String) : Log.Record :=
  Log.record .error .router "navigate_failed" [("hash", .string hash), ("msg", .string causes)]

def failed (hash causes : String) : Outcome := ⟨.error causes, [], [failedRecord hash causes]⟩

def start (hash : String) : Step :=
  match Route.path hash with
  | .ok (some path) => .fetch path
  | .ok none => .finished ⟨.ok false, [], [Log.navigated hash false]⟩
  | .error e => .finished (failed hash e.message)

def arrive (hash : String) : Except String String → Outcome
  | .ok body => ⟨.ok true, [.html Route.container body], [Log.navigated hash true]⟩
  | .error causes => failed hash causes

def run (fetch : String → Except String String) (hash : String) : Outcome :=
  match start hash with
  | .finished outcome => outcome
  | .fetch path => arrive hash (fetch path)

end Navigation
end PoolPage
