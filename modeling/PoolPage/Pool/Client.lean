import PoolPage.Backend
import PoolPage.Http
import PoolPage.Pool.Decoding
import PoolPage.Pool.Endpoint

/-!
Asking the pool over HTTP.

The status of an answer does not matter, only its text: a miner that is not known is
answered with an error status and a document that says so.
-/

namespace PoolPage

/-- Where the pool is, and the way there. -/
structure PoolClient where
  base : Url
  transport : Http.Transport

namespace PoolClient

/-- What comes of asking: the answer or the causes of a failure, the URLs that were asked, and the
records of asking. -/
structure Outcome (α : Type) where
  answer : Except (List String) α
  asked : List Url
  records : List Log.Record

def scope : String := "api.get"

def interpret {α : Type} (decode : String → Except Fault α) (url : Url) :
    Except String Http.Response → Except (List String) α
  | .error reason => .error (Http.requestFailed url reason)
  | .ok response =>
    match response.body with
    | none => .error ["reading " ++ url.render, "unexpected end of body"]
    | some body =>
      (decode body).mapError fun fault => ["decoding " ++ url.render, fault.message]

def get {α : Type} (client : PoolClient) (decode : String → Except Fault α) (path : String) :
    Outcome α :=
  match Endpoint.resolve client.base path with
  | .error e => ⟨.error e.causes, [], [Log.timed scope]⟩
  | .ok url =>
    let (asked, response) := Http.get client.transport url
    let answer := interpret decode url response
    let fetched := match answer with
      | .ok _ => [Log.fetched path]
      | .error _ => []
    ⟨answer, asked, fetched ++ [Log.timed scope]⟩

def stats (client : PoolClient) : Outcome PoolStats := client.get PoolStats.read Endpoint.stats

def miner (client : PoolClient) (address : String) : Outcome MinerLookup :=
  client.get MinerLookup.read (Endpoint.miner address)

/-- An outcome as a reply that arrives at once. -/
def Outcome.toReply {α : Type} (outcome : Outcome α) : Reply α where
  answer := outcome.answer.mapError causeChain
  delay := 0
  records := outcome.records

end PoolClient
end PoolPage
