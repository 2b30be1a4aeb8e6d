import PoolPage.Json.Value
import PoolPage.Text.Blank

/-!
Structured log records.

What a program logs does not depend on who reads it: it produces all records, and a `Log.Filter`
selects those that are written, each to one of two sinks.  Wallet addresses are shortened in every
record.
-/

namespace PoolPage
namespace Log

/-- How severe a record is, in rising order. -/
inductive Level where
  | trace
  | debug
  | info
  | warn
  | error
  | fatal
deriving DecidableEq, Repr

namespace Level

def all : List Level := [trace, debug, info, warn, error, fatal]

def name : Level → String
  | trace => "trace"
  | debug => "debug"
  | info => "info"
  | warn => "warn"
  | error => "error"
  | fatal => "fatal"

/-- The name in capitals, as records carry it. -/
def label : Level → String
  | trace => "TRACE"
  | debug => "DEBUG"
  | info => "INFO"
  | warn => "WARN"
  | error => "ERROR"
  | fatal => "FATAL"

def severity : Level → Nat
  | trace => 0
  | debug => 1
  | info => 2
  | warn => 3
  | error => 4
  | fatal => 5

def ofName? (text : String) : Option Level := all.find? fun level => level.name = text

end Level

/-- The part of the program a record is about. -/
inductive Component where
  | api
  | render
  | router
  | calculator
  | storage
  | schedule
  | system
  | profile
deriving DecidableEq, Repr

namespace Component

def all : List Component := [api, render, router, calculator, storage, schedule, system, profile]

def name : Component → String
  | api => "api"
  | render => "render"
  | router => "router"
  | calculator => "calc"
  | storage => "storage"
  | schedule => "schedule"
  | system => "system"
  | profile => "profile"

def ofName? (text : String) : Option Component := all.find? fun component => component.name = text

end Component

structure Record where
  level : Level
  component : Component
  event : String
  message : Json
  data : Table Json

/-- An address with its middle left out; those of at most sixteen characters stay as they are. -/
def shortenAddress (address : String) : String :=
  let cs := address.toList
  if cs.length ≤ 16 then address
  else String.ofList (cs.take 8 ++ "...".toList ++ cs.drop (cs.length - 6))

/-- The value of a field as it is recorded. -/
def sanitize (name : String) (value : Json) : Json :=
  match value with
  | .string address => if name = "address" then .string (shortenAddress address) else value
  | _ => value

/-- A record of some fields.  The field `msg` is its message, empty if there is none. -/
def record (level : Level) (component : Component) (event : String)
    (fields : List (String × Json)) : Record where
  level := level
  component := component
  event := event
  message := ((Table.ofList fields).get? "msg").getD (.string "")
  data := Table.ofList <| (fields.filter fun (name, _) => name ≠ "msg").map
    fun (name, value) => (name, sanitize name value)

/-! ### Selection -/

/-- Where a record is written. -/
inductive Sink where
  | events
  | trace
deriving DecidableEq, Repr

def Record.sink (r : Record) : Sink :=
  match r.level with
  | .trace | .debug => .trace
  | _ => .events

/-- The records of some components, or of all, from some level on. -/
structure Filter where
  level : Level
  components : Option (List String)
deriving DecidableEq, Repr

namespace Filter

/-- The level named by a setting; `info` where it names none. -/
def levelOf (setting : Option String) : Level := (setting.bind Level.ofName?).getD .info

/-- The parts of a text between commas, without white space at their ends. -/
def splitCommas (text : String) : List String :=
  (text.toList.splitOn ',').map fun part => String.ofList (trimBlanks part)

/-- The filter of two settings: a level, and component names with commas between them or `all`. -/
def ofSettings (level components : Option String) : Filter where
  level := levelOf level
  components :=
    match components with
    | none => none
    | some text => if text = "all" then none else some (splitCommas text)

def accepts (f : Filter) (r : Record) : Bool :=
  f.level.severity ≤ r.level.severity &&
    match f.components with
    | none => true
    | some names => names.contains r.component.name

def select (f : Filter) (records : List Record) : List Record := records.filter f.accepts

end Filter

/-! ### Common records -/

/-- An answer that arrived and could be read. -/
def fetched (endpoint : String) : Record :=
  record .debug .api "fetch_ok" [("endpoint", .string endpoint)]

/-- A question for a view that has no answer, with the chain of causes. -/
def fetchFailed (view endpoint causes : String) : Record :=
  record .error .api "fetch_failed"
    [("view", .string view), ("endpoint", .string endpoint), ("msg", .string causes)]

def alert (message : String) : Record :=
  record .warn .render "alert" [("msg", .string message)]

/-- A change of route, and whether a fragment was loaded for it. -/
def navigated (fragment : String) (loaded : Bool) : Record :=
  record .info .router "navigate" [("fragment", .string fragment), ("fetched", .bool loaded)]

/-- An event of a scheduled task.  Its period is recorded in 64 bits. -/
def task (event name : String) (period : Option Nat) : Record :=
  record .debug .schedule event
    [("task", .string name),
     ("period_ms", Json.ofOption (fun ms => .int (ms % wordLimit : Nat)) period)]

def timed (scope : String) : Record :=
  record .trace .profile "profile" [("label", .string scope)]

end Log
end PoolPage
