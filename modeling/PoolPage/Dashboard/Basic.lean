import PoolPage.Agenda
import PoolPage.Backend
import PoolPage.Page.Screen
import PoolPage.Panel.Profit
import PoolPage.Schedule.Cadence
import PoolPage.Settings
import PoolPage.Store

/-!
A dashboard: a page, what is remembered between page loads, and what is still to happen.

Time is counted in milliseconds.  Whatever takes time is an `Event` on the agenda, and
an event is dealt with in one go.  Everything a dashboard asks and logs is kept in
order, all records of it; which of them are written is for a `Log.Filter` to say, and
nothing here depends on it.
-/

namespace PoolPage

/-- What a page load knows. -/
structure Session where
  /-- The hash that was visited last. -/
  route : String
  /-- The miner's address. -/
  address : String
  /-- What was typed as the visitor's hash rate. -/
  input : String
  /-- What the profit is computed from. -/
  params : NetworkParams
  /-- Whether the chart was drawn, and its later layout ordered. -/
  chartDrawn : Bool
  /-- How many questions were put. -/
  questions : Nat
  /-- Whether the page has to be loaded again. -/
  expired : Bool

/-- A page load of which nothing is known yet. -/
def Session.ofRoute (route : String) : Session where
  route := route
  address := ""
  input := ""
  params := .unknown
  chartDrawn := false
  questions := 0
  expired := false

/-- Why the pool's and the miner's figures are fetched. -/
inductive Occurrence where
  /-- It is their turn. -/
  | periodic (turn : Turn)
  /-- The visitor gave an address. -/
  | visitor

/-- The lane of a refresh. -/
def Occurrence.lane : Occurrence → Lane
  | periodic _ => .scheduled
  | visitor => .awaited

/-- What happens at a time. -/
inductive Event where
  | refreshDue (turn : Turn)
  | poolArrived (reply : Reply PoolStats)
  | minerArrived (address : String) (reply : Reply MinerLookup)
  /-- Both answers of a refresh have arrived. -/
  | refreshEnded (occurrence : Occurrence)
  | blocksDue
  | blocksArrived (reply : Reply PoolStats)
  | paramsDue
  | paramsArrived (reply : Reply PoolStats)
  | profitDue (turn : Turn)
  | fragmentArrived (pageLoad : Bool) (hash : String) (reply : Reply String)
  /-- The chart's container has its size. -/
  | chartSettles
  | pageExpires

namespace Event

/-- Whether an event ends what the visitor waits for. -/
def isAwaited : Event → Bool
  | refreshEnded .visitor | fragmentArrived .. => true
  | _ => false

/-- Whether an event belongs to a live task of a page load. -/
def isTask : Event → Bool
  | refreshDue _ | refreshEnded (.periodic _) | blocksDue | blocksArrived _ | paramsDue
  | paramsArrived _ | profitDue _ => true
  | _ => false

/-- Whether an event outlives the page load that ordered it. -/
def outlives : Event → Bool
  | chartSettles => true
  | _ => false

end Event

/-- Who drives a dashboard. -/
inductive Mode where
  /-- A caller that waits for the end of each of its actions. -/
  | attended
  /-- A loop of its own that loads the page anew from time to time. -/
  | unattended
deriving DecidableEq, Repr

structure Dashboard where
  settings : Settings
  mode : Mode
  backend : Backend
  /-- Milliseconds from the start of 1970 to the zero of the clock. -/
  epoch : Nat
  now : Nat
  screen : Screen
  store : Store
  agenda : Agenda Event
  session : Session
  /-- What was asked, in order. -/
  asked : List Question
  /-- What was logged, in order. -/
  log : List Log.Record

namespace Dashboard

def new (settings : Settings) (mode : Mode) (backend : Backend) (screen : Screen) (store : Store)
    (epoch : Nat) : Dashboard where
  settings := settings
  mode := mode
  backend := backend
  epoch := epoch
  now := 0
  screen := screen
  store := store
  agenda := []
  session := .ofRoute ""
  asked := []
  log := []

def note (d : Dashboard) (records : List Log.Record) : Dashboard :=
  { d with log := d.log ++ records }

def call (d : Dashboard) (c : Snapshot.Call) : Dashboard :=
  let (screen, records) := d.screen.call c
  { d with screen, log := d.log ++ records }

def update (d : Dashboard) (updates : List Update) : Dashboard := d.call (.applyAll updates)

/-- When a question would be put now. -/
def occasion (d : Dashboard) : Occasion := ⟨d.now, d.session.questions⟩

def ask (d : Dashboard) (question : Question) : Dashboard :=
  { d with
    session := { d.session with questions := d.session.questions + 1 }
    asked := d.asked ++ [question] }

def enter (d : Dashboard) (time : Nat) (lane : Lane) (event : Event) : Dashboard :=
  { d with agenda := d.agenda.enter ⟨time, lane, event⟩ }

/-- Orders something of its own. -/
def order (d : Dashboard) (delay : Nat) (event : Event) : Dashboard :=
  d.enter (d.now + waitOf delay) .scheduled event

/-- Goes on with an event at a time; at once if it has come. -/
def proceedAt (d : Dashboard) (time : Nat) (lane : Lane) (event : Event) : Dashboard :=
  d.enter time (if time ≤ d.now then .atOnce else lane) event

/-- Goes on with an event after a delay. -/
def proceed (d : Dashboard) (delay : Nat) (lane : Lane) (event : Event) : Dashboard :=
  d.proceedAt (d.now + waitOf delay) lane event

/-- Whether something is under way that the visitor waits for. -/
def isBusy (d : Dashboard) : Bool := d.agenda.any fun a => a.event.isAwaited

/-- How many tasks of the page load are live. -/
def activeTasks (d : Dashboard) : Nat := d.agenda.countP fun a => a.event.isTask

end Dashboard
end PoolPage
