import PoolPage.Command
import PoolPage.Dashboard.Answers
import PoolPage.Route.Navigation

/-!
Page loads: their start, what the visitor does during one, and their end.
-/

namespace PoolPage
namespace Dashboard

/-! ### Navigation -/

/-- The page is loaded when its first navigation has ended.  Without a caller it is given a time to
live. -/
def finishLoad (d : Dashboard) : Dashboard :=
  let d := d.note [Log.record .info .system "session_start" [("route", .string d.session.route)]]
  match d.mode with
  | .attended => d
  | .unattended => d.enter (d.now + waitOf d.settings.reload) .awaited .pageExpires

def finishNavigation (d : Dashboard) (pageLoad : Bool) (outcome : Navigation.Outcome) : Dashboard :=
  let d := if outcome.updates.isEmpty then d else d.update outcome.updates
  let d := d.note outcome.records
  if pageLoad then d.finishLoad else d

def navigate (d : Dashboard) (pageLoad : Bool) (hash : String) : Dashboard :=
  match Navigation.start hash with
  | .finished outcome => d.finishNavigation pageLoad outcome
  | .fetch path =>
    let reply := d.backend.fragment path d.occasion
    (d.ask (.fragment path)).proceed reply.delay .awaited (.fragmentArrived pageLoad hash reply)

/-! ### Start and end -/

/-- The tasks of a page load and their periods in milliseconds; those without one run once. -/
def tasks (settings : Settings) : List (String × Option Nat) :=
  [("stats.refresh", some settings.statsRefresh), ("blocks.refresh", none), ("calc.load", none),
   ("calc.tick", some settings.calcTick)]

/-- A first turn right now; a task without a period never gets one. -/
def startTurns (d : Dashboard) (period : Nat) (event : Turn → Event) : Dashboard :=
  if period = 0 then d else d.order 0 (event (Turn.first d.now))

def startTasks (d : Dashboard) : Dashboard :=
  let d := d.note ((tasks d.settings).map fun task => Log.task "task_start" task.1 task.2)
  let d := d.startTurns d.settings.statsRefresh .refreshDue
  let d := (d.order 0 .blocksDue).order 0 .paramsDue
  d.startTurns d.settings.calcTick .profitDue

def storeFailedRecord (event : String) : Log.Record :=
  Log.record .error .storage event [("msg", .string Store.noTable)]

def loadAddress (d : Dashboard) : Dashboard :=
  match d.store.get addressKey with
  | some address => { d with session := { d.session with address := address.getD "" } }
  | none => d.note [storeFailedRecord "address_load_failed"]

def start (d : Dashboard) (route : String) : Dashboard :=
  let d := { d.call .reset with session := .ofRoute route }
  (d.loadAddress.startTasks).navigate true route

/-- The records of work that is given up. -/
def abandonedRecords : Event → List Log.Record
  | .refreshEnded _ => [Log.timed refreshScope]
  | .blocksArrived _ => [Log.timed blocksScope]
  | _ => []

/-- Ends a page load with all its tasks. -/
def shutdown (d : Dashboard) : Dashboard :=
  let cancelled := (tasks d.settings).map fun task => Log.task "task_cancel" task.1 none
  let abandoned := d.agenda.flatMap fun a => abandonedRecords a.event
  { d with agenda := d.agenda.filter fun a => a.event.outlives }.note (cancelled ++ abandoned)

/-! ### Commands -/

def saveAddress (d : Dashboard) (address : String) : Dashboard :=
  match d.store.set addressKey address with
  | some store =>
    { d with store }.note
      [Log.record .info .storage "address_saved" [("address", .string address)]]
  | none => d.note [storeFailedRecord "address_save_failed"]

/-- Does what the visitor commands.  Loading the page anew and leaving it are left to the caller. -/
def handle (d : Dashboard) : Command → Dashboard
  | .address value =>
    ({ d with session := { d.session with address := value } }.saveAddress value).refresh .visitor
  | .hashRate value => { d with session := { d.session with input := value } }
  | .navigate hash => { d with session := { d.session with route := hash } }.navigate false hash
  | .pointerMove chart index => d.call (.pointerMove chart index)
  | .pointerOut chart => d.call (.pointerOut chart)
  | .resize => d.call .resize
  | .reload | .quit => d

end Dashboard
end PoolPage
