import PoolPage.Proofs.Dashboard.Actions
import PoolPage.Proofs.Log.Filters

/-!
# Records that are written when they are accepted

A dashboard keeps all records that it logs.  Here it is run a second time, and asks a filter about
each record when it is logged: what is not accepted is never there (`make`, and what
is put together from it).  `gate` drops from a dashboard what a filter does not accept, and it takes
the one run to the other, step by step (`gate_happen`, `gate_handle`, `gate_start`, `gate_shutdown`)
and as a whole (`gate_undergo`).  So nothing that a dashboard does depends on what it has logged.
-/

namespace PoolPage

/-! ## What is done to a session -/

inductive Doing where
  | start (route : String)
  | act (action : Action)
  | shutdown

namespace Dashboard

def undergoOne (d : Dashboard) : Doing → Dashboard
  | .start route => d.start route
  | .act action => d.act action
  | .shutdown => d.shutdown

def undergo (d : Dashboard) (doings : List Doing) : Dashboard := doings.foldl undergoOne d

/-- The records of the end of a page load. -/
def shutdownRecords (d : Dashboard) : List Log.Record :=
  ((tasks d.settings).map fun task => Log.task "task_cancel" task.1 none) ++
    d.agenda.flatMap fun a => abandonedRecords a.event

end Dashboard

/-! ## A dashboard under a filter -/

namespace Log.Filter

variable (f : Filter) (d : Dashboard)

def note (records : List Record) : Dashboard := d.note (f.select records)

def make : Change → Dashboard
  | .note records => f.note d records
  | .call c => f.note { d with screen := (d.screen.call c).1 } (d.screen.call c).2
  | change => d.make change

def makeAll (changes : List Change) : Dashboard := changes.foldl f.make d

def happen (event : Event) : Dashboard := f.makeAll d (Changes.happen d event)

def handle (command : Command) : Dashboard := f.makeAll d (Changes.handle d command)

def cleared (route : String) : Dashboard :=
  { f.make d (.call .reset) with session := .ofRoute route }

def start (route : String) : Dashboard :=
  f.makeAll (f.cleared d route) (Changes.load (f.cleared d route) route)

def shutdown : Dashboard :=
  f.note { d with agenda := d.agenda.filter fun a => a.event.outlives } d.shutdownRecords

def step? (horizon : Nat) : Option Dashboard :=
  match d.agenda with
  | [] => none
  | next :: rest =>
    if next.time ≤ horizon then
      some (f.happen { d with agenda := rest, now := max d.now next.time } next.event)
    else none

def advanceTo (horizon : Nat) : Dashboard :=
  let d := Dashboard.iterate (f.step? · horizon) (d.workload horizon) d
  { d with now := max d.now horizon }

def act : Action → Dashboard
  | .command command => f.handle d command
  | .wait ms => f.advanceTo d (d.now + waitOf ms)
  | .await => f.advanceTo d d.awaitedTime
  | .restart route => f.start (f.shutdown d) route
  | .answers backend => { d with backend }

def undergoOne : Doing → Dashboard
  | .start route => f.start d route
  | .act action => f.act d action
  | .shutdown => f.shutdown d

def undergo (doings : List Doing) : Dashboard := doings.foldl f.undergoOne d

end Log.Filter

namespace Dashboard

/-- A dashboard without the records that a filter does not accept. -/
def gate (f : Log.Filter) (d : Dashboard) : Dashboard := { d with log := f.select d.log }

variable (f : Log.Filter) (d : Dashboard)

theorem gate_everything : d.gate .everything = d := by
  rw [gate, Log.Filter.select_everything]

theorem gate_note (records : List Log.Record) :
    (d.note records).gate f = f.note (d.gate f) records := by
  rw [gate, note, Log.Filter.select_append]
  rfl

theorem gate_make (c : Change) : (d.make c).gate f = f.make (d.gate f) c := by
  cases c with
  | note records => exact gate_note f d records
  | call c => exact gate_note f { d with screen := (d.screen.call c).1 } _
  | _ => rfl

theorem gate_makeAll (cs : List Change) : (d.makeAll cs).gate f = f.makeAll (d.gate f) cs := by
  induction cs generalizing d with
  | nil => rfl
  | cons c cs ih =>
    rw [makeAll_cons, ih, gate_make]
    rfl

theorem gate_happen (event : Event) : (d.happen event).gate f = f.happen (d.gate f) event := by
  have hchanges : Changes.happen (d.gate f) event = Changes.happen d event := by
    cases event <;> rfl
  rw [happen_eq, gate_makeAll, Log.Filter.happen, hchanges]

theorem gate_handle (command : Command) :
    (d.handle command).gate f = f.handle (d.gate f) command := by
  have hchanges : Changes.handle (d.gate f) command = Changes.handle d command := by
    cases command <;> rfl
  rw [handle_eq, gate_makeAll, Log.Filter.handle, hchanges]

theorem gate_cleared (route : String) :
    (d.cleared route).gate f = f.cleared (d.gate f) route := by
  rw [Log.Filter.cleared, ← gate_make]
  rfl

theorem gate_start (route : String) : (d.start route).gate f = f.start (d.gate f) route := by
  have hchanges : Changes.load ((d.cleared route).gate f) route =
      Changes.load (d.cleared route) route := rfl
  rw [start_eq, gate_makeAll, Log.Filter.start, ← gate_cleared, hchanges]

theorem gate_shutdown : d.shutdown.gate f = f.shutdown (d.gate f) := gate_note f _ _

theorem gate_step? (horizon : Nat) :
    (d.step? horizon).map (gate f) = f.step? (d.gate f) horizon := by
  unfold step? Log.Filter.step?
  have hagenda : (d.gate f).agenda = d.agenda := rfl
  rw [hagenda]
  cases d.agenda with
  | nil => rfl
  | cons next rest =>
    dsimp only
    split
    · exact congrArg some (gate_happen f { d with agenda := rest, now := max d.now next.time } _)
    · rfl

theorem map_iterate {σ τ : Type} {image : σ → τ} {step? : σ → Option σ} {step'? : τ → Option τ}
    (h : ∀ s, (step? s).map image = step'? (image s)) (steps : Nat) (s : σ) :
    image (iterate step? steps s) = iterate step'? steps (image s) := by
  induction steps generalizing s with
  | zero => rfl
  | succ steps ih =>
    unfold iterate
    rw [← h]
    cases step? s with
    | none => rfl
    | some s' => exact ih s'

theorem gate_advanceTo (horizon : Nat) :
    (d.advanceTo horizon).gate f = f.advanceTo (d.gate f) horizon := by
  have hsteps : (d.gate f).workload horizon = d.workload horizon := rfl
  have hiterate : (iterate (step? horizon) (d.workload horizon) d).gate f =
      iterate (f.step? · horizon) (d.workload horizon) (d.gate f) :=
    map_iterate (fun d => gate_step? f d horizon) _ d
  rw [Log.Filter.advanceTo, hsteps, ← hiterate]
  rfl

theorem gate_act (action : Action) : (d.act action).gate f = f.act (d.gate f) action := by
  cases action with
  | command command => exact gate_handle f d command
  | wait ms => exact gate_advanceTo f d _
  | await => exact gate_advanceTo f d _
  | restart route => exact (gate_start f d.shutdown route).trans (by rw [gate_shutdown]; rfl)
  | answers backend => rfl

theorem gate_undergo (doings : List Doing) :
    (d.undergo doings).gate f = f.undergo (d.gate f) doings := by
  induction doings generalizing d with
  | nil => rfl
  | cons doing rest ih =>
    have hone : (d.undergoOne doing).gate f = f.undergoOne (d.gate f) doing := by
      cases doing with
      | start route => exact gate_start f d route
      | act action => exact gate_act f d action
      | shutdown => exact gate_shutdown f d
    exact (ih _).trans (congrArg (fun d => f.undergo d rest) hone)

end Dashboard
end PoolPage
