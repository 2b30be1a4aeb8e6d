import PoolPage.Log
import PoolPage.Schedule.Cadence

/-!
Schedules: named tasks that run periodically or once, on a clock in milliseconds.

Each registration has a state of its own, and nothing a schedule does to one of them looks at
another.  Names may be used again; cancelling a name removes all its registrations.
-/

namespace PoolPage

/-- What a registered task will do. -/
inductive Work where
  /-- Run periodically, from a turn on. -/
  | periodic (period : Nat) (positive : 0 < period) (turn : Turn)
  /-- Run once. -/
  | once (start : Nat)
  /-- Come to an end without a run, when the clock runs next. -/
  | idle (start : Nat)
  /-- Run no more; its last run ends at a time. -/
  | done (finish : Nat)

namespace Work

/-- A periodic task.  Without a period there is nothing to run, which shows when the clock does. -/
def every (time period : Nat) : Work :=
  if positive : 0 < period then periodic period positive (Turn.first time) else idle time

/-- When the runs up to a time start, and what is left to do. -/
def runUntil (time : Nat) (lengths : Nat → Nat) : Work → List Nat × Work
  | periodic period positive turn =>
    let (starts, turn) := turn.runUntil time period positive lengths
    (starts, periodic period positive turn)
  | once start => if start ≤ time then ([start], done (start + lengths 0)) else ([], once start)
  | idle start => ([], done start)
  | done finish => ([], done finish)

/-- Whether a task has more to do at a time. -/
def isLive (time : Nat) : Work → Bool
  | done finish => time < finish
  | _ => true

end Work

/-- A registration: a task's name, how long each of its runs takes, and what it will do. -/
structure Task where
  name : String
  lengths : Nat → Nat
  work : Work

/-- The start of a run. -/
structure Start where
  time : Nat
  name : String
deriving DecidableEq, Repr

namespace Task

def isLive (time : Nat) (task : Task) : Bool := task.work.isLive time

/-- The starts of the runs up to a time, and the task after them. -/
def runUntil (time : Nat) (task : Task) : List Start × Task :=
  let (starts, work) := task.work.runUntil time task.lengths
  (starts.map fun start => ⟨start, task.name⟩, { task with work })

end Task

structure Schedule where
  /-- Milliseconds since the clock was started. -/
  now : Nat
  tasks : List Task

namespace Schedule

def empty : Schedule := ⟨0, []⟩

/-- Registers a task that runs now and once every period. -/
def every (s : Schedule) (name : String) (period : Nat) (lengths : Nat → Nat) :
    Schedule × List Log.Record :=
  ({ s with tasks := s.tasks ++ [⟨name, waitOf ∘ lengths, .every s.now period⟩] },
   [Log.task "task_start" name (some period)])

/-- Registers a task that runs once, after a delay. -/
def after (s : Schedule) (name : String) (delay : Nat) (lengths : Nat → Nat) :
    Schedule × List Log.Record :=
  ({ s with tasks := s.tasks ++ [⟨name, waitOf ∘ lengths, .once (s.now + waitOf delay)⟩] },
   [Log.task "task_start" name none])

/-- Lets time pass.  Everything that is due up to the new time runs. -/
def advance (s : Schedule) (ms : Nat) : Schedule × List Start :=
  let now := s.now + waitOf ms
  let runs := s.tasks.map (Task.runUntil now)
  (⟨now, runs.map Prod.snd⟩, runs.flatMap Prod.fst)

def active (s : Schedule) : Nat := s.tasks.countP (Task.isLive s.now)

/-- Cancels all tasks of a name.  Gives how many of them had more to do. -/
def cancel (s : Schedule) (name : String) : Schedule × Nat × List Log.Record :=
  let live := s.tasks.countP fun task => task.name = name && task.isLive s.now
  ({ s with tasks := s.tasks.filter fun task => task.name ≠ name }, live,
   if live = 0 then [] else [Log.task "task_cancel" name none])

def shutdown (s : Schedule) : Schedule × List Log.Record :=
  ({ s with tasks := [] }, s.tasks.map fun task => Log.task "task_cancel" task.name none)

end Schedule
end PoolPage
