/-!
The cadence of periodic tasks, and waits.

A periodic task is due at its registration and then once every period, and its runs
never overlap: one that is due while the run before it still lasts starts when that ends.
A run that starts late by more than a small tolerance moves the plan, so that missed
runs are not made up for; `due_next` and `start_next` state both rules.
-/

namespace PoolPage

/-- The longest time that anything waits, in milliseconds: thirty years. -/
def longestWait : Nat := 946080000000

/-- How long a wait of so many milliseconds lasts. -/
def waitOf (ms : Nat) : Nat := min ms longestWait

/-- Milliseconds by which a run may start late without moving the plan. -/
def lateTolerance : Nat := 5

/-- When the run after one is due. -/
def nextDue (period due start : Nat) : Nat :=
  if due + lateTolerance < start then start + period else due + period

theorem add_le_nextDue (period due start : Nat) : due + period ≤ nextDue period due start := by
  unfold nextDue
  split <;> omega

/-- A run of a periodic task. -/
structure Turn where
  /-- How many runs came before it. -/
  number : Nat
  due : Nat
  start : Nat
  due_le_start : due ≤ start := by omega

namespace Turn

/-- The run of a task at its registration. -/
def first (time : Nat) : Turn := ⟨0, time, time, Nat.le_refl time⟩

/-- The run after one that takes `length`. -/
def next (period length : Nat) (turn : Turn) : Turn where
  number := turn.number + 1
  due := nextDue period turn.due turn.start
  start := max (nextDue period turn.due turn.start) (turn.start + length)
  due_le_start := Nat.le_max_left ..

theorem due_next (period length : Nat) (turn : Turn) :
    (turn.next period length).due = nextDue period turn.due turn.start := rfl

theorem start_next (period length : Nat) (turn : Turn) :
    (turn.next period length).start =
      max (nextDue period turn.due turn.start) (turn.start + length) := rfl

/-- When the runs up to a time start, and the first run after it. -/
def runUntil (time period : Nat) (positive : 0 < period) (lengths : Nat → Nat) (turn : Turn) :
    List Nat × Turn :=
  if turn.start ≤ time then
    let later := runUntil time period positive lengths (turn.next period (lengths turn.number))
    (turn.start :: later.1, later.2)
  else ([], turn)
termination_by time + 1 - turn.due
decreasing_by
  have := add_le_nextDue period turn.due turn.start
  have := turn.due_le_start
  simp only [due_next]
  omega

end Turn
end PoolPage
