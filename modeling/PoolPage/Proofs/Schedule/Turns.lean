import PoolPage.Schedule.Basic

/-!
# The cadence of periodic tasks

The turns of a periodic task are those of one sequence (`Turn.nth`), and however far the clock is
let run, the turns up to a time are a front of it (`Turn.runUntil_nth`).  `Cadence` says how the
starts of the sequence follow one another: without overlap, never bunched up by more than the
tolerance, never ahead of the plan, and exactly on the plan as long as no run outlasts the period.

The two rules for the next due time differ in what they lose: a turn that starts late by no more
than the tolerance leaves the plan alone, and the start after it may come that much too soon; a
later one moves the plan.  Both keep the plan from running ahead (`add_le_nextDue`), which carries
the bound on the number of turns.
-/

namespace PoolPage

theorem start_add_le_nextDue (period due start : Nat) :
    start + period ≤ nextDue period due start + lateTolerance := by
  unfold nextDue
  split <;> omega

theorem nextDue_of_on_time (period due : Nat) : nextDue period due due = due + period := by
  unfold nextDue
  split <;> omega

namespace Turn

/-- The turn of a task that was registered at a time, with so many turns before it. -/
def nth (time period : Nat) (lengths : Nat → Nat) : Nat → Turn
  | 0 => first time
  | k + 1 => (nth time period lengths k).next period (lengths k)

variable {time period : Nat} {lengths : Nat → Nat}

theorem number_nth (k : Nat) : (nth time period lengths k).number = k := by
  induction k with
  | zero => rfl
  | succ k ih =>
    have hnext : (nth time period lengths (k + 1)).number =
        (nth time period lengths k).number + 1 := rfl
    rw [hnext, ih]

/-! ### One turn after another -/

theorem start_add_length_le (k : Nat) :
    (nth time period lengths k).start + lengths k ≤ (nth time period lengths (k + 1)).start :=
  Nat.le_max_right ..

theorem start_le_start_succ (k : Nat) :
    (nth time period lengths k).start ≤ (nth time period lengths (k + 1)).start :=
  Nat.le_trans (Nat.le_add_right ..) (start_add_length_le k)

theorem start_mono {k l : Nat} (h : k ≤ l) :
    (nth time period lengths k).start ≤ (nth time period lengths l).start := by
  induction h with
  | refl => exact Nat.le_refl _
  | step _ ih => exact Nat.le_trans ih (start_le_start_succ _)

theorem start_add_period_le (k : Nat) :
    (nth time period lengths k).start + period ≤
      (nth time period lengths (k + 1)).start + lateTolerance := by
  have hdue := start_add_le_nextDue period (nth time period lengths k).due
    (nth time period lengths k).start
  have hstart := (nth time period lengths (k + 1)).due_le_start
  rw [nth, due_next] at hstart
  rw [nth]
  omega

/-! ### Turns and the plan -/

/-- The plan never runs ahead of the periods since the registration. -/
theorem add_mul_le_due (k : Nat) : time + k * period ≤ (nth time period lengths k).due := by
  induction k with
  | zero => simp [nth, first]
  | succ k ih =>
    have hnext := add_le_nextDue period (nth time period lengths k).due
      (nth time period lengths k).start
    rw [nth, due_next, Nat.succ_mul]
    omega

theorem add_mul_le_start (k : Nat) : time + k * period ≤ (nth time period lengths k).start :=
  Nat.le_trans (add_mul_le_due k) (nth time period lengths k).due_le_start

/-- Runs that fit into the period leave the plan and the starts where they were. -/
theorem on_plan {k : Nat} (h : ∀ j < k, lengths j ≤ period) :
    (nth time period lengths k).due = time + k * period ∧
      (nth time period lengths k).start = time + k * period := by
  induction k with
  | zero => simp [nth, first]
  | succ k ih =>
    obtain ⟨hdue, hstart⟩ := ih fun j hj => h j (Nat.lt_succ_of_lt hj)
    have hlength := h k (Nat.lt_succ_self k)
    rw [nth, due_next, start_next, hdue, hstart, nextDue_of_on_time, Nat.succ_mul]
    omega

/-! ### Turns up to a time -/

/-- The turns up to a time are the next ones of the sequence, all of those that start by then. -/
theorem runUntil_nth (horizon : Nat) (positive : 0 < period) (k : Nat) :
    ∃ count,
      (nth time period lengths k).runUntil horizon period positive lengths =
        ((List.range' k count).map fun i => (nth time period lengths i).start,
          nth time period lengths (k + count)) ∧
      ∀ i, k ≤ i → (i < k + count ↔ (nth time period lengths i).start ≤ horizon) := by
  generalize hturn : nth time period lengths k = turn
  fun_induction runUntil horizon period positive lengths turn generalizing k with
  | case1 turn hstart later ih =>
    subst hturn
    have hnext : nth time period lengths (k + 1) =
        (nth time period lengths k).next period (lengths (nth time period lengths k).number) := by
      rw [number_nth, nth]
    obtain ⟨count, hrun, hcount⟩ := ih (k + 1) hnext
    refine ⟨count + 1, ?_, fun i hi => ?_⟩
    · rw [List.range'_succ, List.map_cons, Nat.add_comm count 1, ← Nat.add_assoc]
      exact congrArg (fun run : List Nat × Turn =>
        ((nth time period lengths k).start :: run.1, run.2)) hrun
    · rcases Nat.eq_or_lt_of_le hi with rfl | hlt
      · exact iff_of_true (by omega) hstart
      · rw [← hcount i hlt]
        omega
  | case2 turn hstart =>
    subst hturn
    refine ⟨0, rfl, fun i hi => ?_⟩
    have hlate := @start_mono time period lengths _ _ hi
    exact iff_of_false (by omega) (by omega)

end Turn

theorem Task.starts_runUntil (time : Nat) (task : Task) :
    (task.runUntil time).1 =
      (task.work.runUntil time task.lengths).1.map fun start => ⟨start, task.name⟩ := rfl

/-! ## Cadence -/

/-- Starts that follow one another as those of a periodic task do: registered at a time, with runs
of given lengths. -/
structure Cadence (time period : Nat) (lengths start : Nat → Nat) : Prop where
  first : start 0 = time
  apart : ∀ k, start k + lengths k ≤ start (k + 1)
  spaced : ∀ k, start k + period ≤ start (k + 1) + 5
  never_ahead : ∀ k, time + k * period ≤ start k
  on_plan : ∀ k, (∀ j < k, lengths j ≤ period) → start k = time + k * period

theorem Turn.cadence (time period : Nat) (lengths : Nat → Nat) :
    Cadence time period lengths fun k => (nth time period lengths k).start where
  first := rfl
  apart := start_add_length_le
  spaced := start_add_period_le
  never_ahead := add_mul_le_start
  on_plan _ h := (Turn.on_plan h).2

/-- Starts that are never ahead of the plan are few. -/
theorem Cadence.count_le {time period horizon count : Nat} {lengths start : Nat → Nat}
    (h : Cadence time period lengths start) (positive : 0 < period)
    (hcount : ∀ k, k < count ↔ start k ≤ horizon) : count ≤ (horizon - time) / period + 1 := by
  cases count with
  | zero => exact Nat.zero_le _
  | succ last =>
    have hlast := (hcount last).mp (Nat.lt_succ_self last)
    have hplan := h.never_ahead last
    have hperiods : last * period ≤ horizon - time := by omega
    exact Nat.succ_le_succ ((Nat.le_div_iff_mul_le positive).mpr hperiods)

/-- The turns of a task that is registered to run periodically, whatever its runs take, follow one
cadence, and the starts up to a time are those of it that lie no later. -/
theorem Work.starts_every {period : Nat} (positive : 0 < period) (time : Nat)
    (lengths : Nat → Nat) (horizon : Nat) :
    ∃ count,
      ((every time period).runUntil horizon lengths).1 =
        (List.range count).map (fun k => (Turn.nth time period lengths k).start) ∧
      ∀ k, k < count ↔ (Turn.nth time period lengths k).start ≤ horizon := by
  obtain ⟨count, hrun, hcount⟩ :=
    @Turn.runUntil_nth time _ lengths horizon positive 0
  refine ⟨count, ?_, fun k => ?_⟩
  · rw [every, dif_pos positive, List.range_eq_range']
    exact congrArg Prod.fst hrun
  · rw [← hcount k (Nat.zero_le k), Nat.zero_add]

namespace Schedule

/-- A task that a schedule registers to run periodically runs in a cadence however long its runs
take, and at any time exactly the starts of this cadence up to then have happened: at most one for
each period that has gone by, and the first. -/
theorem cadence_of_every (s : Schedule) (name : String) {period : Nat} (positive : 0 < period)
    (lengths : Nat → Nat) :
    ∃ task : Task, (s.every name period lengths).1.tasks = s.tasks ++ [task] ∧
      ∀ durations : Nat → Nat, ∃ start : Nat → Nat, Cadence s.now period durations start ∧
        ∀ time, ∃ count,
          (Task.runUntil time { task with lengths := durations }).1 =
            (List.range count).map (fun k => ⟨start k, name⟩) ∧
          (∀ k, k < count ↔ start k ≤ time) ∧
          count ≤ (time - s.now) / period + 1 := by
  refine ⟨⟨name, waitOf ∘ lengths, .every s.now period⟩, rfl, fun durations => ?_⟩
  have hcadence := Turn.cadence s.now period durations
  refine ⟨_, hcadence, fun time => ?_⟩
  obtain ⟨count, hstarts, hcount⟩ := Work.starts_every positive s.now durations time
  refine ⟨count, ?_, hcount, hcadence.count_le positive hcount⟩
  rw [Task.starts_runUntil, hstarts, List.map_map]
  rfl

/-- A task with a period of ten whose second run lasts twenty-three: the run after it starts late,
and the plan moves with it. -/
theorem cadence_of_every_tick :
    0 < 10 ∧
      ∃ task : Task, (empty.every "tick" 10 fun k => if k = 1 then 23 else 0).1.tasks = [task] ∧
        (task.runUntil 55).1 = [⟨0, "tick"⟩, ⟨10, "tick"⟩, ⟨33, "tick"⟩, ⟨43, "tick"⟩, ⟨53, "tick"⟩] ∧
        ∃ start : Nat → Nat, Cadence 0 10 task.lengths start := by
  obtain ⟨task, htasks, hcadence⟩ :=
    @cadence_of_every empty "tick" 10 (by decide) fun k => if k = 1 then 23 else 0
  obtain rfl : _ = task := List.head_eq_of_cons_eq htasks
  obtain ⟨start, hstart, -⟩ := hcadence (waitOf ∘ fun k => if k = 1 then 23 else 0)
  refine ⟨by decide, _, htasks, ?_, start, hstart⟩
  simp [Task.runUntil, Work.runUntil, Work.every, Turn.runUntil, Turn.first, Turn.next, nextDue,
    lateTolerance, waitOf, longestWait, empty]

end Schedule
end PoolPage
