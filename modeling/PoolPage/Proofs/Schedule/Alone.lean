import Mathlib.Algebra.Ring.Nat
import Mathlib.Data.List.Perm.Basic
import PoolPage.Proofs.Schedule.Turns

/-!
# Tasks of a schedule on their own

Whatever is done to a schedule, each registration runs as it would in a fresh schedule of its own
(`Schedule.acts_apart`): its starts are those of the task alone, up to the first cancelling of its
name, shutdown or drop that follows the registration.  What they are, and when the task is at its
end, is said by its plan (`Registration.AsPlanned`, `Registration.isFinished`).

A schedule lets its tasks run up to a time, one after the other and each without the others.  Two
things have to be seen: that it does not matter in how many waits a time is reached
(`Task.runUntil_runUntil`), and that the tasks of a schedule and those registered later can be told
apart all along (`Schedule.starts_actAll`, `Schedule.tasks_actAll`).
-/

namespace PoolPage

/-! ## Waits in parts -/

theorem Turn.runUntil_runUntil {period : Nat} {lengths : Nat → Nat} (positive : 0 < period)
    {time horizon : Nat} (h : time ≤ horizon) (turn : Turn) :
    turn.runUntil horizon period positive lengths =
      ((turn.runUntil time period positive lengths).1 ++
          ((turn.runUntil time period positive lengths).2.runUntil horizon period positive
            lengths).1,
        ((turn.runUntil time period positive lengths).2.runUntil horizon period positive
          lengths).2) := by
  fun_induction runUntil time period positive lengths turn with
  | case1 turn hstart later ih =>
    have hlater : turn.start ≤ horizon := Nat.le_trans hstart h
    rw [runUntil, if_pos hlater, ih]
    rfl
  | case2 turn hstart => rfl

theorem Work.runUntil_runUntil {lengths : Nat → Nat} {time horizon : Nat} (h : time ≤ horizon)
    (work : Work) :
    work.runUntil horizon lengths =
      ((work.runUntil time lengths).1 ++
          ((work.runUntil time lengths).2.runUntil horizon lengths).1,
        ((work.runUntil time lengths).2.runUntil horizon lengths).2) := by
  cases work with
  | periodic period positive turn =>
    simp only [runUntil]
    rw [Turn.runUntil_runUntil positive h]
  | once start =>
    by_cases hstart : start ≤ time
    · have hlater : start ≤ horizon := Nat.le_trans hstart h
      simp [runUntil, hstart, hlater]
    · simp [runUntil, hstart]
  | idle start => rfl
  | done finish => rfl

namespace Task

theorem runUntil_eq (time : Nat) (task : Task) :
    (task.runUntil time).2 = { task with work := (task.work.runUntil time task.lengths).2 } := rfl

@[simp] theorem name_runUntil (time : Nat) (task : Task) :
    (task.runUntil time).2.name = task.name := rfl

theorem runUntil_runUntil {time horizon : Nat} (h : time ≤ horizon) (task : Task) :
    task.runUntil horizon =
      ((task.runUntil time).1 ++ ((task.runUntil time).2.runUntil horizon).1,
        ((task.runUntil time).2.runUntil horizon).2) := by
  have hwork := @Work.runUntil_runUntil task.lengths _ _ h task.work
  refine Prod.ext ?_ ?_
  · rw [starts_runUntil, hwork, List.map_append]
    rfl
  · rw [runUntil_eq, hwork]
    rfl

/-- What a task does through waits, and the task after them. -/
def through (now : Nat) (task : Task) : List Nat → List Start × Task
  | [] => ([], task)
  | ms :: rest =>
    let (starts, task) := task.runUntil (now + waitOf ms)
    let (later, task) := task.through (now + waitOf ms) rest
    (starts ++ later, task)

@[simp] theorem through_nil (now : Nat) (task : Task) : task.through now [] = ([], task) := rfl

theorem through_cons (now ms : Nat) (task : Task) (rest : List Nat) :
    task.through now (ms :: rest) =
      ((task.runUntil (now + waitOf ms)).1 ++
          ((task.runUntil (now + waitOf ms)).2.through (now + waitOf ms) rest).1,
        ((task.runUntil (now + waitOf ms)).2.through (now + waitOf ms) rest).2) := rfl

theorem name_through (now : Nat) (task : Task) (waits : List Nat) :
    (task.through now waits).2.name = task.name := by
  induction waits generalizing now task with
  | nil => rfl
  | cons ms rest ih => rw [through_cons, ih, name_runUntil]

/-- Waits do as much as one to their end. -/
theorem through_cons_eq (now ms : Nat) (task : Task) (rest : List Nat) :
    task.through now (ms :: rest) =
      task.runUntil (now + waitOf ms + (rest.map waitOf).sum) := by
  induction rest generalizing now ms task with
  | nil =>
    rw [through_cons, through_nil, List.append_nil]
    rfl
  | cons ms' rest ih =>
    rw [through_cons, ih, ← runUntil_runUntil (by omega), List.map_cons, List.sum_cons]
    rw [Nat.add_assoc (now + waitOf ms)]

end Task

namespace Schedule

/-! ## Actions -/

/-- When a task is to run. -/
inductive Plan where
  | every (period : Nat)
  | after (delay : Nat)

/-- When a task that is registered at a time comes to its end: a single run when it is over, a
periodic task without a period at once, and no other periodic task ever. -/
def Plan.finish? (now : Nat) (lengths : Nat → Nat) : Plan → Option Nat
  | every period => if period = 0 then some now else none
  | after delay => some (now + waitOf delay + lengths 0)

/-- What is done to a schedule. -/
inductive Action where
  | register (name : String) (plan : Plan) (lengths : Nat → Nat)
  | cancel (name : String)
  | advance (ms : Nat)
  | shutdown
  | drop

def register (s : Schedule) (name : String) (plan : Plan) (lengths : Nat → Nat) : Schedule :=
  match plan with
  | .every period => (s.every name period lengths).1
  | .after delay => (s.after name delay lengths).1

/-- A schedule after actions, none once it is dropped, and the starts on the way. -/
def actAll (s : Schedule) : List Action → Option Schedule × List Start
  | [] => (some s, [])
  | .register name plan lengths :: later => (s.register name plan lengths).actAll later
  | .cancel name :: later => (s.cancel name).1.actAll later
  | .advance ms :: later =>
    ((s.advance ms).1.actAll later |>.1, (s.advance ms).2 ++ ((s.advance ms).1.actAll later).2)
  | .shutdown :: later => s.shutdown.1.actAll later
  | .drop :: _ => (none, [])

/-- A schedule after waits, and the starts on the way. -/
def advanceAll (s : Schedule) : List Nat → Schedule × List Start
  | [] => (s, [])
  | ms :: rest =>
    ((s.advance ms).1.advanceAll rest |>.1, (s.advance ms).2 ++ ((s.advance ms).1.advanceAll rest).2)

/-! ## Registrations -/

namespace Action

/-- Whether an action removes the tasks of a name. -/
def removes (name : String) : Action → Bool
  | cancel other => other = name
  | shutdown | drop => true
  | _ => false

def wait? : Action → Option Nat
  | advance ms => some ms
  | _ => none

end Action

/-- The waits that a task of a name goes through before it is removed. -/
def waits (name : String) (later : List Action) : List Nat :=
  (later.takeWhile fun a => !a.removes name).filterMap Action.wait?

/-- A registration among actions: the time of it, the task, and the actions that follow. -/
structure Registration where
  time : Nat
  name : String
  plan : Plan
  lengths : Nat → Nat
  later : List Action

/-- The registrations among actions that begin at a time. -/
def registrations (now : Nat) : List Action → List Registration
  | [] => []
  | .register name plan lengths :: later =>
    ⟨now, name, plan, lengths, later⟩ :: registrations now later
  | .advance ms :: later => registrations (now + waitOf ms) later
  | .drop :: _ => []
  | .cancel _ :: later | .shutdown :: later => registrations now later

namespace Registration

/-- A fresh schedule with the task alone. -/
def fresh (r : Registration) : Schedule :=
  Schedule.register ⟨r.time, []⟩ r.name r.plan r.lengths

def waits (r : Registration) : List Nat := Schedule.waits r.name r.later

/-- The fresh schedule when the task is removed, and what the task does there until then. -/
def alone (r : Registration) : Schedule × List Start := r.fresh.advanceAll r.waits

def isRemoved (r : Registration) : Bool := r.later.any (Action.removes r.name)

/-- How far the clock runs while the task stands. -/
def stop (r : Registration) : Nat := r.time + (r.waits.map waitOf).sum

/-- Whether the task has come to its end.  Nothing does before the clock runs. -/
def isFinished (r : Registration) : Bool :=
  r.waits ≠ [] && (r.plan.finish? r.time (waitOf ∘ r.lengths)).any (· ≤ r.stop)

/-- The starts of the task up to a time as they are planned: those of a cadence, none without a
period, and the one at the end of a delay. -/
def AsPlanned (r : Registration) (time : Nat) (starts : List Nat) : Prop :=
  match r.plan with
  | .every 0 => starts = []
  | .every period =>
    ∃ start, Cadence r.time period (waitOf ∘ r.lengths) start ∧
      ∃ count, starts = (List.range count).map start ∧ ∀ k, k < count ↔ start k ≤ time
  | .after delay =>
    starts = if r.time + waitOf delay ≤ time then [r.time + waitOf delay] else []

/-- What the task alone does up to a time. -/
def startsBy (r : Registration) (time : Nat) : List Start :=
  r.fresh.tasks.flatMap fun task => (task.runUntil time).1

end Registration

/-- The registrations among actions whose tasks are not removed by them. -/
def standing (now : Nat) (actions : List Action) : List Registration :=
  (registrations now actions).filter fun r => !r.isRemoved

/-! ### Tasks alone -/

variable {s : Schedule}

def Plan.work (now : Nat) : Plan → Work
  | every period => .every now period
  | after delay => .once (now + waitOf delay)

theorem register_eq (s : Schedule) (name : String) (plan : Plan) (lengths : Nat → Nat) :
    s.register name plan lengths =
      { s with tasks := s.tasks ++ [⟨name, waitOf ∘ lengths, plan.work s.now⟩] } := by
  cases plan <;> rfl

theorem advance_eq (s : Schedule) (ms : Nat) :
    s.advance ms =
      (⟨s.now + waitOf ms, s.tasks.map fun task => (task.runUntil (s.now + waitOf ms)).2⟩,
        s.tasks.flatMap fun task => (task.runUntil (s.now + waitOf ms)).1) := by
  simp only [advance, List.map_map, List.flatMap_map]
  rfl

theorem advanceAll_singleton (now : Nat) (task : Task) (waits : List Nat) :
    advanceAll ⟨now, [task]⟩ waits =
      (⟨now + (waits.map waitOf).sum, [(task.through now waits).2]⟩, (task.through now waits).1) := by
  induction waits generalizing now task with
  | nil => rfl
  | cons ms rest ih =>
    rw [advanceAll, advance_eq, List.map_singleton, List.flatMap_singleton, ih, Task.through_cons,
      List.map_cons, List.sum_cons, Nat.add_assoc]

namespace Registration

variable (r : Registration)

def task : Task := ⟨r.name, waitOf ∘ r.lengths, r.plan.work r.time⟩

theorem fresh_eq : r.fresh = ⟨r.time, [r.task]⟩ := by
  rw [fresh, register_eq]
  rfl

theorem alone_eq :
    r.alone = (⟨r.time + (r.waits.map waitOf).sum, [(r.task.through r.time r.waits).2]⟩,
      (r.task.through r.time r.waits).1) := by
  rw [alone, fresh_eq, advanceAll_singleton]

theorem startsBy_eq (time : Nat) : r.startsBy time = (r.task.runUntil time).1 := by
  rw [startsBy, fresh_eq, List.flatMap_singleton]

/-- Waits do to a task as much as one up to their end. -/
theorem through_waits (h : r.waits ≠ []) :
    r.task.through r.time r.waits = r.task.runUntil r.stop := by
  obtain ⟨ms, rest, hwaits⟩ := List.exists_cons_of_ne_nil h
  rw [stop, hwaits, Task.through_cons_eq, List.map_cons, List.sum_cons, Nat.add_assoc]

/-- The starts of a task alone depend on how long its schedule waits, not on how often. -/
theorem starts_alone : r.alone.2 = if r.waits = [] then [] else r.startsBy r.stop := by
  rw [alone_eq]
  split
  next h => rw [h, Task.through_nil]
  next h => rw [r.through_waits h, startsBy_eq]

/-- A task alone starts as planned. -/
theorem asPlanned_startsBy (time : Nat) :
    ∃ starts, r.startsBy time = starts.map (fun start => ⟨start, r.name⟩) ∧
      r.AsPlanned time starts := by
  refine ⟨_, (r.startsBy_eq time).trans (Task.starts_runUntil time _), ?_⟩
  show r.AsPlanned time ((r.plan.work r.time).runUntil time (waitOf ∘ r.lengths)).1
  unfold AsPlanned
  cases hplan : r.plan with
  | every period =>
    cases period with
    | zero => rfl
    | succ period =>
      have hstarts := Work.starts_every period.succ_pos r.time (waitOf ∘ r.lengths) time
      exact ⟨_, Turn.cadence .., hstarts⟩
  | after delay =>
    by_cases hstart : r.time + waitOf delay ≤ time <;> simp [Plan.work, Work.runUntil, hstart]

end Registration

/-! ## What is told apart -/

theorem waits_cons_of_removes {name : String} {a : Action} (h : a.removes name = true)
    (later : List Action) : waits name (a :: later) = [] := by
  simp [waits, h]

theorem waits_cons_of_not_removes {name : String} {a : Action} (h : a.removes name = false)
    (later : List Action) : waits name (a :: later) = a.wait?.toList ++ waits name later := by
  rw [waits, List.takeWhile_cons_of_pos (by simp [h]), List.filterMap_cons]
  cases a.wait? <;> rfl

/-- What is left of a list by a filter gives all that the list gives, if nothing else gives
anything. -/
theorem flatMap_filter_eq {α β : Type} {p : α → Bool} {f g : α → List β} {xs : List α}
    (hkept : ∀ x, p x = true → f x = g x) (hrest : ∀ x, p x = false → g x = []) :
    (xs.filter p).flatMap f = xs.flatMap g := by
  induction xs with
  | nil => rfl
  | cons x xs ih =>
    cases h : p x with
    | true => rw [List.filter_cons_of_pos h, List.flatMap_cons, List.flatMap_cons, ih, hkept x h]
    | false =>
      rw [List.filter_cons_of_neg (by simp [h]), List.flatMap_cons, ih, hrest x h, List.nil_append]

/-- The starts of a schedule are those of its tasks and of the tasks registered later, each on its
own. -/
theorem starts_actAll (s : Schedule) (actions : List Action) :
    (s.actAll actions).2.Perm
      ((s.tasks.flatMap fun task => (task.through s.now (waits task.name actions)).1) ++
        (registrations s.now actions).flatMap fun r => r.alone.2) := by
  induction actions generalizing s with
  | nil => simp [actAll, registrations, waits]
  | cons a later ih =>
    cases a with
    | register name plan lengths =>
      have hwaits : ∀ task : Task, waits task.name (.register name plan lengths :: later) =
          waits task.name later := fun task => waits_cons_of_not_removes rfl later
      refine (ih _).trans ?_
      simp only [register_eq, registrations, List.flatMap_append, List.flatMap_cons,
        List.flatMap_nil, List.append_nil, hwaits, Registration.alone_eq, List.append_assoc]
      rfl
    | cancel name =>
      refine (ih _).trans (List.Perm.of_eq ?_)
      refine congrArg (· ++ (registrations s.now later).flatMap fun r => r.alone.2) ?_
      refine flatMap_filter_eq (fun task htask => ?_) fun task htask => ?_
      · have hother : Action.removes task.name (.cancel name) = false :=
          decide_eq_false (Ne.symm (of_decide_eq_true htask))
        rw [waits_cons_of_not_removes hother]
        rfl
      · have hname : Action.removes task.name (.cancel name) = true :=
          decide_eq_true (Decidable.not_not.mp (of_decide_eq_false htask)).symm
        rw [waits_cons_of_removes hname, Task.through_nil]
    | advance ms =>
      have hwaits : ∀ task : Task, waits task.name (.advance ms :: later) =
          ms :: waits task.name later := fun task => waits_cons_of_not_removes rfl later
      have hlater := ih ⟨s.now + waitOf ms,
        s.tasks.map fun task => (task.runUntil (s.now + waitOf ms)).2⟩
      rw [List.flatMap_map] at hlater
      rw [actAll, advance_eq]
      refine (hlater.append_left _).trans ?_
      rw [← List.append_assoc]
      refine List.Perm.append_right _ ?_
      simp only [hwaits, Task.through_cons]
      exact List.flatMap_append_perm ..
    | shutdown =>
      have hnone : (s.tasks.flatMap fun task =>
          (task.through s.now (waits task.name (.shutdown :: later))).1) = [] := by
        simp [waits_cons_of_removes (a := .shutdown) rfl]
      rw [hnone]
      exact ih _
    | drop =>
      simp [actAll, registrations, waits_cons_of_removes (a := .drop) rfl]

/-- What is left of a task by actions from a time on. -/
def left (now : Nat) (actions : List Action) (task : Task) : List Task :=
  if actions.any (Action.removes task.name) then []
  else [(task.through now (waits task.name actions)).2]

theorem left_cons_of_removes {now : Nat} {task : Task} {a : Action}
    (h : a.removes task.name = true) (later : List Action) : left now (a :: later) task = [] := by
  rw [left, List.any_cons, h, Bool.true_or, if_pos rfl]

theorem left_cons_of_not_removes {now : Nat} {task : Task} {a : Action}
    (h : a.removes task.name = false) (hwait : a.wait? = none) (later : List Action) :
    left now (a :: later) task = left now later task := by
  rw [left, List.any_cons, h, Bool.false_or, waits_cons_of_not_removes h, hwait]
  rfl

/-- The tasks that a schedule has in the end are what is left of its own and of those registered
later, each on its own. -/
theorem tasks_actAll {last : Schedule} {actions : List Action}
    (h : (s.actAll actions).1 = some last) :
    last.tasks = s.tasks.flatMap (left s.now actions) ++
      (registrations s.now actions).flatMap fun r => left r.time r.later r.task := by
  induction actions generalizing s with
  | nil =>
    obtain rfl := Option.some.inj h
    have hleft : left s.now [] = fun task => [task] := rfl
    simp [hleft, registrations]
  | cons a later ih =>
    cases a with
    | register name plan lengths =>
      rw [ih h, register_eq, List.flatMap_append, List.flatMap_singleton, List.append_assoc]
      rfl
    | cancel name =>
      rw [ih h]
      refine congrArg (· ++ (registrations s.now later).flatMap fun r => left r.time r.later r.task)
        ?_
      refine flatMap_filter_eq (fun task htask => ?_) fun task htask => ?_
      · have hother : Action.removes task.name (.cancel name) = false :=
          decide_eq_false (Ne.symm (of_decide_eq_true htask))
        exact (left_cons_of_not_removes hother rfl later).symm
      · have hname : Action.removes task.name (.cancel name) = true :=
          decide_eq_true (Decidable.not_not.mp (of_decide_eq_false htask)).symm
        exact left_cons_of_removes hname later
    | advance ms =>
      rw [ih (s := (s.advance ms).1) h, advance_eq, List.flatMap_map]
      rfl
    | shutdown =>
      have hnone : s.tasks.flatMap (left s.now (.shutdown :: later)) = [] := by
        simp [left_cons_of_removes (a := .shutdown) rfl]
      rw [ih h, hnone]
      rfl
    | drop => exact nomatch h

/-! ## Clocks -/

/-- How long actions let a schedule wait. -/
def elapsed (actions : List Action) : Nat := ((actions.filterMap Action.wait?).map waitOf).sum

/-- A schedule is there unless it has been dropped. -/
theorem isSome_actAll (s : Schedule) (actions : List Action) :
    (s.actAll actions).1.isSome = true ↔ Action.drop ∉ actions := by
  induction actions generalizing s with
  | nil => simp [actAll]
  | cons a later ih => cases a <;> simp [actAll, ih]

theorem waits_of_not_removed {name : String} {later : List Action}
    (h : later.any (Action.removes name) = false) :
    waits name later = later.filterMap Action.wait? := by
  induction later with
  | nil => rfl
  | cons a later ih =>
    obtain ⟨ha, hlater⟩ := Bool.or_eq_false_iff.mp ((List.any_cons).symm.trans h)
    rw [waits_cons_of_not_removes ha, ih hlater, List.filterMap_cons]
    cases a.wait? <;> rfl

theorem elapsed_cons_of_no_wait {a : Action} (h : a.wait? = none) (later : List Action) :
    elapsed (a :: later) = elapsed later := by
  rw [elapsed, List.filterMap_cons_none h, elapsed]

theorem elapsed_advance (ms : Nat) (later : List Action) :
    elapsed (.advance ms :: later) = waitOf ms + elapsed later := rfl

/-- From a registration on the clock goes as far as from the beginning. -/
theorem time_add_elapsed {now : Nat} {actions : List Action} {r : Registration}
    (hr : r ∈ registrations now actions) : r.time + elapsed r.later = now + elapsed actions := by
  induction actions generalizing now with
  | nil => exact absurd hr List.not_mem_nil
  | cons a later ih =>
    cases a with
    | register name plan lengths =>
      rw [elapsed_cons_of_no_wait rfl]
      rcases List.mem_cons.mp hr with rfl | hr
      · rfl
      · exact ih hr
    | advance ms => rw [ih hr, elapsed_advance, Nat.add_assoc]
    | drop => exact absurd hr List.not_mem_nil
    | cancel name => rw [ih hr, elapsed_cons_of_no_wait rfl]
    | shutdown => rw [ih hr, elapsed_cons_of_no_wait rfl]

theorem now_actAll {last : Schedule} {actions : List Action}
    (h : (s.actAll actions).1 = some last) : last.now = s.now + elapsed actions := by
  induction actions generalizing s with
  | nil =>
    obtain rfl := Option.some.inj h
    rfl
  | cons a later ih =>
    cases a with
    | register name plan lengths =>
      rw [elapsed_cons_of_no_wait rfl, ih h, register_eq]
    | advance ms =>
      rw [elapsed_advance, ih (s := (s.advance ms).1) h, advance_eq, Nat.add_assoc]
    | cancel name => rw [elapsed_cons_of_no_wait rfl, ih (s := (s.cancel name).1) h]; rfl
    | shutdown => rw [elapsed_cons_of_no_wait rfl, ih (s := s.shutdown.1) h]; rfl
    | drop => exact nomatch h

namespace Registration

/-- What is left of the task alone. -/
def rest (r : Registration) : Task := (r.task.through r.time r.waits).2

theorem name_rest (r : Registration) : r.rest.name = r.name := by
  rw [rest, Task.name_through]
  rfl

theorem left_task (r : Registration) :
    left r.time r.later r.task = if r.isRemoved then [] else [r.rest] := rfl

theorem stop_of_standing {now : Nat} {actions : List Action} {r : Registration}
    (hr : r ∈ standing now actions) : r.stop = now + elapsed actions := by
  obtain ⟨hr, hkept⟩ := List.mem_filter.mp hr
  have hwaits : r.waits = r.later.filterMap Action.wait? :=
    waits_of_not_removed (Bool.not_eq_true' _ ▸ hkept)
  rw [stop, hwaits]
  exact time_add_elapsed hr

theorem alone_fst (r : Registration) : r.alone.1 = ⟨r.stop, [r.rest]⟩ := by
  rw [alone_eq]
  rfl

/-- A task is live while the clock has not run. -/
theorem isLive_work (plan : Plan) (now time : Nat) : (plan.work now).isLive time = true := by
  cases plan with
  | every period => cases period <;> rfl
  | after delay => rfl

/-- Once the clock has run to a time, a task is live exactly if its end is later. -/
theorem isLive_runUntil (plan : Plan) (lengths : Nat → Nat) {now time : Nat} (h : now ≤ time) :
    ((plan.work now).runUntil time lengths).2.isLive time =
      !(plan.finish? now lengths).any (· ≤ time) := by
  cases plan with
  | every period =>
    cases period with
    | zero => simp [Plan.work, Work.every, Work.runUntil, Work.isLive, Plan.finish?, h]
    | succ period => rfl
  | after delay =>
    by_cases hstart : now + waitOf delay ≤ time
    · simp only [Plan.work, Work.runUntil, if_pos hstart, Work.isLive, Plan.finish?,
        Option.any_some, ← decide_not, Nat.not_le]
    · have hend : ¬now + waitOf delay + lengths 0 ≤ time := by omega
      simp [Plan.work, Work.runUntil, Work.isLive, Plan.finish?, hstart, hend]

theorem isLive_rest (r : Registration) : r.rest.isLive r.stop = !r.isFinished := by
  unfold rest isFinished
  by_cases h : r.waits = []
  · rw [h, Task.through_nil]
    exact isLive_work r.plan r.time r.stop
  · rw [r.through_waits h, decide_eq_true h, Bool.true_and]
    exact isLive_runUntil r.plan (waitOf ∘ r.lengths) (Nat.le_add_right r.time _)

end Registration

/-! ## What a schedule answers -/

section Answers

variable {last : Schedule} {actions : List Action}

/-- After actions on an empty schedule its tasks are those of the standing registrations. -/
theorem tasks_eq_standing (h : (empty.actAll actions).1 = some last) :
    last.tasks = (standing 0 actions).map Registration.rest := by
  have hleft : (standing 0 actions).flatMap (fun r => [r.rest]) =
      (registrations 0 actions).flatMap fun r => left r.time r.later r.task := by
    refine flatMap_filter_eq (fun r hr => ?_) fun r hr => ?_
    · rw [Registration.left_task, if_neg (by simpa using hr)]
    · rw [Registration.left_task, if_pos (by simpa using hr)]
  exact (tasks_actAll h).trans (hleft.symm.trans List.map_eq_flatMap.symm)

theorem stop_eq (h : (empty.actAll actions).1 = some last) {r : Registration}
    (hr : r ∈ standing 0 actions) : r.stop = last.now := by
  rw [Registration.stop_of_standing hr, now_actAll h]
  rfl

theorem active_eq_countP (h : (empty.actAll actions).1 = some last) :
    last.active = (standing 0 actions).countP fun r => !r.isFinished := by
  rw [active, tasks_eq_standing h, List.countP_map]
  refine List.countP_congr fun r hr => ?_
  rw [Function.comp_apply, ← stop_eq h hr, Registration.isLive_rest]

theorem cancel_eq_countP (h : (empty.actAll actions).1 = some last) (name : String) :
    (last.cancel name).2.1 =
      (standing 0 actions).countP fun r => r.name = name && !r.isFinished := by
  rw [cancel, tasks_eq_standing h, List.countP_map]
  refine List.countP_congr fun r hr => ?_
  rw [Function.comp_apply, Registration.name_rest, ← stop_eq h hr, Registration.isLive_rest]

theorem advance_eq_flatMap (h : (empty.actAll actions).1 = some last) (ms : Nat) :
    (last.advance ms).2 = (standing 0 actions).flatMap fun r => (r.alone.1.advance ms).2 := by
  rw [advance_eq, tasks_eq_standing h, List.flatMap_map]
  refine List.flatMap_congr fun r hr => ?_
  rw [advance_eq, Registration.alone_fst, List.flatMap_singleton, stop_eq h hr]

theorem tasks_cancel (h : (empty.actAll actions).1 = some last) (name : String) :
    (last.cancel name).1.tasks =
      ((standing 0 actions).filter fun r => r.name ≠ name).map Registration.rest := by
  rw [cancel, tasks_eq_standing h, List.filter_map]
  refine congrArg (List.map Registration.rest) (List.filter_congr fun r _ => ?_)
  rw [Function.comp_apply, Registration.name_rest]

end Answers

/-- Each registration acts as it would alone in a fresh schedule from its time on, until it is
removed.  The starts are those of all the fresh schedules; alone, a task starts as planned up to
where the clock goes while the registration stands, whatever the waits that bring it there.  The
live tasks are those that are neither removed nor at their end, and cancelling a name gives the
number of these that have it and leaves all others as they are. -/
theorem acts_apart (actions : List Action) :
    (empty.actAll actions).2.Perm ((registrations 0 actions).flatMap fun r => r.alone.2) ∧
      (∀ r : Registration, r.alone.2 = if r.waits = [] then [] else r.startsBy r.stop) ∧
      (∀ (r : Registration) (time : Nat), ∃ starts,
        r.startsBy time = starts.map (fun start => ⟨start, r.name⟩) ∧ r.AsPlanned time starts) ∧
      ((empty.actAll actions).1.isSome = true ↔ Action.drop ∉ actions) ∧
      ∀ s, (empty.actAll actions).1 = some s →
        s.tasks = (standing 0 actions).flatMap (fun r => r.alone.1.tasks) ∧
        (∀ ms, (s.advance ms).2 =
          (standing 0 actions).flatMap fun r => (r.alone.1.advance ms).2) ∧
        (∀ name, (s.cancel name).2.1 =
          (standing 0 actions).countP fun r => r.name = name && !r.isFinished) ∧
        (∀ name, (s.cancel name).1.tasks =
          ((standing 0 actions).filter fun r => r.name ≠ name).flatMap fun r => r.alone.1.tasks) ∧
        (s.active = (standing 0 actions).countP fun r => !r.isFinished) ∧
        s.shutdown.1.active = 0 := by
  refine ⟨starts_actAll empty actions, Registration.starts_alone,
    Registration.asPlanned_startsBy, isSome_actAll empty actions, fun s hs => ?_⟩
  have halone : ∀ rs : List Registration,
      (rs.flatMap fun r => r.alone.1.tasks) = rs.map Registration.rest := by
    intro rs
    simp only [Registration.alone_fst]
    exact List.map_eq_flatMap.symm
  refine ⟨?_, advance_eq_flatMap hs, cancel_eq_countP hs, fun name => ?_, active_eq_countP hs, rfl⟩
  · rw [halone, tasks_eq_standing hs]
  · rw [halone, tasks_cancel hs]

/-- Of five tasks four have the name that is cancelled.  One of these is in the middle of its run
and one runs on; the run of another is over, and the last has no period. -/
theorem cancel_while_running :
    let actions : List Action :=
      [.register "poll" (.every 10) fun _ => 0, .register "once" (.after 5) fun _ => 0,
        .register "poll" (.after 3) fun _ => 4, .register "poll" (.after 1) fun _ => 2,
        .register "poll" (.every 0) fun _ => 0, .advance 4]
    ∃ s, (empty.actAll actions).1 = some s ∧
      (s.cancel "poll").2.1 =
        (standing 0 actions).countP (fun r => r.name = "poll" && !r.isFinished) ∧
      (standing 0 actions).map Registration.isFinished = [false, false, false, true, true] ∧
      (s.cancel "poll").2.1 = 2 := by
  intro actions
  have hcancel := ((acts_apart actions).2.2.2.2 _ rfl).2.2.1 "poll"
  exact ⟨_, rfl, hcancel, by decide, hcancel.trans (by decide)⟩

/-- A task without a period is live until the clock runs. -/
example : ((empty.every "tick" 0 fun _ => 0).1.cancel "tick").2.1 = 1 ∧
    (((empty.every "tick" 0 fun _ => 0).1.advance 0).1.cancel "tick").2.1 = 0 := by decide

end Schedule
end PoolPage
