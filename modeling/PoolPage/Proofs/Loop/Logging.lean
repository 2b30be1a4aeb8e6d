import PoolPage.Proofs.Dashboard.Ledger
import PoolPage.Proofs.Dashboard.Logging
import PoolPage.Proofs.Loop.Reloads

/-!
# Logging is a filter

A loop under a filter does with its dashboard under that filter what a loop does (`gate_takeAll`).
So what is logged under a filter is what the filter accepts of all that is logged, and nothing else
depends on the filter (`log_is_filtered`).
-/

namespace PoolPage

/-! ## A loop under a filter -/

namespace Log.Filter

variable (f : Filter)

def renew (d : Dashboard) : Dashboard :=
  let d := f.shutdown d
  let d := f.note d [Log.record .info .schedule "reload" [("route", .string d.session.route)]]
  f.start d d.session.route

def renewExpired (d : Dashboard) : Dashboard :=
  if d.session.expired && !d.isBusy then f.renew d else d

def leave (d : Dashboard) : Dashboard :=
  f.note (f.shutdown d) [Log.record .info .system "shutdown" []]

def attend (isOpen : Bool) : List Command → Dashboard → Loop
  | [], d =>
    let d := f.renewExpired d
    if d.isBusy || isOpen then ⟨d, [], isOpen, false⟩ else ⟨f.leave d, [], isOpen, true⟩
  | command :: rest, d =>
    let d := f.renewExpired d
    if d.isBusy then ⟨d, command :: rest, isOpen, false⟩
    else
      match command with
      | .quit => ⟨f.leave d, [], isOpen, true⟩
      | .reload => attend isOpen rest (f.renew d)
      | command => attend isOpen rest (f.handle d command)

def goOn (loop : Loop) : Loop :=
  if loop.isOver then loop else f.attend loop.isOpen loop.inbox loop.dashboard

def startLoop (d : Dashboard) : Loop := f.attend true [] (f.start d d.settings.startRoute)

def stepLoop? (horizon : Nat) (loop : Loop) : Option Loop :=
  (f.step? loop.dashboard horizon).map fun dashboard => f.goOn { loop with dashboard }

def advanceLoopTo (horizon : Nat) (loop : Loop) : Loop :=
  let loop := Dashboard.iterate (f.stepLoop? horizon) (loop.workload horizon) loop
  { loop with dashboard := { loop.dashboard with now := max loop.dashboard.now horizon } }

def take (loop : Loop) : Loop.Input → Loop
  | .send command =>
    if loop.isOver then loop else f.goOn { loop with inbox := loop.inbox ++ [command] }
  | .close => f.goOn { loop with isOpen := false }
  | .wait ms => f.advanceLoopTo (loop.dashboard.now + waitOf ms) loop

def takeAll (loop : Loop) (inputs : List Loop.Input) : Loop := inputs.foldl f.take loop

end Log.Filter

namespace Loop

def gate (f : Log.Filter) (loop : Loop) : Loop :=
  { loop with dashboard := loop.dashboard.gate f }

variable (f : Log.Filter) (loop : Loop)

theorem gate_everything : loop.gate .everything = loop := by
  rw [gate, Dashboard.gate_everything]

theorem gate_renew (d : Dashboard) : (renew d).gate f = f.renew (d.gate f) := by
  rw [Log.Filter.renew, ← Dashboard.gate_shutdown, ← Dashboard.gate_note]
  exact Dashboard.gate_start f _ _

theorem gate_renewExpired (d : Dashboard) :
    (renewExpired d).gate f = f.renewExpired (d.gate f) := by
  have hdue : ((d.gate f).session.expired && !(d.gate f).isBusy) =
      (d.session.expired && !d.isBusy) := rfl
  unfold renewExpired Log.Filter.renewExpired
  rw [hdue]
  split
  · exact gate_renew f d
  · rfl

theorem isBusy_renewExpired (d : Dashboard) :
    (f.renewExpired (d.gate f)).isBusy = (renewExpired d).isBusy := by
  rw [← gate_renewExpired]
  rfl

theorem gate_leave (d : Dashboard) : (leave d).gate f = f.leave (d.gate f) := by
  rw [leave, Dashboard.gate_note, Dashboard.gate_shutdown]
  rfl

theorem gate_attend (isOpen : Bool) (inbox : List Command) (d : Dashboard) :
    (attend isOpen inbox d).gate f = f.attend isOpen inbox (d.gate f) := by
  induction inbox generalizing d with
  | nil =>
    unfold attend Log.Filter.attend
    dsimp only
    rw [isBusy_renewExpired]
    split
    · rw [← gate_renewExpired]
      rfl
    · rw [← gate_renewExpired, ← gate_leave]
      rfl
  | cons command rest ih =>
    unfold attend Log.Filter.attend
    dsimp only
    rw [isBusy_renewExpired]
    split
    · rw [← gate_renewExpired]
      rfl
    · cases command with
      | quit =>
        dsimp only
        rw [← gate_renewExpired, ← gate_leave]
        rfl
      | reload =>
        dsimp only
        rw [ih, gate_renew, gate_renewExpired]
      | _ =>
        dsimp only
        rw [ih, Dashboard.gate_handle, gate_renewExpired]

theorem gate_goOn : loop.goOn.gate f = f.goOn (loop.gate f) := by
  have hover : (loop.gate f).isOver = loop.isOver := rfl
  unfold goOn Log.Filter.goOn
  rw [hover]
  split
  · rfl
  · exact gate_attend f _ _ _

theorem gate_start (d : Dashboard) : (start d).gate f = f.startLoop (d.gate f) := by
  rw [start, gate_attend, Dashboard.gate_start]
  rfl

theorem gate_step? (horizon : Nat) :
    (loop.step? horizon).map (gate f) = f.stepLoop? horizon (loop.gate f) := by
  have hstep : f.step? (loop.gate f).dashboard horizon =
      (loop.dashboard.step? horizon).map (Dashboard.gate f) :=
    (Dashboard.gate_step? f loop.dashboard horizon).symm
  unfold step? Log.Filter.stepLoop?
  rw [hstep, Option.map_map, Option.map_map]
  exact Option.map_congr fun dashboard _ => gate_goOn f { loop with dashboard }

theorem gate_advanceTo (horizon : Nat) :
    (loop.advanceTo horizon).gate f = f.advanceLoopTo horizon (loop.gate f) := by
  have hsteps : (loop.gate f).workload horizon = loop.workload horizon := rfl
  have hiterate : (Dashboard.iterate (step? horizon) (loop.workload horizon) loop).gate f =
      Dashboard.iterate (f.stepLoop? horizon) (loop.workload horizon) (loop.gate f) :=
    Dashboard.map_iterate (fun loop => gate_step? f loop horizon) _ loop
  rw [Log.Filter.advanceLoopTo, hsteps, ← hiterate]
  rfl

theorem gate_take (input : Input) : (loop.take input).gate f = f.take (loop.gate f) input := by
  cases input with
  | send command =>
    have hover : (loop.gate f).isOver = loop.isOver := rfl
    unfold take send Log.Filter.take
    dsimp only
    rw [hover]
    split
    · rfl
    · exact gate_goOn f _
  | close => exact gate_goOn f _
  | wait ms => exact gate_advanceTo f loop _

theorem gate_takeAll (inputs : List Input) :
    (loop.takeAll inputs).gate f = f.takeAll (loop.gate f) inputs := by
  induction inputs generalizing loop with
  | nil => rfl
  | cons input rest ih =>
    exact (ih _).trans (congrArg (fun loop => f.takeAll loop rest) (gate_take f loop input))

end Loop

/-! ## Runs under filters -/

/-- All of a dashboard but what it has logged. -/
def Dashboard.unlogged (d : Dashboard) : Dashboard := { d with log := [] }

def Loop.unlogged (loop : Loop) : Loop := { loop with dashboard := loop.dashboard.unlogged }

open Log.Filter Log.Sinks

namespace Log

/-- A run that is given for each filter goes the same way under all of them.  Under two settings it
logs, of what it logs with all levels and components, the records from the level on that the one
sets, of the components that the other selects; and each is written to the one sink for its level.
-/
structure IsFiltered (run : Filter → Dashboard) : Prop where
  same : ∀ f g, (run f).unlogged = (run g).unlogged
  log : ∀ setting components, ∃ level : Level, level.IsSetBy setting ∧
    (run (ofSettings setting components)).log =
      (run everything).log.filter fun r => r.level ∈ level.upward ∧ Selects components r.component
  sinks : ∀ f, Sinks.ofRecords (run f).log =
    { events := (run f).log.filter fun r => ¬ IsDetail r
      trace := (run f).log.filter IsDetail }

theorem isFiltered_gate (d : Dashboard) : IsFiltered fun f => d.gate f where
  same := fun _ _ => rfl
  log := fun setting components => by
    refine ⟨_, isSetBy_levelOf setting, ?_⟩
    rw [Dashboard.gate_everything]
    refine List.filter_congr fun r _ => ?_
    rw [← Bool.coe_iff_coe, accepts_ofSettings_iff, decide_eq_true_iff]
  sinks := fun f => foldl_write _ _

/-- What is done to a dashboard, or to a loop around it, is done alike under all filters, and with
all records it is what the program does. -/
theorem log_is_filtered (d : Dashboard) :
    (∀ doings, IsFiltered (fun f => f.undergo (d.gate f) doings) ∧
      everything.undergo d doings = d.undergo doings) ∧
    ∀ inputs, IsFiltered (fun f => (f.takeAll (f.startLoop (d.gate f)) inputs).dashboard) ∧
      (∀ f g : Filter, (f.takeAll (f.startLoop (d.gate f)) inputs).unlogged =
        (g.takeAll (g.startLoop (d.gate g)) inputs).unlogged) ∧
      everything.takeAll (everything.startLoop d) inputs = (Loop.start d).takeAll inputs := by
  have hundergo : ∀ doings f, f.undergo (d.gate f) doings = (d.undergo doings).gate f :=
    fun doings f => (Dashboard.gate_undergo f d doings).symm
  have htakeAll : ∀ inputs f, f.takeAll (f.startLoop (d.gate f)) inputs =
      ((Loop.start d).takeAll inputs).gate f := fun inputs f => by
    rw [Loop.gate_takeAll, Loop.gate_start]
  refine ⟨fun doings => ⟨?_, ?_⟩, fun inputs => ⟨?_, fun f g => ?_, ?_⟩⟩
  · simp only [hundergo]
    exact isFiltered_gate _
  · have hall := hundergo doings everything
    rwa [Dashboard.gate_everything, Dashboard.gate_everything] at hall
  · simp only [htakeAll]
    exact isFiltered_gate _
  · rw [htakeAll, htakeAll]
    rfl
  · have hall := htakeAll inputs everything
    rwa [Dashboard.gate_everything, Loop.gate_everything] at hall

/-- A page load under a filter for two components from `info` on.  Of the records about tasks none
is severe enough, and two that are severe enough are about other components. -/
theorem log_is_filtered_at_start :
    let run (f : Filter) := f.undergo ((Dashboard.onStore none).gate f) [.start ""]
    let listed := ofSettings (some "info") (some "schedule, router")
    (run everything).log.map (·.event) =
        ["address_load_failed", "task_start", "task_start", "task_start", "task_start", "navigate",
          "session_start"] ∧
      (run listed).log.map (·.event) = ["navigate"] ∧
      (run listed).unlogged = (run everything).unlogged := by
  intro run listed
  have hfiltered : IsFiltered run := ((log_is_filtered (Dashboard.onStore none)).1 _).1
  obtain ⟨level, hlevel, hlog⟩ := hfiltered.log (some "info") (some "schedule, router")
  obtain rfl : level = .info := hlevel.unique (.inl rfl)
  refine ⟨by decide +kernel, ?_, hfiltered.same _ _⟩
  rw [hlog]
  decide +kernel

end Log
end PoolPage
