import PoolPage.Proofs.Dashboard.Ledger

/-!
# The turns of a periodic task

A periodic task of a page load has one turn on the agenda at a time.  While its turns are over as
soon as they begin, the next one starts when it is due (`Awaits`), and the one after it a
period later.  The first one is due at the start of the page load, if nothing of the one
before it is left (`Idle`).
-/

namespace PoolPage

/-- The turn after one that is due, started and over at one time is a period later. -/
theorem Turn.next_of_now {turn : Turn} {now : Nat} (hdue : turn.due = now)
    (hstart : turn.start = now) (period : Nat) :
    (turn.next period (now - turn.start)).due = now + period ∧
      (turn.next period (now - turn.start)).start = now + period := by
  have hnext : nextDue period turn.due turn.start = now + period := by
    rw [hdue, hstart, nextDue, if_neg (by omega)]
  refine ⟨hnext, ?_⟩
  rw [start_next, hnext]
  omega

namespace Dashboard

variable {d e : Dashboard} {happening : Happening} {kind : Event → Bool} {task : Turn → Event}
  {time : Nat}

/-- The one appointment of a kind is a turn of a task that starts at a time, when it is due. -/
inductive Awaits (d : Dashboard) (kind : Event → Bool) (task : Turn → Event) (time : Nat) : Prop
  | intro {a : Appointment Event} {turn : Turn} (hplanned : d.planned kind = [a])
    (hevent : a.event = task turn) (htime : a.time = time) (hdue : turn.due = time)
    (hstart : turn.start = time)

namespace Awaits

theorem lt_of_settled (h : d.Awaits kind task time) (hd : d.Settled) : d.now < time := by
  obtain ⟨hplanned, -, rfl, -, -⟩ := h
  exact hd _ (mem_of_planned_eq hplanned).1

theorem now_le (h : d.Awaits kind task time) (hgo : d.Goes happening e) (hnow : d.now ≤ time) :
    e.now ≤ time := by
  obtain ⟨hplanned, -, rfl, -, -⟩ := h
  exact hgo.now_le_time (mem_of_planned_eq hplanned).1 hnow

/-- The turn stays on the agenda until it comes. -/
theorem goes (hkind : ∀ event, kind event = true → event.isDuty = true)
    (h : d.Awaits kind task time) (hgo : d.Goes happening e)
    (hload : happening.isRestart = false) :
    (happening.event?.any kind = false ∧
      ((d.books happening).duties.filter (fun a => kind a.event) = [] →
        e.Awaits kind task time)) ∨
      ∃ turn : Turn, happening = .event (task turn) ∧ kind (task turn) = true ∧ time = d.now ∧
        turn.due = d.now ∧ turn.start = d.now ∧
        (e.planned kind).Perm ((d.books happening).duties.filter fun a => kind a.event) := by
  obtain ⟨hplanned, hevent, htime, hdue, hstart⟩ := h
  rcases hgo.planned_of_singleton hkind hload hplanned with
    ⟨hother, hperm⟩ | ⟨hturn, hdone, hperm⟩
  · refine .inl ⟨hother, fun hnone => ?_⟩
    rw [hnone] at hperm
    exact ⟨hperm.eq_singleton, hevent, htime, hdue, hstart⟩
  · have hnow : time = d.now := htime.symm.trans hdone
    refine .inr ⟨_, hevent ▸ hturn, hevent ▸ (mem_of_planned_eq hplanned).2, hnow,
      hdue.trans hnow, hstart.trans hnow, hperm⟩

/-- When a turn is over at once, the next one comes a period later. -/
theorem of_renewal {turn : Turn} {period : Nat} (hdue : turn.due = d.now)
    (hstart : turn.start = d.now)
    (hperm : (e.planned kind).Perm [d.renewal period turn task]) :
    e.Awaits kind task (d.now + period) := by
  obtain ⟨hnextdue, hnextstart⟩ := Turn.next_of_now hdue hstart period
  exact ⟨hperm.eq_singleton, rfl, hnextstart, hnextdue, hnextstart⟩

end Awaits

/-- Nothing of a page load is under way. -/
def Idle (d : Dashboard) : Prop := ∀ a ∈ d.agenda, a.event.outlives = true

theorem Idle.planned_eq_nil (h : d.Idle) {kind : Event → Bool}
    (hkind : kind .chartSettles = false) : d.planned kind = [] := by
  refine List.filter_eq_nil_iff.mpr fun a ha => ?_
  have houtlives := h a ha
  cases hevent : a.event with
  | chartSettles => simp [hkind]
  | _ =>
    rw [hevent] at houtlives
    cases houtlives

theorem idle_new (settings : Settings) (mode : Mode) (backend : Backend) (screen : Screen)
    (store : Store) (epoch : Nat) : (new settings mode backend screen store epoch).Idle :=
  List.forall_mem_nil _

/-- The first turn of a task is due at the start of a page load. -/
theorem Idle.awaits_start (h : d.Idle) (hkind : ∀ event, kind event = true → event.isDuty = true)
    (hchart : kind .chartSettles = false) {route : String}
    (hfirst : ((d.cleared route).loadBooks route).duties.filter (fun a => kind a.event) =
      [(d.cleared route).ordered 0 (task (Turn.first d.now))]) :
    (d.start route).Awaits kind task d.now := by
  have hperm := planned_start d route hkind
  rw [h.planned_eq_nil hchart, hfirst] at hperm
  exact ⟨hperm.eq_singleton, rfl, rfl, rfl, rfl⟩

theorem firstTurns_of_pos (d : Dashboard) {period : Nat} (h : 0 < period) (task : Turn → Event) :
    d.firstTurns period task = [d.ordered 0 (task (Turn.first d.now))] :=
  if_neg (Nat.ne_of_gt h)

end Dashboard
end PoolPage
