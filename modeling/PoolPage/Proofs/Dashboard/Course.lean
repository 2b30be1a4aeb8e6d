import PoolPage.Proofs.Dashboard.Pages

/-!
# The course of a dashboard

What comes about for a dashboard are `Happening`s: commands of the visitor, events of its
agenda, time that passes, page loads, and changes of the outside world and of the store.
A `Course` leads from one dashboard to another along a past, which lists what happened and
when, the newest first.

A command may come at any moment of a course, also between two events that are due at one
time.  So courses are finer than lives, in which all that is due has happened before a
command comes, and every life is a course (`exists_course_live`).  A law of all courses
is proved by what each happening does to it.
-/

namespace PoolPage

inductive Happening where
  | command (command : Command)
  /-- The first event of the agenda, at its time. -/
  | event (event : Event)
  /-- Time passes until a time. -/
  | clock (time : Nat)
  /-- The outside world answers otherwise from now on. -/
  | answers (backend : Backend)
  /-- Something else is kept in the store from now on. -/
  | exchange (store : Store)
  /-- The page is left and loaded anew. -/
  | restart (route : String)

namespace Happening

def isRestart : Happening → Bool
  | restart _ => true
  | _ => false

def isExchange : Happening → Bool
  | exchange _ => true
  | _ => false

/-- Whether a happening is the dashboard's own doing or the passing of time. -/
def isOwn : Happening → Bool
  | event _ | clock _ => true
  | _ => false

theorem isRestart_of_isOwn {happening : Happening} (h : happening.isOwn = true) :
    happening.isRestart = false := by
  cases happening <;> first | rfl | cases h

end Happening

structure Incident where
  time : Nat
  happening : Happening

/-- Whether all of a past belongs to one page load. -/
def IsOneLoad (past : List Incident) : Prop := ∀ x ∈ past, x.happening.isRestart = false

theorem isOneLoad_of_isOwn {past : List Incident} (h : ∀ x ∈ past, x.happening.isOwn = true) :
    IsOneLoad past := fun x hx => Happening.isRestart_of_isOwn (h x hx)

theorem IsOneLoad.given {before after : List Incident} (hbefore : IsOneLoad before)
    (hafter : IsOneLoad after) (time : Nat) (command : Command) :
    IsOneLoad (after ++ ⟨time, .command command⟩ :: before) :=
  List.forall_mem_append.mpr ⟨hafter, List.forall_mem_cons.mpr ⟨rfl, hbefore⟩⟩

namespace Dashboard

/-- What a happening makes of a dashboard.  Events happen in the order of the agenda, at their
times, and time does not pass by what is still due. -/
inductive Goes : Dashboard → Happening → Dashboard → Prop
  | command (d : Dashboard) (command : Command) : Goes d (.command command) (d.handle command)
  | event {d : Dashboard} {a : Appointment Event} {rest : Agenda Event}
    (hagenda : d.agenda = a :: rest) (htime : a.time = d.now) :
    Goes d (.event a.event) ((d.meet a rest).happen a.event)
  | clock {d : Dashboard} {time : Nat} (hnow : d.now ≤ time)
    (hdue : ∀ a ∈ d.agenda, time ≤ a.time) : Goes d (.clock time) { d with now := time }
  | answers (d : Dashboard) (backend : Backend) : Goes d (.answers backend) { d with backend }
  | exchange (d : Dashboard) (store : Store) : Goes d (.exchange store) { d with store }
  | restart (d : Dashboard) (records : List Log.Record) (route : String) :
    Goes d (.restart route) ((d.shutdown.note records).start route)

inductive Course (d : Dashboard) : List Incident → Dashboard → Prop
  | refl : Course d [] d
  | go {e f : Dashboard} {past : List Incident} {happening : Happening} :
    Course d past e → e.Goes happening f → Course d (⟨e.now, happening⟩ :: past) f

/-- Nothing is due. -/
def Settled (d : Dashboard) : Prop := ∀ a ∈ d.agenda, d.now < a.time

variable {d e f : Dashboard} {past past' : List Incident} {happening : Happening}

/-! ## What every happening keeps -/

namespace Goes

theorem settings_eq (h : d.Goes happening e) : e.settings = d.settings := by
  cases h with
  | command command => rw [handle_eq, makeAll_settings]
  | event hagenda htime =>
    rw [happen_eq, makeAll_settings]
    rfl
  | restart records route =>
    rw [start_eq, makeAll_settings]
    rfl
  | _ => rfl

theorem now_le (h : d.Goes happening e) : d.now ≤ e.now := by
  cases h with
  | command command => exact Nat.le_of_eq (by rw [handle_eq, makeAll_now])
  | event hagenda htime =>
    rw [happen_eq, makeAll_now]
    exact Nat.le_of_eq htime.symm
  | clock hnow hdue => exact hnow
  | restart records route =>
    rw [start_eq, makeAll_now]
    exact Nat.le_refl _
  | _ => exact Nat.le_refl _

/-- Time does not pass by what is on the agenda. -/
theorem now_le_time (h : d.Goes happening e) {a : Appointment Event} (ha : a ∈ d.agenda)
    (hle : d.now ≤ a.time) : e.now ≤ a.time := by
  cases h with
  | command command => rwa [handle_eq, makeAll_now]
  | event hagenda htime =>
    rw [happen_eq, makeAll_now]
    exact Nat.le_trans (Nat.le_of_eq htime) hle
  | clock hnow hdue => exact hdue a ha
  | restart records route => rwa [start_eq, makeAll_now]
  | _ => exact hle

theorem now_of_event {event : Event} (h : d.Goes (.event event) e) : e.now = d.now := by
  cases h with
  | event hagenda htime =>
    rw [happen_eq, makeAll_now]
    exact htime

theorem wellTimed (h : d.Goes happening e) (hd : d.WellTimed) : e.WellTimed := by
  cases h with
  | command command => exact hd.handle command
  | @event a rest hagenda htime =>
    obtain ⟨hmeet, hnext⟩ := hd.timely_meet hagenda
    rw [happen_eq]
    exact hmeet.makeAll (Changes.isProper_happen (d.meet a rest) a.lane hnext)
  | clock hnow hdue =>
    exact ⟨hd.isOrdered, fun a ha => (hd.timely a ha).later hnow (hdue a ha)⟩
  | restart records route =>
    have hnoted : (d.shutdown.note records).WellTimed :=
      ⟨hd.shutdown.isOrdered, hd.shutdown.timely⟩
    exact hnoted.start route
  | _ => exact ⟨hd.isOrdered, hd.timely⟩

theorem shown (h : d.Goes happening e) (hd : Shown d.screen.page) : Shown e.screen.page := by
  cases h with
  | command command => exact shown_handle hd command
  | event hagenda htime =>
    rw [happen_eq]
    exact shown_makeAll (d := d.meet _ _) hd (Changes.isSound_happen _ _)
  | restart records route => exact shown_start _ route
  | _ => exact hd

end Goes

namespace Course

theorem trans (h : d.Course past e) (h' : e.Course past' f) : d.Course (past' ++ past) f := by
  induction h' with
  | refl => exact h
  | go _ hgo ih => exact .go ih hgo

theorem settings_eq (h : d.Course past e) : e.settings = d.settings := by
  induction h with
  | refl => rfl
  | go _ hgo ih => exact hgo.settings_eq.trans ih

theorem now_le (h : d.Course past e) : d.now ≤ e.now := by
  induction h with
  | refl => exact Nat.le_refl _
  | go _ hgo ih => exact Nat.le_trans ih hgo.now_le

theorem time_le (h : d.Course past e) {x : Incident} (hx : x ∈ past) : x.time ≤ e.now := by
  induction h with
  | refl => cases hx
  | go _ hgo ih =>
    rcases List.mem_cons.mp hx with rfl | hbefore
    · exact hgo.now_le
    · exact Nat.le_trans (ih hbefore) hgo.now_le

theorem wellTimed (h : d.Course past e) (hd : d.WellTimed) : e.WellTimed := by
  induction h with
  | refl => exact hd
  | go _ hgo ih => exact hgo.wellTimed ih

/-- From a page load on, a dashboard shows what its writers, its visitor and its clock make of a
loaded page. -/
theorem shown {route : String} (h : (d.start route).Course past e) : Shown e.screen.page := by
  induction h with
  | refl => exact shown_start d route
  | go _ hgo ih => exact hgo.shown ih

end Course

/-! ## Lives are courses -/

/-- A step is the passing of time until the next event, and the event. -/
theorem exists_course_step {horizon : Nat} (hd : d.WellTimed) (hstep : d.step? horizon = some e) :
    ∃ past, d.Course past e ∧ ∀ x ∈ past, x.happening.isOwn = true := by
  obtain ⟨a, rest, hagenda, -, rfl⟩ := (step?_eq_some_iff hd).mp hstep
  have hordered := hd.isOrdered
  rw [hagenda] at hordered
  have hdue : ∀ b ∈ d.agenda, a.time ≤ b.time := by
    rw [hagenda]
    exact List.forall_mem_cons.mpr ⟨Nat.le_refl _, Agenda.time_le_of_isOrdered hordered⟩
  have hclock : d.Goes (.clock a.time) { d with now := a.time } :=
    .clock (hd.timely a (hagenda ▸ List.mem_cons_self)).now_le hdue
  have hevent : Goes { d with now := a.time } (.event a.event) ((d.meet a rest).happen a.event) :=
    .event (d := { d with now := a.time }) hagenda rfl
  rw [happen_eq] at hevent
  exact ⟨_, .go (.go .refl hclock) hevent, by simp [Happening.isOwn]⟩

theorem exists_course_steps {horizon : Nat} (hd : d.WellTimed) (hsteps : Steps horizon d e) :
    ∃ past, d.Course past e ∧ ∀ x ∈ past, x.happening.isOwn = true := by
  induction hsteps with
  | refl d => exact ⟨[], .refl, List.forall_mem_nil _⟩
  | step hstep _ ih =>
    obtain ⟨past, hfirst, hown⟩ := exists_course_step hd hstep
    obtain ⟨past', hrest, hown'⟩ := ih (hd.step hstep)
    exact ⟨past' ++ past, hfirst.trans hrest, List.forall_mem_append.mpr ⟨hown', hown⟩⟩

theorem exists_course_advanceTo (hd : d.WellTimed) (horizon : Nat) :
    ∃ past, d.Course past (d.advanceTo horizon) ∧ ∀ x ∈ past, x.happening.isOwn = true := by
  obtain ⟨e, hsteps, hdone, heq⟩ := advanceTo_spec hd horizon
  obtain ⟨past, hcourse, hown⟩ := exists_course_steps hd hsteps
  have he := hcourse.wellTimed hd
  have hdue : ∀ a ∈ e.agenda, max e.now horizon ≤ a.time := fun a ha =>
    Nat.max_le.mpr ⟨(he.timely a ha).now_le, Nat.le_of_lt ((step?_eq_none_iff he).mp hdone a ha)⟩
  rw [heq]
  exact ⟨_, .go hcourse (.clock (Nat.le_max_left ..) hdue), by simpa [Happening.isOwn] using hown⟩

theorem settled_advanceTo (hd : d.WellTimed) {horizon : Nat} (hnow : d.now ≤ horizon) :
    (d.advanceTo horizon).Settled := by
  intro a ha
  rw [now_advanceTo hd hnow]
  exact lt_time_advanceTo hd horizon a ha

/-- A command is given while time passes. -/
theorem exists_course_given (hd : d.WellTimed) (command : Command) {first last : Nat}
    (hfirst : d.now ≤ first) (hlast : first ≤ last) :
    ∃ before after,
      d.Course (after ++ ⟨first, .command command⟩ :: before)
        (((d.advanceTo first).handle command).advanceTo last) ∧
      (∀ x ∈ before, x.happening.isOwn = true) ∧ (∀ x ∈ after, x.happening.isOwn = true) ∧
      (((d.advanceTo first).handle command).advanceTo last).now = last ∧
      (((d.advanceTo first).handle command).advanceTo last).Settled := by
  have hnow : (d.advanceTo first).now = first := now_advanceTo hd hfirst
  have hhandled : ((d.advanceTo first).handle command).WellTimed := (hd.advanceTo first).handle _
  have hle : ((d.advanceTo first).handle command).now ≤ last := by
    rwa [handle_eq, makeAll_now, hnow]
  obtain ⟨before, hbefore, hown⟩ := exists_course_advanceTo hd first
  obtain ⟨after, hafter, hown'⟩ := exists_course_advanceTo hhandled last
  have hcourse := (hbefore.go (.command _ command)).trans hafter
  rw [hnow] at hcourse
  exact ⟨before, after, hcourse, hown, hown', now_advanceTo hhandled hle,
    settled_advanceTo hhandled hle⟩

theorem exists_course_act (hd : d.WellTimed) (action : Action) :
    ∃ past, d.Course past (d.act action) := by
  cases action with
  | command command => exact ⟨_, .go .refl (.command d command)⟩
  | wait ms => exact (exists_course_advanceTo hd _).imp fun _ => And.left
  | await => exact (exists_course_advanceTo hd _).imp fun _ => And.left
  | restart route =>
    have hgo := Goes.restart d [] route
    have hnone : d.shutdown.note [] = d.shutdown := by simp [note]
    rw [hnone] at hgo
    exact ⟨_, .go .refl hgo⟩
  | answers backend => exact ⟨_, .go .refl (.answers d backend)⟩

/-- Whatever is done to a dashboard is a course. -/
theorem exists_course_live (hd : d.WellTimed) (actions : List Action) :
    ∃ past, d.Course past (d.live actions) := by
  induction actions generalizing d with
  | nil => exact ⟨[], .refl⟩
  | cons action actions ih =>
    obtain ⟨past, hfirst⟩ := exists_course_act hd action
    obtain ⟨past', hrest⟩ := ih (hfirst.wellTimed hd)
    exact ⟨past' ++ past, hfirst.trans hrest⟩

end Dashboard
end PoolPage
