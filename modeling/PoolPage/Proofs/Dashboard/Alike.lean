import PoolPage.Proofs.Dashboard.Timing
import PoolPage.Proofs.Page.Surface

/-!
# Dashboards that do alike

Two dashboards are `Alike` if the first has some appointments more, all of one kind, and
their pages compare; apart from what they asked and logged they are the same.  Whatever
both do keeps them alike (`Alike.makeAll`).

If what is due of that kind up to a time only shows something (`IsInert`), so does time:
the second dashboard skips what the first does alone, and the two are still alike when time
has passed (`Alike.advanceTo`).
-/

namespace PoolPage

/-- A comparison of pages, indexed by what one of them lacks, that all calls keep but loading the
page anew. -/
structure Compares (r : Nat → Page → Page → Prop) : Prop where
  change : ∀ {n : Nat} {page page' : Page} (c : Snapshot.Call), c ≠ .reset → r n page page' →
    r n (Screen.change page c) (Screen.change page' c)
  lower : ∀ {n : Nat} {page page' : Page}, r n page page' →
    r n page.takeDirty.2 page'.takeDirty.2

theorem Compares.call {r : Nat → Page → Page → Prop} (hr : Compares r) {n : Nat} {s t : Screen}
    {c : Snapshot.Call} (hc : c ≠ .reset) (hfile : s.file = t.file) (h : r n s.page t.page) :
    r n (s.call c).1.page (t.call c).1.page := by
  rw [Screen.page_call, Screen.page_call, hfile]
  split
  · exact hr.lower (hr.change c hc h)
  · exact hr.change c hc h

/-! ## What a dashboard goes by -/

/-- What is remembered of a page load but the number of questions. -/
def Session.sight (s : Session) : Session := { s with questions := 0 }

theorem Session.sight_edit (s : Session) (edit : Session.Edit) :
    (s.edit edit).sight = s.sight.edit edit := by
  cases edit <;> rfl

/-- Whether an event puts a question, or leads to one that does. -/
def Event.asks : Event → Bool
  | refreshDue _ | refreshEnded (.periodic _) | blocksDue | paramsDue => true
  | _ => false

/-- Whether a dashboard enters an event of its own accord, and not for a question. -/
def Event.isOwn : Event → Bool
  | chartSettles | profitDue _ | pageExpires => true
  | _ => false

theorem Event.not_asks_of_isOwn {event : Event} (h : event.isOwn = true) : event.asks = false := by
  cases event <;> first | rfl | cases h

namespace Dashboard

variable {d e : Dashboard}

/-- All that a dashboard goes by, with a given outside world. -/
def sight (d : Dashboard) (backend : Backend) (questions : Nat) : Dashboard :=
  { Dashboard.new d.settings d.mode backend (.memory .blank) d.store d.epoch with
    now := d.now
    session := { d.session.sight with questions } }

def SameAnswers (d e : Dashboard) : Prop :=
  d.backend = e.backend ∧ d.session.questions = e.session.questions

/-- Nothing on the agenda leads to a question. -/
def Quiet (d : Dashboard) : Prop := ∀ a ∈ d.agenda, a.event.asks = false

theorem happen_sight (d : Dashboard) (event : Event) :
    Changes.happen d event = Changes.happen (d.sight d.backend d.session.questions) event := by
  cases event <;> rfl

theorem happen_sight_of_not_asks (d : Dashboard) {event : Event} (h : event.asks = false)
    (backend : Backend) (questions : Nat) :
    Changes.happen d event = Changes.happen (d.sight backend questions) event := by
  cases event with
  | refreshEnded occurrence =>
    cases occurrence with
    | periodic turn => cases h
    | visitor => rfl
  | refreshDue turn => cases h
  | blocksDue => cases h
  | paramsDue => cases h
  | _ => rfl

/-- What follows an event that puts no question is the dashboard's own. -/
theorem isOwn_of_enter_mem {event : Event} (h : event.asks = false) {a : Appointment Event}
    (ha : .enter a ∈ Changes.happen d event) : a.event.isOwn = true := by
  cases event with
  | poolArrived reply =>
    cases hanswer : reply.answer <;> simp [Changes.happen, Changes.receivePool, hanswer] at ha
  | minerArrived address reply =>
    cases hanswer : reply.answer with
    | error causes => simp [Changes.happen, Changes.receiveMiner, hanswer] at ha
    | ok lookup =>
      simp only [Changes.happen, Changes.receiveMiner, hanswer, Changes.settleChart] at ha
      split at ha
      · simp only [List.mem_cons, List.mem_append, reduceCtorEq, false_or, Change.enter.injEq,
          List.not_mem_nil, or_false] at ha
        rw [ha]
        rfl
      · simp at ha
  | refreshEnded occurrence =>
    cases occurrence with
    | periodic turn => cases h
    | visitor => simp [Changes.happen, Changes.endRefresh] at ha
  | blocksArrived reply =>
    cases hanswer : reply.answer <;> simp [Changes.happen, Changes.receiveBlocks, hanswer] at ha
  | paramsArrived reply =>
    cases hanswer : reply.answer <;>
      simp [Changes.happen, Changes.receiveParams, Changes.computeProfit, hanswer] at ha
  | profitDue turn =>
    simp only [Changes.happen, Changes.computeProfit, Changes.renewTurn, List.mem_cons,
      reduceCtorEq, Change.enter.injEq, List.not_mem_nil, or_false, false_or] at ha
    rw [ha]
    rfl
  | fragmentArrived pageLoad hash reply =>
    have hload : .enter a ∈ Changes.finishLoad d := by
      simp only [Changes.happen, Changes.finishNavigation, List.mem_cons, List.mem_append,
        reduceCtorEq, false_or] at ha
      rcases ha with ha | ha
      · split at ha <;> simp at ha
      · split at ha
        · exact ha
        · simp at ha
    unfold Changes.finishLoad at hload
    cases hmode : d.mode with
    | attended => simp [hmode] at hload
    | unattended =>
      simp only [hmode, List.mem_cons, reduceCtorEq, Change.enter.injEq, List.not_mem_nil,
        or_false, false_or] at hload
      rw [hload]
      rfl
  | chartSettles => simp [Changes.happen] at ha
  | pageExpires => simp [Changes.happen] at ha
  | _ => cases h

end Dashboard

/-! ## Alike -/

/-- Two dashboards of which the first has `n` appointments more, of a kind `p`. -/
structure Alike (p : Appointment Event → Prop) (r : Nat → Page → Page → Prop) (n : Nat)
    (d e : Dashboard) : Prop where
  settings : d.settings = e.settings
  mode : d.mode = e.mode
  epoch : d.epoch = e.epoch
  store : d.store = e.store
  file : d.screen.file = e.screen.file
  session : d.session.sight = e.session.sight
  agenda : Agenda.Thinned p n d.agenda e.agenda
  page : r n d.screen.page e.screen.page

namespace Alike

open Dashboard

variable {p : Appointment Event → Prop} {r : Nat → Page → Page → Prop} {n : Nat}
  {d e : Dashboard}

theorem make (hr : Compares r) (h : Alike p r n d e) (hordered : d.agenda.IsOrdered)
    {c : Change} (hc : c ≠ .call .reset) : Alike p r n (d.make c) (e.make c) := by
  cases c with
  | note records =>
    exact ⟨h.settings, h.mode, h.epoch, h.store, h.file, h.session, h.agenda, h.page⟩
  | call c =>
    have hpage := hr.call (c := c) (fun heq => hc (by rw [heq])) h.file h.page
    have hfile : (d.screen.call c).1.file = (e.screen.call c).1.file := by
      rw [Screen.file_call, Screen.file_call, h.file]
    exact ⟨h.settings, h.mode, h.epoch, h.store, hfile, h.session, h.agenda, hpage⟩
  | ask question =>
    exact ⟨h.settings, h.mode, h.epoch, h.store, h.file, h.session, h.agenda, h.page⟩
  | enter a =>
    exact ⟨h.settings, h.mode, h.epoch, h.store, h.file, h.session, h.agenda.enter hordered a,
      h.page⟩
  | remember edit =>
    have hsession : (d.session.edit edit).sight = (e.session.edit edit).sight := by
      rw [Session.sight_edit, Session.sight_edit, h.session]
    exact ⟨h.settings, h.mode, h.epoch, h.store, h.file, hsession, h.agenda, h.page⟩
  | keep store => exact ⟨h.settings, h.mode, h.epoch, rfl, h.file, h.session, h.agenda, h.page⟩

theorem makeAll (hr : Compares r) {cs : List Change} (h : Alike p r n d e)
    (hordered : d.agenda.IsOrdered) {settings : Settings} {now : Nat}
    (hcs : ∀ c ∈ cs, c.IsProper settings now) : Alike p r n (d.makeAll cs) (e.makeAll cs) := by
  induction cs generalizing d e with
  | nil => exact h
  | cons c cs ih =>
    obtain ⟨hc, hrest⟩ := List.forall_mem_cons.mp hcs
    have hreset : c ≠ .call .reset := by
      rintro rfl
      exact hc rfl
    exact ih (h.make hr hordered hreset) (isOrdered_make c hordered) hrest

/-! ### Steps -/

theorem sight_eq (h : Alike p r n d e) (hnow : d.now = e.now) (backend : Backend)
    (questions : Nat) : d.sight backend questions = e.sight backend questions := by
  simp only [sight, new, h.settings, h.mode, h.epoch, h.store, hnow, h.session]

theorem happen_eq (h : Alike p r n d e) (hnow : d.now = e.now) {event : Event}
    (hanswers : SameAnswers d e ∨ event.asks = false) :
    Changes.happen d event = Changes.happen e event := by
  rcases hanswers with ⟨hbackend, hquestions⟩ | hasks
  · rw [happen_sight d, happen_sight e, ← hbackend, ← hquestions, h.sight_eq hnow]
  · rw [happen_sight_of_not_asks d hasks e.backend 0, happen_sight_of_not_asks e hasks e.backend 0,
      h.sight_eq hnow]

end Alike

namespace Dashboard

variable {d e : Dashboard}

theorem SameAnswers.makeAll (h : SameAnswers d e) (cs : List Change) :
    SameAnswers (d.makeAll cs) (e.makeAll cs) := by
  induction cs generalizing d e with
  | nil => exact h
  | cons c cs ih =>
    refine ih ?_
    cases c with
    | ask question => exact ⟨h.1, congrArg Nat.succ h.2⟩
    | remember edit => cases edit <;> exact h
    | _ => exact h

theorem Quiet.makeAll (h : d.Quiet) {cs : List Change}
    (hcs : ∀ a, .enter a ∈ cs → a.event.asks = false) : (d.makeAll cs).Quiet := by
  intro a ha
  rcases mem_agenda_makeAll.mp ha with hold | hnew
  · exact h a hold
  · exact hcs a hnew

/-- A quiet dashboard is quiet after its next event: it enters nothing but events of its own. -/
theorem Quiet.happen (h : d.Quiet) {a : Appointment Event} {rest : Agenda Event}
    (hagenda : d.agenda = a :: rest) :
    ((d.meet a rest).makeAll (Changes.happen (d.meet a rest) a.event)).Quiet := by
  have hfirst : a.event.asks = false := h a (hagenda ▸ List.mem_cons_self)
  have hrest : (d.meet a rest).Quiet := fun b hb => h b (hagenda ▸ List.mem_cons_of_mem a hb)
  exact hrest.makeAll fun b hb => Event.not_asks_of_isOwn (isOwn_of_enter_mem hfirst hb)

end Dashboard

/-! ## Appointments that only show something -/

/-- Whether a change is for the screen and the log only. -/
def Change.isShown : Change → Bool
  | note _ | call _ => true
  | _ => false

/-- Appointments of a kind that are due up to a time show something and do nothing else, and what
they show makes up for one that a page lacks. -/
structure IsInert (p : Appointment Event → Prop) (r : Nat → Page → Page → Prop)
    (horizon : Nat) : Prop where
  isShown : ∀ {a : Appointment Event}, p a → a.time ≤ horizon → ∀ (d : Dashboard),
    ∀ c ∈ Changes.happen d a.event, c.isShown = true
  strike : ∀ {a : Appointment Event}, p a → a.time ≤ horizon → ∀ {n : Nat} (d : Dashboard)
    {page : Page}, r (n + 1) d.screen.page page →
    r n (d.makeAll (Changes.happen d a.event)).screen.page page

namespace Dashboard

theorem makeAll_of_isShown {cs : List Change} (hcs : ∀ c ∈ cs, c.isShown = true) (d : Dashboard) :
    (d.makeAll cs).session = d.session ∧ (d.makeAll cs).agenda = d.agenda ∧
      (d.makeAll cs).store = d.store ∧ (d.makeAll cs).screen.file = d.screen.file := by
  induction cs generalizing d with
  | nil => exact ⟨rfl, rfl, rfl, rfl⟩
  | cons c cs ih =>
    obtain ⟨hc, hrest⟩ := List.forall_mem_cons.mp hcs
    obtain ⟨hsession, hagenda, hstore, hfile⟩ := ih hrest (d.make c)
    cases c with
    | note records => exact ⟨hsession, hagenda, hstore, hfile⟩
    | call c => exact ⟨hsession, hagenda, hstore, hfile.trans (Screen.file_call d.screen c)⟩
    | _ => cases hc

end Dashboard

namespace Alike

open Dashboard

variable {p : Appointment Event → Prop} {r : Nat → Page → Page → Prop} {horizon n : Nat}
  {d d' e : Dashboard}

/-- The first dashboard does something alone. -/
theorem strike (hp : IsInert p r horizon) {a : Appointment Event} {rest : Agenda Event}
    (h : Alike p r (n + 1) d e) (ha : p a) (hdue : a.time ≤ horizon)
    (hrest : Agenda.Thinned p n rest e.agenda) :
    Alike p r n ((d.meet a rest).makeAll (Changes.happen (d.meet a rest) a.event)) e := by
  obtain ⟨hsession, hagenda, hstore, hfile⟩ :=
    makeAll_of_isShown (hp.isShown ha hdue (d.meet a rest)) (d.meet a rest)
  refine ⟨?_, ?_, ?_, hstore.trans h.store, hfile.trans h.file, ?_, ?_,
    hp.strike ha hdue (d.meet a rest) h.page⟩
  · rw [makeAll_settings]
    exact h.settings
  · rw [makeAll_mode]
    exact h.mode
  · rw [makeAll_epoch]
    exact h.epoch
  · rw [hsession]
    exact h.session
  · rw [hagenda]
    exact hrest

theorem meet (h : Alike p r n d e) {a : Appointment Event} {rest rest' : Agenda Event}
    (hrest : Agenda.Thinned p n rest rest') : Alike p r n (d.meet a rest) (e.meet a rest') :=
  ⟨h.settings, h.mode, h.epoch, h.store, h.file, h.session, hrest, h.page⟩

end Alike

/-- Why the second of two dashboards is told what the first is told: both ask the same world, or
they do not ask. -/
inductive Told : Bool → Dashboard → Dashboard → Prop
  | asking {d e : Dashboard} : Dashboard.SameAnswers d e → Told true d e
  | quiet {d e : Dashboard} : d.Quiet → Told false d e

namespace Told

open Dashboard

variable {asks : Bool} {d e : Dashboard}

theorem of_event (h : Told asks d e) {a : Appointment Event} (ha : a ∈ d.agenda) :
    SameAnswers d e ∨ a.event.asks = false := by
  cases h with
  | asking h => exact .inl h
  | quiet h => exact .inr (h a ha)

/-- Both do what the next event does to the first. -/
theorem happen (h : Told asks d e) {a : Appointment Event} {rest rest' : Agenda Event}
    (hagenda : d.agenda = a :: rest) :
    Told asks ((d.meet a rest).makeAll (Changes.happen (d.meet a rest) a.event))
      ((e.meet a rest').makeAll (Changes.happen (d.meet a rest) a.event)) := by
  cases h with
  | asking h =>
    have hmeets : SameAnswers (d.meet a rest) (e.meet a rest') := h
    exact .asking (hmeets.makeAll _)
  | quiet h => exact .quiet (h.happen hagenda)

/-- The first shows something alone. -/
theorem strike (h : Told asks d e) {a : Appointment Event} {rest : Agenda Event}
    (hagenda : d.agenda = a :: rest)
    (hshown : ∀ c ∈ Changes.happen (d.meet a rest) a.event, c.isShown = true) :
    Told asks ((d.meet a rest).makeAll (Changes.happen (d.meet a rest) a.event)) e := by
  cases h with
  | asking h =>
    have hsession := (makeAll_of_isShown hshown (d.meet a rest)).1
    refine .asking ⟨(makeAll_backend _ _).trans h.1, ?_⟩
    rw [hsession]
    exact h.2
  | quiet h => exact .quiet (h.happen hagenda)

end Told

/-- Dashboards that are alike, with what makes them stay so: the second is not ahead in time. -/
structure InStep (asks : Bool) (p : Appointment Event → Prop) (r : Nat → Page → Page → Prop)
    (n : Nat) (d e : Dashboard) : Prop where
  alike : Alike p r n d e
  wellTimed_left : d.WellTimed
  wellTimed_right : e.WellTimed
  told : Told asks d e
  now_le : e.now ≤ d.now

namespace InStep

open Dashboard

variable {asks : Bool} {p : Appointment Event → Prop} {r : Nat → Page → Page → Prop}
  {horizon n : Nat} {d d' e : Dashboard}

/-- A step of the first dashboard is one of the second too, or one that the first takes alone. -/
theorem step (hr : Compares r) (hp : IsInert p r horizon) (h : InStep asks p r n d e)
    (hstep : d.step? horizon = some d') :
    ∃ n' e', Steps horizon e e' ∧ InStep asks p r n' d' e' := by
  obtain ⟨a, rest, hagenda, hdue, rfl⟩ := (step?_eq_some_iff h.wellTimed_left).mp hstep
  obtain ⟨hmeet, htimely⟩ := h.wellTimed_left.timely_meet hagenda
  have hleft := h.wellTimed_left.step hstep
  have hasks := h.told.of_event (hagenda ▸ List.mem_cons_self)
  have hthinned := h.alike.agenda
  rw [hagenda] at hthinned
  generalize hother : e.agenda = other at hthinned
  cases hthinned with
  | @keep _ _ rest' _ hrest =>
    have hstep' : e.step? horizon =
        some ((e.meet a rest').makeAll (Changes.happen (e.meet a rest') a.event)) :=
      (step?_eq_some_iff h.wellTimed_right).mpr ⟨a, rest', hother, hdue, rfl⟩
    have halike : Alike p r n (d.meet a rest) (e.meet a rest') := h.alike.meet hrest
    have hsame : Changes.happen (d.meet a rest) a.event = Changes.happen (e.meet a rest') a.event :=
      halike.happen_eq rfl hasks
    have hright := h.wellTimed_right.step hstep'
    rw [← hsame] at hstep' hright
    refine ⟨n, _, .step hstep' (.refl _), ?_, hleft, hright, h.told.happen hagenda, ?_⟩
    · exact halike.makeAll hr hmeet.isOrdered
        (Changes.isProper_happen (d.meet a rest) a.lane htimely)
    · rw [makeAll_now, makeAll_now]
      exact Nat.le_of_eq rfl
  | @strike n _ _ _ ha hrest =>
    subst hother
    have htold := h.told.strike hagenda (hp.isShown ha hdue (d.meet a rest))
    refine ⟨n, e, .refl e, h.alike.strike hp ha hdue hrest, hleft, h.wellTimed_right, htold, ?_⟩
    have hnow : d.now ≤ a.time :=
      (h.wellTimed_left.timely a (hagenda ▸ List.mem_cons_self)).now_le
    rw [makeAll_now]
    exact Nat.le_trans h.now_le hnow

theorem steps (hr : Compares r) (hp : IsInert p r horizon) (h : InStep asks p r n d e)
    (hsteps : Steps horizon d d') : ∃ n' e', Steps horizon e e' ∧ InStep asks p r n' d' e' := by
  induction hsteps generalizing n e with
  | refl d => exact ⟨n, e, .refl e, h⟩
  | step hstep _ ih =>
    obtain ⟨n', e', he, hin⟩ := h.step hr hp hstep
    obtain ⟨n'', e'', he', hin'⟩ := ih hin
    exact ⟨n'', e'', he.trans he', hin'⟩

theorem advanceTo (hr : Compares r) (hp : IsInert p r horizon) (h : InStep asks p r n d e)
    (hnow : d.now ≤ horizon) :
    ∃ n', InStep asks p r n' (d.advanceTo horizon) (e.advanceTo horizon) := by
  obtain ⟨d', hd', hdone, hd⟩ := advanceTo_spec h.wellTimed_left horizon
  obtain ⟨e₀, he₀, hdone₀, he⟩ := advanceTo_spec h.wellTimed_right horizon
  obtain ⟨n', e', he', hin⟩ := h.steps hr hp hd'
  have hnone : e'.step? horizon = none := by
    rw [step?_eq_none_iff hin.wellTimed_right]
    intro a ha
    exact (step?_eq_none_iff hin.wellTimed_left).mp hdone a (hin.alike.agenda.sublist.mem ha)
  have heq : e' = e₀ := he'.unique he₀ hnone hdone₀
  subst heq
  refine ⟨n', ?_, h.wellTimed_left.advanceTo horizon, h.wellTimed_right.advanceTo horizon, ?_, ?_⟩
  · have halike := hin.alike
    rw [hd, he]
    exact ⟨halike.settings, halike.mode, halike.epoch, halike.store, halike.file, halike.session,
      halike.agenda, halike.page⟩
  · rw [hd, he]
    cases hin.told with
    | asking hsame => exact .asking hsame
    | quiet hquiet => exact .quiet hquiet
  · have hleft := now_advanceTo h.wellTimed_left hnow
    have hright := now_advanceTo h.wellTimed_right (Nat.le_trans h.now_le hnow)
    exact Nat.le_of_eq (hright.trans hleft.symm)

end InStep
end PoolPage
