import PoolPage.Proofs.Dashboard.Alike

/-!
# What is done to a dashboard

Commands, waits, page loads and a change of the outside world are the `Action`s of a
dashboard, and its life is a list of them.  A dashboard is `AtRest` between its actions:
its agenda is in order, and no layout of the chart is due.

Two dashboards that are alike and ask the same world (`Twins`) stay so under every action.
-/

namespace PoolPage

inductive Action where
  | command (command : Command)
  | wait (ms : Nat)
  /-- The visitor waits for the end of what is under way. -/
  | await
  /-- The page is left and loaded anew. -/
  | restart (route : String)
  /-- The outside world answers otherwise from now on. -/
  | answers (backend : Backend)

namespace Dashboard

def act (d : Dashboard) : Action → Dashboard
  | .command command => d.handle command
  | .wait ms => d.advance ms
  | .await => d.await
  | .restart route => d.shutdown.start route
  | .answers backend => { d with backend }

def live (d : Dashboard) (actions : List Action) : Dashboard := actions.foldl act d

variable {d e : Dashboard}

/-! ## Waiting -/

theorem le_foldl_max (now : Nat) (agenda : Agenda Event) :
    now ≤ agenda.foldl (fun t a => max t a.time) now := by
  induction agenda generalizing now with
  | nil => exact Nat.le_refl now
  | cons a rest ih => exact Nat.le_trans (Nat.le_max_left now a.time) (ih _)

theorem now_le_awaitedTime (d : Dashboard) : d.now ≤ d.awaitedTime := le_foldl_max d.now _

/-! ## What page loads and commands enter

Neither orders a layout of the chart, which alone outlives a page load. -/

theorem not_outlives_of_refresh {occurrence : Occurrence} {a : Appointment Event}
    (ha : .enter a ∈ Changes.refresh d occurrence) : a.event.outlives = false := by
  simp only [Changes.refresh, Changes.askPool, Changes.askMiner] at ha
  split at ha <;>
    simp only [List.mem_append, List.mem_cons, reduceCtorEq, false_or, Change.enter.injEq,
      List.not_mem_nil, or_false] at ha
  · rcases ha with rfl | rfl <;> rfl
  · rcases ha with (rfl | rfl) | rfl <;> rfl

theorem not_outlives_of_finishLoad {a : Appointment Event} (ha : .enter a ∈ Changes.finishLoad d) :
    a.event.outlives = false := by
  unfold Changes.finishLoad at ha
  cases hmode : d.mode with
  | attended => simp [hmode] at ha
  | unattended =>
    simp only [hmode, List.mem_cons, reduceCtorEq, Change.enter.injEq, List.not_mem_nil,
      or_false, false_or] at ha
    rw [ha]
    rfl

theorem not_outlives_of_navigate {pageLoad : Bool} {hash : String} {a : Appointment Event}
    (ha : .enter a ∈ Changes.navigate d pageLoad hash) : a.event.outlives = false := by
  unfold Changes.navigate at ha
  split at ha
  · simp only [Changes.finishNavigation, List.mem_append, List.mem_cons, reduceCtorEq,
      false_or] at ha
    rcases ha with ha | ha
    · split at ha <;> simp at ha
    · split at ha
      · exact not_outlives_of_finishLoad ha
      · simp at ha
  · simp only [List.mem_cons, reduceCtorEq, Change.enter.injEq, List.not_mem_nil, or_false,
      false_or] at ha
    rw [ha]
    rfl

theorem not_outlives_of_load {route : String} {a : Appointment Event}
    (ha : .enter a ∈ Changes.load d route) : a.event.outlives = false := by
  have haddress : .enter a ∉ Changes.loadAddress d := by
    unfold Changes.loadAddress
    split <;> simp
  have hturns : ∀ period event, (∀ turn, (event turn).outlives = false) →
      .enter a ∈ Changes.startTurns d period event → a.event.outlives = false := by
    intro period event hevent hmem
    unfold Changes.startTurns at hmem
    split at hmem
    · simp at hmem
    · rw [List.mem_singleton, Change.enter.injEq] at hmem
      rw [hmem]
      exact hevent _
  simp only [Changes.load, Changes.startTasks, List.mem_append, List.mem_cons, haddress,
    reduceCtorEq, false_or, Change.enter.injEq, List.not_mem_nil, or_false] at ha
  rcases ha with ((ha | ha | ha) | ha) | ha
  · exact hturns _ _ (fun _ => rfl) ha
  · rw [ha]
    rfl
  · rw [ha]
    rfl
  · exact hturns _ _ (fun _ => rfl) ha
  · exact not_outlives_of_navigate ha

theorem not_outlives_of_handle {command : Command} {a : Appointment Event}
    (ha : .enter a ∈ Changes.handle d command) : a.event.outlives = false := by
  cases command with
  | address value =>
    have hsave : .enter a ∉ Changes.saveAddress d value := by
      unfold Changes.saveAddress
      split <;> simp
    simp only [Changes.handle, List.mem_cons, reduceCtorEq, List.mem_append, hsave,
      false_or] at ha
    exact not_outlives_of_refresh ha
  | navigate hash =>
    simp only [Changes.handle, List.mem_cons, reduceCtorEq, false_or] at ha
    exact not_outlives_of_navigate ha
  | _ => simp [Changes.handle] at ha

/-! ## Between actions -/

/-- A dashboard between two actions. -/
structure AtRest (d : Dashboard) : Prop where
  wellTimed : d.WellTimed
  /-- No layout of the chart is due. -/
  lies_ahead : ∀ a ∈ d.agenda, a.event.outlives = true → d.now < a.time

theorem atRest_new (settings : Settings) (mode : Mode) (backend : Backend) (screen : Screen)
    (store : Store) (epoch : Nat) :
    (Dashboard.new settings mode backend screen store epoch).AtRest where
  wellTimed := ⟨.nil, fun a ha => by simp [new] at ha⟩
  lies_ahead a ha := by simp [new] at ha

theorem AtRest.makeAll (h : d.AtRest) {cs : List Change}
    (hproper : ∀ c ∈ cs, c.IsProper d.settings d.now)
    (hcs : ∀ a, .enter a ∈ cs → a.event.outlives = false) : (d.makeAll cs).AtRest where
  wellTimed := h.wellTimed.makeAll hproper
  lies_ahead a ha houtlives := by
    rw [makeAll_now]
    rcases mem_agenda_makeAll.mp ha with hold | hnew
    · exact h.lies_ahead a hold houtlives
    · rw [hcs a hnew] at houtlives
      cases houtlives

theorem AtRest.handle (h : d.AtRest) (command : Command) : (d.handle command).AtRest := by
  rw [handle_eq]
  exact h.makeAll (Changes.isProper_handle d command) fun _ => not_outlives_of_handle

theorem AtRest.start (h : d.AtRest) (route : String) : (d.start route).AtRest := by
  have hcleared : (d.cleared route).AtRest := ⟨h.wellTimed.cleared route, h.lies_ahead⟩
  rw [start_eq]
  exact hcleared.makeAll (Changes.isProper_load _ route) fun _ => not_outlives_of_load

theorem AtRest.shutdown (h : d.AtRest) : d.shutdown.AtRest where
  wellTimed := h.wellTimed.shutdown
  lies_ahead a ha := h.lies_ahead a (List.mem_filter.mp ha).1

theorem AtRest.advanceTo (h : d.AtRest) {horizon : Nat} (hnow : d.now ≤ horizon) :
    (d.advanceTo horizon).AtRest where
  wellTimed := h.wellTimed.advanceTo horizon
  lies_ahead a ha _ := by
    rw [now_advanceTo h.wellTimed hnow]
    exact lt_time_advanceTo h.wellTimed horizon a ha

theorem AtRest.act (h : d.AtRest) (action : Action) : (d.act action).AtRest := by
  cases action with
  | command command => exact h.handle command
  | wait ms => exact h.advanceTo (Nat.le_add_right ..)
  | await => exact h.advanceTo (now_le_awaitedTime d)
  | restart route => exact h.shutdown.start route
  | answers backend => exact ⟨⟨h.wellTimed.isOrdered, h.wellTimed.timely⟩, h.lies_ahead⟩

theorem AtRest.live (h : d.AtRest) (actions : List Action) : (d.live actions).AtRest := by
  induction actions generalizing d with
  | nil => exact h
  | cons action actions ih => exact ih (h.act action)

end Dashboard

/-! ## Twins -/

/-- Two dashboards that are alike, at one time, and ask the same world. -/
structure Twins (p : Appointment Event → Prop) (r : Nat → Page → Page → Prop) (n : Nat)
    (d e : Dashboard) : Prop where
  inStep : InStep true p r n d e
  now : d.now = e.now

namespace Twins

open Dashboard

variable {p : Appointment Event → Prop} {r : Nat → Page → Page → Prop} {n : Nat}
  {d e : Dashboard}

theorem sameAnswers (h : Twins p r n d e) : SameAnswers d e := by
  cases h.inStep.told with
  | asking h => exact h

theorem makeAll (hr : Compares r) (h : Twins p r n d e) {cs : List Change}
    (hcs : ∀ c ∈ cs, c.IsProper d.settings d.now) : Twins p r n (d.makeAll cs) (e.makeAll cs) := by
  have hcs' : ∀ c ∈ cs, c.IsProper e.settings e.now := by
    rw [← h.inStep.alike.settings, ← h.now]
    exact hcs
  have hnow : (d.makeAll cs).now = (e.makeAll cs).now := by
    rw [makeAll_now, makeAll_now, h.now]
  exact ⟨⟨h.inStep.alike.makeAll hr h.inStep.wellTimed_left.isOrdered hcs,
    h.inStep.wellTimed_left.makeAll hcs, h.inStep.wellTimed_right.makeAll hcs',
    .asking (h.sameAnswers.makeAll cs), Nat.le_of_eq hnow.symm⟩, hnow⟩

theorem sight (h : Twins p r n d e) :
    d.sight d.backend d.session.questions = e.sight e.backend e.session.questions := by
  obtain ⟨hbackend, hquestions⟩ := h.sameAnswers
  rw [hbackend, hquestions]
  exact h.inStep.alike.sight_eq h.now _ _

theorem handle (hr : Compares r) (h : Twins p r n d e) (command : Command) :
    Twins p r n (d.handle command) (e.handle command) := by
  have hsight : ∀ d : Dashboard, Changes.handle d command =
      Changes.handle (d.sight d.backend d.session.questions) command := by
    intro d
    cases command <;> rfl
  have hsame : Changes.handle d command = Changes.handle e command := by
    rw [hsight d, hsight e, h.sight]
  rw [handle_eq, handle_eq, ← hsame]
  exact h.makeAll hr (Changes.isProper_handle d command)

theorem answers (h : Twins p r n d e) (backend : Backend) :
    Twins p r n { d with backend } { e with backend } := by
  have halike := h.inStep.alike
  refine ⟨⟨⟨halike.settings, halike.mode, halike.epoch, halike.store, halike.file, halike.session,
    halike.agenda, halike.page⟩, ?_, ?_, .asking ⟨rfl, h.sameAnswers.2⟩, h.inStep.now_le⟩, h.now⟩
  · exact ⟨h.inStep.wellTimed_left.isOrdered, h.inStep.wellTimed_left.timely⟩
  · exact ⟨h.inStep.wellTimed_right.isOrdered, h.inStep.wellTimed_right.timely⟩

theorem advanceTo (hr : Compares r) {horizon : Nat} (hp : IsInert p r horizon)
    (h : Twins p r n d e) (hnow : d.now ≤ horizon) :
    ∃ n', Twins p r n' (d.advanceTo horizon) (e.advanceTo horizon) := by
  obtain ⟨n', hin⟩ := h.inStep.advanceTo hr hp hnow
  refine ⟨n', hin, ?_⟩
  rw [now_advanceTo h.inStep.wellTimed_left hnow,
    now_advanceTo h.inStep.wellTimed_right (h.now ▸ hnow)]

/-- If nobody waits for what the first does alone, both are waited for as long. -/
theorem awaitedTime (hp : ∀ a, p a → a.event.isAwaited = false) (h : Twins p r n d e) :
    d.awaitedTime = e.awaitedTime := by
  unfold Dashboard.awaitedTime
  rw [h.inStep.alike.agenda.filter_eq hp, h.now]

theorem start (hr : Compares r) {route : String}
    (h : Twins p r n (d.cleared route) (e.cleared route)) :
    Twins p r n (d.start route) (e.start route) := by
  have hsight : ∀ d : Dashboard, Changes.load d route =
      Changes.load (d.sight d.backend d.session.questions) route := fun _ => rfl
  have hsame : Changes.load (d.cleared route) route = Changes.load (e.cleared route) route := by
    rw [hsight (d.cleared route), hsight (e.cleared route), h.sight]
  rw [start_eq, start_eq, ← hsame]
  exact h.makeAll hr (Changes.isProper_load _ route)

end Twins

/-- Two dashboards that differ in their page, their page load and their agenda only, apart from what
they asked and logged. -/
structure Akin (d e : Dashboard) : Prop where
  settings : d.settings = e.settings
  mode : d.mode = e.mode
  backend : d.backend = e.backend
  epoch : d.epoch = e.epoch
  now : d.now = e.now
  store : d.store = e.store
  file : d.screen.file = e.screen.file

namespace Twins

open Dashboard

variable {p : Appointment Event → Prop} {r : Nat → Page → Page → Prop} {n : Nat}
  {d e : Dashboard}

theorem akin (h : Twins p r n d e) : Akin d e :=
  ⟨h.inStep.alike.settings, h.inStep.alike.mode, h.sameAnswers.1, h.inStep.alike.epoch, h.now,
    h.inStep.alike.store, h.inStep.alike.file⟩

/-- Loading the page anew makes everything alike but the agendas. -/
theorem start_of_akin (hr : Compares r) (hloaded : r n .loaded .loaded) (h : Akin d e)
    (hd : d.WellTimed) (he : e.WellTimed) (hagenda : Agenda.Thinned p n d.agenda e.agenda)
    (route : String) : Twins p r n (d.start route) (e.start route) := by
  have hpage : r n (d.cleared route).screen.page (e.cleared route).screen.page := by
    show r n (d.screen.call .reset).1.page (e.screen.call .reset).1.page
    rw [Screen.page_call, Screen.page_call, h.file]
    split
    · exact hr.lower hloaded
    · exact hloaded
  have hfile : (d.cleared route).screen.file = (e.cleared route).screen.file := by
    show (d.screen.call .reset).1.file = (e.screen.call .reset).1.file
    rw [Screen.file_call, Screen.file_call, h.file]
  have halike : Alike p r n (d.cleared route) (e.cleared route) :=
    ⟨h.settings, h.mode, h.epoch, h.store, hfile, rfl, hagenda, hpage⟩
  exact start hr ⟨⟨halike, hd.cleared route, he.cleared route, .asking ⟨h.backend, rfl⟩,
    Nat.le_of_eq h.now.symm⟩, h.now⟩

/-- The page is left and loaded anew.  What the first has to do alone outlives its page load. -/
theorem restart (hr : Compares r) (hloaded : r n .loaded .loaded)
    (hp : ∀ a, p a → a.event.outlives = true) (h : Twins p r n d e) (route : String) :
    Twins p r n (d.shutdown.start route) (e.shutdown.start route) := by
  have hakin : Akin d.shutdown e.shutdown := by
    obtain ⟨hsettings, hmode, hbackend, hepoch, hnow, hstore, hfile⟩ := h.akin
    exact ⟨hsettings, hmode, hbackend, hepoch, hnow, hstore, hfile⟩
  exact start_of_akin hr hloaded hakin h.inStep.wellTimed_left.shutdown
    h.inStep.wellTimed_right.shutdown (h.inStep.alike.agenda.filter hp) route

/-- Twins stay twins under all actions if what the first has to do alone is inert, outlives its page
load and keeps nobody waiting. -/
theorem act (hr : Compares r) (hloaded : ∀ {n page page'}, r n page page' → r n .loaded .loaded)
    (hinert : ∀ horizon, IsInert p r horizon) (houtlives : ∀ a, p a → a.event.outlives = true)
    (hawaited : ∀ a, p a → a.event.isAwaited = false) (h : Twins p r n d e) (action : Action) :
    ∃ n', Twins p r n' (d.act action) (e.act action) := by
  cases action with
  | command command => exact ⟨n, h.handle hr command⟩
  | wait ms =>
    show ∃ n', Twins p r n' (d.advanceTo (d.now + waitOf ms)) (e.advanceTo (e.now + waitOf ms))
    rw [← h.now]
    exact h.advanceTo hr (hinert _) (Nat.le_add_right ..)
  | await =>
    show ∃ n', Twins p r n' (d.advanceTo d.awaitedTime) (e.advanceTo e.awaitedTime)
    rw [← h.awaitedTime hawaited]
    exact h.advanceTo hr (hinert _) (now_le_awaitedTime d)
  | restart route =>
    exact ⟨n, h.restart hr (hloaded h.inStep.alike.page) houtlives route⟩
  | answers backend => exact ⟨n, h.answers backend⟩

theorem live (hr : Compares r) (hloaded : ∀ {n page page'}, r n page page' → r n .loaded .loaded)
    (hinert : ∀ horizon, IsInert p r horizon) (houtlives : ∀ a, p a → a.event.outlives = true)
    (hawaited : ∀ a, p a → a.event.isAwaited = false) (h : Twins p r n d e)
    (actions : List Action) : ∃ n', Twins p r n' (d.live actions) (e.live actions) := by
  induction actions generalizing n d e with
  | nil => exact ⟨n, h⟩
  | cons action actions ih =>
    obtain ⟨n', h'⟩ := h.act hr hloaded hinert houtlives hawaited action
    exact ih h'

end Twins
end PoolPage
