import PoolPage.Proofs.Dashboard.Actions
import PoolPage.Proofs.Page.Shown

/-!
# The pages of dashboards

Whatever a dashboard calls its screen for is a batch of a writer, the later layout of the
chart, a move of the visitor, or the loading of the page (`IsWritten`).  So
every page that a dashboard comes to show is `Shown`, whatever is done to the dashboard
(`Lived.shown`, `shown_live`).
-/

namespace PoolPage

inductive IsWritten : Snapshot.Call → Prop
  | batch (batch : Batch) : IsWritten (.applyAll batch.updates)
  | settled : IsWritten (.applyAll [.resizeChart MinerPanel.chart])
  | pointerMove (id : String) (index : Nat) : IsWritten (.pointerMove id index)
  | pointerOut (id : String) : IsWritten (.pointerOut id)
  | resize : IsWritten .resize
  | reset : IsWritten .reset

def Change.IsSound : Change → Prop
  | call c => IsWritten c
  | _ => True

theorem Shown.change {page : Page} (h : Shown page) {c : Snapshot.Call} (hc : IsWritten c) :
    Shown (Screen.change page c) := by
  cases hc with
  | batch batch => exact h.batch batch
  | settled => exact h.settled
  | pointerMove id index => exact h.pointerMove id index
  | pointerOut id => exact h.pointerOut id
  | resize => exact h.resize
  | reset => exact .loaded

/-! ## What is called -/

namespace Changes

open Dashboard

variable (d : Dashboard)

theorem isSound_call (batch : Batch) : (Change.call (.applyAll batch.updates)).IsSound :=
  IsWritten.batch batch

theorem isSound_askMiner (lane : Lane) : ∀ c ∈ askMiner d lane, c.IsSound := by
  unfold askMiner
  dsimp only
  split
  · exact List.forall_mem_cons.mpr ⟨isSound_call .noMiner, List.forall_mem_nil _⟩
  · simp [Change.IsSound]

theorem isSound_refresh (occurrence : Occurrence) : ∀ c ∈ refresh d occurrence, c.IsSound := by
  refine List.forall_mem_append.mpr ⟨List.forall_mem_append.mpr ⟨?_, isSound_askMiner _ _⟩, ?_⟩
  · simp [askPool, Change.IsSound]
  · simp [Change.IsSound]

theorem isSound_settleChart (us : List Update) : ∀ c ∈ settleChart d us, c.IsSound := by
  unfold settleChart
  split <;> simp [Change.IsSound]

theorem isSound_finishLoad : ∀ c ∈ finishLoad d, c.IsSound := by
  unfold finishLoad
  cases d.mode <;> simp [Change.IsSound]

/-- A navigation replaces the content of the container, or leaves the page alone. -/
theorem isSound_finishNavigation (pageLoad : Bool) {outcome : Navigation.Outcome}
    (h : outcome.updates = [] ∨ ∃ body, outcome.updates = (Batch.fragment body).updates) :
    ∀ c ∈ finishNavigation d pageLoad outcome, c.IsSound := by
  refine List.forall_mem_append.mpr ⟨?_, List.forall_mem_cons.mpr ⟨trivial, ?_⟩⟩
  · rcases h with hnone | ⟨body, hbody⟩
    · simp [hnone]
    · rw [hbody]
      exact List.forall_mem_cons.mpr ⟨isSound_call (.fragment body), List.forall_mem_nil _⟩
  · cases pageLoad with
    | false => simp
    | true => exact isSound_finishLoad d

theorem isSound_happen (event : Event) : ∀ c ∈ happen d event, c.IsSound := by
  cases event with
  | refreshDue turn => exact isSound_refresh d _
  | poolArrived reply =>
    refine List.forall_mem_cons.mpr ⟨trivial, ?_⟩
    cases reply.answer with
    | error causes => simp [receivePool, Change.IsSound]
    | ok stats =>
      exact List.forall_mem_cons.mpr ⟨isSound_call (.pool stats d.settings), List.forall_mem_nil _⟩
  | minerArrived address reply =>
    refine List.forall_mem_cons.mpr ⟨trivial, ?_⟩
    cases reply.answer with
    | error causes =>
      exact List.forall_mem_cons.mpr ⟨trivial, List.forall_mem_cons.mpr
        ⟨isSound_call (.minerAlert ("error: " ++ causes)), List.forall_mem_nil _⟩⟩
    | ok lookup =>
      exact List.forall_mem_cons.mpr ⟨trivial, List.forall_mem_cons.mpr
        ⟨isSound_call (.miner lookup d.settings), isSound_settleChart d _⟩⟩
  | refreshEnded occurrence =>
    cases occurrence <;> simp [happen, endRefresh, renewTurn, Change.IsSound]
  | blocksArrived reply =>
    refine List.forall_mem_cons.mpr ⟨trivial, List.forall_mem_append.mpr ⟨?_, ?_⟩⟩
    · cases reply.answer with
      | error causes => simp [receiveBlocks, Change.IsSound]
      | ok stats =>
        exact List.forall_mem_cons.mpr ⟨trivial, List.forall_mem_cons.mpr
          ⟨isSound_call (.blocks _ d.settings), List.forall_mem_nil _⟩⟩
    · simp [Change.IsSound]
  | paramsArrived reply =>
    refine List.forall_mem_cons.mpr ⟨trivial, ?_⟩
    cases reply.answer with
    | error causes => simp [receiveParams, Change.IsSound]
    | ok stats =>
      exact List.forall_mem_cons.mpr ⟨trivial, List.forall_mem_cons.mpr ⟨trivial,
        List.forall_mem_cons.mpr ⟨isSound_call (.profit d.session.input _ d.settings.blockTime),
          List.forall_mem_nil _⟩⟩⟩
  | profitDue turn =>
    refine List.forall_mem_cons.mpr
      ⟨isSound_call (.profit d.session.input d.session.params d.settings.blockTime), ?_⟩
    simp [renewTurn, Change.IsSound]
  | fragmentArrived pageLoad hash reply =>
    refine List.forall_mem_cons.mpr ⟨trivial, isSound_finishNavigation d pageLoad ?_⟩
    cases reply.answer with
    | error causes => exact .inl rfl
    | ok body => exact .inr ⟨body, rfl⟩
  | chartSettles => exact List.forall_mem_cons.mpr ⟨IsWritten.settled, List.forall_mem_nil _⟩
  | _ => simp [happen, askBlocks, askParams, Change.IsSound]

theorem isSound_navigate (pageLoad : Bool) (hash : String) :
    ∀ c ∈ navigate d pageLoad hash, c.IsSound := by
  have hstart : ∀ outcome, Navigation.start hash = .finished outcome → outcome.updates = [] := by
    intro outcome h
    unfold Navigation.start at h
    split at h <;> cases h <;> rfl
  unfold navigate
  split
  next outcome h => exact isSound_finishNavigation d pageLoad (.inl (hstart outcome h))
  next => simp [Change.IsSound]

theorem isSound_load (route : String) : ∀ c ∈ load d route, c.IsSound := by
  have hturns : ∀ period event, ∀ c ∈ startTurns d period event, c.IsSound := by
    intro period event
    unfold startTurns
    split <;> simp [Change.IsSound]
  refine List.forall_mem_append.mpr ⟨List.forall_mem_append.mpr ⟨?_, ?_⟩, isSound_navigate d _ _⟩
  · unfold loadAddress
    split <;> simp [Change.IsSound]
  · refine List.forall_mem_cons.mpr ⟨trivial, List.forall_mem_append.mpr
      ⟨List.forall_mem_append.mpr ⟨hturns _ _, ?_⟩, hturns _ _⟩⟩
    simp [Change.IsSound]

theorem isSound_handle (command : Command) : ∀ c ∈ handle d command, c.IsSound := by
  cases command with
  | address value =>
    refine List.forall_mem_cons.mpr ⟨trivial, List.forall_mem_append.mpr
      ⟨?_, isSound_refresh _ _⟩⟩
    unfold saveAddress
    split <;> simp [Change.IsSound]
  | navigate hash => exact List.forall_mem_cons.mpr ⟨trivial, isSound_navigate _ _ _⟩
  | pointerMove chart index =>
    exact List.forall_mem_cons.mpr ⟨IsWritten.pointerMove chart index, List.forall_mem_nil _⟩
  | pointerOut chart =>
    exact List.forall_mem_cons.mpr ⟨IsWritten.pointerOut chart, List.forall_mem_nil _⟩
  | resize => exact List.forall_mem_cons.mpr ⟨IsWritten.resize, List.forall_mem_nil _⟩
  | _ => simp [handle, Change.IsSound]

end Changes

/-! ## What is shown -/

namespace Dashboard

variable {d : Dashboard}

theorem shown_call (h : Shown d.screen.page) {c : Snapshot.Call} (hc : IsWritten c) :
    Shown (d.call c).screen.page := by
  show Shown (d.screen.call c).1.page
  rw [Screen.page_call]
  split
  · exact (h.change hc).taken
  · exact h.change hc

theorem shown_makeAll (h : Shown d.screen.page) {cs : List Change} (hcs : ∀ c ∈ cs, c.IsSound) :
    Shown (d.makeAll cs).screen.page := by
  induction cs generalizing d with
  | nil => exact h
  | cons c cs ih =>
    obtain ⟨hc, hrest⟩ := List.forall_mem_cons.mp hcs
    refine ih ?_ hrest
    cases c with
    | call c => exact shown_call h hc
    | _ => exact h

theorem shown_step? (h : Shown d.screen.page) {horizon : Nat} {e : Dashboard}
    (hstep : d.step? horizon = some e) : Shown e.screen.page := by
  unfold step? at hstep
  cases hagenda : d.agenda with
  | nil => simp [hagenda] at hstep
  | cons next rest =>
    let met : Dashboard := { d with agenda := rest, now := max d.now next.time }
    have hmet : Shown met.screen.page := h
    by_cases hdue : next.time ≤ horizon
    · simp only [hagenda, hdue, if_true, Option.some.injEq] at hstep
      rw [← hstep, happen_eq]
      exact shown_makeAll hmet (Changes.isSound_happen met next.event)
    · simp [hagenda, hdue] at hstep

theorem shown_start (d : Dashboard) (route : String) : Shown (d.start route).screen.page := by
  have hcleared : Shown (d.cleared route).screen.page := by
    show Shown (d.screen.call .reset).1.page
    rw [Screen.page_call]
    split
    · exact Shown.loaded.taken
    · exact .loaded
  rw [start_eq]
  exact shown_makeAll hcleared (Changes.isSound_load _ route)

theorem shown_handle (h : Shown d.screen.page) (command : Command) :
    Shown (d.handle command).screen.page := by
  rw [handle_eq]
  exact shown_makeAll h (Changes.isSound_handle d command)

/-- The states of a dashboard from the start of a page load on, whoever drives it: a command or an
event may come next at any time. -/
inductive Lived : Dashboard → Prop
  | started (d : Dashboard) (route : String) : Lived (d.start route)
  | handled {d : Dashboard} (command : Command) : Lived d → Lived (d.handle command)
  | stepped {d e : Dashboard} {horizon : Nat} : Lived d → d.step? horizon = some e → Lived e
  | waited {d : Dashboard} (time : Nat) : Lived d → Lived { d with now := max d.now time }
  | left {d : Dashboard} : Lived d → Lived d.shutdown
  | answered {d : Dashboard} (backend : Backend) : Lived d → Lived { d with backend }

namespace Lived

/-- Every page that a dashboard comes to show is what its writers, its visitor and its clock make of
a loaded page. -/
theorem shown (h : Lived d) : Shown d.screen.page := by
  induction h with
  | started d route => exact shown_start d route
  | handled command _ ih => exact shown_handle ih command
  | stepped _ hstep ih => exact shown_step? ih hstep
  | waited time _ ih => exact ih
  | left _ ih => exact ih
  | answered backend _ ih => exact ih

theorem steps {horizon : Nat} {e : Dashboard} (h : Lived d) (hsteps : Steps horizon d e) :
    Lived e := by
  induction hsteps with
  | refl => exact h
  | step hstep _ ih => exact ih (h.stepped hstep)

theorem advanceTo (h : Lived d) (horizon : Nat) : Lived (d.advanceTo horizon) :=
  (h.steps (steps_iterate horizon _ d)).waited horizon

theorem act (h : Lived d) (action : Action) : Lived (d.act action) := by
  cases action with
  | command command => exact h.handled command
  | wait ms => exact h.advanceTo _
  | await => exact h.advanceTo _
  | restart route => exact .started d.shutdown route
  | answers backend => exact h.answered backend

theorem live (h : Lived d) (actions : List Action) : Lived (d.live actions) := by
  induction actions generalizing d with
  | nil => exact h
  | cons action actions ih => exact ih (h.act action)

end Lived

theorem shown_live (settings : Settings) (mode : Mode) (backend : Backend) (screen : Screen)
    (store : Store) (epoch : Nat) (route : String) (actions : List Action) :
    Shown (((Dashboard.new settings mode backend screen store epoch).start route).live
      actions).screen.page :=
  ((Lived.started _ route).live actions).shown

end Dashboard
end PoolPage
