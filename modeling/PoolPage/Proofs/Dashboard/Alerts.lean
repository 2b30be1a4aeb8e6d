import PoolPage.Proofs.Dashboard.Jobs
import PoolPage.Proofs.Page.Writers

/-!
# Alerts

An alert is owed from the moment when the reply that it complains about is on its way, and
raised when the reply arrives.  A dashboard `Accounts` for a list of alerts if those that
it raised and those that it owes are together that list in some order.  Every
job adds what it leads to (`Accounts.perform`), and time only turns what is owed into
what is raised (`Accounts.advanceTo`).
-/

namespace PoolPage

/-! ## What is raised -/

namespace Update

def alert? : Update → Option String
  | .alert message => some message
  | _ => none

theorem onAlerts_eq (u : Update) (alerts : List String) :
    u.onAlerts alerts = alerts ++ u.alert?.toList := by
  cases u <;> simp [alert?]

theorem alert?_eq_none_of_owner? {u : Update} {w : Writer} (h : u.owner? = some w)
    (hw : w ≠ .miner) : u.alert? = none := by
  cases u with
  | alert message => exact absurd (Option.some.inj h).symm hw
  | _ => rfl

end Update

theorem MinerPanel.alert?_of_mem_renderStats {stats : MinerStats} {settings : Settings}
    {u : Update} (hu : u ∈ MinerPanel.renderStats stats settings) : u.alert? = none := by
  have htext : ∀ id text, u ∈ PoolPanel.text? id text → u.alert? = none := by
    intro id text h
    cases text with
    | none => simp [PoolPanel.text?] at h
    | some new =>
      rw [PoolPanel.text?, List.mem_singleton] at h
      rw [h]
      rfl
  have hchart : u ∈ MinerPanel.chartUpdates stats.chart → u.alert? = none := by
    cases stats.chart with
    | none => simp +contextual [MinerPanel.chartUpdates, Update.alert?]
    | some points => simp +contextual [MinerPanel.chartUpdates, Update.alert?, or_imp]
  simp only [MinerPanel.renderStats, List.mem_append, List.mem_cons, List.not_mem_nil,
    or_false] at hu
  rcases hu with ((h | h) | h) | h
  · rcases h with rfl | rfl | rfl | rfl <;> rfl
  · exact htext _ _ h
  · exact hchart h
  · rcases h with rfl | rfl <;> rfl

/-- Only the miner's panel raises alerts. -/
theorem Batch.alerts_eq_nil {batch : Batch} (h : batch.writer ≠ .miner) :
    batch.updates.filterMap Update.alert? = [] :=
  List.filterMap_eq_nil_iff.mpr fun _ hu => Update.alert?_eq_none_of_owner? (owner?_of_mem hu) h

namespace Page

theorem alerts_applyAll (page : Page) (us : List Update) :
    (page.applyAll us).alerts = page.alerts ++ us.filterMap Update.alert? := by
  induction us generalizing page with
  | nil => simp
  | cons u us ih =>
    rw [applyAll_cons, ih, apply_eq, Update.onAlerts_eq]
    cases h : u.alert? <;> simp [h]

theorem alerts_pointer (page : Page) (id : String) :
    (∀ index, (page.pointerMove id index).alerts = page.alerts) ∧
      (page.pointerOut id).alerts = page.alerts := by
  refine ⟨fun index => ?_, ?_⟩
  · unfold pointerMove
    split
    · split
      · rw [setText_eq]
      · rfl
    · rfl
  · unfold pointerOut
    split
    · rw [setText_eq]
    · rfl

end Page

namespace Change

def raised : Change → List String
  | call (.applyAll us) => us.filterMap Update.alert?
  | call (.apply u) => u.alert?.toList
  | _ => []

/-- The alerts that a change leads to later. -/
def owed : Change → List String
  | enter a => a.event.complaint?.toList
  | _ => []

end Change

namespace Dashboard

variable {d : Dashboard}

def alerts (d : Dashboard) : List String := d.screen.page.alerts

/-- The alerts that are still to come of replies that are on their way. -/
def owed (d : Dashboard) : List String := d.agenda.filterMap fun a => a.event.complaint?

theorem alerts_call (d : Dashboard) (c : Snapshot.Call) :
    (d.call c).alerts = (Screen.change d.screen.page c).alerts := by
  show (d.screen.call c).1.page.alerts = _
  rw [Screen.page_call]
  split <;> rfl

theorem alerts_makeAll {cs : List Change} {settings : Settings} {now : Nat}
    (hcs : ∀ c ∈ cs, c.IsProper settings now) :
    (d.makeAll cs).alerts = d.alerts ++ cs.flatMap Change.raised := by
  induction cs generalizing d with
  | nil => simp
  | cons c cs ih =>
    obtain ⟨hc, hrest⟩ := List.forall_mem_cons.mp hcs
    have hmake : (d.make c).alerts = d.alerts ++ c.raised := by
      cases c with
      | call c =>
        refine (alerts_call d c).trans ?_
        cases c with
        | applyAll us => exact Page.alerts_applyAll _ us
        | apply u =>
          rw [Screen.change, Page.apply_eq, Update.onAlerts_eq]
          rfl
        | pointerMove id index =>
          rw [Screen.change, (Page.alerts_pointer _ id).1 index]
          exact (List.append_nil _).symm
        | pointerOut id =>
          rw [Screen.change, (Page.alerts_pointer _ id).2]
          exact (List.append_nil _).symm
        | resize => exact (List.append_nil _).symm
        | reset => exact absurd rfl hc
      | _ => exact (List.append_nil _).symm
    rw [makeAll_cons, ih hrest, hmake, List.flatMap_cons, List.append_assoc]

theorem owed_enter (agenda : Agenda Event) (a : Appointment Event) :
    ((agenda.enter a).filterMap fun a => a.event.complaint?).Perm
      ((agenda.filterMap fun a => a.event.complaint?) ++ a.event.complaint?.toList) := by
  refine ((Agenda.enter_perm a agenda).filterMap _).trans ?_
  cases h : a.event.complaint? with
  | none => simp [h]
  | some message =>
    simp only [List.filterMap_cons, h, Option.toList_some]
    exact (List.perm_append_comm : ([message] ++ _).Perm _)

theorem owed_makeAll (cs : List Change) (d : Dashboard) :
    (d.makeAll cs).owed.Perm (d.owed ++ cs.flatMap Change.owed) := by
  induction cs generalizing d with
  | nil => simp
  | cons c cs ih =>
    have hmake : (d.make c).owed.Perm (d.owed ++ c.owed) := by
      cases c with
      | enter a => exact owed_enter d.agenda a
      | _ => exact .of_eq (List.append_nil _).symm
    rw [makeAll_cons, List.flatMap_cons, ← List.append_assoc]
    exact (ih (d.make c)).trans (hmake.append_right _)

end Dashboard

/-! ## Events -/

namespace Changes

open Dashboard

variable (d : Dashboard)

theorem raised_askMiner (lane : Lane) : (askMiner d lane).flatMap Change.raised = [] := by
  unfold askMiner
  dsimp only
  split <;> rfl

theorem raised_settleChart (us : List Update) :
    (settleChart d us).flatMap Change.raised = [] := by
  unfold settleChart
  split <;> rfl

/-- The answer for a miner raises the alert that the reply complains of, and no other. -/
theorem raised_receiveMiner (address : String) (reply : Reply MinerLookup) :
    (receiveMiner d address reply.answer).flatMap Change.raised = reply.complaint?.toList := by
  unfold Reply.complaint?
  cases reply.answer with
  | error causes => rfl
  | ok lookup =>
    simp only [receiveMiner, List.flatMap_append, raised_settleChart, List.append_nil]
    cases lookup with
    | failed failure => rfl
    | found stats =>
      show (MinerPanel.renderStats stats d.settings).filterMap Update.alert? ++ [] = []
      rw [List.append_nil, List.filterMap_eq_nil_iff]
      exact fun u hu => MinerPanel.alert?_of_mem_renderStats hu

theorem raised_finishNavigation (pageLoad : Bool) (hash : String) (answer : Except String String) :
    (finishNavigation d pageLoad (Navigation.arrive hash answer)).flatMap Change.raised = [] := by
  have hload : (finishLoad d).flatMap Change.raised = [] := by
    unfold finishLoad
    cases d.mode <;> rfl
  cases answer <;> cases pageLoad <;>
    simp [finishNavigation, Navigation.arrive, Navigation.failed, Change.raised, Update.alert?,
      hload]

/-- An event raises its own alert, and no other. -/
theorem raised_happen (event : Event) :
    (happen d event).flatMap Change.raised = event.complaint?.toList := by
  cases event with
  | refreshDue turn =>
    simp only [happen, refresh, List.flatMap_append, raised_askMiner]
    rfl
  | poolArrived reply =>
    cases h : reply.answer with
    | error causes => simp [happen, receivePool, h, Change.raised, Event.complaint?]
    | ok stats =>
      have hwriter : (Batch.pool stats d.settings).writer ≠ .miner := by simp [Batch.writer]
      have hpool := Batch.alerts_eq_nil hwriter
      simpa [happen, receivePool, h, Change.raised, Event.complaint?, Batch.updates] using hpool
  | minerArrived address reply => exact raised_receiveMiner d address reply
  | refreshEnded occurrence => cases occurrence <;> rfl
  | blocksArrived reply =>
    cases h : reply.answer <;> simp [happen, receiveBlocks, h, Change.raised, Event.complaint?,
      BlocksPanel.render, Update.alert?]
  | paramsArrived reply =>
    cases h : reply.answer <;> simp [happen, receiveParams, h, Change.raised, Event.complaint?,
      computeProfit, Profit.render, Update.alert?]
  | fragmentArrived pageLoad hash reply =>
    exact raised_finishNavigation d pageLoad hash reply.answer
  | _ => rfl

/-- An event that puts no question owes nothing afterwards. -/
theorem owed_happen {event : Event} (h : event.asks = false) :
    (happen d event).flatMap Change.owed = [] := by
  rw [List.flatMap_eq_nil_iff]
  intro c hc
  cases c with
  | enter a =>
    have hown := isOwn_of_enter_mem h hc
    cases hevent : a.event with
    | minerArrived address reply =>
      rw [hevent] at hown
      cases hown
    | _ => simp [Change.owed, hevent, Event.complaint?]
  | _ => rfl

theorem raised_job (job : Job) : (Changes.job d job).flatMap Change.raised = [] := by
  cases job with
  | refresh pool miner =>
    have hpool : (poolHalf d pool).flatMap Change.raised = [] := by cases pool <;> rfl
    have hminer : (minerHalf d miner).flatMap Change.raised = [] := by
      cases miner with
      | none => rfl
      | some reply =>
        unfold minerHalf
        dsimp only
        split <;> rfl
    simp only [Changes.job, List.flatMap_append, hpool, hminer]
    rfl
  | _ => rfl

/-- A job owes the alert that it leads to. -/
theorem owed_job (job : Job) :
    (Changes.job d job).flatMap Change.owed = (job.complaint? d.session.address).toList := by
  cases job with
  | refresh pool miner =>
    have hpool : (poolHalf d pool).flatMap Change.owed = [] := by cases pool <;> rfl
    simp only [Changes.job, List.flatMap_append, hpool, List.nil_append]
    cases miner with
    | none => rfl
    | some reply =>
      cases h : isShort d.session.address <;>
        simp [minerHalf, h, Change.owed, Event.complaint?, Job.complaint?, after, appointment]
  | _ => rfl

end Changes

/-! ## Accounts -/

namespace Dashboard

/-- All alerts since there were none but some earlier ones are those of a list, in some order: they
were raised, or are still owed. -/
def Accounts (earlier total : List String) (d : Dashboard) : Prop :=
  ∃ raised, d.alerts = earlier ++ raised ∧ (raised ++ d.owed).Perm total

namespace Accounts

variable {earlier total : List String} {d e : Dashboard}

theorem makeAll (h : d.Accounts earlier total) {cs : List Change}
    (hproper : ∀ c ∈ cs, c.IsProper d.settings d.now) (hraised : cs.flatMap Change.raised = []) :
    (d.makeAll cs).Accounts earlier (total ++ cs.flatMap Change.owed) := by
  obtain ⟨raised, halerts, htotal⟩ := h
  refine ⟨raised, ?_, ?_⟩
  · rw [alerts_makeAll hproper, hraised, List.append_nil, halerts]
  · have howed := (owed_makeAll cs d).append_left raised
    rw [← List.append_assoc] at howed
    exact howed.trans (htotal.append_right _)

/-- A step raises what is owed for the event that happens. -/
theorem step (h : d.Accounts earlier total) (hd : d.WellTimed) (hquiet : d.Quiet) {horizon : Nat}
    (hstep : d.step? horizon = some e) : e.Accounts earlier total := by
  obtain ⟨a, rest, hagenda, -, rfl⟩ := (step?_eq_some_iff hd).mp hstep
  obtain ⟨-, htimely⟩ := hd.timely_meet hagenda
  obtain ⟨raised, halerts, htotal⟩ := h
  have hproper := Changes.isProper_happen (d.meet a rest) a.lane htimely
  have howed := owed_makeAll (Changes.happen (d.meet a rest) a.event) (d.meet a rest)
  rw [Changes.owed_happen _ (hquiet a (hagenda ▸ List.mem_cons_self)), List.append_nil] at howed
  have hfirst : d.owed = a.event.complaint?.toList ++ (d.meet a rest).owed := by
    cases h : a.event.complaint? <;> simp [owed, meet, hagenda, h]
  refine ⟨raised ++ a.event.complaint?.toList, ?_, ?_⟩
  · rw [alerts_makeAll hproper, Changes.raised_happen, ← List.append_assoc, ← halerts]
    rfl
  · rw [hfirst, ← List.append_assoc] at htotal
    exact (howed.append_left _).trans htotal

end Accounts

theorem Quiet.step {d e : Dashboard} (h : d.Quiet) (hd : d.WellTimed) {horizon : Nat}
    (hstep : d.step? horizon = some e) : e.Quiet := by
  obtain ⟨a, rest, hagenda, -, rfl⟩ := (step?_eq_some_iff hd).mp hstep
  exact h.happen hagenda

/-- A dashboard that accounts for its alerts, and asks for nothing but what its jobs ask for. -/
structure Ledger (earlier total : List String) (d : Dashboard) : Prop where
  wellTimed : d.WellTimed
  quiet : d.Quiet
  accounts : d.Accounts earlier total

namespace Ledger

variable {earlier total : List String} {d : Dashboard}

theorem advanceTo (h : d.Ledger earlier total) (horizon : Nat) :
    (d.advanceTo horizon).Ledger earlier total := by
  obtain ⟨e, hsteps, -, heq⟩ := advanceTo_spec h.wellTimed horizon
  obtain ⟨-, hquiet, haccounts⟩ :=
    hsteps.invariant (fun d => d.Quiet ∧ d.Accounts earlier total)
      (fun hd hstep h => ⟨h.1.step hd hstep, h.2.step hd h.1 hstep⟩) h.wellTimed
      ⟨h.quiet, h.accounts⟩
  refine ⟨h.wellTimed.advanceTo horizon, ?_, ?_⟩ <;> rw [heq]
  · exact hquiet
  · exact haccounts

theorem perform (h : d.Ledger earlier total) (job : Job) :
    (d.perform job).Ledger earlier (total ++ (job.complaint? d.session.address).toList) := by
  refine perform_cases d (Ledger earlier (total ++ (job.complaint? d.session.address).toList)) job
    ?_ ?_
  · rintro ms rfl
    show (d.advanceTo _).Ledger earlier (total ++ [])
    rw [List.append_nil]
    exact h.advanceTo _
  · have hproper := Changes.isProper_job d job
    have haccounts := h.accounts.makeAll hproper (Changes.raised_job d job)
    rw [Changes.owed_job] at haccounts
    exact ⟨(h.wellTimed.makeAll hproper).facing _,
      h.quiet.makeAll fun a ha => Changes.not_asks_of_enter_mem_job d ha, haccounts⟩

theorem performAll (h : d.Ledger earlier total) (jobs : List Job) :
    (d.performAll jobs).Ledger earlier
      (total ++ jobs.filterMap (Job.complaint? d.session.address)) := by
  induction jobs generalizing d total with
  | nil =>
    rw [List.filterMap_nil, List.append_nil]
    exact h
  | cons job jobs ih =>
    have hrest := ih (h.perform job)
    rw [address_perform h.wellTimed, List.append_assoc] at hrest
    have htotal : (job.complaint? d.session.address).toList ++
        jobs.filterMap (Job.complaint? d.session.address) =
          (job :: jobs).filterMap (Job.complaint? d.session.address) := by
      cases hjob : job.complaint? d.session.address <;> simp [hjob]
    rw [htotal] at hrest
    exact hrest

/-- When everything has arrived that was on its way, no alert is owed. -/
theorem owed_advance (h : d.Ledger earlier total) : (d.advance longestWait).owed = [] := by
  have hwait : waitOf longestWait = longestWait := Nat.min_self longestWait
  obtain ⟨e, hsteps, hdone, heq⟩ := advanceTo_spec h.wellTimed (d.now + longestWait)
  have hsoon : ∀ a ∈ d.agenda, a.event.complaint?.isSome = true → a.time ≤ d.now + longestWait := by
    intro a ha hcomplaint
    refine (h.wellTimed.timely a ha).soon ?_
    cases hevent : a.event with
    | minerArrived address reply => rfl
    | _ => simp [hevent, Event.complaint?] at hcomplaint
  have hinvariant := hsteps.invariant (fun e => e.Quiet ∧ ∀ a ∈ e.agenda,
      a.event.complaint?.isSome = true → a.time ≤ d.now + longestWait)
    (fun {x y} hx hstep hholds => ?_) h.wellTimed ⟨h.quiet, hsoon⟩
  · obtain ⟨he, -, hdue⟩ := hinvariant
    have hnone : e.owed = [] := by
      refine List.filterMap_eq_nil_iff.mpr fun a ha => ?_
      have hlater := (step?_eq_none_iff he).mp hdone a ha
      have hcomplaint : ¬ a.event.complaint?.isSome = true := fun hsome => by
        have hdue' := hdue a ha hsome
        omega
      simpa using hcomplaint
    have hadvance : d.advance longestWait = d.advanceTo (d.now + longestWait) := by
      rw [advance, hwait]
    rw [hadvance, heq]
    exact hnone
  · refine ⟨hholds.1.step hx hstep, fun b hb hcomplaint => ?_⟩
    obtain ⟨a, rest, hagenda, -, rfl⟩ := (step?_eq_some_iff hx).mp hstep
    rcases mem_agenda_makeAll.mp hb with hold | hnew
    · exact hholds.2 b (hagenda ▸ List.mem_cons_of_mem a hold) hcomplaint
    · have hown := isOwn_of_enter_mem (hholds.1 a (hagenda ▸ List.mem_cons_self)) hnew
      cases hevent : b.event <;> simp [hevent, Event.complaint?, Event.isOwn] at hcomplaint hown

end Ledger
end Dashboard
end PoolPage
