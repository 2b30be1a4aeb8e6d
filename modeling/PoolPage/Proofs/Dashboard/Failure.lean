import PoolPage.Proofs.Dashboard.Alerts

/-!
# Requests that fail

A reply that is fruitless is noted and perhaps complained about when it arrives, and that
is all (`Changes.isSaid_happen`).  So a dashboard that does its jobs shows in its regions
what one shows that makes their fruits only (`Abreast.perform`): the first has
more on its agenda, and all of it is inert.

Jobs without their failed requests have the same fruits, and `performAll_spare` follows:
what the regions show and what a page load remembers is as if the requests that fail
were never made.  The alerts tell: there is one for each failed request for a miner.
-/

namespace PoolPage

/-- Whether a change says something, and does nothing else. -/
def Change.isSaid : Change → Bool
  | note _ | call (.applyAll [.alert _]) => true
  | _ => false

def Fruitless (a : Appointment Event) : Prop := a.event.isFruitless = true

/-- Two pages show the same but for their alerts. -/
def SameRegions (_ : Nat) (page page' : Page) : Prop := page.view false = page'.view false

theorem compares_sameRegions : Compares SameRegions where
  change c _ h := Page.view_change_congr h c
  lower h := h

theorem Changes.isSaid_happen {event : Event} (h : event.isFruitless = true) (d : Dashboard) :
    ∀ c ∈ Changes.happen d event, c.isSaid = true := by
  cases event with
  | refreshEnded occurrence =>
    cases occurrence with
    | periodic turn => cases h
    | visitor => simp [Changes.happen, Changes.endRefresh, Change.isSaid]
  | poolArrived reply =>
    cases hanswer : reply.answer with
    | error causes => simp [Changes.happen, Changes.receivePool, hanswer, Change.isSaid]
    | ok stats => simp [Event.isFruitless, Reply.failed, hanswer] at h
  | blocksArrived reply =>
    cases hanswer : reply.answer with
    | error causes => simp [Changes.happen, Changes.receiveBlocks, hanswer, Change.isSaid]
    | ok stats => simp [Event.isFruitless, Reply.failed, hanswer] at h
  | paramsArrived reply =>
    cases hanswer : reply.answer with
    | error causes => simp [Changes.happen, Changes.receiveParams, hanswer, Change.isSaid]
    | ok stats => simp [Event.isFruitless, Reply.failed, hanswer] at h
  | minerArrived address reply =>
    cases hanswer : reply.answer with
    | error causes => simp [Changes.happen, Changes.receiveMiner, hanswer, Change.isSaid]
    | ok lookup =>
      cases lookup with
      | failed failure =>
        simp [Changes.happen, Changes.receiveMiner, hanswer, Change.isSaid, MinerPanel.render,
          Changes.settleChart, Dashboard.isChart]
      | found stats => simp [Event.isFruitless, Reply.complaint?, hanswer] at h
  | _ => cases h

namespace Dashboard

theorem view_makeAll_of_isSaid {cs : List Change} (hcs : ∀ c ∈ cs, c.isSaid = true)
    (d : Dashboard) : (d.makeAll cs).screen.page.view false = d.screen.page.view false := by
  induction cs generalizing d with
  | nil => rfl
  | cons c cs ih =>
    obtain ⟨hc, hrest⟩ := List.forall_mem_cons.mp hcs
    rw [makeAll_cons, ih hrest]
    unfold Change.isSaid at hc
    split at hc
    · rfl
    · exact Screen.view_call false d.screen _
    · cases hc

end Dashboard

theorem isInert_fruitless (horizon : Nat) : IsInert Fruitless SameRegions horizon where
  isShown := by
    intro a ha _ d c hc
    have hsaid := Changes.isSaid_happen ha d c hc
    cases c <;> first | rfl | cases hsaid
  strike := by
    intro a ha _ n d page hpage
    exact (Dashboard.view_makeAll_of_isSaid (Changes.isSaid_happen ha d) d).trans hpage

/-! ## Fruits only -/

namespace Dashboard

def enjoy (d : Dashboard) : Job → Dashboard
  | .pause ms => d.advance ms
  | job => d.makeAll (Changes.fruits d job)

def enjoyAll (d : Dashboard) (jobs : List Job) : Dashboard := jobs.foldl enjoy d

end Dashboard

open Dashboard

theorem Alike.makeAll_fruitful {n : Nat} {d e : Dashboard} {cs : List Change}
    (h : Alike Fruitless SameRegions n d e) (hordered : d.agenda.IsOrdered) {settings : Settings}
    {now : Nat} (hcs : ∀ c ∈ cs, c.IsProper settings now) :
    ∃ n', Alike Fruitless SameRegions n' (d.makeAll cs)
      (e.makeAll (cs.filter Change.isFruitful)) := by
  induction cs generalizing n d e with
  | nil => exact ⟨n, h⟩
  | cons c cs ih =>
    obtain ⟨hc, hrest⟩ := List.forall_mem_cons.mp hcs
    have hordered' := isOrdered_make c hordered
    cases hfruitful : c.isFruitful with
    | true =>
      have hreset : c ≠ .call .reset := by
        rintro rfl
        exact hc rfl
      rw [List.filter_cons_of_pos hfruitful]
      exact ih (h.make compares_sameRegions hordered hreset) hordered' hrest
    | false =>
      rw [List.filter_cons_of_neg (by simp [hfruitful])]
      cases c with
      | ask question =>
        exact ih ⟨h.settings, h.mode, h.epoch, h.store, h.file, h.session, h.agenda, h.page⟩
          hordered' hrest
      | enter a =>
        have ha : Fruitless a := by
          simpa [Change.isFruitful, Fruitless] using hfruitful
        exact ih ⟨h.settings, h.mode, h.epoch, h.store, h.file, h.session, h.agenda.enter_left ha,
          h.page⟩ hordered' hrest
      | _ => cases hfruitful

/-- Two dashboards at one time of which the first has more to do, and nothing comes of that. -/
def Abreast (d e : Dashboard) : Prop :=
  ∃ n, InStep false Fruitless SameRegions n d e ∧ d.now = e.now

namespace Abreast

variable {d e : Dashboard}

theorem refl (hd : d.WellTimed) (hquiet : d.Quiet) : Abreast d d :=
  ⟨0, ⟨⟨rfl, rfl, rfl, rfl, rfl, rfl, .refl _, rfl⟩, hd, hd, .quiet hquiet, Nat.le_refl _⟩, rfl⟩

theorem advance (h : Abreast d e) (ms : Nat) : Abreast (d.advance ms) (e.advance ms) := by
  obtain ⟨n, h, hnow⟩ := h
  have hlater : d.now ≤ d.now + waitOf ms := Nat.le_add_right ..
  obtain ⟨n', h'⟩ := h.advanceTo compares_sameRegions (isInert_fruitless _) hlater
  have hlater' : e.now ≤ d.now + waitOf ms := Nat.le_trans (Nat.le_of_eq hnow.symm) hlater
  have hleft := now_advanceTo h.wellTimed_left hlater
  have hright := now_advanceTo h.wellTimed_right hlater'
  show Abreast (d.advanceTo (d.now + waitOf ms)) (e.advanceTo (e.now + waitOf ms))
  rw [← hnow]
  exact ⟨n', h', hleft.trans hright.symm⟩

/-- The first does a job, and the second makes its fruits. -/
theorem perform (h : Abreast d e) (job : Job) : Abreast (d.perform job) (e.enjoy job) := by
  by_cases hpause : ∃ ms, job = .pause ms
  · obtain ⟨ms, rfl⟩ := hpause
    exact h.advance ms
  obtain ⟨n, h, hnow⟩ := h
  have haddress : d.session.sight.address = e.session.sight.address := by rw [h.alike.session]
  have hjob : Changes.job d job = Changes.job e job := Changes.job_congr hnow haddress job
  have henjoy : e.enjoy job = e.makeAll ((Changes.job d job).filter Change.isFruitful) := by
    rw [hjob]
    cases job with
    | pause ms => exact absurd ⟨ms, rfl⟩ hpause
    | _ => rfl
  have hproper := Changes.isProper_job d job
  have hproper' : ∀ c ∈ (Changes.job d job).filter Change.isFruitful,
      c.IsProper e.settings e.now := by
    intro c hc
    rw [hjob] at hc
    exact Changes.isProper_job e job c (List.mem_filter.mp hc).1
  have hquiet : d.Quiet := by
    cases h.told with
    | quiet hquiet => exact hquiet
  obtain ⟨n', halike⟩ := h.alike.makeAll_fruitful h.wellTimed_left.isOrdered hproper
  have hnow' : (d.makeAll (Changes.job d job)).now =
      (e.makeAll ((Changes.job d job).filter Change.isFruitful)).now := by
    rw [makeAll_now, makeAll_now, hnow]
  rw [henjoy, perform_eq d job fun ms hms => hpause ⟨ms, hms⟩]
  refine ⟨n', ⟨?_, (h.wellTimed_left.makeAll hproper).facing _,
    h.wellTimed_right.makeAll hproper', .quiet ?_, Nat.le_of_eq hnow'.symm⟩, hnow'⟩
  · exact ⟨halike.settings, halike.mode, halike.epoch, halike.store, halike.file, halike.session,
      halike.agenda, halike.page⟩
  · exact hquiet.makeAll fun a ha => Changes.not_asks_of_enter_mem_job d ha

theorem performAll (h : Abreast d e) (jobs : List Job) :
    Abreast (d.performAll jobs) (e.enjoyAll jobs) := by
  induction jobs generalizing d e with
  | nil => exact h
  | cons job jobs ih => exact ih (h.perform job)

end Abreast

/-! ## Failed requests that are spared -/

theorem Job.complaint?_of_spare {address : String} {job job' : Job}
    (h : job.spare address = some job') : job'.complaint? address = none := by
  cases job with
  | refresh pool miner =>
    rw [Job.spare, Option.some.injEq] at h
    rw [← h]
    cases hminer : miner.filter fun reply => isShort address || reply.complaint?.isNone with
    | none => rfl
    | some reply =>
      have hkept := (Option.filter_eq_some_iff.mp hminer).2
      cases hshort : isShort address <;> simp_all [Job.complaint?]
  | blocks reply =>
    simp only [Job.spare, Option.ite_none_left_eq_some, Option.some.injEq] at h
    rw [← h.2]
    rfl
  | params reply =>
    simp only [Job.spare, Option.ite_none_left_eq_some, Option.some.injEq] at h
    rw [← h.2]
    rfl
  | pause ms =>
    cases h
    rfl

namespace Dashboard

variable {d : Dashboard}

theorem WellTimed.enjoy (hd : d.WellTimed) (job : Job) : (d.enjoy job).WellTimed := by
  have hmake : (d.makeAll (Changes.fruits d job)).WellTimed :=
    hd.makeAll fun c hc => Changes.isProper_job d job c (List.mem_filter.mp hc).1
  cases job with
  | pause ms => exact hd.advanceTo _
  | _ => exact hmake

theorem address_enjoy (hd : d.WellTimed) (job : Job) :
    (d.enjoy job).session.address = d.session.address := by
  have hmake : (d.makeAll (Changes.fruits d job)).session.address = d.session.address :=
    address_makeAll (fun c hc => Changes.keepsAddress_job d job c (List.mem_filter.mp hc).1) d
  cases job with
  | pause ms => exact address_advanceTo hd _
  | _ => exact hmake

/-- Nothing is lost with a request that fails. -/
theorem enjoy_spare (d : Dashboard) (job : Job) :
    ((job.spare d.session.address).map d.enjoy).getD d = d.enjoy job := by
  have hfruits := Changes.fruits_spare d job
  cases job with
  | pause ms => rfl
  | refresh pool miner => exact congrArg d.makeAll hfruits
  | blocks reply =>
    cases hfailed : reply.failed <;> simp only [Job.spare, hfailed] at hfruits ⊢ <;>
      exact congrArg d.makeAll hfruits
  | params reply =>
    cases hfailed : reply.failed <;> simp only [Job.spare, hfailed] at hfruits ⊢ <;>
      exact congrArg d.makeAll hfruits

theorem enjoyAll_spare (hd : d.WellTimed) (jobs : List Job) :
    d.enjoyAll (jobs.filterMap (Job.spare d.session.address)) = d.enjoyAll jobs := by
  induction jobs generalizing d with
  | nil => rfl
  | cons job jobs ih =>
    have hjob := enjoy_spare d job
    have hrest := ih (hd.enjoy job)
    rw [address_enjoy hd] at hrest
    show _ = (d.enjoy job).enjoyAll jobs
    rw [← hrest, ← hjob, List.filterMap_cons]
    cases job.spare d.session.address <;> rfl

/-- Whatever jobs a dashboard does, nothing else being asked for, the regions of its page and all
that its page load remembers are as if the requests that fail were never made: the parameters of the
profit and whether the chart was drawn are among it.  Without those requests there are no new
alerts, and with them there is in the end one more for each miner that was asked for in vain. -/
theorem performAll_spare (hd : d.WellTimed) (hquiet : d.Quiet) (howed : d.owed = [])
    (jobs : List Job) :
    let spared := jobs.filterMap (Job.spare d.session.address)
    (d.performAll jobs).screen.page.view false = (d.performAll spared).screen.page.view false ∧
      (d.performAll jobs).session.sight = (d.performAll spared).session.sight ∧
      (d.performAll spared).alerts = d.alerts ∧
      ∃ raised, ((d.performAll jobs).advance longestWait).alerts = d.alerts ++ raised ∧
        raised.Perm (jobs.filterMap (Job.complaint? d.session.address)) := by
  intro spared
  obtain ⟨_, hfull, -⟩ := (Abreast.refl hd hquiet).performAll jobs
  obtain ⟨_, hspared, -⟩ := (Abreast.refl hd hquiet).performAll spared
  rw [show d.enjoyAll spared = d.enjoyAll jobs from enjoyAll_spare hd jobs] at hspared
  have hledger : d.Ledger d.alerts [] :=
    ⟨hd, hquiet, [], (List.append_nil _).symm, .of_eq howed⟩
  have hnone : spared.filterMap (Job.complaint? d.session.address) = [] := by
    refine List.filterMap_eq_nil_iff.mpr fun job hjob => ?_
    obtain ⟨_, -, hspare⟩ := List.mem_filterMap.mp hjob
    exact Job.complaint?_of_spare hspare
  refine ⟨hfull.alike.page.trans hspared.alike.page.symm,
    hfull.alike.session.trans hspared.alike.session.symm, ?_, ?_⟩
  · obtain ⟨raised, halerts, htotal⟩ := (hledger.performAll spared).accounts
    rw [hnone] at htotal
    rw [halerts, (List.append_eq_nil_iff.mp htotal.eq_nil).1, List.append_nil]
  · have hend := hledger.performAll jobs
    obtain ⟨raised, halerts, htotal⟩ := (hend.advanceTo _).accounts
    refine ⟨raised, halerts, ?_⟩
    have hpaid := hend.owed_advance
    rw [advance] at hpaid
    rw [hpaid, List.append_nil, List.nil_append] at htotal
    exact htotal

/-- A refresh of which both halves fail raises one alert. -/
theorem alerts_of_lost_refresh :
    let backend : Backend := ⟨fun _ => .now (.error ""), fun _ _ => .now (.error ""),
      fun _ _ => .now (.error "")⟩
    let d : Dashboard :=
      { Dashboard.new .standard .attended backend (.memory .blank) ⟨false, none⟩ 0 with
        session := { Session.ofRoute "" with address := "01234567890" } }
    let lost : Job := .refresh (some (.now (.error "down"))) (some (.now (.error "down")))
    d.WellTimed ∧ d.Quiet ∧ d.owed = [] ∧
      (d.performAll [lost]).screen.page.view false =
        (d.performAll [.refresh none none]).screen.page.view false ∧
      ((d.performAll [lost]).advance longestWait).alerts = ["error: down"] := by
  intro backend d lost
  have hd : d.WellTimed := ⟨.nil, fun a ha => by simp [d, new] at ha⟩
  have hquiet : d.Quiet := fun a ha => by simp [d, new] at ha
  obtain ⟨hview, -, -, raised, halerts, hraised⟩ := performAll_spare hd hquiet rfl [lost]
  have honly : raised = ["error: down"] := List.perm_singleton.mp hraised
  refine ⟨hd, hquiet, rfl, hview, ?_⟩
  rw [halerts, honly]
  rfl

end Dashboard
end PoolPage
