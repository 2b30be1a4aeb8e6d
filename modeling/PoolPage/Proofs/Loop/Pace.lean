import PoolPage.Proofs.Loop.Course

/-!
# The pace of a loop

Letting everything happen up to a time takes a loop as many steps as its workload says, at most.
A page is loaded anew when its time is over, which takes at least a millisecond from load to load
(`Lasts`), and when a command says so, which is then gone from the inbox.  So each page load is
paid for, either by the time that is left or by a command (`pending`).

It follows that `Loop.advanceTo` ends with nothing due, and that it is a course of the loop
(`exists_course_advanceTo`).
-/

namespace PoolPage

/-! ## What a page load and a command add to the workload -/

namespace Changes

variable (d : Dashboard) (horizon : Nat)

theorem weight_startTurns_le {event : Turn → Event} {bound : Nat}
    (h : ∀ turn, Dashboard.weight horizon (event turn) ≤ bound) (period : Nat) :
    weight horizon (startTurns d period event) ≤ bound := by
  unfold startTurns
  split
  · exact Nat.zero_le _
  · exact h _

theorem weight_navigate_le (pageLoad : Bool) (hash : String) :
    weight horizon (navigate d pageLoad hash) ≤ 2 := by
  unfold navigate
  split
  next outcome _ => exact Nat.le_succ_of_le (weight_finishNavigation_le d horizon pageLoad outcome)
  next path _ => exact Nat.le_refl _

theorem weight_loadAddress : weight horizon (loadAddress d) = 0 := by
  unfold loadAddress
  split <;> rfl

theorem weight_load_le (route : String) :
    weight horizon (load d route) ≤ 9 * (horizon + 1) + 6 := by
  have hrefresh : weight horizon (startTurns d d.settings.statsRefresh .refreshDue) ≤
      8 * (horizon + 1) :=
    weight_startTurns_le d horizon (fun _ => Nat.mul_le_mul_left 8 (Nat.sub_le ..)) _
  have hprofit : weight horizon (startTurns d d.settings.calcTick .profitDue) ≤ horizon + 1 :=
    weight_startTurns_le d horizon (fun _ => Nat.sub_le ..) _
  have hnavigate := weight_navigate_le d horizon true route
  simp only [load, startTasks, weight_append, weight_cons, weight_nil, weight_loadAddress,
    Change.weight, Dashboard.weight, Dashboard.ordered]
  omega

theorem weight_handle_le (command : Command) : weight horizon (handle d command) ≤ 4 := by
  cases command with
  | address value =>
    have hsave : weight horizon (saveAddress d value) = 0 := by
      unfold saveAddress
      split <;> rfl
    have hminer :=
      weight_askMiner_le ((d.make (.remember (.address value))).ask .stats) horizon .awaited
    simp only [handle, refresh, askPool, weight_append, weight_cons, weight_nil, hsave,
      Change.weight, Dashboard.weight, Dashboard.after, Dashboard.appointment, Occurrence.lane]
    omega
  | navigate hash =>
    have hnavigate :=
      weight_navigate_le (d.make (.remember (.route hash))) horizon false hash
    simp only [handle, weight_cons, Change.weight]
    omega
  | _ => exact Nat.zero_le _

end Changes

namespace Dashboard

variable {d e : Dashboard} {happening : Happening}

theorem workload_handle_le (d : Dashboard) (horizon : Nat) (command : Command) :
    (d.handle command).workload horizon ≤ d.workload horizon + 4 := by
  rw [handle_eq, workload_makeAll]
  exact Nat.add_le_add_left (Changes.weight_handle_le d horizon command) _

theorem workload_shutdown_le (d : Dashboard) (horizon : Nat) :
    d.shutdown.workload horizon ≤ d.workload horizon := by
  have hfilter : ∀ agenda : Agenda Event,
      (agenda.filter fun a => a.event.outlives).foldr
          (fun a steps => weight horizon a.event + steps) 0 ≤
        agenda.foldr (fun a steps => weight horizon a.event + steps) 0 := by
    intro agenda
    induction agenda with
    | nil => exact Nat.le_refl _
    | cons a rest ih =>
      rw [List.filter_cons]
      split <;> simp only [List.foldr_cons] <;> omega
  exact hfilter d.agenda

theorem workload_start_le (d : Dashboard) (horizon : Nat) (route : String) :
    (d.start route).workload horizon ≤ d.workload horizon + (9 * (horizon + 1) + 6) := by
  rw [start_eq, workload_makeAll]
  exact Nat.add_le_add_left (Changes.weight_load_le (d.cleared route) horizon route) _

/-! ## How long a page lasts -/

/-- The page of a dashboard does not expire before a time, and neither does one that is loaded from
now on. -/
structure Lasts (d : Dashboard) (time : Nat) : Prop where
  positive : 0 < waitOf d.settings.reload
  later : time ≤ d.now + waitOf d.settings.reload
  expired : d.session.expired = true → time ≤ d.now
  planned : ∀ a ∈ d.planned Event.isExpiry, time ≤ a.time

theorem time_of_mem_expiry {a : Appointment Event} (ha : a ∈ d.expiry) :
    a.time = d.now + waitOf d.settings.reload := by
  unfold expiry at ha
  split at ha
  · cases ha
  · rw [List.mem_singleton.mp ha]

/-- The only end of a page that is ordered is the one of the page that is there. -/
theorem mem_expiry_of_mem_books (hload : happening.isRestart = false) {a : Appointment Event}
    (ha : a ∈ (d.books happening).duties) (hexpiry : a.event.isExpiry = true) : a ∈ d.expiry := by
  cases happening with
  | event event =>
    rcases List.mem_append.mp ha with hother | hlast
    · rcases List.mem_append.mp hother with hchart | hnext
      · split at hchart
        · rw [List.mem_singleton.mp hchart] at hexpiry
          cases hexpiry
        · cases hchart
      · cases event with
        | refreshEnded occurrence =>
          cases occurrence with
          | periodic turn =>
            rw [List.mem_singleton.mp hnext] at hexpiry
            cases hexpiry
          | visitor => cases hnext
        | refreshDue turn =>
          rw [List.mem_singleton.mp hnext] at hexpiry
          cases hexpiry
        | profitDue turn =>
          rw [List.mem_singleton.mp hnext] at hexpiry
          cases hexpiry
        | _ => cases hnext
    · unfold lastDuty at hlast
      split at hlast
      · exact hlast
      · cases hlast
  | restart route => cases hload
  | _ => cases ha

theorem isDuty_of_isExpiry (event : Event) (h : event.isExpiry = true) : event.isDuty = true := by
  cases event <;> first | rfl | cases h

/-- A page expires when its end has come. -/
theorem Goes.expired_eq (h : d.Goes happening e) (hload : happening.isRestart = false) :
    e.session.expired = (d.session.expired || happening.event?.any Event.isExpiry) := by
  have hsession := congrArg Session.expired (h.session_eq hload)
  cases happening with
  | event event => rwa [books, foldl_edit_eventBooks] at hsession
  | command command =>
    rw [show (Happening.command command).event? = none from rfl, Option.any_none, Bool.or_false]
    cases command <;> exact hsession
  | restart route => cases hload
  | _ => exact hsession.trans (Bool.or_false _).symm

theorem Goes.lasts {time : Nat} (h : d.Goes happening e) (hload : happening.isRestart = false)
    (hd : d.Lasts time) : e.Lasts time := by
  obtain ⟨done, rest, hplanned, hdone, htime, hperm⟩ := h.planned_perm isDuty_of_isExpiry hload
  have hbefore : ∀ a ∈ done ++ rest, time ≤ a.time := hplanned ▸ hd.planned
  refine ⟨h.settings_eq ▸ hd.positive, ?_, fun hexpired => ?_, fun a ha => ?_⟩
  · rw [h.settings_eq]
    exact Nat.le_trans hd.later (Nat.add_le_add_right h.now_le _)
  · rw [h.expired_eq hload, Bool.or_eq_true] at hexpired
    rcases hexpired with hold | hnew
    · exact Nat.le_trans (hd.expired hold) h.now_le
    · obtain ⟨a, ha⟩ : ∃ a, a ∈ done := by
        refine List.exists_mem_of_ne_nil _ fun hnil => ?_
        rw [hnil] at hdone
        rw [Happening.any_event?_eq_false hdone.symm] at hnew
        cases hnew
      have hle := hbefore a (List.mem_append_left rest ha)
      rw [htime a ha] at hle
      exact Nat.le_trans hle h.now_le
  · rcases List.mem_append.mp (hperm.mem_iff.mp ha) with hordered | hrest
    · obtain ⟨hduty, hexpiry⟩ := List.mem_filter.mp hordered
      rw [time_of_mem_expiry (mem_expiry_of_mem_books hload hduty hexpiry)]
      exact hd.later
    · exact hbefore a (List.mem_append_right done hrest)

theorem Course.lasts {past : List Incident} {time : Nat} (h : d.Course past e)
    (hload : IsOneLoad past) (hd : d.Lasts time) : e.Lasts time := by
  induction h with
  | refl => exact hd
  | go _ hgo ih =>
    obtain ⟨hlast, hbefore⟩ := List.forall_mem_cons.mp hload
    exact hgo.lasts hlast (ih hbefore)

theorem planned_shutdown_isExpiry (d : Dashboard) : d.shutdown.planned Event.isExpiry = [] := by
  refine List.filter_eq_nil_iff.mpr fun a ha => ?_
  have houtlives : a.event.outlives = true := (List.mem_filter.mp ha).2
  cases hevent : a.event <;> simp_all [Event.outlives, Event.isExpiry]

/-- What a page load orders as the end of the page is the end of that page. -/
theorem mem_expiry_of_mem_loadBooks {route : String} {a : Appointment Event}
    (ha : a ∈ (d.loadBooks route).duties) (hexpiry : a.event.isExpiry = true) : a ∈ d.expiry := by
  have hturns : ∀ {period : Nat} {event : Turn → Event},
      (∀ turn, (event turn).isExpiry = false) → a ∉ d.firstTurns period event := by
    intro period event hevent hmem
    unfold firstTurns at hmem
    split at hmem
    · cases hmem
    · rw [List.mem_singleton.mp hmem] at hexpiry
      exact absurd hexpiry (by simp [ordered, hevent])
  rcases List.mem_append.mp ha with htasks | hlast
  · rcases List.mem_append.mp htasks with hfirst | hprofit
    · rcases List.mem_append.mp hfirst with hrefresh | honce
      · exact absurd hrefresh (hturns fun _ => rfl)
      · simp only [List.mem_cons, List.not_mem_nil, or_false] at honce
        rcases honce with rfl | rfl <;> cases hexpiry
    · exact absurd hprofit (hturns fun _ => rfl)
  · split at hlast
    · exact hlast
    · cases hlast

/-- A page that is loaded lasts for its time to live. -/
theorem Lasts.renew {time : Nat} (h : d.Lasts time) :
    (Loop.renew d).Lasts (d.now + waitOf d.settings.reload) := by
  have hgo : d.Goes (.restart d.session.route) (Loop.renew d) := .restart d _ d.session.route
  have hnow : (Loop.renew d).now = d.now := by
    rw [Loop.renew, start_eq, makeAll_now]
    rfl
  have hexpired : (Loop.renew d).session.expired = false :=
    congrArg Session.expired (session_start _ _)
  refine ⟨hgo.settings_eq ▸ h.positive, ?_, fun hends => ?_, fun a ha => ?_⟩
  · exact Nat.le_of_eq (by rw [hgo.settings_eq, hnow])
  · rw [hexpired] at hends
    cases hends
  · have hperm := planned_start (d.shutdown.note
      [Log.record .info .schedule "reload" [("route", .string d.session.route)]])
      d.session.route isDuty_of_isExpiry
    rcases List.mem_append.mp (hperm.mem_iff.mp ha) with hordered | hleft
    · obtain ⟨hduty, hexpiry⟩ := List.mem_filter.mp hordered
      exact Nat.le_of_eq (time_of_mem_expiry (mem_expiry_of_mem_loadBooks hduty hexpiry)).symm
    · exact absurd hleft (planned_shutdown_isExpiry d ▸ List.not_mem_nil)

end Dashboard

/-! ## The steps of a loop -/

namespace Loop

open Dashboard

/-- More than the steps that a loop takes up to a time, if its page lasts until another. -/
def pending (horizon time : Nat) (loop : Loop) : Nat :=
  loop.dashboard.workload horizon +
    (horizon + 2 - time + loop.inbox.length) * freshWorkload horizon

variable {d : Dashboard} {horizon time : Nat} {loop loop' : Loop}

theorem workload_renew_le (d : Dashboard) (horizon : Nat) :
    (renew d).workload horizon ≤ d.workload horizon + freshWorkload horizon := by
  have hstart := workload_start_le (d.shutdown.note
    [Log.record .info .schedule "reload" [("route", .string d.session.route)]]) horizon
    d.session.route
  have hshutdown := workload_shutdown_le d horizon
  calc (renew d).workload horizon
      ≤ d.shutdown.workload horizon + (9 * (horizon + 1) + 6) := hstart
    _ ≤ d.workload horizon + freshWorkload horizon := by
      rw [freshWorkload]
      omega

theorem now_renewExpired (d : Dashboard) : (renewExpired d).now = d.now := by
  unfold renewExpired
  split
  · rw [renew, start_eq, makeAll_now]
    rfl
  · rfl

/-- A page whose time is over is paid for with the time that it lasted. -/
theorem exists_lasts_renewExpired (h : d.Lasts time) (hnow : d.now ≤ horizon) (length : Nat) :
    ∃ time', (renewExpired d).Lasts time' ∧
      (renewExpired d).workload horizon +
          (horizon + 2 - time' + length) * freshWorkload horizon ≤
        d.workload horizon + (horizon + 2 - time + length) * freshWorkload horizon := by
  unfold renewExpired
  split
  next hrenewed =>
    have htime : time ≤ d.now := h.expired (Bool.and_eq_true_iff.mp hrenewed).1
    have hpositive := h.positive
    refine ⟨_, h.renew, ?_⟩
    have hwork := workload_renew_le d horizon
    have hless : horizon + 2 - (d.now + waitOf d.settings.reload) + length + 1 ≤
        horizon + 2 - time + length := by omega
    calc (renew d).workload horizon + (horizon + 2 - (d.now + waitOf d.settings.reload) + length) *
            freshWorkload horizon
        ≤ d.workload horizon + (horizon + 2 - (d.now + waitOf d.settings.reload) + length + 1) *
            freshWorkload horizon := by
          rw [Nat.succ_mul]
          omega
      _ ≤ d.workload horizon + (horizon + 2 - time + length) * freshWorkload horizon :=
          Nat.add_le_add_left (Nat.mul_le_mul_right _ hless) _
  next => exact ⟨time, h, Nat.le_refl _⟩

theorem lasts_leave (h : d.Lasts time) : (leave d).Lasts time where
  positive := h.positive
  later := h.later
  expired := h.expired
  planned _ ha := absurd ha (planned_shutdown_isExpiry d ▸ List.not_mem_nil)

/-- Whatever a command makes of a dashboard is paid for with the command. -/
theorem exists_pending_attend (isOpen : Bool) (inbox : List Command) (h : d.Lasts time)
    (hnow : d.now ≤ horizon) :
    ∃ time', (attend isOpen inbox d).dashboard.Lasts time' ∧
      (attend isOpen inbox d).pending horizon time' ≤
        (⟨d, inbox, isOpen, false⟩ : Loop).pending horizon time := by
  induction inbox generalizing d time with
  | nil =>
    obtain ⟨time', hlasts, hle⟩ := exists_lasts_renewExpired h hnow 0
    unfold attend
    dsimp only
    split
    next => exact ⟨time', hlasts, hle⟩
    next =>
      exact ⟨time', lasts_leave hlasts, Nat.le_trans
        (Nat.add_le_add_right (workload_shutdown_le _ horizon) _) hle⟩
  | cons command rest ih =>
    obtain ⟨time', hlasts, hle⟩ := exists_lasts_renewExpired h hnow (command :: rest).length
    have hnow' : (renewExpired d).now ≤ horizon := now_renewExpired d ▸ hnow
    have hgoes : ∀ {f : Dashboard} {time'' : Nat}, f.Lasts time'' → f.now ≤ horizon →
        time' ≤ time'' →
        f.workload horizon ≤ (renewExpired d).workload horizon + freshWorkload horizon →
        ∃ time', (attend isOpen rest f).dashboard.Lasts time' ∧
          (attend isOpen rest f).pending horizon time' ≤
            (⟨d, command :: rest, isOpen, false⟩ : Loop).pending horizon time := by
      intro f time'' hf hfnow htime hwork
      obtain ⟨last, hlast, hpending⟩ := ih hf hfnow
      refine ⟨last, hlast, Nat.le_trans hpending (Nat.le_trans ?_ hle)⟩
      have hless : horizon + 2 - time'' + rest.length + 1 ≤
          horizon + 2 - time' + (command :: rest).length := by
        rw [List.length_cons]
        omega
      calc f.workload horizon + (horizon + 2 - time'' + rest.length) * freshWorkload horizon
          ≤ (renewExpired d).workload horizon +
              (horizon + 2 - time'' + rest.length + 1) * freshWorkload horizon := by
            rw [Nat.succ_mul]
            omega
        _ ≤ (renewExpired d).workload horizon +
              (horizon + 2 - time' + (command :: rest).length) * freshWorkload horizon :=
            Nat.add_le_add_left (Nat.mul_le_mul_right _ hless) _
    have hhandle : ∃ time', (attend isOpen rest ((renewExpired d).handle command)).dashboard.Lasts
        time' ∧ (attend isOpen rest ((renewExpired d).handle command)).pending horizon time' ≤
          (⟨d, command :: rest, isOpen, false⟩ : Loop).pending horizon time := by
      have hwork := workload_handle_le (renewExpired d) horizon command
      refine hgoes ((Dashboard.Goes.command _ command).lasts rfl hlasts) ?_ (Nat.le_refl _) ?_
      · rwa [handle_eq, makeAll_now]
      · rw [freshWorkload]
        omega
    unfold attend
    dsimp only
    split
    next => exact ⟨time', hlasts, hle⟩
    next =>
      cases command with
      | quit =>
        refine ⟨time', lasts_leave hlasts, Nat.le_trans (Nat.add_le_add
          (workload_shutdown_le _ horizon) (Nat.mul_le_mul_right _ ?_)) hle⟩
        exact Nat.add_le_add_left (Nat.zero_le _) _
      | reload =>
        refine hgoes hlasts.renew ?_ hlasts.later (workload_renew_le _ horizon)
        rw [renew, start_eq, makeAll_now]
        exact hnow'
      | _ => exact hhandle

theorem exists_pending_goOn (loop : Loop) (h : loop.dashboard.Lasts time)
    (hnow : loop.dashboard.now ≤ horizon) :
    ∃ time', loop.goOn.dashboard.Lasts time' ∧
      loop.goOn.pending horizon time' ≤ loop.pending horizon time := by
  obtain ⟨d, inbox, isOpen, isOver⟩ := loop
  cases isOver with
  | true => exact ⟨time, h, Nat.le_refl _⟩
  | false => exact exists_pending_attend isOpen inbox h hnow

/-- Each step leaves fewer steps to take. -/
theorem exists_pending_lt (hd : loop.dashboard.WellTimed) (h : loop.dashboard.Lasts time)
    (hstep : loop.step? horizon = some loop') :
    ∃ time', loop'.dashboard.Lasts time' ∧
      loop'.pending horizon time' < loop.pending horizon time := by
  obtain ⟨e, hdashboard, rfl⟩ := Option.map_eq_some_iff.mp hstep
  obtain ⟨past, hcourse, hown⟩ := exists_course_step hd hdashboard
  have hnow : e.now ≤ horizon := by
    obtain ⟨next, rest, -, hdue, rfl⟩ := (step?_eq_some_iff hd).mp hdashboard
    rwa [makeAll_now]
  obtain ⟨time', hlasts, hle⟩ := exists_pending_goOn { loop with dashboard := e }
    (hcourse.lasts (isOneLoad_of_isOwn hown) h) hnow
  exact ⟨time', hlasts, Nat.lt_of_le_of_lt hle
    (Nat.add_lt_add_right (workload_lt_of_step? hd hdashboard) _)⟩

/-! ## What is run is a course -/

theorem exists_course_step? (hd : loop.dashboard.WellTimed)
    (hstep : loop.step? horizon = some loop') :
    ∃ moves, loop.Course moves loop' ∧ ∀ m ∈ moves, m.sent? = none := by
  obtain ⟨e, hdashboard, rfl⟩ := Option.map_eq_some_iff.mp hstep
  obtain ⟨past, hcourse, hown⟩ := exists_course_step hd hdashboard
  obtain ⟨moves, hmoves, hsent⟩ :=
    exists_course_aside hcourse hown loop.inbox loop.isOpen loop.isOver
  obtain ⟨later, hlater, hlaterSent⟩ := exists_course_goOn { loop with dashboard := e }
  exact ⟨later ++ moves, hmoves.trans hlater, List.forall_mem_append.mpr ⟨hlaterSent, hsent⟩⟩

/-- As many steps as are pending leave nothing due. -/
theorem exists_course_iterate (horizon : Nat) {steps : Nat} (hd : loop.dashboard.WellTimed)
    (h : loop.dashboard.Lasts time) (hsteps : loop.pending horizon time ≤ steps) :
    ∃ moves, loop.Course moves (Dashboard.iterate (step? horizon) steps loop) ∧
      (∀ m ∈ moves, m.sent? = none) ∧
      (Dashboard.iterate (step? horizon) steps loop).step? horizon = none := by
  induction steps generalizing loop time with
  | zero =>
    refine ⟨[], .refl, List.forall_mem_nil _, ?_⟩
    cases hstep : loop.step? horizon with
    | none => exact hstep
    | some loop' =>
      obtain ⟨time', -, hlt⟩ := exists_pending_lt hd h hstep
      omega
  | succ steps ih =>
    unfold Dashboard.iterate
    cases hstep : loop.step? horizon with
    | none => exact ⟨[], .refl, List.forall_mem_nil _, hstep⟩
    | some loop' =>
      obtain ⟨time', hlasts, hlt⟩ := exists_pending_lt hd h hstep
      obtain ⟨moves, hmoves, hsent⟩ := exists_course_step? hd hstep
      obtain ⟨later, hlater, hlaterSent, hdone⟩ :=
        ih (hmoves.wellTimed hd) hlasts (by omega)
      exact ⟨later ++ moves, hmoves.trans hlater,
        List.forall_mem_append.mpr ⟨hlaterSent, hsent⟩, hdone⟩

theorem lasts_zero (hreload : 0 < d.settings.reload) : d.Lasts 0 where
  positive := Nat.lt_min.mpr ⟨hreload, by decide⟩
  later := Nat.zero_le _
  expired _ := Nat.zero_le _
  planned _ _ := Nat.zero_le _

/-- The steps of a loop suffice: up to a time everything happens that is due, and nothing that is
sent meanwhile. -/
theorem exists_course_advanceTo (hd : loop.dashboard.WellTimed)
    (hreload : 0 < loop.dashboard.settings.reload) (horizon : Nat) :
    ∃ moves, loop.Course moves (loop.advanceTo horizon) ∧ ∀ m ∈ moves, m.sent? = none := by
  obtain ⟨moves, hmoves, hsent, hdone⟩ :=
    exists_course_iterate horizon hd (lasts_zero hreload) (Nat.le_refl _)
  have hlast := hmoves.wellTimed hd
  have hdue := (step?_eq_none_iff hlast).mp (Option.map_eq_none_iff.mp hdone)
  refine ⟨_, hmoves.go (.aside (.clock (Nat.le_max_left _ horizon) fun a ha => ?_) rfl),
    List.forall_mem_cons.mpr ⟨rfl, hsent⟩⟩
  exact Nat.max_le.mpr ⟨(hlast.timely a ha).now_le, Nat.le_of_lt (hdue a ha)⟩

end Loop
end PoolPage
