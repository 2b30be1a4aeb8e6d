import PoolPage.Proofs.Dashboard.Periodic

/-!
# How often the pool is asked

If replies arrive without delay, a refresh has ended before its next turn is due, so that the
turns of the periodic refresh start a period apart (`Polled`).  Each of them asks for the
overall figures, as do the two tasks that run once and each address that is given, and
nothing else does.  Nothing in this depends on what the replies say (`polls_regardless`).
-/

namespace PoolPage

structure Backend.IsPrompt (backend : Backend) : Prop where
  stats : ∀ occasion, (backend.stats occasion).delay = 0
  miner : ∀ address occasion, (backend.miner address occasion).delay = 0

namespace Event

/-- Whether an event begins or ends a turn of the periodic refresh. -/
def isPoll : Event → Bool
  | refreshDue _ | refreshEnded (.periodic _) => true
  | _ => false

def isTurn : Event → Bool
  | refreshDue _ => true
  | _ => false

/-- Whether an event starts a task that runs once. -/
def isOnce : Event → Bool
  | blocksDue | paramsDue => true
  | _ => false

theorem isDuty_of_isPoll (event : Event) (h : event.isPoll = true) : event.isDuty = true := by
  cases event with
  | refreshEnded occurrence => cases occurrence <;> first | rfl | cases h
  | _ => first | rfl | cases h

theorem isDuty_of_isOnce (event : Event) (h : event.isOnce = true) : event.isDuty = true := by
  cases event <;> first | rfl | cases h

end Event

namespace Happening

/-- The outside world answers promptly after a happening if it did so before. -/
def IsPrompt : Happening → Prop
  | answers backend => backend.IsPrompt
  | _ => True

theorem isPrompt_of_isOwn {happening : Happening} (h : happening.isOwn = true) :
    happening.IsPrompt := by
  cases happening <;> trivial

theorem address?_of_isOwn {happening : Happening} (h : happening.isOwn = true) :
    happening.address? = none := by
  cases happening <;> first | rfl | cases h

def isTurn (happening : Happening) : Bool := happening.event?.any Event.isTurn

def isOnce (happening : Happening) : Bool := happening.event?.any Event.isOnce

/-- Whether a happening asks for the overall figures. -/
def polls (happening : Happening) : Bool :=
  happening.isTurn || happening.isOnce || happening.address?.isSome

end Happening

theorem Question.count_stats_route (hash : String) :
    (route hash).count .stats = 0 := by
  unfold route
  split <;> rfl

theorem countP_polls (past : List Incident) :
    past.countP (·.happening.polls) =
      past.countP (·.happening.isTurn) + past.countP (·.happening.isOnce) +
        past.countP (·.happening.address?.isSome) := by
  induction past with
  | nil => rfl
  | cons x past ih =>
    -- a happening asks for one reason only
    have hone : (if x.happening.polls then 1 else 0) =
        (if x.happening.isTurn then 1 else 0) + (if x.happening.isOnce then 1 else 0) +
          if x.happening.address?.isSome then 1 else 0 := by
      cases x.happening with
      | command command => cases command <;> rfl
      | event event => cases event <;> rfl
      | _ => rfl
    simp only [List.countP_cons, ih, hone]
    omega

namespace Dashboard

variable {d e : Dashboard} {happening : Happening} {past : List Incident} {route : String}

/-! ## Who asks -/

theorem count_stats_books (d : Dashboard) (happening : Happening) :
    (d.books happening).questions.count .stats = if happening.polls then 1 else 0 := by
  have hlookup : ∀ address, (Question.lookup address).count .stats = 0 := by
    intro address
    unfold Question.lookup
    split <;> rfl
  have hstats : ∀ address, (.stats :: Question.lookup address).count .stats = 1 := by
    intro address
    rw [List.count_cons_self, hlookup]
  cases happening with
  | command command =>
    cases command with
    | address value => exact hstats value
    | navigate hash => exact Question.count_stats_route hash
    | _ => rfl
  | event event =>
    cases event with
    | refreshDue turn => exact hstats d.session.address
    | _ => rfl
  | restart route => exact Question.count_stats_route route
  | _ => rfl

/-- Every happening that asks for the overall figures does so once. -/
theorem Course.exists_asked (h : d.Course past e) :
    ∃ asked, e.asked = d.asked ++ asked ∧ asked.count .stats = past.countP (·.happening.polls) := by
  induction h with
  | refl => exact ⟨[], (List.append_nil _).symm, rfl⟩
  | @go e f past happening _ hgo ih =>
    obtain ⟨asked, hasked, hcount⟩ := ih
    refine ⟨asked ++ (e.books happening).questions, ?_, ?_⟩
    · rw [hgo.asked_eq, hasked, List.append_assoc]
    · rw [List.count_append, hcount, count_stats_books, List.countP_cons]

/-! ## The tasks that run once -/

/-- Nothing but a page load enters a task that runs once. -/
theorem Goes.planned_isOnce (h : d.Goes happening e) (hload : happening.isRestart = false) :
    ∃ done rest, d.planned Event.isOnce = done ++ rest ∧
      done.length = (if happening.isOnce then 1 else 0) ∧ (e.planned Event.isOnce).Perm rest := by
  obtain ⟨done, rest, hplanned, hdone, -, hperm⟩ := h.planned_perm Event.isDuty_of_isOnce hload
  have hnone : (d.books happening).duties.filter (fun a => a.event.isOnce) = [] := by
    rw [filter_duties_books rfl rfl d hload]
    cases happening with
    | event event =>
      cases event with
      | refreshEnded occurrence => cases occurrence <;> rfl
      | _ => rfl
    | _ => rfl
  have hlength : done.length = if happening.isOnce then 1 else 0 := by
    rw [← List.length_map (f := Appointment.event), hdone]
    cases happening with
    | event event => cases event <;> rfl
    | _ => rfl
  rw [hnone] at hperm
  exact ⟨done, rest, hplanned, hlength, hperm⟩

/-- Of the tasks that run once each has run or is due. -/
structure RunsOnce (d : Dashboard) (total ran : Nat) : Prop where
  length_planned : (d.planned Event.isOnce).length + ran = total
  time_le : ∀ a ∈ d.planned Event.isOnce, a.time ≤ d.now

theorem Goes.runsOnce {total ran : Nat} (h : d.Goes happening e)
    (hload : happening.isRestart = false) (hd : d.RunsOnce total ran) :
    e.RunsOnce total (ran + if happening.isOnce then 1 else 0) := by
  obtain ⟨done, rest, hplanned, hlength, hperm⟩ := h.planned_isOnce hload
  have htotal := hd.length_planned
  rw [hplanned, List.length_append, hlength] at htotal
  refine ⟨by rw [hperm.length_eq]; omega, fun a ha => ?_⟩
  have hbefore : a ∈ d.planned Event.isOnce :=
    hplanned ▸ List.mem_append_right done (hperm.mem_iff.mp ha)
  exact Nat.le_trans (hd.time_le a hbefore) h.now_le

theorem Course.runsOnce {total ran : Nat} (h : d.Course past e) (hload : IsOneLoad past)
    (hd : d.RunsOnce total ran) : e.RunsOnce total (ran + past.countP (·.happening.isOnce)) := by
  induction h with
  | refl => exact hd
  | go _ hgo ih =>
    obtain ⟨hlast, hbefore⟩ := List.forall_mem_cons.mp hload
    rw [List.countP_cons, ← Nat.add_assoc]
    exact hgo.runsOnce hlast (ih hbefore)

theorem RunsOnce.eq_of_settled {total ran : Nat} (h : d.RunsOnce total ran) (hd : d.Settled) :
    ran = total := by
  have hnone : d.planned Event.isOnce = [] := by
    refine List.eq_nil_iff_forall_not_mem.mpr fun a ha => ?_
    exact absurd (hd a (List.mem_filter.mp ha).1) (Nat.not_lt.mpr (h.time_le a ha))
  have htotal := h.length_planned
  rwa [hnone, List.length_nil, Nat.zero_add] at htotal

/-! ## The periodic refresh -/

theorem Goes.isPrompt (h : d.Goes happening e) (hprompt : happening.IsPrompt)
    (hd : d.backend.IsPrompt) : e.backend.IsPrompt := by
  cases h with
  | command command => rwa [handle_eq, makeAll_backend]
  | event hagenda htime => rwa [happen_eq, makeAll_backend]
  | answers backend => exact hprompt
  | restart records route => rwa [start_eq, makeAll_backend]
  | _ => exact hd

theorem time_refreshEnd (hd : d.backend.IsPrompt) (occurrence : Occurrence) :
    (d.refreshEnd occurrence).time = d.now := by
  have hpool : Changes.poolDelay d = 0 := hd.stats _
  have hminer : Changes.minerDelay (d.ask .stats) = 0 := by
    unfold Changes.minerDelay
    split
    · rfl
    · exact hd.miner _ _
  rw [refreshEnd, hpool, hminer]
  rfl

/-- `n` turns of the periodic refresh have begun since a time, each of them a period after the one
before: the next is due in time, or the last one is just ending. -/
inductive Polled (d : Dashboard) (start : Nat) : Nat → Prop
  | waiting {n time : Nat} (hawaits : d.Awaits Event.isPoll .refreshDue time)
    (htime : time = start + n * d.settings.statsRefresh) (hnow : d.now ≤ time)
    (hlast : time ≤ d.now + d.settings.statsRefresh) : Polled d start n
  | ending {n time : Nat}
    (hawaits : d.Awaits Event.isPoll (fun turn => .refreshEnded (.periodic turn)) time)
    (htime : time = start + n * d.settings.statsRefresh) (hnow : d.now = time) :
    Polled d start (n + 1)

/-- Nothing but a turn lets the refresh go on. -/
theorem filter_duties_of_not_isPoll (d : Dashboard) (hload : happening.isRestart = false)
    (h : happening.event?.any Event.isPoll = false) :
    happening.isTurn = false ∧
      (d.books happening).duties.filter (fun a => a.event.isPoll) = [] := by
  rw [filter_duties_books rfl rfl d hload]
  cases happening with
  | event event =>
    cases event with
    | refreshDue turn => cases h
    | refreshEnded occurrence =>
      cases occurrence with
      | periodic turn => cases h
      | visitor => exact ⟨rfl, rfl⟩
    | _ => exact ⟨rfl, rfl⟩
  | _ => exact ⟨rfl, rfl⟩

/-- A turn that is due ends as soon as it has begun. -/
theorem awaits_end {turn : Turn} (hprompt : d.backend.IsPrompt) (hdue : turn.due = d.now)
    (hstart : turn.start = d.now)
    (hperm : (e.planned Event.isPoll).Perm [d.refreshEnd (.periodic turn)]) :
    e.Awaits Event.isPoll (fun turn => .refreshEnded (.periodic turn)) d.now :=
  ⟨hperm.eq_singleton, rfl, time_refreshEnd hprompt (.periodic turn), hdue, hstart⟩

theorem Goes.polled {start n : Nat} (h : d.Goes happening e)
    (hload : happening.isRestart = false) (hprompt : d.backend.IsPrompt) (hd : d.Polled start n) :
    e.Polled start (n + if happening.isTurn then 1 else 0) := by
  have hsettings := h.settings_eq
  have hle := h.now_le
  cases hd with
  | waiting hawaits htime hnow hlast =>
    rcases hawaits.goes Event.isDuty_of_isPoll h hload with
      ⟨hnone, hstay⟩ | ⟨turn, rfl, -, hdone, hdue, hstart, hperm⟩
    · obtain ⟨hturn, hduties⟩ := filter_duties_of_not_isPoll d hload hnone
      rw [hturn]
      refine .waiting (hstay hduties) (hsettings ▸ htime) (hawaits.now_le h hnow) ?_
      rw [hsettings]
      omega
    · rw [filter_duties_books rfl rfl d rfl] at hperm
      exact .ending (awaits_end hprompt hdue hstart hperm) (hsettings ▸ hdone.symm.trans htime)
        h.now_of_event
  | @ending n _ hawaits htime hnow =>
    rcases hawaits.goes Event.isDuty_of_isPoll h hload with
      ⟨hnone, hstay⟩ | ⟨turn, rfl, -, hdone, hdue, hstart, hperm⟩
    · obtain ⟨hturn, hduties⟩ := filter_duties_of_not_isPoll d hload hnone
      rw [hturn]
      have hlater := hawaits.now_le h (Nat.le_of_eq hnow)
      exact .ending (hstay hduties) (hsettings ▸ htime) (by omega)
    · rw [filter_duties_books rfl rfl d rfl] at hperm
      have hnext : d.now + d.settings.statsRefresh =
          start + (n + 1) * e.settings.statsRefresh := by
        rw [hsettings, hnow, htime, Nat.succ_mul, Nat.add_assoc]
      refine .waiting (.of_renewal hdue hstart hperm) hnext ?_ ?_
      · rw [h.now_of_event]
        exact Nat.le_add_right ..
      · exact Nat.le_of_eq (by rw [h.now_of_event, hsettings])

theorem Course.polled {start n : Nat} (h : d.Course past e) (hload : IsOneLoad past)
    (hprompt : d.backend.IsPrompt) (hpast : ∀ x ∈ past, x.happening.IsPrompt)
    (hd : d.Polled start n) :
    e.backend.IsPrompt ∧ e.Polled start (n + past.countP (·.happening.isTurn)) := by
  induction h with
  | refl => exact ⟨hprompt, hd⟩
  | go _ hgo ih =>
    obtain ⟨hlast, hbefore⟩ := List.forall_mem_cons.mp hload
    obtain ⟨hlast', hbefore'⟩ := List.forall_mem_cons.mp hpast
    obtain ⟨hbackend, hpolled⟩ := ih hbefore hbefore'
    rw [List.countP_cons, ← Nat.add_assoc]
    exact ⟨hgo.isPrompt hlast' hbackend, hgo.polled hlast hbackend hpolled⟩

/-- When all that was due has happened, a turn has begun for each period that has. -/
theorem Polled.eq_of_settled {start n : Nat} (h : d.Polled start n) (hd : d.Settled)
    (hstart : start ≤ d.now) : n = 1 + (d.now - start) / d.settings.statsRefresh := by
  cases h with
  | waiting hawaits htime _ hlast =>
    have hlater := hawaits.lt_of_settled hd
    cases n with
    | zero => omega
    | succ n =>
      have hdiv : (d.now - start) / d.settings.statsRefresh = n := by
        rw [Nat.succ_mul] at htime
        refine Nat.div_eq_of_lt_le (by omega) ?_
        rw [Nat.succ_mul]
        omega
      rw [hdiv, Nat.add_comm]
  | ending hawaits _ hnow =>
    have hlater := hawaits.lt_of_settled hd
    omega

/-! ## Page loads -/

theorem Idle.polled_start (h : d.Idle) (hperiod : 0 < d.settings.statsRefresh) (route : String) :
    (d.start route).Polled d.now 0 := by
  have hfirst : ((d.cleared route).loadBooks route).duties.filter (fun a => a.event.isPoll) =
      [(d.cleared route).ordered 0 (.refreshDue (Turn.first d.now))] := by
    have hpositive : 0 < (d.cleared route).settings.statsRefresh := hperiod
    rw [filter_duties_loadBooks _ _ rfl, List.filter_append, List.filter_append,
      firstTurns_of_pos _ hpositive, filter_firstTurns _ fun _ => rfl]
    rfl
  have hnow := now_start d route
  refine .waiting (h.awaits_start Event.isDuty_of_isPoll rfl hfirst) ?_ (Nat.le_of_eq hnow) ?_
  · rw [Nat.zero_mul, Nat.add_zero]
  · rw [hnow]
    exact Nat.le_add_right ..

theorem Idle.runsOnce_start (h : d.Idle) (route : String) : (d.start route).RunsOnce 2 0 := by
  have hperm := planned_start d route Event.isDuty_of_isOnce
  rw [h.planned_eq_nil rfl, filter_duties_loadBooks _ _ rfl, List.filter_append,
    List.filter_append, filter_firstTurns _ fun _ => rfl, filter_firstTurns _ fun _ => rfl] at hperm
  refine ⟨hperm.length_eq, fun a ha => ?_⟩
  have hfirst : a ∈ [(d.cleared route).ordered 0 .blocksDue,
      (d.cleared route).ordered 0 .paramsDue] := hperm.mem_iff.mp ha
  rw [now_start]
  rcases List.mem_cons.mp hfirst with rfl | hsecond
  · exact Nat.le_refl _
  · rw [List.mem_singleton.mp hsecond]
    exact Nat.le_refl _

/-! ## The cadence -/

/-- However the requests of a page load end, if they do so without delay: whenever all that was due
has happened, the pool was asked for its figures once in each period, twice by the tasks that run
once and once for each address that was given, and for a miner in each refresh with an address. -/
theorem polls_regardless (hidle : d.Idle) (hperiod : 0 < d.settings.statsRefresh)
    (hcourse : (d.start route).Course past e) (hload : IsOneLoad past)
    (hprompt : d.backend.IsPrompt) (hpast : ∀ x ∈ past, x.happening.IsPrompt)
    (hsettled : e.Settled) :
    ∃ asked, e.asked = d.asked ++ asked ∧
      asked.count .stats = 3 + (e.now - d.now) / d.settings.statsRefresh +
        past.countP (·.happening.address?.isSome) ∧
      past.countP (·.happening.isTurn) = 1 + (e.now - d.now) / d.settings.statsRefresh ∧
      asked.filterMap Question.miner? =
        (refreshed (fun past => (last? Happening.address? past).getD d.store.address) past).filter
          fun address => !isShort address := by
  have hstart := hidle.polled_start hperiod route
  have hbackend : (d.start route).backend.IsPrompt := (backend_start d route).symm ▸ hprompt
  obtain ⟨-, hpolled⟩ := hcourse.polled hload hbackend hpast hstart
  have hsettings := hcourse.settings_eq.trans (settings_start d route)
  have hnow := hcourse.now_le
  rw [now_start] at hnow
  have hturns := hpolled.eq_of_settled hsettled hnow
  have honce := (hcourse.runsOnce hload (hidle.runsOnce_start route)).eq_of_settled hsettled
  rw [Nat.zero_add] at hturns honce
  rw [hsettings] at hturns
  obtain ⟨asked, hasked, hcount⟩ := hcourse.exists_asked
  rw [asked_start, List.append_assoc] at hasked
  have haddress : ∀ {before : List Incident} {f : Dashboard}, before <:+ past →
      (d.start route).Course before f →
        f.session.address = (last? Happening.address? before).getD d.store.address := by
    intro before f hsuffix hbefore
    rw [hbefore.last_eq Goes.address_eq fun x hx => hload x (hsuffix.subset hx), address_start]
  have hlookups := hcourse.lookups_eq haddress
  rw [lookups_start, lookups, hasked, List.filterMap_append] at hlookups
  refine ⟨_, hasked, ?_, hturns, List.append_cancel_left hlookups⟩
  rw [List.count_append, Question.count_stats_route, hcount, countP_polls, hturns, honce]
  omega

theorem isPrompt_charted : charted.IsPrompt := ⟨fun _ => rfl, fun _ _ => rfl⟩

/-- Four minutes with an address after the first.  The turn before it looks up no miner. -/
theorem polls_in_four_minutes :
    let e := ((((onStore none).start "").advanceTo 60000).handle (.address someAddress)).advanceTo
      240000
    e.asked.count .stats = 6 ∧
      e.asked.filterMap Question.miner? = List.replicate 3 someAddress ∧
      ∃ past, ((onStore none).start "").Course past e ∧ past.countP (·.happening.isTurn) = 3 ∧
        ((refreshed (fun past => (last? Happening.address? past).getD "") past).filter
          fun address => !isShort address) = List.replicate 3 someAddress := by
  intro e
  have hd : ((onStore none).start "").WellTimed := ((atRest_new ..).start "").wellTimed
  have hstart : ((onStore none).start "").now ≤ 60000 := by
    rw [now_start]
    decide
  obtain ⟨before, after, hcourse, hown, hown', hnow, hsettled⟩ :=
    exists_course_given hd (.address someAddress) hstart (by decide : 60000 ≤ 240000)
  have hload := (isOneLoad_of_isOwn hown).given (isOneLoad_of_isOwn hown') 60000
    (.address someAddress)
  have hprompt : ∀ x ∈ after ++ ⟨60000, .command (.address someAddress)⟩ :: before,
      x.happening.IsPrompt :=
    List.forall_mem_append.mpr ⟨fun x hx => Happening.isPrompt_of_isOwn (hown' x hx),
      List.forall_mem_cons.mpr ⟨trivial, fun x hx => Happening.isPrompt_of_isOwn (hown x hx)⟩⟩
  have hnone : ∀ past : List Incident, (∀ x ∈ past, x.happening.isOwn = true) →
      past.countP (·.happening.address?.isSome) = 0 := by
    intro past hown
    refine List.countP_eq_zero.mpr fun x hx => ?_
    rw [Happening.address?_of_isOwn (hown x hx)]
    exact Bool.false_ne_true
  have hidle : (onStore none).Idle := idle_new _ _ _ _ _ _
  obtain ⟨asked, hasked, hcount, hturns, hlookups⟩ :=
    polls_regardless hidle (by decide) hcourse hload isPrompt_charted hprompt hsettled
  rw [hnow, List.countP_append, List.countP_cons, hnone _ hown, hnone _ hown'] at hcount
  rw [hnow] at hturns
  obtain rfl : e.asked = asked := hasked
  have hminers : e.asked.filterMap Question.miner? = List.replicate 3 someAddress := by
    decide +kernel
  exact ⟨hcount, hminers, _, hcourse, hturns, hlookups.symm.trans hminers⟩

end Dashboard
end PoolPage
