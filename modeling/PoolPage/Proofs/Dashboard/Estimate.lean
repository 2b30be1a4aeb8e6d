import PoolPage.Proofs.Dashboard.Periodic
import PoolPage.Proofs.Page.Hovering
import PoolPage.Proofs.Panel.Leftovers

/-!
# The estimate catches up

The estimate of the profit is reckoned whenever the calculator's turn comes and when the
network's figures arrive, with what the visitor typed last and the figures known by then.
Nothing else writes it, so that it can only be behind in what was typed since the last
turn (`Ticking`): a period after the last input it is up to date, and before that it is an
estimate for an earlier one (`estimate_catches_up`).
-/

namespace PoolPage

/-! ## The estimate on a page -/

/-- The estimate that a batch writes. -/
def Batch.estimate? : Batch → Option String
  | profit input params blockTime => some (Profit.text input params blockTime)
  | _ => none

namespace Page

def estimate (page : Page) : Option String := page.text.get? Profit.region

theorem estimate_applyAll {us : List Update} (h : ∀ u ∈ us, u.owner? ≠ some .profit) (page : Page) :
    (page.applyAll us).estimate = page.estimate := by
  rw [estimate, text_applyAll, Update.get?_writeAll_of_owner?_ne _ h (by decide), estimate]

theorem estimate_batch (batch : Batch) (page : Page) :
    (page.applyAll batch.updates).estimate = (batch.estimate?.or page.estimate) := by
  cases batch with
  | profit input params blockTime =>
    simp [Batch.updates, Profit.render, estimate, apply_eq, Batch.estimate?]
  | _ => exact estimate_applyAll (Batch.owner?_ne_of_mem (by simp [Batch.writer])) page

theorem estimate_resizeChart (page : Page) (id : String) :
    (page.resizeChart id).estimate = page.estimate := by
  rw [resizeChart_eq]
  rfl

theorem HoversInOverview.estimate_setText {page : Page} (h : page.HoversInOverview)
    {target : String} (hhover : page.IsHovered target) (new : String) :
    (page.setText target new).estimate = page.estimate := by
  have hne : Profit.region ≠ target := by
    intro heq
    have hpool := h target hhover
    rw [← heq] at hpool
    revert hpool
    decide
  rw [setText_eq, estimate, Table.get?_insert, if_neg hne, estimate]

theorem HoversInOverview.estimate_pointerMove {page : Page} (h : page.HoversInOverview)
    (id : String) (index : Nat) : (page.pointerMove id index).estimate = page.estimate := by
  rcases pointerMove_eq page id index with heq | ⟨target, new, hhover, heq⟩
  · rw [heq]
  · rw [heq, h.estimate_setText hhover]

theorem HoversInOverview.estimate_pointerOut {page : Page} (h : page.HoversInOverview)
    (id : String) : (page.pointerOut id).estimate = page.estimate := by
  rcases pointerOut_eq page id with heq | ⟨target, new, hhover, heq⟩
  · rw [heq]
  · rw [heq, h.estimate_setText hhover]

end Page

/-! ## When it is reckoned -/

namespace Event

/-- Whether it is the calculator's turn. -/
def isTick : Event → Bool
  | profitDue _ => true
  | _ => false

/-- Whether an event has the profit reckoned. -/
def reckons (event : Event) : Bool := event.isTick || event.params?.isSome

theorem isDuty_of_isTick (event : Event) (h : event.isTick = true) : event.isDuty = true := by
  cases event <;> first | rfl | cases h

end Event

namespace Happening

def isTick (happening : Happening) : Bool := happening.event?.any Event.isTick

def reckons (happening : Happening) : Bool := happening.event?.any Event.reckons

theorem input?_of_isOwn {happening : Happening} (h : happening.isOwn = true) :
    happening.input? = none := by
  cases happening <;> first | rfl | cases h

theorem reckons_of_isTick (happening : Happening) (h : happening.isTick = true) :
    happening.reckons = true := by
  cases happening with
  | event event => exact Bool.or_eq_true_iff.mpr (.inl h)
  | _ => cases h

end Happening

namespace Dashboard

variable {d e : Dashboard} {happening : Happening} {past : List Incident} {route : String}

theorem estimate?_batch? (d : Dashboard) (event : Event) :
    (d.batch? event).bind Batch.estimate? =
      if event.reckons then
        some (Profit.text d.session.input (event.params?.getD d.session.params)
          d.settings.blockTime)
      else none := by
  cases event with
  | refreshDue turn =>
    rw [batch?]
    split <;> rfl
  | poolArrived reply =>
    obtain ⟨answer, delay, records⟩ := reply
    cases answer <;> rfl
  | minerArrived address reply =>
    obtain ⟨answer, delay, records⟩ := reply
    cases answer <;> rfl
  | blocksArrived reply =>
    obtain ⟨answer, delay, records⟩ := reply
    cases answer <;> rfl
  | paramsArrived reply =>
    obtain ⟨answer, delay, records⟩ := reply
    cases answer <;> rfl
  | fragmentArrived pageLoad hash reply =>
    obtain ⟨answer, delay, records⟩ := reply
    cases answer <;> rfl
  | _ => rfl

def estimate (d : Dashboard) : Option String := d.screen.page.estimate

/-- The estimate is what the input and the network's figures make of it now. -/
def IsReckoned (d : Dashboard) : Prop :=
  d.estimate = some (Profit.text d.session.input d.session.params d.settings.blockTime)

theorem estimate_books (d : Dashboard) (happening : Happening)
    (hload : happening.isRestart = false) (hpage : d.screen.page.HoversInOverview) :
    ((d.books happening).calls.foldl Screen.change d.screen.page).estimate =
      if happening.reckons then
        some (Profit.text d.session.input (happening.params?.getD d.session.params)
          d.settings.blockTime)
      else d.estimate := by
  cases happening with
  | command command =>
    cases command with
    | address value =>
      show ((if isShort value then [Snapshot.Call.applyAll Batch.noMiner.updates] else []).foldl
        Screen.change d.screen.page).estimate = d.estimate
      split
      · exact Page.estimate_batch .noMiner _
      · rfl
    | pointerMove chart index => exact hpage.estimate_pointerMove chart index
    | pointerOut chart => exact hpage.estimate_pointerOut chart
    | _ => rfl
  | event event =>
    by_cases hsettles : event = .chartSettles
    · rw [hsettles]
      exact Page.estimate_resizeChart _ _
    · have hbatch := estimate?_batch? d event
      have hreckons : (Happening.event event).reckons = event.reckons := rfl
      have hparams : (Happening.event event).params? = event.params? := rfl
      rw [books, calls_eventBooks d hsettles, hreckons, hparams]
      cases h : d.batch? event with
      | none =>
        rw [h] at hbatch
        cases hevent : event.reckons with
        | true => simp [hevent] at hbatch
        | false => rfl
      | some batch =>
        rw [h, Option.bind_some] at hbatch
        refine (Page.estimate_batch batch d.screen.page).trans ?_
        rw [hbatch]
        cases event.reckons <;> rfl
  | restart route => cases hload
  | _ => rfl

/-- What is typed later leaves the estimate alone, and what has it reckoned types nothing. -/
theorem Goes.estimate_eq (h : d.Goes happening e) (hload : happening.isRestart = false)
    (hpage : d.screen.page.HoversInOverview) :
    e.estimate = if happening.reckons then
        some (Profit.text e.session.input e.session.params e.settings.blockTime)
      else d.estimate := by
  have hsurface : e.estimate =
      ((d.books happening).calls.foldl Screen.change d.screen.page).estimate := by
    show e.screen.page.surface.estimate = _
    rw [h.surface_eq hload]
    rfl
  rw [hsurface, estimate_books d happening hload hpage, h.settings_eq]
  cases hreckons : happening.reckons with
  | false => rfl
  | true =>
    have htyped : happening.input? = none := by
      cases happening <;> first | rfl | cases hreckons
    rw [h.input_eq hload, h.params_eq hload, htyped]
    rfl

theorem Goes.isReckoned (h : d.Goes happening e) (hload : happening.isRestart = false)
    (hpage : d.screen.page.HoversInOverview) (hreckons : happening.reckons = true) :
    e.IsReckoned := by
  rw [IsReckoned, h.estimate_eq hload hpage, if_pos hreckons]

theorem Goes.params_of_not_reckons (h : d.Goes happening e) (hload : happening.isRestart = false)
    (hreckons : happening.reckons = false) : e.session.params = d.session.params := by
  have hnone : happening.params? = none := by
    cases happening with
    | event event =>
      have hsilent : event.params?.isSome = false := (Bool.or_eq_false_iff.mp hreckons).2
      exact Option.not_isSome_iff_eq_none.mp (ne_true_of_eq_false hsilent)
    | _ => rfl
  rw [h.params_eq hload, hnone]
  rfl

/-- An estimate stays up to date until something else is typed. -/
theorem IsReckoned.goes (hd : d.IsReckoned) (h : d.Goes happening e)
    (hload : happening.isRestart = false) (hpage : d.screen.page.HoversInOverview)
    (htyped : happening.input? = none) : e.IsReckoned := by
  cases hreckons : happening.reckons with
  | true => exact h.isReckoned hload hpage hreckons
  | false =>
    rw [IsReckoned, h.estimate_eq hload hpage, hreckons, h.input_eq hload, htyped,
      h.params_of_not_reckons hload hreckons, h.settings_eq]
    exact hd

/-! ## The calculator's turns -/

/-- Nothing but a turn of the calculator orders another. -/
theorem filter_duties_isTick (d : Dashboard) (hload : happening.isRestart = false)
    (htick : happening.isTick = false) :
    (d.books happening).duties.filter (fun a => a.event.isTick) = [] := by
  rw [filter_duties_books rfl rfl d hload]
  cases happening with
  | event event =>
    cases event with
    | profitDue turn => cases htick
    | refreshEnded occurrence => cases occurrence <;> rfl
    | _ => rfl
  | _ => rfl

/-- The next turn comes within a period.  By then nothing has to be made up for but what was typed
in the period before it. -/
inductive Ticking (d : Dashboard) (typed : Nat) : Prop
  | intro {time : Nat} (hawaits : d.Awaits Event.isTick .profitDue time) (hnow : d.now ≤ time)
    (hnext : time ≤ d.now + d.settings.calcTick)
    (hreckoned : d.IsReckoned ∨ time ≤ typed + d.settings.calcTick)

theorem Goes.ticking {typed : Nat} (h : d.Goes happening e) (hload : happening.isRestart = false)
    (hpage : d.screen.page.HoversInOverview) (hd : d.Ticking typed) :
    e.Ticking (if happening.input?.isSome then d.now else typed) := by
  obtain ⟨hawaits, hnow, hnext, hreckoned⟩ := hd
  have hsettings := h.settings_eq
  have hle := h.now_le
  rcases hawaits.goes Event.isDuty_of_isTick h hload with
    ⟨hnone, hstay⟩ | ⟨turn, rfl, -, -, hdue, hstart, hperm⟩
  · refine .intro (hstay (filter_duties_isTick d hload hnone)) (hawaits.now_le h hnow) ?_ ?_
    · rw [hsettings]
      omega
    · rw [hsettings]
      cases htyped : happening.input? with
      | some input => exact .inr hnext
      | none => exact hreckoned.imp_left fun hd => hd.goes h hload hpage htyped
  · rw [filter_duties_books rfl rfl d rfl] at hperm
    refine .intro (.of_renewal hdue hstart hperm) ?_ ?_ (.inl (h.isReckoned rfl hpage rfl))
    · rw [h.now_of_event]
      exact Nat.le_add_right ..
    · exact Nat.le_of_eq (by rw [h.now_of_event, hsettings])

/-! ## Every course of a page load -/

/-- When something was typed last, if not before a time. -/
def typedAt (start : Nat) (past : List Incident) : Nat :=
  ((past.find? (·.happening.input?.isSome)).map Incident.time).getD start

/-- What was typed, the last input first; nothing at the start of a page load. -/
def inputs (past : List Incident) : List String := past.filterMap (·.happening.input?) ++ [""]

theorem typedAt_cons (start : Nat) (x : Incident) (past : List Incident) :
    typedAt start (x :: past) =
      if x.happening.input?.isSome then x.time else typedAt start past := by
  rw [typedAt, List.find?_cons]
  cases x.happening.input?.isSome <;> rfl

theorem Course.hoversInOverview (h : (d.start route).Course past e) :
    e.screen.page.HoversInOverview := h.shown.invariant isKept_hoversInOverview

theorem Idle.awaits_tick_start (h : d.Idle) (hperiod : 0 < d.settings.calcTick) (route : String) :
    (d.start route).Awaits Event.isTick .profitDue d.now := by
  refine h.awaits_start Event.isDuty_of_isTick rfl ?_
  have hpositive : 0 < (d.cleared route).settings.calcTick := hperiod
  rw [filter_duties_loadBooks _ _ rfl, List.filter_append, List.filter_append,
    firstTurns_of_pos _ hpositive, filter_firstTurns _ fun _ => rfl]
  rfl

theorem Idle.ticking_start (h : d.Idle) (hperiod : 0 < d.settings.calcTick) (route : String) :
    (d.start route).Ticking d.now := by
  have hnow := now_start d route
  refine .intro (h.awaits_tick_start hperiod route) (Nat.le_of_eq hnow) ?_ (.inr ?_)
  · rw [hnow]
    exact Nat.le_add_right ..
  · exact Nat.le_add_right ..

theorem Course.ticking (h : (d.start route).Course past e) (hload : IsOneLoad past)
    (hidle : d.Idle) (hperiod : 0 < d.settings.calcTick) : e.Ticking (typedAt d.now past) := by
  induction h with
  | refl => exact hidle.ticking_start hperiod route
  | go hbefore hgo ih =>
    obtain ⟨hlast, hrest⟩ := List.forall_mem_cons.mp hload
    rw [typedAt_cons]
    exact hgo.ticking hlast hbefore.hoversInOverview (ih hrest)

/-- No time passes before the first turn of the calculator. -/
theorem Course.awaits_first_turn (h : (d.start route).Course past e) (hload : IsOneLoad past)
    (hidle : d.Idle) (hperiod : 0 < d.settings.calcTick)
    (hnone : past.any (·.happening.isTick) = false) :
    e.Awaits Event.isTick .profitDue d.now ∧ e.now ≤ d.now := by
  induction h with
  | refl => exact ⟨hidle.awaits_tick_start hperiod route, Nat.le_of_eq (now_start d route)⟩
  | go _ hgo ih =>
    obtain ⟨hlast, hrest⟩ := List.forall_mem_cons.mp hload
    rw [List.any_cons, Bool.or_eq_false_iff] at hnone
    obtain ⟨hawaits, hnow⟩ := ih hrest hnone.2
    rcases hawaits.goes Event.isDuty_of_isTick hgo hlast with
      ⟨hother, hstay⟩ | ⟨turn, rfl, htick, -⟩
    · exact ⟨hstay (filter_duties_isTick _ hlast hother), hawaits.now_le hgo hnow⟩
    · exact absurd htick (ne_true_of_eq_false hnone.1)

theorem Course.any_isTick (h : (d.start route).Course past e) (hload : IsOneLoad past)
    (hidle : d.Idle) (hperiod : 0 < d.settings.calcTick) (hlater : d.now < e.now ∨ e.Settled) :
    past.any (·.happening.isTick) = true := by
  cases hnone : past.any (·.happening.isTick) with
  | true => rfl
  | false =>
    obtain ⟨hawaits, hnow⟩ := h.awaits_first_turn hload hidle hperiod hnone
    have hstart := h.now_le
    rw [now_start] at hstart
    rcases hlater with hlater | hsettled
    · omega
    · have hpending := hawaits.lt_of_settled hsettled
      omega

theorem mem_inputs (past : List Incident) :
    (last? Happening.input? past).getD "" ∈ inputs past := by
  cases h : last? Happening.input? past with
  | none => exact List.mem_append_right _ List.mem_cons_self
  | some input =>
    obtain ⟨x, hx, hinput⟩ := List.exists_of_findSome?_eq_some h
    exact List.mem_append_left _ (List.mem_filterMap.mpr ⟨x, hx, hinput⟩)

theorem Course.input_eq (h : (d.start route).Course past e) (hload : IsOneLoad past) :
    e.session.input = (last? Happening.input? past).getD "" := by
  rw [h.last_eq Goes.input_eq hload]
  exact congrArg (Option.getD _) (congrArg Session.input (session_start d route))

theorem Course.params_eq (h : (d.start route).Course past e) (hload : IsOneLoad past) :
    e.session.params = (last? Happening.params? past).getD .unknown := by
  rw [h.last_eq Goes.params_eq hload]
  exact congrArg (Option.getD _) (congrArg Session.params (session_start d route))

/-- Once it was reckoned, the estimate is one for something that was typed. -/
theorem Course.exists_input (h : (d.start route).Course past e) (hload : IsOneLoad past)
    (hreckons : past.any (·.happening.reckons) = true) :
    ∃ input ∈ inputs past,
      e.estimate = some (Profit.text input e.session.params e.settings.blockTime) := by
  induction h with
  | refl => cases hreckons
  | @go e f past happening hbefore hgo ih =>
    obtain ⟨hlast, hrest⟩ := List.forall_mem_cons.mp hload
    cases hnow : happening.reckons with
    | true =>
      have hinput := (hbefore.go hgo).input_eq hload
      exact ⟨_, hinput ▸ mem_inputs _, hgo.isReckoned hlast hbefore.hoversInOverview hnow⟩
    | false =>
      rw [List.any_cons, hnow, Bool.false_or] at hreckons
      obtain ⟨input, hinput, hshown⟩ := ih hrest hreckons
      refine ⟨input, ?_, ?_⟩
      · rw [inputs, List.filterMap_cons]
        split
        · exact hinput
        · exact List.mem_cons_of_mem _ hinput
      · rw [hgo.estimate_eq hlast hbefore.hoversInOverview, hnow,
          hgo.params_of_not_reckons hlast hnow, hgo.settings_eq]
        exact hshown

/-- A period of the calculator after the last input, or after the start if there was none, the
estimate is the one for that input and the figures of the network that have arrived.  At every
other moment from the first turn on, which comes at once, it is the one for an earlier input. -/
theorem estimate_catches_up (hidle : d.Idle) (hperiod : 0 < d.settings.calcTick)
    (hcourse : (d.start route).Course past e) (hload : IsOneLoad past) :
    let params := (last? Happening.params? past).getD .unknown
    let text (input : String) := Profit.text input params d.settings.blockTime
    let shown := e.screen.page.text.get? Profit.region
    let quiet := typedAt d.now past + d.settings.calcTick
    (quiet < e.now ∨ quiet = e.now ∧ e.Settled →
        shown = some (text ((last? Happening.input? past).getD ""))) ∧
      (past.any (·.happening.isTick) = true → ∃ input ∈ inputs past, shown = some (text input)) ∧
      (d.now < e.now ∨ e.Settled → past.any (·.happening.isTick) = true) := by
  intro params text shown quiet
  have hsettings := hcourse.settings_eq.trans (settings_start d route)
  have hparams : e.session.params = params := hcourse.params_eq hload
  refine ⟨fun hquiet => ?_, fun htick => ?_, hcourse.any_isTick hload hidle hperiod⟩
  · obtain ⟨hawaits, hnow, -, hreckoned⟩ := hcourse.ticking hload hidle hperiod
    have hdone : e.IsReckoned := by
      refine hreckoned.resolve_right fun hbehind => ?_
      rw [hsettings] at hbehind
      rcases hquiet with hlater | ⟨heq, hsettled⟩
      · omega
      · have hpending := hawaits.lt_of_settled hsettled
        omega
    rw [IsReckoned, hparams, hsettings, hcourse.input_eq hload] at hdone
    exact hdone
  · have hreckons : past.any (·.happening.reckons) = true := by
      obtain ⟨x, hx, hxtick⟩ := List.any_eq_true.mp htick
      exact List.any_eq_true.mpr ⟨x, hx, x.happening.reckons_of_isTick hxtick⟩
    obtain ⟨input, hinput, hshown⟩ := hcourse.exists_input hload hreckons
    rw [hparams, hsettings] at hshown
    exact ⟨input, hinput, hshown⟩

/-- The figures of a pool in a network of a million hashes per second. -/
def someStats : PoolStats where
  poolRate := 0
  networkRate := 1000000
  connectedAddresses := 0
  connectedWorkers := 0
  charts := ⟨[], none, none⟩
  blockCount := 0
  recentBlocks := []
  height := 0
  lastBlock := none
  reward := 2
  payoutWindow := none
  payments := []
  effort := 0
  feePercent := none
  paymentThreshold := none

/-- A dashboard whose pool answers with these figures. -/
def onNetwork : Dashboard :=
  .new .standard .attended { charted with stats := fun _ => .now (.ok someStats) } (.memory .blank)
    ⟨false, none⟩ 0

/-- A hash rate is typed, and most of a second passes. -/
theorem estimate_of_given_rate :
    ((onNetwork.start "").advanceTo 250).screen.page.text.get? Profit.region = some "0.000" ∧
      ((((onNetwork.start "").advanceTo 250).handle (.hashRate "5000")).advanceTo
        1000).screen.page.text.get? Profit.region = some "57600.000" := by
  have hd : (onNetwork.start "").WellTimed := ((atRest_new ..).start "").wellTimed
  have hstart : (onNetwork.start "").now ≤ 250 := by
    rw [now_start]
    decide
  obtain ⟨before, after, hcourse, hown, hown', hnow, -⟩ :=
    exists_course_given hd (.hashRate "5000") hstart (by decide : 250 ≤ 1000)
  have hload := (isOneLoad_of_isOwn hown).given (isOneLoad_of_isOwn hown') 250 (.hashRate "5000")
  have hsilent : ∀ x ∈ after, x.happening.input? = none := fun x hx =>
    Happening.input?_of_isOwn (hown' x hx)
  have hlast : last? Happening.input? (after ++ ⟨250, .command (.hashRate "5000")⟩ :: before) =
      some "5000" := by
    rw [last?, List.findSome?_append, List.findSome?_eq_none_iff.mpr hsilent]
    rfl
  have htyped : typedAt onNetwork.now
      (after ++ ⟨250, .command (.hashRate "5000")⟩ :: before) = 250 := by
    rw [typedAt, List.find?_append, List.find?_eq_none.mpr fun x hx => by simp [hsilent x hx]]
    rfl
  have hidle : onNetwork.Idle := idle_new _ _ _ _ _ _
  obtain ⟨hshown, -, -⟩ := estimate_catches_up hidle (by decide) hcourse hload
  rw [hnow, htyped, hlast, ← hcourse.params_eq hload] at hshown
  refine ⟨by decide +kernel, (hshown (.inl (by decide))).trans ?_⟩
  decide +kernel

end Dashboard
end PoolPage
