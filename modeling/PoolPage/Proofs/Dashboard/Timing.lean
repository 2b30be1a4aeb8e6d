import PoolPage.Proofs.Agenda.Thinning
import PoolPage.Proofs.Dashboard.Changes

/-!
# How time passes

What is on the agenda of a dashboard lies ahead, and only the turns of periodic tasks
lie further ahead than the longest wait.  `WellTimed` says this, and everything a
dashboard does keeps it.

Each step makes the workload up to a time smaller (`workload_lt_of_step?`), so the steps of
`Dashboard.advanceTo` suffice: it ends with nothing due (`advanceTo_spec`).  What it ends
with is the only such end (`Steps.unique`).
-/

namespace PoolPage

theorem waitOf_le (ms : Nat) : waitOf ms ≤ longestWait := Nat.min_le_right ms longestWait

namespace Event

def turn? : Event → Option Turn
  | refreshDue turn | refreshEnded (.periodic turn) | profitDue turn => some turn
  | _ => none

/-- The period of the turns that an event is part of. -/
def period (settings : Settings) : Event → Nat
  | profitDue _ => settings.calcTick
  | _ => settings.statsRefresh

end Event

/-- An appointment that may be on an agenda at a time. -/
structure Timely (settings : Settings) (now : Nat) (a : Appointment Event) : Prop where
  now_le : now ≤ a.time
  soon : a.event.turn? = none → a.time ≤ now + longestWait
  due_le : ∀ turn, a.event.turn? = some turn → turn.due ≤ a.time
  positive : ∀ turn, a.event.turn? = some turn → 0 < a.event.period settings

theorem Timely.later {settings : Settings} {now then' : Nat} {a : Appointment Event}
    (h : Timely settings now a) (hthen : now ≤ then') (ha : then' ≤ a.time) :
    Timely settings then' a where
  now_le := ha
  soon hturn := Nat.le_trans (h.soon hturn) (Nat.add_le_add_right hthen longestWait)
  due_le := h.due_le
  positive := h.positive

/-! ## Changes of the agenda -/

namespace Change

/-- Whether a change is one that a page load makes while it lasts: what it enters is timely, and it
does not load the page anew. -/
def IsProper (settings : Settings) (now : Nat) : Change → Prop
  | enter a => Timely settings now a
  | call c => c ≠ .reset
  | _ => True

/-- More than the steps that what a change enters leads to up to a time. -/
def weight (horizon : Nat) : Change → Nat
  | enter a => Dashboard.weight horizon a.event
  | _ => 0

end Change

namespace Changes

/-- What a list of changes adds to the workload up to a time. -/
def weight (horizon : Nat) (cs : List Change) : Nat :=
  cs.foldr (fun c steps => c.weight horizon + steps) 0

@[simp] theorem weight_nil (horizon : Nat) : weight horizon [] = 0 := rfl

@[simp] theorem weight_cons (horizon : Nat) (c : Change) (cs : List Change) :
    weight horizon (c :: cs) = c.weight horizon + weight horizon cs := rfl

@[simp] theorem weight_append (horizon : Nat) (cs cs' : List Change) :
    weight horizon (cs ++ cs') = weight horizon cs + weight horizon cs' := by
  induction cs with
  | nil => simp
  | cons c cs ih =>
    rw [List.cons_append, weight_cons, weight_cons, ih]
    omega

end Changes

namespace Dashboard

variable {d : Dashboard} {settings : Settings}

theorem mem_agenda_makeAll {cs : List Change} {a : Appointment Event} :
    a ∈ (d.makeAll cs).agenda ↔ a ∈ d.agenda ∨ .enter a ∈ cs := by
  induction cs generalizing d with
  | nil => simp
  | cons c cs ih =>
    rw [makeAll_cons, ih, List.mem_cons]
    cases c with
    | enter b =>
      simp only [make, Agenda.mem_enter, Change.enter.injEq]
      exact or_assoc.trans or_left_comm
    | call c => simp [make, call]
    | _ => simp [make, note, ask]

theorem workload_enter (horizon : Nat) (a : Appointment Event) (agenda : Agenda Event) :
    (agenda.enter a).foldr (fun a steps => weight horizon a.event + steps) 0 =
      weight horizon a.event +
        agenda.foldr (fun a steps => weight horizon a.event + steps) 0 := by
  induction agenda with
  | nil => rfl
  | cons b rest ih =>
    rw [Agenda.enter_cons]
    split
    · rfl
    · simp only [List.foldr_cons, ih]
      omega

theorem workload_makeAll (horizon : Nat) (cs : List Change) (d : Dashboard) :
    (d.makeAll cs).workload horizon =
      d.workload horizon + Changes.weight horizon cs := by
  induction cs generalizing d with
  | nil => rfl
  | cons c cs ih =>
    have hmake : (d.make c).workload horizon = d.workload horizon + c.weight horizon := by
      cases c with
      | enter a =>
        simp only [make, workload, workload_enter, Change.weight]
        omega
      | _ => rfl
    rw [makeAll_cons, ih, hmake, Changes.weight_cons]
    omega

theorem isOrdered_make (c : Change) (h : d.agenda.IsOrdered) : (d.make c).agenda.IsOrdered := by
  cases c with
  | enter a => exact Agenda.isOrdered_enter h
  | _ => exact h

theorem isOrdered_makeAll {cs : List Change} (h : d.agenda.IsOrdered) :
    (d.makeAll cs).agenda.IsOrdered := by
  induction cs generalizing d with
  | nil => exact h
  | cons c cs ih => exact ih (isOrdered_make c h)

/-- What is on the agenda stands in order and lies ahead. -/
structure WellTimed (d : Dashboard) : Prop where
  isOrdered : d.agenda.IsOrdered
  timely : ∀ a ∈ d.agenda, Timely d.settings d.now a

theorem WellTimed.makeAll (h : d.WellTimed) {cs : List Change}
    (hcs : ∀ c ∈ cs, c.IsProper d.settings d.now) : (d.makeAll cs).WellTimed where
  isOrdered := isOrdered_makeAll h.isOrdered
  timely := by
    intro a ha
    rw [makeAll_settings, makeAll_now]
    rcases mem_agenda_makeAll.mp ha with hold | hnew
    · exact h.timely a hold
    · exact hcs (.enter a) hnew

/-! ## What is entered -/

theorem timely_wait {now delay : Nat} {lane : Lane} {event : Event} (h : event.turn? = none) :
    Timely settings now ⟨now + waitOf delay, lane, event⟩ where
  now_le := Nat.le_add_right ..
  soon _ := Nat.add_le_add_left (waitOf_le delay) now
  due_le := by simp [h]
  positive := by simp [h]

/-- The turn after one whose run ends now starts now or later. -/
theorem now_le_start_next (period now : Nat) (turn : Turn) :
    now ≤ (turn.next period (now - turn.start)).start := by
  rw [Turn.start_next]
  omega

end Dashboard

namespace Changes

open Dashboard

variable (d : Dashboard)

theorem isProper_cons {c : Change} {cs : List Change} (hc : c.IsProper d.settings d.now)
    (hcs : ∀ c ∈ cs, c.IsProper d.settings d.now) :
    ∀ c' ∈ c :: cs, c'.IsProper d.settings d.now :=
  List.forall_mem_cons.mpr ⟨hc, hcs⟩

theorem isProper_append {cs cs' : List Change} (hcs : ∀ c ∈ cs, c.IsProper d.settings d.now)
    (hcs' : ∀ c ∈ cs', c.IsProper d.settings d.now) :
    ∀ c ∈ cs ++ cs', c.IsProper d.settings d.now :=
  List.forall_mem_append.mpr ⟨hcs, hcs'⟩

theorem isProper_nil : ∀ c ∈ ([] : List Change), c.IsProper d.settings d.now :=
  List.forall_mem_nil _

theorem isProper_show (us : List Update) :
    (Change.call (.applyAll us)).IsProper d.settings d.now := by
  simp [Change.IsProper]

theorem isProper_enter {a : Appointment Event} (h : Timely d.settings d.now a) :
    ∀ c ∈ [Change.enter a], c.IsProper d.settings d.now :=
  isProper_cons d h (isProper_nil d)

theorem isProper_askPool (lane : Lane) : ∀ c ∈ askPool d lane, c.IsProper d.settings d.now :=
  isProper_cons d trivial (isProper_enter d (timely_wait rfl))

theorem isProper_askMiner (lane : Lane) :
    ∀ c ∈ askMiner d lane, c.IsProper d.settings d.now := by
  unfold askMiner
  dsimp only
  split
  · exact isProper_cons d (isProper_show d _) (isProper_nil d)
  · exact isProper_cons d trivial (isProper_enter d (timely_wait rfl))

theorem isProper_refresh {occurrence : Occurrence}
    (h : ∀ turn, occurrence = .periodic turn → turn.due ≤ d.now ∧ 0 < d.settings.statsRefresh) :
    ∀ c ∈ refresh d occurrence, c.IsProper d.settings d.now := by
  refine isProper_append d (isProper_append d (isProper_askPool d _)
    (isProper_askMiner (d.ask .stats) _)) (isProper_enter d ?_)
  cases occurrence with
  | periodic turn =>
    obtain ⟨hdue, hpositive⟩ := h turn rfl
    refine ⟨Nat.le_add_right .., by simp [after, appointment, Event.turn?], fun t ht => ?_,
      fun _ _ => hpositive⟩
    rw [← Option.some.inj ht]
    exact Nat.le_trans hdue (Nat.le_add_right ..)
  | visitor => exact timely_wait rfl

theorem isProper_settleChart (updates : List Update) :
    ∀ c ∈ settleChart d updates, c.IsProper d.settings d.now := by
  unfold settleChart
  split
  · exact isProper_cons d trivial (isProper_enter d (timely_wait rfl))
  · exact isProper_nil d

/-- The next turn is due after the one before, and not in the past. -/
theorem isProper_renewTurn {period : Nat} {turn : Turn} {event : Turn → Event}
    (hturn : ∀ turn, (event turn).turn? = some turn)
    (hperiod : ∀ turn, (event turn).period d.settings = period) (hpositive : 0 < period) :
    ∀ c ∈ renewTurn d period turn event, c.IsProper d.settings d.now := by
  refine isProper_enter d ⟨?_, ?_, ?_, ?_⟩
  · exact now_le_start_next period d.now turn
  · simp [appointment, hturn]
  · intro t ht
    rw [appointment, hturn] at ht
    rw [← Option.some.inj ht]
    exact Turn.due_le_start _
  · intro t _
    rw [appointment, hperiod]
    exact hpositive

theorem isProper_finishLoad : ∀ c ∈ finishLoad d, c.IsProper d.settings d.now := by
  unfold finishLoad
  cases d.mode with
  | attended => exact isProper_cons d trivial (isProper_nil d)
  | unattended => exact isProper_cons d trivial (isProper_enter d (timely_wait rfl))

theorem isProper_finishNavigation (pageLoad : Bool) (outcome : Navigation.Outcome) :
    ∀ c ∈ finishNavigation d pageLoad outcome, c.IsProper d.settings d.now := by
  refine isProper_append d ?_ (isProper_cons d trivial ?_)
  · split
    · exact isProper_nil d
    · exact isProper_cons d (isProper_show d _) (isProper_nil d)
  · split
    · exact isProper_finishLoad d
    · exact isProper_nil d

theorem isProper_happen (lane : Lane) {event : Event}
    (h : Timely d.settings d.now ⟨d.now, lane, event⟩) :
    ∀ c ∈ happen d event, c.IsProper d.settings d.now := by
  cases event with
  | refreshDue turn =>
    refine isProper_refresh d fun t ht => ?_
    cases ht
    exact ⟨h.due_le turn rfl, h.positive turn rfl⟩
  | poolArrived reply =>
    refine isProper_cons d trivial ?_
    cases reply.answer with
    | error causes => exact isProper_cons d trivial (isProper_nil d)
    | ok stats => exact isProper_cons d (isProper_show d _) (isProper_nil d)
  | minerArrived address reply =>
    refine isProper_cons d trivial ?_
    cases reply.answer with
    | error causes =>
      exact isProper_cons d trivial (isProper_cons d (isProper_show d _) (isProper_nil d))
    | ok lookup =>
      exact isProper_cons d trivial
        (isProper_cons d (isProper_show d _) (isProper_settleChart d _))
  | refreshEnded occurrence =>
    cases occurrence with
    | periodic turn =>
      exact isProper_cons d trivial
        (isProper_renewTurn d (fun _ => rfl) (fun _ => rfl) (h.positive turn rfl))
    | visitor => exact isProper_cons d trivial (isProper_nil d)
  | blocksDue => exact isProper_cons d trivial (isProper_enter d (timely_wait rfl))
  | blocksArrived reply =>
    refine isProper_cons d trivial (isProper_append d ?_ (isProper_cons d trivial (isProper_nil d)))
    cases reply.answer with
    | error causes => exact isProper_cons d trivial (isProper_nil d)
    | ok stats =>
      exact isProper_cons d trivial (isProper_cons d (isProper_show d _) (isProper_nil d))
  | paramsDue => exact isProper_cons d trivial (isProper_enter d (timely_wait rfl))
  | paramsArrived reply =>
    refine isProper_cons d trivial ?_
    cases reply.answer with
    | error causes => exact isProper_cons d trivial (isProper_nil d)
    | ok stats =>
      exact isProper_cons d trivial (isProper_cons d trivial (isProper_cons d (isProper_show d _)
        (isProper_nil d)))
  | profitDue turn =>
    exact isProper_cons d (isProper_show d _)
      (isProper_renewTurn d (fun _ => rfl) (fun _ => rfl) (h.positive turn rfl))
  | fragmentArrived pageLoad hash reply =>
    exact isProper_cons d trivial (isProper_finishNavigation d _ _)
  | chartSettles => exact isProper_cons d (isProper_show d _) (isProper_nil d)
  | pageExpires => exact isProper_cons d trivial (isProper_nil d)

theorem isProper_navigate (pageLoad : Bool) (hash : String) :
    ∀ c ∈ navigate d pageLoad hash, c.IsProper d.settings d.now := by
  unfold navigate
  split
  · exact isProper_finishNavigation d _ _
  · exact isProper_cons d trivial (isProper_enter d (timely_wait rfl))

/-- A first turn is due now, and there is none without a period. -/
theorem isProper_startTurns {period : Nat} {event : Turn → Event}
    (hturn : ∀ turn, (event turn).turn? = some turn)
    (hperiod : ∀ turn, (event turn).period d.settings = period) :
    ∀ c ∈ startTurns d period event, c.IsProper d.settings d.now := by
  unfold startTurns
  split
  · exact isProper_nil d
  next hzero =>
    refine isProper_enter d ⟨Nat.le_add_right .., by simp [ordered, hturn], fun t ht => ?_,
      fun t _ => ?_⟩
    · rw [ordered, hturn] at ht
      rw [← Option.some.inj ht]
      exact Nat.le_add_right ..
    · rw [ordered, hperiod]
      omega

theorem isProper_load (route : String) : ∀ c ∈ load d route, c.IsProper d.settings d.now := by
  refine isProper_append d (isProper_append d ?_ ?_) (isProper_navigate d true route)
  · unfold loadAddress
    split <;> exact isProper_cons d trivial (isProper_nil d)
  · refine isProper_cons d trivial (isProper_append d (isProper_append d ?_ ?_) ?_)
    · exact isProper_startTurns d (fun _ => rfl) fun _ => rfl
    · exact isProper_cons d (timely_wait rfl) (isProper_enter d (timely_wait rfl))
    · exact isProper_startTurns d (fun _ => rfl) fun _ => rfl

theorem isProper_handle (command : Command) :
    ∀ c ∈ handle d command, c.IsProper d.settings d.now := by
  cases command with
  | address value =>
    refine isProper_cons d trivial (isProper_append d ?_ ?_)
    · unfold saveAddress
      split
      · exact isProper_cons d trivial (isProper_cons d trivial (isProper_nil d))
      · exact isProper_cons d trivial (isProper_nil d)
    · exact isProper_refresh (d.make (.remember (.address value))) (by simp)
  | navigate hash =>
    exact isProper_cons d trivial (isProper_navigate (d.make (.remember (.route hash))) false hash)
  | hashRate value => exact isProper_cons d trivial (isProper_nil d)
  | reload => exact isProper_nil d
  | quit => exact isProper_nil d
  | _ => exact isProper_cons d (by simp [Change.IsProper]) (isProper_nil d)

/-! ## The workload -/

theorem weight_askMiner_le (horizon : Nat) (lane : Lane) :
    weight horizon (askMiner d lane) ≤ 2 := by
  unfold askMiner
  dsimp only
  split <;> simp [Change.weight, Dashboard.weight, after, appointment]

theorem weight_settleChart_le (horizon : Nat) (updates : List Update) :
    weight horizon (settleChart d updates) ≤ 1 := by
  unfold settleChart
  split <;> simp [Change.weight, Dashboard.weight, ordered]

theorem weight_finishLoad_le (horizon : Nat) : weight horizon (finishLoad d) ≤ 1 := by
  unfold finishLoad
  cases d.mode <;> simp [Change.weight, Dashboard.weight]

theorem weight_finishNavigation_le (horizon : Nat) (pageLoad : Bool)
    (outcome : Navigation.Outcome) :
    weight horizon (finishNavigation d pageLoad outcome) ≤ 1 := by
  have hload := weight_finishLoad_le d horizon
  unfold finishNavigation
  cases pageLoad <;> split <;> simp [Change.weight, hload]

/-- An event adds less to the workload than it takes away. -/
theorem weight_happen_lt {horizon : Nat} (lane : Lane) {event : Event}
    (hnow : d.now ≤ horizon) (h : Timely d.settings d.now ⟨d.now, lane, event⟩) :
    weight horizon (happen d event) < Dashboard.weight horizon event := by
  cases event with
  | refreshDue turn =>
    have hdue : turn.due ≤ d.now := h.due_le turn rfl
    have hminer := weight_askMiner_le (d.ask .stats) horizon Lane.scheduled
    simp only [happen, refresh, askPool, weight_append, weight_cons, weight_nil, Change.weight,
      after, appointment, Dashboard.weight, Occurrence.lane]
    omega
  | poolArrived reply =>
    cases h : reply.answer <;>
      simp [happen, receivePool, h, Change.weight, Dashboard.weight]
  | minerArrived address reply =>
    cases h : reply.answer with
    | error causes => simp [happen, receiveMiner, h, Change.weight, Dashboard.weight]
    | ok lookup =>
      have hsettle := weight_settleChart_le d horizon (MinerPanel.render lookup d.settings)
      simp only [happen, receiveMiner, h, weight_append, weight_cons, weight_nil, Change.weight,
        Dashboard.weight]
      omega
  | refreshEnded occurrence =>
    cases occurrence with
    | periodic turn =>
      have hdue : turn.due ≤ d.now := h.due_le turn rfl
      have hpositive : 0 < d.settings.statsRefresh := h.positive turn rfl
      have hnext := add_le_nextDue d.settings.statsRefresh turn.due turn.start
      simp only [happen, endRefresh, renewTurn, weight_cons, weight_nil, Change.weight,
        appointment, Dashboard.weight, Turn.due_next]
      omega
    | visitor => simp [happen, endRefresh, Change.weight, Dashboard.weight]
  | blocksArrived reply =>
    cases h : reply.answer <;>
      simp [happen, receiveBlocks, h, Change.weight, Dashboard.weight]
  | paramsArrived reply =>
    cases h : reply.answer <;>
      simp [happen, receiveParams, computeProfit, h, Change.weight, Dashboard.weight]
  | profitDue turn =>
    have hdue : turn.due ≤ d.now := h.due_le turn rfl
    have hpositive : 0 < d.settings.calcTick := h.positive turn rfl
    have hnext := add_le_nextDue d.settings.calcTick turn.due turn.start
    simp only [happen, computeProfit, renewTurn, weight_cons, weight_nil, Change.weight,
      appointment, Dashboard.weight, Turn.due_next]
    omega
  | fragmentArrived pageLoad hash reply =>
    have hnavigation := weight_finishNavigation_le d horizon pageLoad
      (Navigation.arrive hash reply.answer)
    simp only [happen, weight_cons, Change.weight, Dashboard.weight]
    omega
  | _ =>
    simp [happen, askBlocks, askParams, Change.weight, Dashboard.weight, after, appointment]

end Changes

namespace Dashboard

variable {d e : Dashboard} {horizon : Nat}

/-! ## Steps -/

/-- The dashboard when the first appointment of its agenda has come. -/
def meet (d : Dashboard) (next : Appointment Event) (rest : Agenda Event) : Dashboard :=
  { d with agenda := rest, now := next.time }

/-- A step takes the first appointment off the agenda if it is due, and lets its event happen. -/
theorem step?_eq_some_iff (hd : d.WellTimed) :
    d.step? horizon = some e ↔
      ∃ next rest, d.agenda = next :: rest ∧ next.time ≤ horizon ∧
        e = (d.meet next rest).makeAll (Changes.happen (d.meet next rest) next.event) := by
  unfold step?
  cases hagenda : d.agenda with
  | nil => simp
  | cons next rest =>
    have hnow : d.now ≤ next.time := (hd.timely next (by simp [hagenda])).now_le
    have hmax : max d.now next.time = next.time := Nat.max_eq_right hnow
    by_cases hdue : next.time ≤ horizon
    · simp only [hdue, if_true, hmax, Option.some.injEq, List.cons.injEq]
      constructor
      · rintro rfl
        exact ⟨next, rest, ⟨rfl, rfl⟩, hdue, happen_eq _ _⟩
      · rintro ⟨_, _, ⟨rfl, rfl⟩, -, rfl⟩
        exact happen_eq _ _
    · simp only [hdue, if_false, reduceCtorEq, List.cons.injEq, false_iff]
      rintro ⟨_, _, ⟨rfl, rfl⟩, hdue', -⟩
      exact hdue hdue'

theorem step?_eq_none_iff (hd : d.WellTimed) :
    d.step? horizon = none ↔ ∀ a ∈ d.agenda, horizon < a.time := by
  have hordered := hd.isOrdered
  unfold step?
  cases hagenda : d.agenda with
  | nil => simp
  | cons next rest =>
    rw [hagenda] at hordered
    have hfirst := Agenda.time_le_of_isOrdered hordered
    by_cases hdue : next.time ≤ horizon
    · simp only [hdue, if_true, reduceCtorEq, List.mem_cons, false_iff]
      intro hall
      have hnext := hall next (.inl rfl)
      omega
    · simp only [hdue, if_false, List.mem_cons, true_iff]
      rintro a (rfl | ha)
      · omega
      · have hle := hfirst a ha
        omega

theorem WellTimed.timely_meet (hd : d.WellTimed) {next : Appointment Event} {rest : Agenda Event}
    (hagenda : d.agenda = next :: rest) : (d.meet next rest).WellTimed ∧
      Timely d.settings next.time next := by
  have hordered := hd.isOrdered
  rw [hagenda] at hordered
  have hnext : Timely d.settings d.now next := hd.timely next (by simp [hagenda])
  refine ⟨⟨(List.pairwise_cons.mp hordered).2, fun a ha => ?_⟩,
    hnext.later hnext.now_le (Nat.le_refl _)⟩
  have ha' : Timely d.settings d.now a :=
    hd.timely a (hagenda ▸ List.mem_cons_of_mem next ha)
  exact ha'.later hnext.now_le (Agenda.time_le_of_isOrdered hordered a ha)

theorem WellTimed.step (hd : d.WellTimed) (h : d.step? horizon = some e) : e.WellTimed := by
  obtain ⟨next, rest, hagenda, -, rfl⟩ := (step?_eq_some_iff hd).mp h
  obtain ⟨hmeet, hnext⟩ := hd.timely_meet hagenda
  exact hmeet.makeAll (Changes.isProper_happen (d.meet next rest) next.lane hnext)

theorem workload_lt_of_step? (hd : d.WellTimed) (h : d.step? horizon = some e) :
    e.workload horizon < d.workload horizon := by
  obtain ⟨next, rest, hagenda, hdue, rfl⟩ := (step?_eq_some_iff hd).mp h
  obtain ⟨-, hnext⟩ := hd.timely_meet hagenda
  have hlt := Changes.weight_happen_lt (d.meet next rest) next.lane hdue hnext
  have hrest : d.workload horizon =
      weight horizon next.event + (d.meet next rest).workload horizon := by
    simp [workload, hagenda, meet]
  rw [workload_makeAll, hrest]
  omega

/-! ## Runs -/

inductive Steps (horizon : Nat) : Dashboard → Dashboard → Prop
  | refl (d : Dashboard) : Steps horizon d d
  | step {d e f : Dashboard} : d.step? horizon = some e → Steps horizon e f → Steps horizon d f

theorem steps_iterate (horizon steps : Nat) (d : Dashboard) :
    Steps horizon d (iterate (step? horizon) steps d) := by
  induction steps generalizing d with
  | zero => exact .refl d
  | succ steps ih =>
    unfold iterate
    cases hstep : d.step? horizon with
    | none => exact .refl d
    | some e => exact .step hstep (ih e)

/-- As many steps as the workload says leave nothing to do. -/
theorem step?_iterate {steps : Nat} (hd : d.WellTimed) (hsteps : d.workload horizon ≤ steps) :
    (iterate (step? horizon) steps d).step? horizon = none := by
  induction steps generalizing d with
  | zero =>
    cases hstep : d.step? horizon with
    | none => exact hstep
    | some e =>
      have hlt := workload_lt_of_step? hd hstep
      omega
  | succ steps ih =>
    unfold iterate
    cases hstep : d.step? horizon with
    | none => exact hstep
    | some e =>
      have hlt := workload_lt_of_step? hd hstep
      exact ih (hd.step hstep) (by omega)

namespace Steps

theorem trans {f : Dashboard} (h : Steps horizon d e) (h' : Steps horizon e f) :
    Steps horizon d f := by
  induction h with
  | refl => exact h'
  | step hstep _ ih => exact .step hstep (ih h')

/-- What each step of a well timed dashboard keeps holds after some of them. -/
theorem invariant (holds : Dashboard → Prop)
    (hstep : ∀ {d e : Dashboard}, d.WellTimed → d.step? horizon = some e → holds d → holds e)
    (h : Steps horizon d e) (hd : d.WellTimed) (hholds : holds d) : e.WellTimed ∧ holds e := by
  induction h with
  | refl d => exact ⟨hd, hholds⟩
  | step hde _ ih => exact ih (hd.step hde) (hstep hd hde hholds)

theorem wellTimed (h : Steps horizon d e) (hd : d.WellTimed) : e.WellTimed :=
  (h.invariant (fun _ => True) (fun _ _ _ => trivial) hd trivial).1

theorem unique {f : Dashboard} (he : Steps horizon d e) (hf : Steps horizon d f)
    (hedone : e.step? horizon = none) (hfdone : f.step? horizon = none) : e = f := by
  induction he with
  | refl d =>
    cases hf with
    | refl => rfl
    | step hstep _ => simp [hedone] at hstep
  | step hstep _ ih =>
    cases hf with
    | refl => simp [hfdone] at hstep
    | step hstep' hrest =>
      rw [hstep] at hstep'
      cases hstep'
      exact ih hrest hedone

end Steps

/-- Everything that is due up to a time happens, and nothing else. -/
theorem advanceTo_spec (hd : d.WellTimed) (horizon : Nat) :
    ∃ e, Steps horizon d e ∧ e.step? horizon = none ∧
      d.advanceTo horizon = { e with now := max e.now horizon } :=
  ⟨_, steps_iterate horizon _ d, step?_iterate hd (Nat.le_refl _), rfl⟩

theorem now_le_of_steps (hd : d.WellTimed) (h : Steps horizon d e) (hnow : d.now ≤ horizon) :
    e.now ≤ horizon := by
  refine (h.invariant (fun d => d.now ≤ horizon) (fun {d e} hd hstep _ => ?_) hd hnow).2
  obtain ⟨next, rest, -, hdue, rfl⟩ := (step?_eq_some_iff hd).mp hstep
  rw [makeAll_now]
  exact hdue

theorem WellTimed.advanceTo (hd : d.WellTimed) (horizon : Nat) :
    (d.advanceTo horizon).WellTimed := by
  obtain ⟨e, hsteps, hdone, heq⟩ := advanceTo_spec hd horizon
  have he : e.WellTimed := hsteps.wellTimed hd
  rw [heq]
  refine ⟨he.isOrdered, fun a ha => (he.timely a ha).later (Nat.le_max_left ..) ?_⟩
  have hnow : e.now ≤ a.time := (he.timely a ha).now_le
  have hlater : horizon < a.time := (step?_eq_none_iff he).mp hdone a ha
  exact Nat.max_le.mpr ⟨hnow, Nat.le_of_lt hlater⟩

theorem lt_time_advanceTo (hd : d.WellTimed) (horizon : Nat) :
    ∀ a ∈ (d.advanceTo horizon).agenda, horizon < a.time := by
  obtain ⟨e, hsteps, hdone, heq⟩ := advanceTo_spec hd horizon
  rw [heq]
  exact (step?_eq_none_iff (hsteps.wellTimed hd)).mp hdone

theorem now_advanceTo (hd : d.WellTimed) (hnow : d.now ≤ horizon) :
    (d.advanceTo horizon).now = horizon := by
  obtain ⟨e, hsteps, -, heq⟩ := advanceTo_spec hd horizon
  rw [heq]
  exact Nat.max_eq_right (now_le_of_steps hd hsteps hnow)

/-! ## Page loads and commands -/

theorem WellTimed.cleared (hd : d.WellTimed) (route : String) : (d.cleared route).WellTimed :=
  ⟨hd.isOrdered, hd.timely⟩

theorem WellTimed.start (hd : d.WellTimed) (route : String) : (d.start route).WellTimed := by
  rw [start_eq]
  exact (hd.cleared route).makeAll (Changes.isProper_load _ route)

theorem WellTimed.handle (hd : d.WellTimed) (command : Command) : (d.handle command).WellTimed := by
  rw [handle_eq]
  exact hd.makeAll (Changes.isProper_handle d command)

theorem WellTimed.shutdown (hd : d.WellTimed) : d.shutdown.WellTimed where
  isOrdered := List.Pairwise.filter _ hd.isOrdered
  timely a ha := hd.timely a (List.mem_filter.mp ha).1

end Dashboard
end PoolPage
