import PoolPage.Proofs.Dashboard.Course

/-!
# The books of a dashboard

Whatever is done to a dashboard puts questions, edits what is remembered of the page load,
keeps stores, calls the screen and enters appointments.  The `Books` of a list of changes are
these five lists; of the appointments only the duties are listed, which is all but the ends
of requests.

The books of events, commands and page loads are worked out here (`books_happen`,
`books_handle`, `books_load`), and what becomes of a dashboard is read off them
(`asked_makeAll`, `session_makeAll`, `store_makeAll`, `surface_makeAll`, `planned_makeAll`).
-/

namespace PoolPage

/-- Whether an event is something that a dashboard has to do, and not the end of a request. -/
def Event.isDuty : Event → Bool
  | poolArrived _ | minerArrived .. | refreshEnded .visitor | blocksArrived _ | paramsArrived _
  | fragmentArrived .. => false
  | _ => true

@[ext] structure Books where
  questions : List Question := []
  edits : List Session.Edit := []
  stores : List Store := []
  calls : List Snapshot.Call := []
  duties : List (Appointment Event) := []

namespace Books

def append (b b' : Books) : Books where
  questions := b.questions ++ b'.questions
  edits := b.edits ++ b'.edits
  stores := b.stores ++ b'.stores
  calls := b.calls ++ b'.calls
  duties := b.duties ++ b'.duties

instance : Append Books := ⟨append⟩

theorem append_def (b b' : Books) : b ++ b' = b.append b' := rfl

@[simp] theorem append_nil (b : Books) : b ++ ({} : Books) = b := by
  simp [append_def, append]

theorem append_assoc (a b c : Books) : a ++ b ++ c = a ++ (b ++ c) := by
  simp [append_def, append]

end Books

def Change.books : Change → Books
  | note _ => {}
  | call c => { calls := [c] }
  | ask question => { questions := [question] }
  | enter a => { duties := if a.event.isDuty then [a] else [] }
  | remember edit => { edits := [edit] }
  | keep store => { stores := [store] }

namespace Changes

def books (cs : List Change) : Books := cs.foldr (fun c b => c.books ++ b) {}

@[simp] theorem books_nil : books [] = {} := rfl

theorem books_cons (c : Change) (cs : List Change) : books (c :: cs) = c.books ++ books cs := rfl

@[simp] theorem books_note (records : List Log.Record) (cs : List Change) :
    books (.note records :: cs) = books cs := rfl

theorem books_append (cs cs' : List Change) : books (cs ++ cs') = books cs ++ books cs' := by
  induction cs with
  | nil => rfl
  | cons c cs ih => rw [List.cons_append, books_cons, books_cons, ih, Books.append_assoc]

end Changes

/-! ## What the books say -/

namespace Dashboard

/-- The appointments of a kind, in the order of the agenda. -/
def planned (d : Dashboard) (kind : Event → Bool) : Agenda Event :=
  d.agenda.filter fun a => kind a.event

theorem mem_of_planned_eq {d : Dashboard} {kind : Event → Bool} {a : Appointment Event}
    (h : d.planned kind = [a]) : a ∈ d.agenda ∧ kind a.event = true :=
  List.mem_filter.mp (h ▸ List.mem_cons_self)

theorem asked_makeAll (cs : List Change) (d : Dashboard) :
    (d.makeAll cs).asked = d.asked ++ (Changes.books cs).questions := by
  induction cs generalizing d with
  | nil => exact (List.append_nil d.asked).symm
  | cons c cs ih =>
    rw [makeAll_cons, ih]
    cases c with
    | ask question => exact List.append_assoc d.asked [question] _
    | _ => rfl

theorem session_makeAll (cs : List Change) (d : Dashboard) :
    (d.makeAll cs).session.sight =
      (Changes.books cs).edits.foldl Session.edit d.session.sight := by
  induction cs generalizing d with
  | nil => rfl
  | cons c cs ih =>
    rw [makeAll_cons, ih]
    cases c with
    | remember edit =>
      rw [make, Session.sight_edit]
      rfl
    | _ => rfl

theorem store_makeAll (cs : List Change) (d : Dashboard) :
    (d.makeAll cs).store = (Changes.books cs).stores.getLastD d.store := by
  induction cs generalizing d with
  | nil => rfl
  | cons c cs ih =>
    rw [makeAll_cons, ih]
    cases c with
    | keep store => exact (List.getLastD_cons ..).symm
    | _ => rfl

theorem surface_makeAll (cs : List Change) (d : Dashboard) :
    (d.makeAll cs).screen.page.surface =
      ((Changes.books cs).calls.foldl Screen.change d.screen.page).surface := by
  have hfoldl : ∀ (calls : List Snapshot.Call) {page page' : Page},
      page.surface = page'.surface →
        (calls.foldl Screen.change page).surface = (calls.foldl Screen.change page').surface := by
    intro calls
    induction calls with
    | nil => exact fun h => h
    | cons c calls ih => exact fun h => ih (Page.surface_change_congr h c)
  induction cs generalizing d with
  | nil => rfl
  | cons c cs ih =>
    rw [makeAll_cons, ih]
    cases c with
    | call c => exact hfoldl _ (Screen.view_call true d.screen c)
    | _ => rfl

theorem planned_makeAll {kind : Event → Bool}
    (hkind : ∀ event, kind event = true → event.isDuty = true) (cs : List Change) (d : Dashboard) :
    ((d.makeAll cs).planned kind).Perm
      ((Changes.books cs).duties.filter (fun a => kind a.event) ++ d.planned kind) := by
  induction cs generalizing d with
  | nil => exact .refl _
  | cons c cs ih =>
    refine (ih (d.make c)).trans ?_
    cases c with
    | enter a =>
      have henter : ((d.make (.enter a)).planned kind).Perm
          ((a :: d.agenda).filter fun b => kind b.event) :=
        (Agenda.enter_perm a d.agenda).filter _
      have hduties : (Changes.books (.enter a :: cs)).duties =
          (if a.event.isDuty then [a] else []) ++ (Changes.books cs).duties := rfl
      refine (henter.append_left _).trans ?_
      rw [hduties]
      cases ha : kind a.event with
      | true =>
        simp only [ha, hkind _ ha, List.filter_cons, List.filter_append, if_true]
        exact List.perm_middle
      | false => cases a.event.isDuty <;> simp [ha, planned]
    | _ => exact .refl _

/-- Of what is planned the first comes before everything else. -/
theorem planned_meet {d : Dashboard} {a : Appointment Event} {rest : Agenda Event}
    (hagenda : d.agenda = a :: rest) (kind : Event → Bool) :
    d.planned kind =
      if kind a.event then a :: (d.meet a rest).planned kind else (d.meet a rest).planned kind := by
  rw [planned, hagenda, List.filter_cons]
  rfl

end Dashboard

open Dashboard

/-! ## Events -/

/-- The question for a miner; none without an address. -/
def Question.lookup (address : String) : List Question :=
  if isShort address then [] else [.miner address]

namespace Event

def questions (address : String) : Event → List Question
  | refreshDue _ => .stats :: Question.lookup address
  | blocksDue | paramsDue => [.stats]
  | _ => []

/-- Whether an answer for a miner has a chart. -/
def isCharted : Event → Bool
  | minerArrived _ reply =>
    match reply.answer with
    | .ok (.found stats) => stats.chart.isSome
    | _ => false
  | _ => false

def isExpiry : Event → Bool
  | pageExpires => true
  | _ => false

/-- The network's figures for the profit, if they have arrived. -/
def params? : Event → Option NetworkParams
  | paramsArrived reply =>
    match reply.answer with
    | .ok stats => some (NetworkParams.ofNetwork stats.reward stats.networkRate)
    | .error _ => none
  | _ => none

end Event

namespace Dashboard

variable (d : Dashboard)

/-- The turn of a periodic task after one that ends now. -/
def renewal (period : Nat) (turn : Turn) (event : Turn → Event) : Appointment Event :=
  let next := turn.next period (d.now - turn.start)
  d.appointment next.start .scheduled (event next)

/-- When the page has to be loaded again, if nobody does so. -/
def expiry : List (Appointment Event) :=
  match d.mode with
  | .attended => []
  | .unattended => [⟨d.now + waitOf d.settings.reload, .awaited, .pageExpires⟩]

/-- What is left to do when an event has completed the page load. -/
def lastDuty : Event → List (Appointment Event)
  | .fragmentArrived true .. => d.expiry
  | _ => []

/-- The end of a refresh, when both its answers have arrived. -/
def refreshEnd (occurrence : Occurrence) : Appointment Event :=
  d.after (max (Changes.poolDelay d) (Changes.minerDelay (d.ask .stats))) occurrence.lane
    (.refreshEnded occurrence)

/-- How a periodic task goes on after an event. -/
def next? : Event → Option (Appointment Event)
  | .refreshDue turn => some (d.refreshEnd (.periodic turn))
  | .refreshEnded (.periodic turn) => some (d.renewal d.settings.statsRefresh turn .refreshDue)
  | .profitDue turn => some (d.renewal d.settings.calcTick turn .profitDue)
  | _ => none

/-- What an event writes to the page. -/
def batch? : Event → Option Batch
  | .refreshDue _ => if isShort d.session.address then some .noMiner else none
  | .poolArrived reply =>
    match reply.answer with
    | .ok stats => some (.pool stats d.settings)
    | .error _ => none
  | .minerArrived _ reply =>
    match reply.answer with
    | .ok lookup => some (.miner lookup d.settings)
    | .error causes => some (.minerAlert ("error: " ++ causes))
  | .blocksArrived reply =>
    match reply.answer with
    | .ok stats => some (.blocks (BlockLuck.ofBlocks stats.recentBlocks stats.poolRate d.clock
        d.settings.shortTerm d.settings.blockTime) d.settings)
    | .error _ => none
  | .paramsArrived reply =>
    (Event.paramsArrived reply).params?.map fun params =>
      .profit d.session.input params d.settings.blockTime
  | .profitDue _ => some (.profit d.session.input d.session.params d.settings.blockTime)
  | .fragmentArrived _ _ reply =>
    match reply.answer with
    | .ok body => some (.fragment body)
    | .error _ => none
  | _ => none

/-- Whether the chart has to be laid out again some time after an event. -/
def drawsChart (event : Event) : Bool := event.isCharted && !d.session.chartDrawn

def eventBooks (event : Event) : Books where
  questions := event.questions d.session.address
  edits :=
    (if d.drawsChart event then [.drawn] else []) ++ event.params?.toList.map .params ++
      if event.isExpiry then [.expired] else []
  calls :=
    match event with
    | .chartSettles => [.applyAll [.resizeChart MinerPanel.chart]]
    | event => (d.batch? event).toList.map fun batch => .applyAll batch.updates
  duties :=
    (if d.drawsChart event then [d.ordered d.settings.chartSettle .chartSettles] else []) ++
      (d.next? event).toList ++ d.lastDuty event

end Dashboard

theorem MinerPanel.any_isChart_render (lookup : MinerLookup) (settings : Settings) :
    (render lookup settings).any isChart =
      match lookup with
      | .found stats => stats.chart.isSome
      | .failed _ => false := by
  cases lookup with
  | failed failure => rfl
  | found stats =>
    have hestimate : ∀ text, (PoolPanel.text? pendingEstimate text).any isChart = false := by
      intro text
      cases text <;> rfl
    have hchart : (chartUpdates stats.chart).any isChart = stats.chart.isSome := by
      cases stats.chart <;> rfl
    simp [render, renderStats, hestimate, hchart, isChart]

namespace Changes

variable (d : Dashboard)

theorem books_askMiner (lane : Lane) :
    books (askMiner d lane) =
      { questions := Question.lookup d.session.address
        calls := if isShort d.session.address then [.applyAll Batch.noMiner.updates] else [] } := by
  unfold askMiner Question.lookup
  dsimp only
  split <;> rfl

theorem books_refresh (occurrence : Occurrence) :
    books (refresh d occurrence) =
      { questions := .stats :: Question.lookup d.session.address
        calls := if isShort d.session.address then [.applyAll Batch.noMiner.updates] else []
        duties := books [.enter (d.refreshEnd occurrence)] |>.duties } := by
  have hminer := books_askMiner (d.ask .stats) occurrence.lane
  have hend : books [.enter (d.after (max (poolDelay d) (minerDelay (d.ask .stats)))
      occurrence.lane (.refreshEnded occurrence))] = books [.enter (d.refreshEnd occurrence)] := rfl
  rw [refresh, books_append, books_append, hminer, hend]
  exact Books.ext (List.append_nil _) rfl rfl (List.append_nil _) rfl

theorem books_settleChart (address : String) (reply : Reply MinerLookup) (lookup : MinerLookup)
    (h : reply.answer = .ok lookup) :
    books (settleChart d (MinerPanel.render lookup d.settings)) =
      if d.drawsChart (.minerArrived address reply) then
        { edits := [.drawn], duties := [d.ordered d.settings.chartSettle .chartSettles] }
      else {} := by
  have hdraws : d.drawsChart (.minerArrived address reply) =
      ((MinerPanel.render lookup d.settings).any isChart && !d.session.chartDrawn) := by
    rw [drawsChart, Event.isCharted, h, MinerPanel.any_isChart_render]
    cases lookup <;> rfl
  rw [settleChart, hdraws]
  split <;> rfl

theorem books_finishLoad : books (finishLoad d) = { duties := d.expiry } := by
  unfold finishLoad Dashboard.expiry
  cases d.mode <;> rfl

theorem books_finishNavigation (pageLoad : Bool) (outcome : Navigation.Outcome) :
    books (finishNavigation d pageLoad outcome) =
      { calls := if outcome.updates.isEmpty then [] else [.applyAll outcome.updates]
        duties := if pageLoad then d.expiry else [] } := by
  have hload := books_finishLoad d
  unfold finishNavigation
  rw [books_append, books_note]
  cases pageLoad <;> split <;> simp [hload] <;> rfl

theorem books_happen (event : Event) : books (happen d event) = d.eventBooks event := by
  cases event with
  | refreshDue turn =>
    have hcalls : ((d.batch? (.refreshDue turn)).toList.map fun batch =>
        Snapshot.Call.applyAll batch.updates) =
          if isShort d.session.address then [.applyAll Batch.noMiner.updates] else [] := by
      rw [batch?]
      split <;> rfl
    rw [happen, books_refresh, ← hcalls]
    rfl
  | poolArrived reply =>
    obtain ⟨answer, delay, records⟩ := reply
    cases answer <;> rfl
  | minerArrived address reply =>
    obtain ⟨answer, delay, records⟩ := reply
    cases answer with
    | error causes => rfl
    | ok lookup =>
      rw [happen, books_note, receiveMiner, books_append,
        books_settleChart d address ⟨.ok lookup, delay, records⟩ lookup rfl]
      unfold eventBooks
      cases d.drawsChart (.minerArrived address ⟨.ok lookup, delay, records⟩) <;> rfl
  | refreshEnded occurrence => cases occurrence <;> rfl
  | blocksArrived reply =>
    obtain ⟨answer, delay, records⟩ := reply
    cases answer <;> rfl
  | paramsArrived reply =>
    obtain ⟨answer, delay, records⟩ := reply
    cases answer <;> rfl
  | fragmentArrived pageLoad hash reply =>
    obtain ⟨answer, delay, records⟩ := reply
    rw [happen, books_note, books_finishNavigation]
    cases answer <;> cases pageLoad <;> rfl
  | _ => rfl

end Changes

/-! ## Page loads and commands -/

/-- The question for the fragment of a route, if it names one. -/
def Question.route (hash : String) : List Question :=
  match Navigation.start hash with
  | .fetch path => [.fragment path]
  | .finished _ => []

def Command.calls : Command → List Snapshot.Call
  | address value => if isShort value then [.applyAll Batch.noMiner.updates] else []
  | pointerMove chart index => [.pointerMove chart index]
  | pointerOut chart => [.pointerOut chart]
  | resize => [.resize]
  | _ => []

namespace Dashboard

variable (d : Dashboard)

def commandBooks (command : Command) : Books where
  questions :=
    match command with
    | .address value => .stats :: Question.lookup value
    | .navigate hash => Question.route hash
    | _ => []
  edits :=
    match command with
    | .address value => [.address value]
    | .hashRate value => [.input value]
    | .navigate hash => [.route hash]
    | _ => []
  stores :=
    match command with
    | .address value => (d.store.set addressKey value).toList
    | _ => []
  calls := command.calls

/-- The first turn of a periodic task. -/
def firstTurns (period : Nat) (event : Turn → Event) : List (Appointment Event) :=
  if period = 0 then [] else [d.ordered 0 (event (Turn.first d.now))]

/-- The books of a page load once the page is cleared. -/
def loadBooks (route : String) : Books where
  questions := Question.route route
  edits := (d.store.get addressKey).toList.map fun address => .address (address.getD "")
  duties :=
    d.firstTurns d.settings.statsRefresh .refreshDue ++
      [d.ordered 0 .blocksDue, d.ordered 0 .paramsDue] ++
      d.firstTurns d.settings.calcTick .profitDue ++
      match Navigation.start route with
      | .finished _ => d.expiry
      | .fetch _ => []

end Dashboard

theorem Navigation.updates_of_finished {hash : String} {outcome : Navigation.Outcome}
    (h : Navigation.start hash = .finished outcome) : outcome.updates = [] := by
  unfold Navigation.start at h
  split at h <;> cases h <;> rfl

namespace Changes

variable (d : Dashboard)

theorem books_navigate (pageLoad : Bool) (hash : String) :
    books (navigate d pageLoad hash) =
      { questions := Question.route hash
        duties :=
          match Navigation.start hash with
          | .finished _ => if pageLoad then d.expiry else []
          | .fetch _ => [] } := by
  cases h : Navigation.start hash with
  | finished outcome =>
    simp only [navigate, h, Question.route, books_finishNavigation,
      Navigation.updates_of_finished h]
    rfl
  | fetch path =>
    simp only [navigate, h, Question.route]
    rfl

theorem books_startTurns {event : Turn → Event} (hduty : ∀ turn, (event turn).isDuty = true)
    (period : Nat) :
    books (startTurns d period event) = { duties := d.firstTurns period event } := by
  unfold startTurns firstTurns
  split
  · rfl
  · simp [books_cons, Change.books, Dashboard.ordered, hduty]

theorem books_loadAddress :
    books (loadAddress d) =
      { edits :=
          (d.store.get addressKey).toList.map fun address => .address (address.getD "") } := by
  unfold loadAddress
  cases d.store.get addressKey <;> rfl

theorem books_load (route : String) : books (load d route) = d.loadBooks route := by
  rw [load, books_append, books_append, books_loadAddress, books_navigate, startTasks, books_note,
    books_append, books_append, books_startTurns d fun _ => rfl, books_startTurns d fun _ => rfl]
  unfold loadBooks
  cases Navigation.start route <;> simp [Books.append_def, Books.append, books_cons, Change.books,
    Dashboard.ordered, Event.isDuty]

theorem books_saveAddress (value : String) :
    books (saveAddress d value) = { stores := (d.store.set addressKey value).toList } := by
  unfold saveAddress
  cases d.store.set addressKey value <;> rfl

theorem books_handle (command : Command) : books (handle d command) = d.commandBooks command := by
  cases command with
  | address value =>
    rw [handle, books_cons, books_append, books_saveAddress, books_refresh]
    simp [Books.append_def, Books.append, commandBooks, books_cons, Change.books, Command.calls,
      Dashboard.make, Session.edit, refreshEnd, Dashboard.after, Dashboard.appointment,
      Event.isDuty]
    rfl
  | navigate hash =>
    rw [handle, books_cons, books_navigate]
    cases h : Navigation.start hash <;> simp [Books.append_def, Books.append, commandBooks,
      Change.books, Command.calls]
  | _ => rfl

end Changes

end PoolPage
