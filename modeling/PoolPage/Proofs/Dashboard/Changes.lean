import PoolPage.Dashboard.Clock

/-!
# What a dashboard does

Whatever a dashboard does in one go is a list of `Change`s: it notes, calls its screen, puts a
question, enters an appointment, remembers something of the page load, or keeps
something in its store.  `Changes.happen` lists them for each event, `Changes.load` for
a page load and `Changes.handle` for the visitor's commands, and `happen_eq`, `start_eq`
and `handle_eq` say that these lists are what the dashboard does.

A property of dashboards is then a property of six changes, and a comparison of two
dashboards one of their lists.
-/

namespace PoolPage

/-! ## Changes -/

namespace Session

inductive Edit where
  | route (hash : String)
  | address (value : String)
  | input (value : String)
  | params (params : NetworkParams)
  | drawn
  | expired

def edit (s : Session) : Edit → Session
  | .route hash => { s with route := hash }
  | .address value => { s with address := value }
  | .input value => { s with input := value }
  | .params params => { s with params }
  | .drawn => { s with chartDrawn := true }
  | .expired => { s with expired := true }

end Session

inductive Change where
  | note (records : List Log.Record)
  | call (c : Snapshot.Call)
  | ask (question : Question)
  | enter (a : Appointment Event)
  | remember (edit : Session.Edit)
  | keep (store : Store)

namespace Dashboard

def make (d : Dashboard) : Change → Dashboard
  | .note records => d.note records
  | .call c => d.call c
  | .ask question => d.ask question
  | .enter a => { d with agenda := d.agenda.enter a }
  | .remember edit => { d with session := d.session.edit edit }
  | .keep store => { d with store }

def makeAll (d : Dashboard) (changes : List Change) : Dashboard := changes.foldl make d

@[simp] theorem makeAll_nil (d : Dashboard) : d.makeAll [] = d := rfl

@[simp] theorem makeAll_cons (d : Dashboard) (c : Change) (cs : List Change) :
    d.makeAll (c :: cs) = (d.make c).makeAll cs := rfl

theorem makeAll_append (d : Dashboard) (cs cs' : List Change) :
    d.makeAll (cs ++ cs') = (d.makeAll cs).makeAll cs' := List.foldl_append

/-! ### What no change touches -/

section Frame

variable (d : Dashboard) (cs : List Change)

theorem makeAll_frame {β : Type} (field : Dashboard → β)
    (h : ∀ d c, field (make d c) = field d) : field (d.makeAll cs) = field d := by
  induction cs generalizing d with
  | nil => rfl
  | cons c cs ih => rw [makeAll_cons, ih, h]

@[simp] theorem makeAll_settings : (d.makeAll cs).settings = d.settings :=
  makeAll_frame d cs settings fun _ c => by cases c <;> rfl

@[simp] theorem makeAll_mode : (d.makeAll cs).mode = d.mode :=
  makeAll_frame d cs mode fun _ c => by cases c <;> rfl

@[simp] theorem makeAll_backend : (d.makeAll cs).backend = d.backend :=
  makeAll_frame d cs backend fun _ c => by cases c <;> rfl

@[simp] theorem makeAll_epoch : (d.makeAll cs).epoch = d.epoch :=
  makeAll_frame d cs epoch fun _ c => by cases c <;> rfl

@[simp] theorem makeAll_now : (d.makeAll cs).now = d.now :=
  makeAll_frame d cs now fun _ c => by cases c <;> rfl

@[simp] theorem make_settings (c : Change) : (d.make c).settings = d.settings :=
  makeAll_settings d [c]

@[simp] theorem make_now (c : Change) : (d.make c).now = d.now := makeAll_now d [c]

end Frame

/-! ### Appointments -/

def appointment (d : Dashboard) (time : Nat) (lane : Lane) (event : Event) : Appointment Event :=
  ⟨time, if time ≤ d.now then .atOnce else lane, event⟩

def after (d : Dashboard) (delay : Nat) (lane : Lane) (event : Event) : Appointment Event :=
  d.appointment (d.now + waitOf delay) lane event

/-- The appointment for something of the dashboard's own. -/
def ordered (d : Dashboard) (delay : Nat) (event : Event) : Appointment Event :=
  ⟨d.now + waitOf delay, .scheduled, event⟩

end Dashboard

/-! ## Events -/

namespace Changes

variable (d : Dashboard)

open Dashboard

def askPool (lane : Lane) : List Change :=
  let reply := d.backend.stats d.occasion
  [.ask .stats, .enter (d.after reply.delay lane (.poolArrived reply))]

def poolDelay : Nat := (d.backend.stats d.occasion).delay

def askMiner (lane : Lane) : List Change :=
  let address := d.session.address
  if isShort address then [.call (.applyAll MinerPanel.hide)]
  else
    let reply := d.backend.miner address d.occasion
    [.ask (.miner address), .enter (d.after reply.delay lane (.minerArrived address reply))]

def minerDelay : Nat :=
  if isShort d.session.address then 0 else (d.backend.miner d.session.address d.occasion).delay

/-- The question for the miner is put after that for the overall figures. -/
def refresh (occurrence : Occurrence) : List Change :=
  let lane := occurrence.lane
  let asked := d.ask .stats
  askPool d lane ++ askMiner asked lane ++
    [.enter (d.after (max (poolDelay d) (minerDelay asked)) lane (.refreshEnded occurrence))]

def receivePool : Except String PoolStats → List Change
  | .ok stats => [.call (.applyAll (PoolPanel.render stats d.settings))]
  | .error causes => [.note [Log.fetchFailed "stats" Endpoint.stats causes]]

def settleChart (updates : List Update) : List Change :=
  if updates.any isChart && !d.session.chartDrawn then
    [.remember .drawn, .enter (d.ordered d.settings.chartSettle .chartSettles)]
  else []

def receiveMiner (address : String) : Except String MinerLookup → List Change
  | .ok lookup =>
    let updates := MinerPanel.render lookup d.settings
    [.note (lookupRecords address lookup), .call (.applyAll updates)] ++ settleChart d updates
  | .error causes =>
    [.note [Log.fetchFailed "miner" (Endpoint.miner (Log.shortenAddress address)) causes],
     .call (.applyAll [.alert ("error: " ++ causes)])]

def renewTurn (period : Nat) (turn : Turn) (event : Turn → Event) : List Change :=
  let next := turn.next period (d.now - turn.start)
  [.enter (d.appointment next.start .scheduled (event next))]

def endRefresh : Occurrence → List Change
  | .periodic turn =>
    .note [Log.timed refreshScope] :: renewTurn d d.settings.statsRefresh turn .refreshDue
  | .visitor => [.note [Log.timed refreshScope]]

def askBlocks : List Change :=
  let reply := d.backend.stats d.occasion
  [.ask .stats, .enter (d.after reply.delay .scheduled (.blocksArrived reply))]

def receiveBlocks : Except String PoolStats → List Change
  | .ok stats =>
    let luck := BlockLuck.ofBlocks stats.recentBlocks stats.poolRate d.clock d.settings.shortTerm
      d.settings.blockTime
    [.note [blocksRecord luck], .call (.applyAll (BlocksPanel.render luck d.settings))]
  | .error causes => [.note [Log.fetchFailed "blocks" Endpoint.stats causes]]

def askParams : List Change :=
  let reply := d.backend.stats d.occasion
  [.ask .stats, .enter (d.after reply.delay .scheduled (.paramsArrived reply))]

def computeProfit (params : NetworkParams) : Change :=
  .call (.applyAll (Profit.render d.session.input params d.settings.blockTime))

def receiveParams : Except String PoolStats → List Change
  | .ok stats =>
    let params := NetworkParams.ofNetwork stats.reward stats.networkRate
    [.remember (.params params), .note [paramsRecord params], computeProfit d params]
  | .error causes => [.note [Log.fetchFailed "calculator" Endpoint.stats causes]]

def finishLoad : List Change :=
  .note [Log.record .info .system "session_start" [("route", .string d.session.route)]] ::
    match d.mode with
    | .attended => []
    | .unattended => [.enter ⟨d.now + waitOf d.settings.reload, .awaited, .pageExpires⟩]

def finishNavigation (pageLoad : Bool) (outcome : Navigation.Outcome) : List Change :=
  (if outcome.updates.isEmpty then [] else [.call (.applyAll outcome.updates)]) ++
    .note outcome.records :: if pageLoad then finishLoad d else []

def happen : Event → List Change
  | .refreshDue turn => refresh d (.periodic turn)
  | .poolArrived reply => .note reply.records :: receivePool d reply.answer
  | .minerArrived address reply => .note reply.records :: receiveMiner d address reply.answer
  | .refreshEnded occurrence => endRefresh d occurrence
  | .blocksDue => askBlocks d
  | .blocksArrived reply =>
    .note reply.records :: (receiveBlocks d reply.answer ++ [.note [Log.timed blocksScope]])
  | .paramsDue => askParams d
  | .paramsArrived reply => .note reply.records :: receiveParams d reply.answer
  | .profitDue turn =>
    computeProfit d d.session.params :: renewTurn d d.settings.calcTick turn .profitDue
  | .fragmentArrived pageLoad hash reply =>
    .note reply.records :: finishNavigation d pageLoad (Navigation.arrive hash reply.answer)
  | .chartSettles => [.call (.applyAll [.resizeChart MinerPanel.chart])]
  | .pageExpires => [.remember .expired]

end Changes

namespace Dashboard

section Events

variable (d : Dashboard)

theorem proceed_eq (delay : Nat) (lane : Lane) (event : Event) :
    d.proceed delay lane event = d.make (.enter (d.after delay lane event)) := rfl

theorem note_eq (records : List Log.Record) : d.note records = d.make (.note records) := rfl

theorem order_eq (delay : Nat) (event : Event) :
    d.order delay event = d.make (.enter (d.ordered delay event)) := rfl

theorem askPool_eq (lane : Lane) :
    d.askPool lane = (d.makeAll (Changes.askPool d lane), Changes.poolDelay d) := rfl

theorem askMiner_eq (lane : Lane) :
    d.askMiner lane = (d.makeAll (Changes.askMiner d lane), Changes.minerDelay d) := by
  by_cases h : isShort d.session.address = true
  · simp only [askMiner, Changes.askMiner, Changes.minerDelay, h, if_true]
    rfl
  · simp only [askMiner, Changes.askMiner, Changes.minerDelay, h]
    rfl

theorem refresh_eq (occurrence : Occurrence) :
    d.refresh occurrence = d.makeAll (Changes.refresh d occurrence) := by
  have hasked : Changes.askMiner (d.makeAll (Changes.askPool d occurrence.lane)) occurrence.lane =
      Changes.askMiner (d.ask .stats) occurrence.lane := rfl
  have hdelay : Changes.minerDelay (d.makeAll (Changes.askPool d occurrence.lane)) =
      Changes.minerDelay (d.ask .stats) := rfl
  simp only [refresh, askPool_eq, askMiner_eq, Changes.refresh, makeAll_append, hasked, hdelay,
    proceed_eq, after, appointment, makeAll_now]
  rfl

theorem receivePool_eq (answer : Except String PoolStats) :
    d.receivePool answer = d.makeAll (Changes.receivePool d answer) := by
  cases answer <;> rfl

theorem settleChart_eq (updates : List Update) :
    d.settleChart updates = d.makeAll (Changes.settleChart d updates) := by
  unfold settleChart Changes.settleChart
  split <;> rfl

theorem receiveMiner_eq (address : String) (answer : Except String MinerLookup) :
    d.receiveMiner address answer = d.makeAll (Changes.receiveMiner d address answer) := by
  cases answer with
  | error causes => rfl
  | ok lookup => exact settleChart_eq _ _

theorem endRefresh_eq (occurrence : Occurrence) :
    d.endRefresh occurrence = d.makeAll (Changes.endRefresh d occurrence) := by
  cases occurrence <;> rfl

theorem receiveBlocks_eq (answer : Except String PoolStats) :
    d.receiveBlocks answer = d.makeAll (Changes.receiveBlocks d answer) := by
  cases answer <;> rfl

theorem receiveParams_eq (answer : Except String PoolStats) :
    d.receiveParams answer = d.makeAll (Changes.receiveParams d answer) := by
  cases answer <;> rfl

theorem finishLoad_eq : d.finishLoad = d.makeAll (Changes.finishLoad d) := by
  obtain ⟨settings, mode⟩ := d
  cases mode <;> rfl

theorem finishNavigation_eq (pageLoad : Bool) (outcome : Navigation.Outcome) :
    d.finishNavigation pageLoad outcome =
      d.makeAll (Changes.finishNavigation d pageLoad outcome) := by
  unfold finishNavigation Changes.finishNavigation
  cases pageLoad with
  | false => cases outcome.updates.isEmpty <;> rfl
  | true => cases outcome.updates.isEmpty <;> exact finishLoad_eq _

theorem happen_eq (event : Event) : d.happen event = d.makeAll (Changes.happen d event) := by
  cases event with
  | refreshDue turn => exact refresh_eq d _
  | poolArrived reply => exact receivePool_eq _ _
  | minerArrived address reply => exact receiveMiner_eq _ _ _
  | refreshEnded occurrence => exact endRefresh_eq d _
  | blocksArrived reply =>
    simp only [happen, Changes.happen, makeAll_cons, makeAll_append, receiveBlocks_eq]
    rfl
  | paramsArrived reply => exact receiveParams_eq _ _
  | fragmentArrived pageLoad hash reply => exact finishNavigation_eq _ _ _
  | _ => rfl

end Events

/-- A page load of which nothing is known yet, on a page that is loaded anew. -/
def cleared (d : Dashboard) (route : String) : Dashboard :=
  { d.call .reset with session := .ofRoute route }

end Dashboard

/-! ## Page loads and commands -/

namespace Changes

variable (d : Dashboard)

open Dashboard

def navigate (pageLoad : Bool) (hash : String) : List Change :=
  match Navigation.start hash with
  | .finished outcome => finishNavigation d pageLoad outcome
  | .fetch path =>
    let reply := d.backend.fragment path d.occasion
    [.ask (.fragment path),
     .enter (d.after reply.delay .awaited (.fragmentArrived pageLoad hash reply))]

def startTurns (period : Nat) (event : Turn → Event) : List Change :=
  if period = 0 then [] else [.enter (d.ordered 0 (event (Turn.first d.now)))]

def startTasks : List Change :=
  .note ((tasks d.settings).map fun task => Log.task "task_start" task.1 task.2) ::
    (startTurns d d.settings.statsRefresh .refreshDue ++
      [.enter (d.ordered 0 .blocksDue), .enter (d.ordered 0 .paramsDue)] ++
      startTurns d d.settings.calcTick .profitDue)

def loadAddress : List Change :=
  match d.store.get addressKey with
  | some address => [.remember (.address (address.getD ""))]
  | none => [.note [storeFailedRecord "address_load_failed"]]

/-- What a page load does once the page is cleared. -/
def load (route : String) : List Change :=
  loadAddress d ++ startTasks d ++ navigate d true route

def saveAddress (address : String) : List Change :=
  match d.store.set addressKey address with
  | some store =>
    [.keep store, .note [Log.record .info .storage "address_saved" [("address", .string address)]]]
  | none => [.note [storeFailedRecord "address_save_failed"]]

def handle : Command → List Change
  | .address value =>
    .remember (.address value) ::
      (saveAddress d value ++ refresh (d.make (.remember (.address value))) .visitor)
  | .hashRate value => [.remember (.input value)]
  | .navigate hash =>
    .remember (.route hash) :: navigate (d.make (.remember (.route hash))) false hash
  | .pointerMove chart index => [.call (.pointerMove chart index)]
  | .pointerOut chart => [.call (.pointerOut chart)]
  | .resize => [.call .resize]
  | .reload | .quit => []

end Changes

namespace Dashboard

variable (d : Dashboard)

theorem navigate_eq (pageLoad : Bool) (hash : String) :
    d.navigate pageLoad hash = d.makeAll (Changes.navigate d pageLoad hash) := by
  unfold navigate Changes.navigate
  cases Navigation.start hash with
  | finished outcome => exact finishNavigation_eq d pageLoad outcome
  | fetch path => rfl

theorem startTurns_eq (period : Nat) (event : Turn → Event) :
    d.startTurns period event = d.makeAll (Changes.startTurns d period event) := by
  unfold startTurns Changes.startTurns
  split <;> rfl

theorem startTasks_eq : d.startTasks = d.makeAll (Changes.startTasks d) := by
  simp only [startTasks, Changes.startTasks, startTurns_eq, Changes.startTurns, note_eq, order_eq,
    ordered, makeAll_append, makeAll_cons, makeAll_nil, make_settings, make_now, makeAll_settings,
    makeAll_now]

theorem loadAddress_eq : d.loadAddress = d.makeAll (Changes.loadAddress d) := by
  unfold loadAddress Changes.loadAddress
  cases d.store.get addressKey <;> rfl

theorem session_startTurns (d' : Dashboard) (period : Nat) (event : Turn → Event) :
    (d'.makeAll (Changes.startTurns d period event)).session = d'.session := by
  unfold Changes.startTurns
  split <;> rfl

theorem session_startTasks (d' : Dashboard) :
    (d'.makeAll (Changes.startTasks d)).session = d'.session := by
  simp only [Changes.startTasks, makeAll_cons, makeAll_append, session_startTurns]
  exact session_startTurns d _ _ _

theorem navigate_loadAddress (pageLoad : Bool) (hash : String) :
    Changes.navigate ((d.makeAll (Changes.loadAddress d)).makeAll (Changes.startTasks d)) pageLoad
      hash = Changes.navigate d pageLoad hash := by
  simp only [Changes.navigate, Changes.finishNavigation, Changes.finishLoad, occasion, after,
    appointment, makeAll_settings, makeAll_mode, makeAll_backend, makeAll_now, session_startTasks]
  unfold Changes.loadAddress
  cases d.store.get addressKey <;> rfl

theorem start_eq (route : String) :
    d.start route = (d.cleared route).makeAll (Changes.load (d.cleared route) route) := by
  have htasks : Changes.startTasks ((d.cleared route).makeAll
      (Changes.loadAddress (d.cleared route))) = Changes.startTasks (d.cleared route) := by
    simp only [Changes.startTasks, Changes.startTurns, ordered, makeAll_settings, makeAll_now]
  calc d.start route
      = (d.cleared route).loadAddress.startTasks.navigate true route := rfl
    _ = (d.cleared route).makeAll (Changes.load (d.cleared route) route) := by
      simp only [Changes.load, makeAll_append, loadAddress_eq, startTasks_eq, navigate_eq, htasks,
        navigate_loadAddress]

theorem saveAddress_eq (address : String) :
    d.saveAddress address = d.makeAll (Changes.saveAddress d address) := by
  unfold saveAddress Changes.saveAddress
  cases d.store.set addressKey address <;> rfl

theorem handle_eq (command : Command) :
    d.handle command = d.makeAll (Changes.handle d command) := by
  cases command with
  | address value =>
    simp only [handle, Changes.handle, makeAll_cons, makeAll_append, saveAddress_eq, refresh_eq]
    unfold Changes.saveAddress
    cases d.store.set addressKey value <;> rfl
  | navigate hash => exact navigate_eq _ false hash
  | _ => rfl

end Dashboard
end PoolPage
