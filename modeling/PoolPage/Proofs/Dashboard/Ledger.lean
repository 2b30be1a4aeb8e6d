import PoolPage.Proofs.Dashboard.Books
import PoolPage.Proofs.Dashboard.Teardown

/-!
# The ledger of a course

Every happening comes with its books, and what it makes of a dashboard is read off them.
-/

namespace PoolPage

def Happening.event? : Happening → Option Event
  | event e => some e
  | _ => none

theorem Happening.any_event?_eq_false {happening : Happening} {kind : Event → Bool}
    (h : happening.event?.toList.filter kind = []) : happening.event?.any kind = false := by
  cases happening with
  | event e => simpa [event?] using h
  | _ => rfl

namespace Dashboard

variable {d e : Dashboard} {happening : Happening}

/-- The books of whatever happens. -/
def books (d : Dashboard) : Happening → Books
  | .command command => d.commandBooks command
  | .event event => d.eventBooks event
  | .restart route => (d.cleared route).loadBooks route
  | _ => {}

/-- An event writes a batch, if it is not that the chart settles. -/
theorem calls_eventBooks (d : Dashboard) {event : Event} (h : event ≠ .chartSettles) :
    (d.eventBooks event).calls =
      (d.batch? event).toList.map fun batch => .applyAll batch.updates := by
  unfold eventBooks
  cases event with
  | chartSettles => exact absurd rfl h
  | _ => rfl

namespace Goes

theorem asked_eq (h : d.Goes happening e) :
    e.asked = d.asked ++ (d.books happening).questions := by
  cases h with
  | command command =>
    rw [handle_eq, asked_makeAll, Changes.books_handle]
    rfl
  | event hagenda htime =>
    rw [happen_eq, asked_makeAll, Changes.books_happen]
    rfl
  | restart records route =>
    rw [start_eq, asked_makeAll, Changes.books_load]
    rfl
  | _ => exact (List.append_nil _).symm

theorem session_eq (h : d.Goes happening e) (hload : happening.isRestart = false) :
    e.session.sight = (d.books happening).edits.foldl Session.edit d.session.sight := by
  cases h with
  | command command =>
    rw [handle_eq, session_makeAll, Changes.books_handle]
    rfl
  | event hagenda htime =>
    rw [happen_eq, session_makeAll, Changes.books_happen]
    rfl
  | restart records route => cases hload
  | _ => rfl

theorem store_eq (h : d.Goes happening e) (hexchange : happening.isExchange = false) :
    e.store = (d.books happening).stores.getLastD d.store := by
  cases h with
  | command command =>
    rw [handle_eq, store_makeAll, Changes.books_handle]
    rfl
  | event hagenda htime =>
    rw [happen_eq, store_makeAll, Changes.books_happen]
    rfl
  | restart records route =>
    rw [start_eq, store_makeAll, Changes.books_load]
    rfl
  | exchange store => cases hexchange
  | _ => rfl

theorem surface_eq (h : d.Goes happening e) (hload : happening.isRestart = false) :
    e.screen.page.surface =
      ((d.books happening).calls.foldl Screen.change d.screen.page).surface := by
  cases h with
  | command command =>
    rw [handle_eq, surface_makeAll, Changes.books_handle]
    rfl
  | @event a rest hagenda htime =>
    have hbooks : (d.meet a rest).eventBooks a.event = d.eventBooks a.event := by
      rw [meet, htime]
      rfl
    rw [happen_eq, surface_makeAll, Changes.books_happen, hbooks]
    rfl
  | restart records route => cases hload
  | _ => rfl

/-- Of what was planned a part is done, and duties are added to the rest. -/
theorem planned_perm {kind : Event → Bool} (hkind : ∀ event, kind event = true →
    event.isDuty = true) (h : d.Goes happening e) (hload : happening.isRestart = false) :
    ∃ done rest, d.planned kind = done ++ rest ∧
      done.map Appointment.event = happening.event?.toList.filter kind ∧
      (∀ a ∈ done, a.time = d.now) ∧
      (e.planned kind).Perm
        ((d.books happening).duties.filter (fun a => kind a.event) ++ rest) := by
  cases h with
  | command command =>
    have hperm := planned_makeAll hkind (Changes.handle d command) d
    rw [Changes.books_handle, ← handle_eq] at hperm
    exact ⟨[], d.planned kind, rfl, rfl, List.forall_mem_nil _, hperm⟩
  | @event a rest hagenda htime =>
    have hbooks : (d.meet a rest).eventBooks a.event = d.eventBooks a.event := by
      rw [meet, htime]
      rfl
    have hperm := planned_makeAll hkind (Changes.happen (d.meet a rest) a.event) (d.meet a rest)
    rw [Changes.books_happen, hbooks, ← happen_eq] at hperm
    rw [planned_meet hagenda]
    cases ha : kind a.event with
    | true =>
      refine ⟨[a], _, rfl, ?_, by simpa using htime, hperm⟩
      simp [Happening.event?, ha]
    | false =>
      refine ⟨[], _, rfl, ?_, List.forall_mem_nil _, hperm⟩
      simp [Happening.event?, ha]
  | restart records route => cases hload
  | _ => exact ⟨[], d.planned kind, rfl, rfl, List.forall_mem_nil _, .refl _⟩

/-- Where nothing of a kind is planned, only what is ordered is. -/
theorem planned_of_nil {kind : Event → Bool} (hkind : ∀ event, kind event = true →
    event.isDuty = true) (h : d.Goes happening e) (hload : happening.isRestart = false)
    (hd : d.planned kind = []) :
    happening.event?.any kind = false ∧
      (e.planned kind).Perm ((d.books happening).duties.filter fun a => kind a.event) := by
  obtain ⟨done, rest, hplanned, hdone, -, hperm⟩ := h.planned_perm hkind hload
  rw [hd] at hplanned
  obtain ⟨rfl, rfl⟩ := List.append_eq_nil_iff.mp hplanned.symm
  rw [List.append_nil] at hperm
  exact ⟨Happening.any_event?_eq_false hdone.symm, hperm⟩

/-- The only appointment of a kind stays, or it is done; new ones may come before it. -/
theorem planned_of_singleton {kind : Event → Bool} (hkind : ∀ event, kind event = true →
    event.isDuty = true) (h : d.Goes happening e) (hload : happening.isRestart = false)
    {a : Appointment Event} (hd : d.planned kind = [a]) :
    (happening.event?.any kind = false ∧ (e.planned kind).Perm
        ((d.books happening).duties.filter (fun a => kind a.event) ++ [a])) ∨
      (happening = .event a.event ∧ a.time = d.now ∧ (e.planned kind).Perm
        ((d.books happening).duties.filter fun a => kind a.event)) := by
  obtain ⟨done, rest, hplanned, hdone, htime, hperm⟩ := h.planned_perm hkind hload
  rw [hd] at hplanned
  rcases List.append_eq_singleton_iff.mp hplanned.symm with ⟨rfl, rfl⟩ | ⟨rfl, rfl⟩
  · exact .inl ⟨Happening.any_event?_eq_false hdone.symm, hperm⟩
  · refine .inr ⟨?_, htime a List.mem_cons_self, by rwa [List.append_nil] at hperm⟩
    cases happening with
    | event event =>
      have hmem : a.event ∈ [event].filter kind := hdone ▸ List.mem_cons_self
      rw [List.mem_singleton.mp (List.mem_filter.mp hmem).1]
    | _ => cases hdone

end Goes
end Dashboard

/-! ## Duties -/

namespace Dashboard

theorem filter_expiry {kind : Event → Bool} (hexpiry : kind .pageExpires = false) (d : Dashboard) :
    d.expiry.filter (fun a => kind a.event) = [] := by
  unfold expiry
  split <;> simp [hexpiry]

/-- Of what an event orders, all but the end of the page is the chart's layout or how a periodic task
goes on. -/
theorem filter_duties_eventBooks {kind : Event → Bool} (hexpiry : kind .pageExpires = false)
    (d : Dashboard) (event : Event) :
    (d.eventBooks event).duties.filter (fun a => kind a.event) =
      (if d.drawsChart event then [d.ordered d.settings.chartSettle .chartSettles] else []).filter
          (fun a => kind a.event) ++
        (d.next? event).toList.filter fun a => kind a.event := by
  have hlast : (d.lastDuty event).filter (fun a => kind a.event) = [] := by
    unfold lastDuty
    split
    · exact filter_expiry hexpiry d
    · rfl
  unfold eventBooks
  rw [List.filter_append, List.filter_append, hlast, List.append_nil]

theorem filter_duties_books {kind : Event → Bool} (hchart : kind .chartSettles = false)
    (hexpiry : kind .pageExpires = false) (d : Dashboard) {happening : Happening}
    (hload : happening.isRestart = false) :
    (d.books happening).duties.filter (fun a => kind a.event) =
      (happening.event?.bind d.next?).toList.filter fun a => kind a.event := by
  cases happening with
  | event event =>
    have hlayout : (if d.drawsChart event then [d.ordered d.settings.chartSettle .chartSettles]
        else []).filter (fun a => kind a.event) = [] := by
      split <;> simp [ordered, hchart]
    rw [books, filter_duties_eventBooks hexpiry, hlayout]
    rfl
  | restart route => cases hload
  | _ => rfl

end Dashboard

/-! ## What is remembered of a page load -/

namespace Happening

/-- The address that the visitor gives. -/
def address? : Happening → Option String
  | command (.address value) => some value
  | _ => none

/-- What the visitor types as a hash rate. -/
def input? : Happening → Option String
  | command (.hashRate value) => some value
  | _ => none

/-- The network's figures for the profit, if they arrive. -/
def params? (happening : Happening) : Option NetworkParams := happening.event?.bind Event.params?

end Happening

namespace Dashboard

/-- An event leaves the address and the input alone, and may bring the network's figures and the
chart. -/
theorem foldl_edit_eventBooks (d : Dashboard) (event : Event) (s : Session) :
    (d.eventBooks event).edits.foldl Session.edit s =
      { s with
        params := event.params?.getD s.params
        chartDrawn := s.chartDrawn || d.drawsChart event
        expired := s.expired || event.isExpiry } := by
  have hedits : (d.eventBooks event).edits =
      (if d.drawsChart event then [.drawn] else []) ++ event.params?.toList.map .params ++
        if event.isExpiry then [.expired] else [] := rfl
  rw [hedits]
  cases d.drawsChart event <;> cases event.params? <;> cases event.isExpiry <;>
    simp [Session.edit]

variable {d e : Dashboard} {happening : Happening}

namespace Goes

theorem address_eq (h : d.Goes happening e) (hload : happening.isRestart = false) :
    e.session.address = happening.address?.getD d.session.address := by
  have hsession := congrArg Session.address (h.session_eq hload)
  cases happening with
  | event event => rwa [books, foldl_edit_eventBooks] at hsession
  | command command => cases command <;> exact hsession
  | restart route => cases hload
  | _ => exact hsession

theorem input_eq (h : d.Goes happening e) (hload : happening.isRestart = false) :
    e.session.input = happening.input?.getD d.session.input := by
  have hsession := congrArg Session.input (h.session_eq hload)
  cases happening with
  | event event => rwa [books, foldl_edit_eventBooks] at hsession
  | command command => cases command <;> exact hsession
  | restart route => cases hload
  | _ => exact hsession

theorem params_eq (h : d.Goes happening e) (hload : happening.isRestart = false) :
    e.session.params = happening.params?.getD d.session.params := by
  have hsession := congrArg Session.params (h.session_eq hload)
  cases happening with
  | event event => rwa [books, foldl_edit_eventBooks] at hsession
  | command command => cases command <;> exact hsession
  | restart route => cases hload
  | _ => exact hsession

theorem chartDrawn_eq (h : d.Goes happening e) (hload : happening.isRestart = false) :
    e.session.chartDrawn = (d.session.chartDrawn || happening.event?.any Event.isCharted) := by
  have hsession := congrArg Session.chartDrawn (h.session_eq hload)
  cases happening with
  | event event =>
    rw [books, foldl_edit_eventBooks] at hsession
    refine hsession.trans ?_
    cases hdrawn : d.session.chartDrawn <;>
      simp [Session.sight, drawsChart, hdrawn, Happening.event?]
  | command command =>
    rw [show (Happening.command command).event? = none from rfl, Option.any_none, Bool.or_false]
    cases command <;> exact hsession
  | restart route => cases hload
  | _ => exact hsession.trans (Bool.or_false _).symm

end Goes

end Dashboard

/-! ## Page loads -/

/-- The address that a page load finds in a store. -/
def Store.address (store : Store) : String := ((store.get addressKey).bind id).getD ""

namespace Dashboard

variable (d : Dashboard) (route : String)

theorem asked_start : (d.start route).asked = d.asked ++ Question.route route := by
  rw [start_eq, asked_makeAll, Changes.books_load]
  rfl

theorem settings_start : (d.start route).settings = d.settings := by
  rw [start_eq, makeAll_settings]
  rfl

theorem backend_start : (d.start route).backend = d.backend := by
  rw [start_eq, makeAll_backend]
  rfl

theorem store_start : (d.start route).store = d.store := by
  rw [start_eq, store_makeAll, Changes.books_load]
  rfl

theorem session_start :
    (d.start route).session.sight =
      { Session.ofRoute route with address := d.store.address } := by
  rw [start_eq, session_makeAll, Changes.books_load]
  have hedits : ((d.cleared route).loadBooks route).edits =
      (d.store.get addressKey).toList.map fun address => .address (address.getD "") := rfl
  rw [hedits, Store.address]
  cases d.store.get addressKey <;> rfl

theorem planned_start {kind : Event → Bool}
    (hkind : ∀ event, kind event = true → event.isDuty = true) :
    ((d.start route).planned kind).Perm
      (((d.cleared route).loadBooks route).duties.filter (fun a => kind a.event) ++
        d.planned kind) := by
  rw [start_eq, ← Changes.books_load]
  exact planned_makeAll hkind _ _

/-- A dashboard before its first page load, on a store with the given values. -/
def onStore (values : Option (Table String)) : Dashboard :=
  .new .standard .attended charted (.memory .blank) ⟨false, values⟩ 0

/-- What a page load orders but the end of the page. -/
theorem filter_duties_loadBooks {kind : Event → Bool} (hexpiry : kind .pageExpires = false) :
    (d.loadBooks route).duties.filter (fun a => kind a.event) =
      (d.firstTurns d.settings.statsRefresh .refreshDue ++
        [d.ordered 0 .blocksDue, d.ordered 0 .paramsDue] ++
        d.firstTurns d.settings.calcTick .profitDue).filter fun a => kind a.event := by
  unfold loadBooks
  rw [List.filter_append]
  split
  · rw [filter_expiry hexpiry, List.append_nil]
  · exact List.append_nil _

theorem filter_firstTurns {kind : Event → Bool} {period : Nat} {event : Turn → Event}
    (h : ∀ turn, kind (event turn) = false) :
    (d.firstTurns period event).filter (fun a => kind a.event) = [] := by
  unfold firstTurns
  split <;> simp [ordered, h]

end Dashboard

/-! ## What was given last -/

/-- What a past brought last of something. -/
def last? {α : Type} (of : Happening → Option α) (past : List Incident) : Option α :=
  past.findSome? fun x => of x.happening

theorem getD_last?_cons {α : Type} (of : Happening → Option α) (x : Incident)
    (past : List Incident) (first : α) :
    (last? of (x :: past)).getD first = (of x.happening).getD ((last? of past).getD first) := by
  rw [last?, List.findSome?_cons]
  cases of x.happening <;> rfl

namespace Dashboard

/-- Within a page load, what is remembered is what was given last. -/
theorem Course.last_eq {α : Type} {of : Happening → Option α} {field : Dashboard → α}
    (hfield : ∀ {d e : Dashboard} {happening : Happening}, d.Goes happening e →
      happening.isRestart = false → field e = (of happening).getD (field d))
    {d e : Dashboard} {past : List Incident} (h : d.Course past e) (hload : IsOneLoad past) :
    field e = (last? of past).getD (field d) := by
  induction h with
  | refl => rfl
  | go _ hgo ih =>
    obtain ⟨hlast, hbefore⟩ := List.forall_mem_cons.mp hload
    rw [hfield hgo hlast, getD_last?_cons, ih hbefore]

theorem address_start (d : Dashboard) (route : String) :
    (d.start route).session.address = d.store.address :=
  congrArg Session.address (session_start d route)

end Dashboard

/-! ## Refreshes -/

/-- The miner that a question is for. -/
def Question.miner? : Question → Option String
  | miner address => some address
  | _ => none

/-- The address that a happening refreshes the page with, if it does; without one of the visitor's
it is that of the page load. -/
def Happening.refresh? (address : String) : Happening → Option String
  | command (.address value) => some value
  | event (.refreshDue _) => some address
  | _ => none

/-- The addresses that a past refreshed the page with, the first one first. -/
def refreshed (address : List Incident → String) : List Incident → List String
  | [] => []
  | x :: past => refreshed address past ++ (x.happening.refresh? (address past)).toList

theorem Question.miners_lookup (address : String) :
    (lookup address).filterMap miner? =
      [address].filter fun address => !Dashboard.isShort address := by
  unfold lookup
  split
  next hshort => simp [hshort]
  next hshort => simp [hshort, miner?]

theorem Question.miners_route (hash : String) : (route hash).filterMap miner? = [] := by
  unfold route
  split <;> rfl

namespace Dashboard

variable {d e : Dashboard} {happening : Happening} {past : List Incident}

/-- The miners that were asked for, in order. -/
def lookups (d : Dashboard) : List String := d.asked.filterMap Question.miner?

theorem miners_books (d : Dashboard) (happening : Happening) :
    (d.books happening).questions.filterMap Question.miner? =
      (happening.refresh? d.session.address).toList.filter fun address => !isShort address := by
  have hstats : ∀ questions : List Question,
      (.stats :: questions).filterMap Question.miner? = questions.filterMap Question.miner? :=
    fun _ => rfl
  cases happening with
  | command command =>
    cases command with
    | address value => exact (hstats _).trans (Question.miners_lookup value)
    | navigate hash => exact Question.miners_route hash
    | _ => rfl
  | event event =>
    cases event with
    | refreshDue turn => exact (hstats _).trans (Question.miners_lookup d.session.address)
    | _ => rfl
  | restart route => exact Question.miners_route route
  | _ => rfl

theorem Goes.lookups_eq (h : d.Goes happening e) :
    e.lookups = d.lookups ++
      (happening.refresh? d.session.address).toList.filter fun address => !isShort address := by
  rw [lookups, h.asked_eq, List.filterMap_append, miners_books]
  rfl

/-- Each refresh looks up the address of the page load, unless it is none. -/
theorem Course.lookups_eq {address : List Incident → String} (h : d.Course past e)
    (haddress : ∀ {before : List Incident} {f : Dashboard}, before <:+ past → d.Course before f →
      f.session.address = address before) :
    e.lookups = d.lookups ++ (refreshed address past).filter fun address => !isShort address := by
  induction h with
  | refl => exact (List.append_nil _).symm
  | @go e f past happening hbefore hgo ih =>
    have hnow := haddress (List.suffix_cons _ past) hbefore
    rw [hgo.lookups_eq, hnow, ih fun hsuffix => haddress (hsuffix.trans (List.suffix_cons _ past)),
      refreshed, List.filter_append, List.append_assoc]

theorem lookups_start (d : Dashboard) (route : String) : (d.start route).lookups = d.lookups := by
  rw [lookups, asked_start, List.filterMap_append, Question.miners_route, List.append_nil]
  rfl

end Dashboard
end PoolPage
