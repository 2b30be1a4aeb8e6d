import PoolPage.Proofs.Dashboard.Ledger

/-!
# The address that is remembered

The address is kept twice, by the page load and in the store.  If the store has its table
both are the address that was given last, so that it survives page loads.  If it has none
the store neither keeps nor gives an address, and a page load starts without one.  Nothing else
tells such a run from one whose store forgets the address before each page load.
`address_survives` says all this of every course.
-/

namespace PoolPage

/-! ## Stores -/

namespace Store

def HasTable (store : Store) : Prop := store.values.isSome = true

theorem address_of_values {store : Store} {values : Table String} (h : store.values = some values) :
    store.address = (values.get? addressKey).getD "" := by
  simp [address, get, h]

theorem address_of_none {store : Store} (h : store.values = none) : store.address = "" := by
  simp [address, get, h]

/-- A store with a table keeps the address that it is given. -/
theorem HasTable.set {store : Store} (h : store.HasTable) (value : String) :
    ∃ store', store.set addressKey value = some store' ∧ store'.HasTable ∧
      store'.address = value := by
  obtain ⟨values, hvalues⟩ := Option.isSome_iff_exists.mp h
  refine ⟨{ store with values := some (values.insert addressKey value) }, ?_, rfl, ?_⟩
  · rw [Store.set, hvalues]
    rfl
  · rw [address_of_values rfl, Table.get?_insert, if_pos rfl]
    rfl

theorem set_of_none {store : Store} (h : store.values = none) (value : String) :
    store.set addressKey value = none := by
  rw [Store.set, h]
  rfl

end Store

/-! ## The past -/

/-- The part of a past that belongs to the last page load. -/
def lastLoad (past : List Incident) : List Incident :=
  past.takeWhile fun x => !x.happening.isRestart

/-- A past in which something else is put into the store before each page load. -/
def exchanging (store : Store) (past : List Incident) : List Incident :=
  past.flatMap fun x =>
    if x.happening.isRestart then [x, ⟨x.time, .exchange store⟩] else [x]

theorem lastLoad_cons_of_restart {x : Incident} (h : x.happening.isRestart = true)
    (past : List Incident) : lastLoad (x :: past) = [] := by
  simp [lastLoad, h]

theorem lastLoad_cons_of_not_restart {x : Incident} (h : x.happening.isRestart = false)
    (past : List Incident) : lastLoad (x :: past) = x :: lastLoad past := by
  simp [lastLoad, h]

/-- A change of the store, or a record of it. -/
def Change.IsStored : Change → Prop
  | keep _ => True
  | note records => ∀ record ∈ records, record.component = .storage
  | _ => False

/-! ## Where the address comes from -/

namespace Dashboard

variable {d e f : Dashboard} {happening : Happening} {past : List Incident} {route : String}

theorem Goes.address_restart (h : d.Goes happening e) (hload : happening.isRestart = true) :
    e.session.address = d.store.address := by
  cases h with
  | restart records route => exact address_start _ route
  | _ => cases hload

/-- Only an address that is given changes what is kept. -/
theorem Goes.store_of_address?_eq_none (h : d.Goes happening e)
    (hkept : happening.isExchange = false) (hnone : happening.address? = none) :
    e.store = d.store := by
  have hstores : (d.books happening).stores = [] := by
    cases happening with
    | command command =>
      cases command with
      | address value => cases hnone
      | _ => rfl
    | _ => rfl
  rw [h.store_eq hkept, hstores]
  rfl

theorem Goes.store_of_address?_eq_some {value : String} (h : d.Goes happening e)
    (hkept : happening.isExchange = false) (haddress : happening.address? = some value) :
    e.store = (d.store.set addressKey value).getD d.store := by
  have hstores : (d.books happening).stores = (d.store.set addressKey value).toList := by
    cases happening with
    | command command =>
      cases command with
      | address given =>
        cases haddress
        rfl
      | _ => cases haddress
    | _ => cases haddress
  rw [h.store_eq hkept, hstores]
  cases d.store.set addressKey value <;> rfl

/-! ### A store with its table -/

/-- The page load and the store have the same address. -/
structure Remembers (d : Dashboard) (address : String) : Prop where
  session : d.session.address = address
  hasTable : d.store.HasTable
  store : d.store.address = address

theorem Goes.remembers {address : String} (h : d.Goes happening e)
    (hkept : happening.isExchange = false) (hd : d.Remembers address) :
    e.Remembers (happening.address?.getD address) := by
  cases haddress : happening.address? with
  | none =>
    have hstore := h.store_of_address?_eq_none hkept haddress
    refine ⟨?_, hstore ▸ hd.hasTable, hstore ▸ hd.store⟩
    cases hload : happening.isRestart with
    | true => exact (h.address_restart hload).trans hd.store
    | false =>
      rw [h.address_eq hload, haddress]
      exact hd.session
  | some value =>
    have hload : happening.isRestart = false := by
      cases happening <;> first | rfl | cases haddress
    obtain ⟨store, hset, htable, hvalue⟩ := hd.hasTable.set value
    have hstore := h.store_of_address?_eq_some hkept haddress
    rw [hset] at hstore
    refine ⟨?_, hstore ▸ htable, hstore ▸ hvalue⟩
    rw [h.address_eq hload, haddress]
    rfl

theorem Course.remembers {address : String} (h : d.Course past e)
    (hkept : ∀ x ∈ past, x.happening.isExchange = false) (hd : d.Remembers address) :
    e.Remembers ((last? Happening.address? past).getD address) := by
  induction h with
  | refl => exact hd
  | go _ hgo ih =>
    obtain ⟨hlast, hbefore⟩ := List.forall_mem_cons.mp hkept
    rw [getD_last?_cons]
    exact hgo.remembers hlast (ih hbefore)

/-! ### A store without a table -/

theorem Goes.values_eq_none (h : d.Goes happening e) (hkept : happening.isExchange = false)
    (hd : d.store.values = none) : e.store.values = none := by
  cases haddress : happening.address? with
  | none =>
    rw [h.store_of_address?_eq_none hkept haddress]
    exact hd
  | some value =>
    rw [h.store_of_address?_eq_some hkept haddress, Store.set_of_none hd]
    exact hd

theorem Course.values_eq_none (h : d.Course past e)
    (hkept : ∀ x ∈ past, x.happening.isExchange = false) (hd : d.store.values = none) :
    e.store.values = none := by
  induction h with
  | refl => exact hd
  | go _ hgo ih =>
    obtain ⟨hlast, hbefore⟩ := List.forall_mem_cons.mp hkept
    exact hgo.values_eq_none hlast (ih hbefore)

theorem Course.address_of_values_eq_none (h : (d.start route).Course past e)
    (hkept : ∀ x ∈ past, x.happening.isExchange = false) (hd : d.store.values = none) :
    e.session.address = (last? Happening.address? (lastLoad past)).getD "" := by
  induction h with
  | refl => exact (address_start d route).trans (Store.address_of_none hd)
  | @go e f past happening hbefore hgo ih =>
    obtain ⟨hlast, hrest⟩ := List.forall_mem_cons.mp hkept
    cases hload : happening.isRestart with
    | true =>
      have hnone := hbefore.values_eq_none hrest ((store_start d route).symm ▸ hd)
      rw [hgo.address_restart hload, Store.address_of_none hnone, lastLoad_cons_of_restart hload]
      rfl
    | false =>
      rw [hgo.address_eq hload, lastLoad_cons_of_not_restart hload, getD_last?_cons,
        ih hrest]

/-! ## Runs apart from the store -/

/-- A dashboard apart from its store and what was logged about it. -/
def unstored (d : Dashboard) : Dashboard :=
  { d with
    store := .new false
    log := d.log.filter fun record => record.component ≠ .storage }

theorem unstored_make (d : Dashboard) (c : Change) :
    (d.make c).unstored = (d.unstored.make c).unstored := by
  have hlog : ∀ records : List Log.Record,
      (d.log ++ records).filter (fun record => record.component ≠ .storage) =
        (d.unstored.log ++ records).filter fun record => record.component ≠ .storage := by
    intro records
    simp [unstored, List.filter_append, List.filter_filter]
  have hnote : ∀ records : List Log.Record,
      (d.note records).unstored = (d.unstored.note records).unstored := by
    intro records
    rw [unstored, unstored, note, note, hlog]
    rfl
  cases c with
  | note records => exact hnote records
  | call c =>
    show ({ d with screen := (d.screen.call c).1 }.note (d.screen.call c).2).unstored =
      ({ d.unstored with screen := (d.screen.call c).1 }.note (d.screen.call c).2).unstored
    rw [unstored, unstored, note, note, hlog]
    rfl
  | _ => simp [make, ask, unstored, List.filter_filter]

theorem unstored_makeAll (h : d.unstored = e.unstored) (cs : List Change) :
    (d.makeAll cs).unstored = (e.makeAll cs).unstored := by
  induction cs generalizing d e with
  | nil => exact h
  | cons c cs ih =>
    refine ih ?_
    rw [unstored_make d, unstored_make e, h]

theorem unstored_makeAll_of_isStored {cs : List Change} (hcs : ∀ c ∈ cs, c.IsStored)
    (d : Dashboard) : (d.makeAll cs).unstored = d.unstored := by
  induction cs generalizing d with
  | nil => rfl
  | cons c cs ih =>
    obtain ⟨hc, hrest⟩ := List.forall_mem_cons.mp hcs
    rw [makeAll_cons, ih hrest]
    cases c with
    | note records =>
      have hnone : records.filter (fun record => record.component ≠ .storage) = [] := by
        simpa [Change.IsStored] using hc
      simp only [make, note, unstored, List.filter_append, hnone, List.append_nil]
    | keep store => rfl
    | _ => exact hc.elim

theorem isStored_saveAddress (d : Dashboard) (value : String) :
    ∀ c ∈ Changes.saveAddress d value, c.IsStored := by
  unfold Changes.saveAddress
  split <;> simp [Change.IsStored, storeFailedRecord, Log.record]

theorem happen_unstored (d : Dashboard) (event : Event) :
    Changes.happen d event = Changes.happen d.unstored event := by
  cases event <;> rfl

theorem handle_unstored (d : Dashboard) {command : Command}
    (h : ∀ value, command ≠ .address value) :
    Changes.handle d command = Changes.handle d.unstored command := by
  cases command with
  | address value => exact absurd rfl (h value)
  | _ => rfl

theorem unstored_handle (h : d.unstored = e.unstored) (command : Command) :
    (d.handle command).unstored = (e.handle command).unstored := by
  by_cases haddress : ∃ value, command = .address value
  · obtain ⟨value, rfl⟩ := haddress
    let given : Change := .remember (.address value)
    have hrefresh : ∀ d : Dashboard, Changes.refresh (d.make given) .visitor =
        Changes.refresh (d.unstored.make given) .visitor := fun _ => rfl
    have hsave : ∀ d : Dashboard,
        ((d.make given).makeAll (Changes.saveAddress d value)).unstored =
          (d.make given).unstored := fun d =>
      unstored_makeAll_of_isStored (isStored_saveAddress d value) _
    have hgiven : (d.make given).unstored = (e.make given).unstored := unstored_makeAll h [given]
    rw [handle_eq, handle_eq, Changes.handle, Changes.handle, makeAll_cons, makeAll_cons,
      makeAll_append, makeAll_append, hrefresh d, hrefresh e, h]
    exact unstored_makeAll ((hsave d).trans (hgiven.trans (hsave e).symm)) _
  · have hother : ∀ value, command ≠ .address value := fun value heq => haddress ⟨value, heq⟩
    rw [handle_eq, handle_eq, handle_unstored d hother, handle_unstored e hother, h]
    exact unstored_makeAll h _

theorem unstored_happen (h : d.unstored = e.unstored) (event : Event) :
    (d.happen event).unstored = (e.happen event).unstored := by
  rw [happen_eq, happen_eq, happen_unstored d, happen_unstored e, h]
  exact unstored_makeAll h _

theorem unstored_shutdown (h : d.unstored = e.unstored) :
    d.shutdown.unstored = e.shutdown.unstored := by
  have hsame : ∀ d : Dashboard, d.shutdown.unstored = d.unstored.shutdown.unstored := by
    intro d
    simp [shutdown, note, unstored, List.filter_filter]
  rw [hsame d, hsame e, h]

theorem unstored_loadAddress (d : Dashboard) (route : String) :
    ((d.cleared route).makeAll (Changes.loadAddress (d.cleared route))).unstored =
      ((d.cleared route).make (.remember (.address d.store.address))).unstored := by
  have hstore : (d.cleared route).store = d.store := rfl
  rw [Changes.loadAddress, hstore]
  cases hget : d.store.get addressKey with
  | none =>
    have hrecord : ∀ c ∈ [Change.note [storeFailedRecord "address_load_failed"]], c.IsStored := by
      simp [Change.IsStored, storeFailedRecord, Log.record]
    have hnone : d.store.address = "" := by
      rw [Store.address, hget]
      rfl
    rw [hnone]
    exact unstored_makeAll_of_isStored hrecord _
  | some address =>
    have hsome : d.store.address = address.getD "" := by
      rw [Store.address, hget]
      rfl
    rw [hsome]
    rfl

theorem unstored_cleared (h : d.unstored = e.unstored) (route : String) :
    (d.cleared route).unstored = (e.cleared route).unstored := by
  have hsame : ∀ d : Dashboard,
      (d.cleared route).unstored = { (d.call .reset).unstored with session := .ofRoute route } :=
    fun _ => rfl
  have hcall : (d.call .reset).unstored = (e.call .reset).unstored :=
    unstored_makeAll h [.call .reset]
  rw [hsame d, hsame e, hcall]

/-- A page load knows of the store what address it gives. -/
theorem unstored_start (h : d.unstored = e.unstored) (haddress : d.store.address = e.store.address)
    (route : String) : (d.start route).unstored = (e.start route).unstored := by
  have hcleared := unstored_cleared h route
  have hload : ((d.cleared route).makeAll (Changes.loadAddress (d.cleared route))).unstored =
      ((e.cleared route).makeAll (Changes.loadAddress (e.cleared route))).unstored := by
    rw [unstored_loadAddress, unstored_loadAddress, haddress]
    exact unstored_makeAll hcleared [.remember (.address e.store.address)]
  have htasks : ∀ d : Dashboard, Changes.startTasks d = Changes.startTasks d.unstored :=
    fun _ => rfl
  have hnavigate : ∀ d : Dashboard,
      Changes.navigate d true route = Changes.navigate d.unstored true route := fun _ => rfl
  rw [start_eq, start_eq, Changes.load, Changes.load, makeAll_append, makeAll_append,
    makeAll_append, makeAll_append, htasks (d.cleared route), htasks (e.cleared route),
    hnavigate (d.cleared route), hnavigate (e.cleared route), hcleared]
  exact unstored_makeAll (unstored_makeAll hload _) _

/-- What happens to a dashboard happens to one that is the same apart from the store, with another
store in its place before a page load. -/
theorem Goes.exists_unstored {e' : Dashboard} {store : Store} (h : d.Goes happening e)
    (hkept : happening.isExchange = false) (haddress : d.store.address = store.address)
    (hd : d.unstored = e'.unstored) :
    ∃ f', e'.Course (exchanging store [⟨d.now, happening⟩]) f' ∧ e.unstored = f'.unstored := by
  have hnow : d.unstored.now = e'.unstored.now := by rw [hd]
  have hagenda' : d.unstored.agenda = e'.unstored.agenda := by rw [hd]
  change d.now = e'.now at hnow
  change d.agenda = e'.agenda at hagenda'
  rw [hnow]
  cases h with
  | command command =>
    exact ⟨_, .go .refl (.command e' command), unstored_handle hd command⟩
  | @event a rest hagenda htime =>
    have hmeet : ∀ d : Dashboard, (d.meet a rest).unstored = d.unstored.meet a rest := fun _ => rfl
    refine ⟨_, .go .refl (.event (hagenda' ▸ hagenda) (hnow ▸ htime)), unstored_happen ?_ a.event⟩
    rw [hmeet, hmeet, hd]
  | @clock time hle hdue =>
    have hlater : ∀ d : Dashboard,
        ({ d with now := time } : Dashboard).unstored = { d.unstored with now := time } :=
      fun _ => rfl
    refine ⟨_, .go .refl (.clock (hnow ▸ hle) (hagenda' ▸ hdue)), ?_⟩
    rw [hlater, hlater, hd]
  | answers backend =>
    have hanswers : ∀ d : Dashboard,
        ({ d with backend } : Dashboard).unstored = { d.unstored with backend } := fun _ => rfl
    refine ⟨_, .go .refl (.answers e' backend), ?_⟩
    rw [hanswers, hanswers, hd]
  | exchange store => cases hkept
  | restart records route =>
    let exchanged : Dashboard := { e' with store }
    have hcourse : e'.Course [⟨e'.now, .exchange store⟩] exchanged := .go .refl (.exchange e' store)
    have hload : exchanged.Goes (.restart route) ((exchanged.shutdown.note records).start route) :=
      .restart exchanged records route
    have hsame : (d.shutdown.note records).unstored = (exchanged.shutdown.note records).unstored :=
      unstored_makeAll (unstored_shutdown hd) [.note records]
    exact ⟨_, hcourse.go hload, unstored_start hsame haddress route⟩

/-- Without a table everything goes as if the store forgot the address before each page load. -/
theorem Course.exists_unstored {store : Store} (h : (d.start route).Course past e)
    (hkept : ∀ x ∈ past, x.happening.isExchange = false) (hd : d.store.values = none)
    (hstore : store.values = some .empty) :
    ∃ e', ((({ d with store } : Dashboard)).start route).Course (exchanging store past) e' ∧
      e.unstored = e'.unstored := by
  have hforgotten : store.address = "" := by rw [Store.address_of_values hstore]; rfl
  induction h with
  | refl =>
    have hsame : d.unstored = ({ d with store } : Dashboard).unstored := rfl
    have haddress : d.store.address = ({ d with store } : Dashboard).store.address :=
      (Store.address_of_none hd).trans hforgotten.symm
    exact ⟨_, .refl, unstored_start hsame haddress route⟩
  | @go e f past happening hbefore hgo ih =>
    obtain ⟨hlast, hrest⟩ := List.forall_mem_cons.mp hkept
    obtain ⟨e', hcourse, hsame⟩ := ih hrest
    have hnone := hbefore.values_eq_none hrest ((store_start d route).symm ▸ hd)
    have haddress : e.store.address = store.address :=
      (Store.address_of_none hnone).trans hforgotten.symm
    obtain ⟨f', hgo', hsame'⟩ := hgo.exists_unstored hlast haddress hsame
    have hpast : exchanging store (⟨e.now, happening⟩ :: past) =
        exchanging store [⟨e.now, happening⟩] ++ exchanging store past := by
      simp [exchanging]
    exact ⟨f', hpast ▸ hcourse.trans hgo', hsame'⟩

/-! ## The address of every course -/

/-- If the store has its table, the address of the page load and of each refresh is the one that was
given last, before the course if none was given since.  If it has none, it is the one that was
given last in the page load, and nothing else sets the course apart from one in which the store
forgets the address before each page load. -/
theorem address_survives (hcourse : (d.start route).Course past e)
    (hkept : ∀ x ∈ past, x.happening.isExchange = false) :
    (∀ values, d.store.values = some values →
      let address (past : List Incident) :=
        (last? Happening.address? past).getD ((values.get? addressKey).getD "")
      e.session.address = address past ∧
        e.lookups = d.lookups ++
          (refreshed address past).filter fun address => !isShort address) ∧
      (d.store.values = none →
        let address (past : List Incident) := (last? Happening.address? (lastLoad past)).getD ""
        e.session.address = address past ∧
          e.lookups = d.lookups ++
            (refreshed address past).filter (fun address => !isShort address) ∧
          ∀ store : Store, store.values = some .empty →
            ∃ e', (({ d with store } : Dashboard).start route).Course (exchanging store past) e' ∧
              e.unstored = e'.unstored) := by
  have hkept_before : ∀ {before : List Incident}, before <:+ past →
      ∀ x ∈ before, x.happening.isExchange = false :=
    fun hsuffix x hx => hkept x (hsuffix.subset hx)
  refine ⟨fun values hvalues => ?_, fun hnone => ?_⟩
  · have hstart : (d.start route).Remembers ((values.get? addressKey).getD "") := by
      have hstore := store_start d route
      have haddress := Store.address_of_values hvalues
      refine ⟨(address_start d route).trans haddress, ?_, hstore ▸ haddress⟩
      rw [Store.HasTable, hstore, hvalues]
      rfl
    have haddress : ∀ {before : List Incident} {f : Dashboard}, before <:+ past →
        (d.start route).Course before f →
          f.session.address =
            (last? Happening.address? before).getD ((values.get? addressKey).getD "") :=
      fun hsuffix hbefore => (hbefore.remembers (hkept_before hsuffix) hstart).session
    refine ⟨haddress (List.suffix_refl past) hcourse, ?_⟩
    rw [hcourse.lookups_eq haddress, lookups_start]
  · have haddress : ∀ {before : List Incident} {f : Dashboard}, before <:+ past →
        (d.start route).Course before f →
          f.session.address = (last? Happening.address? (lastLoad before)).getD "" :=
      fun hsuffix hbefore => hbefore.address_of_values_eq_none (hkept_before hsuffix) hnone
    refine ⟨haddress (List.suffix_refl past) hcourse, ?_, fun store hstore =>
      hcourse.exists_unstored hkept hnone hstore⟩
    rw [hcourse.lookups_eq haddress, lookups_start]

/-- An address is given and the page loaded anew, with a table and without one. -/
theorem address_survives_restart :
    (∃ past e, ((onStore (some .empty)).start "").Course past e ∧
      past.map Incident.happening = [.restart "", .command (.address someAddress)] ∧
      e.session.address = someAddress ∧ e.lookups = [someAddress]) ∧
      ∃ past e, ((onStore none).start "").Course past e ∧
        past.map Incident.happening = [.restart "", .command (.address someAddress)] ∧
        e.session.address = "" ∧ e.lookups = [someAddress] := by
  have hcourse := fun values =>
    ((Course.refl (d := (onStore values).start "")).go
      (.command _ (.address someAddress))).go (.restart _ [] "")
  refine ⟨⟨_, _, hcourse (some .empty), rfl, ?_⟩, ⟨_, _, hcourse none, rfl, ?_⟩⟩
  · exact (address_survives (hcourse (some .empty)) (by simp [Happening.isExchange])).1 .empty rfl
  · obtain ⟨haddress, hlookups, -⟩ :=
      (address_survives (hcourse none) (by simp [Happening.isExchange])).2 rfl
    exact ⟨haddress, hlookups⟩

end Dashboard
end PoolPage
