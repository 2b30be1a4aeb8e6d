import PoolPage.Program
import PoolPage.Proofs.Dashboard.Records
import PoolPage.Proofs.Pool.Address

/-!
# What the log tells of an address

A record that has a field for the address shortens it (`Log.sanitize`), and where the miner's
endpoint is logged for a failure it is put together from the shortened address.  But the address is
also in the endpoint that an answered question logs, and in the URL that the causes of a failure
tell of.

`Refresh.records` is what is logged of one `Refresh`: when it begins, when the two answers arrive,
and when it ends (`Refresh.events_beginning`), each at any dashboard.  `Refresh.unmentioned_iff`
says when no text in it holds the address.  For an address that is asked for as it is
(`Refresh.AsksPlainly`) there is no such refresh.
-/

namespace PoolPage

open Url

/-- Whether a text has another one in it. -/
def Holds (text part : String) : Prop := part.toList <:+: text.toList

instance (text part : String) : Decidable (Holds text part) :=
  inferInstanceAs (Decidable (part.toList <:+: text.toList))

def Log.Record.Mentions (r : Log.Record) (text : String) : Prop := ∃ t ∈ r.texts, Holds t text

variable {address text : String}

theorem Holds.length_le (h : Holds text address) : address.toList.length ≤ text.toList.length :=
  List.IsInfix.length_le h

theorem not_holds_of_length (hlong : 16 < address.toList.length) (htext : text.toList.length ≤ 16) :
    ¬ Holds text address := fun h => by
  have hle := h.length_le
  omega

theorem Holds.append_right (h : Holds text address) (front : String) :
    Holds (front ++ text) address := by
  rw [Holds, String.toList_append]
  exact List.infix_append_of_infix_right h

theorem Holds.append_left (h : Holds text address) (back : String) :
    Holds (text ++ back) address := by
  rw [Holds, String.toList_append]
  exact List.infix_append_of_infix_left h

theorem Holds.refl (text : String) : Holds text text := List.infix_rfl

theorem length_shortenAddress (hlong : 16 < address.toList.length) :
    (Log.shortenAddress address).toList.length = 17 := by
  have hdots : "...".toList.length = 3 := rfl
  rw [Log.shortenAddress, if_neg (Nat.not_le.mpr hlong), String.toList_ofList, List.length_append,
    List.length_append, List.length_take, List.length_drop]
  omega

theorem length_shortenAddress_le (other : String) :
    (Log.shortenAddress other).toList.length ≤ 17 := by
  by_cases hlong : 16 < other.toList.length
  · exact Nat.le_of_eq (length_shortenAddress hlong)
  · rw [Log.shortenAddress, if_pos (Nat.not_lt.mp hlong)]
    omega

/-- A shortened address does not hold the address, unless that was shortened before. -/
theorem not_holds_shortened (hlong : 16 < address.toList.length)
    (hform : ∀ other, Log.shortenAddress other ≠ address) :
    ¬ Holds (Log.shortenAddress address) address := by
  intro h
  have hlength := length_shortenAddress hlong
  have hle := h.length_le
  have hsame := List.IsInfix.eq_of_length h (by omega)
  exact hform address (String.toList_inj.mp hsame.symm)

theorem length_le_length_bytesOf (cs : List Char) : cs.length ≤ (bytesOf cs).length := by
  induction cs with
  | nil => exact Nat.le_refl _
  | cons c cs ih =>
    have hc := length_utf8EncodeChar_pos c
    rw [bytesOf_cons, List.length_append, List.length_cons]
    omega

theorem isShort_of_long (hlong : 16 < address.toList.length) :
    Dashboard.isShort address = false := by
  have hle := length_le_length_bytesOf address.toList
  rw [Dashboard.isShort, decide_eq_false_iff_not, Dashboard.shortAddress, utf8ByteSize_eq]
  omega

/-! ## The records of a screen -/

namespace Snapshot

theorem records_flush (file : File) (page : Page) (records : List Log.Record) :
    (flush file page records).records =
      records ++ if page.dirty then file.failure.toList.map (failedRecord file.path) else [] := by
  unfold flush Page.takeDirty
  dsimp only
  split
  · split
    next reason hreason =>
      rw [hreason]
      rfl
    next hnone =>
      rw [hnone]
      exact (List.append_nil _).symm
  · exact (List.append_nil _).symm

end Snapshot

namespace Screen

/-- A screen in memory logs nothing.  Another one logs what it is told, and why its file cannot be
written. -/
theorem mem_records_call {screen : Screen} {us : List Update} {r : Log.Record}
    (h : r ∈ (screen.call (.applyAll us)).2) :
    r ∈ us.flatMap Snapshot.updateRecords ∨ ∃ file ∈ screen.file, ∃ reason ∈ file.failure,
      r = Snapshot.failedRecord file.path reason := by
  unfold call at h
  cases hfile : screen.file with
  | none =>
    rw [hfile] at h
    cases h
  | some file =>
    rw [hfile] at h
    dsimp only at h
    rw [Snapshot.call, Snapshot.records_flush] at h
    rcases List.mem_append.mp h with hsaid | hfailed
    · exact .inl hsaid
    · split at hfailed
      · obtain ⟨reason, hreason, rfl⟩ := List.mem_map.mp hfailed
        exact .inr ⟨file, rfl, reason, Option.mem_toList.mp hreason, rfl⟩
      · cases hfailed

theorem alert_mem_records_call {screen : Screen} (h : screen.file.isSome = true)
    (message : String) :
    Log.alert message ∈ (screen.call (.applyAll [.alert message])).2 := by
  obtain ⟨file, hfile⟩ := Option.isSome_iff_exists.mp h
  rw [call, hfile]
  dsimp only
  rw [Snapshot.call, Snapshot.records_flush]
  exact List.mem_append_left _ List.mem_cons_self

end Screen

namespace PoolPanel

/-- What is logged of updates of some regions. -/
def SaysOnly (regions : List String) (us : List Update) : Prop :=
  ∀ u ∈ us, ∀ r ∈ Snapshot.updateRecords u, ∃ id ∈ regions,
    r = Log.record .trace .render "update" [("id", .string id)]

variable {regions : List String} {us us' : List Update}

theorem SaysOnly.append (h : SaysOnly regions us) (h' : SaysOnly regions us') :
    SaysOnly regions (us ++ us') := List.forall_mem_append.mpr ⟨h, h'⟩

theorem saysOnly_text {id : String} (hid : id ∈ regions) (text : String) :
    ∀ r ∈ Snapshot.updateRecords (.text id text), ∃ id ∈ regions,
      r = Log.record .trace .render "update" [("id", .string id)] :=
  fun _ hr => ⟨id, hid, List.mem_singleton.mp hr⟩

theorem saysOnly_text? {id : String} (hid : id ∈ regions) (text : Option String) :
    SaysOnly regions (text? id text) := by
  cases text with
  | none => exact List.forall_mem_nil _
  | some text => exact List.forall_mem_cons.mpr ⟨saysOnly_text hid text, List.forall_mem_nil _⟩

theorem saysOnly_series {chart text : String} (hchart : chart ∈ regions) (htext : text ∈ regions)
    (values : List Binary64) (label : Binary64 → String) (current : Binary64) :
    SaysOnly regions (series chart text values label current) :=
  List.forall_mem_cons.mpr ⟨saysOnly_text htext _, List.forall_mem_cons.mpr
    ⟨fun _ hr => ⟨chart, hchart, List.mem_singleton.mp hr⟩, List.forall_mem_nil _⟩⟩

theorem saysOnly_series? {chart text : String} (hchart : chart ∈ regions) (htext : text ∈ regions)
    (values : Option (List Binary64)) (current : Binary64) :
    SaysOnly regions (series? chart text values current) := by
  cases values with
  | none => exact List.forall_mem_nil _
  | some values => exact saysOnly_series hchart htext values _ current

theorem saysOnly_render (stats : PoolStats) (settings : Settings) :
    SaysOnly PoolPanel.regions (render stats settings) := by
  have hnormalize : SaysOnly PoolPanel.regions [.normalize viewBox "none"] := by
    rintro u hu r hr
    rw [List.mem_singleton.mp hu] at hr
    cases hr
  have hpayouts : ∀ html, SaysOnly PoolPanel.regions [.html payouts html] := by
    rintro html u hu r hr
    rw [List.mem_singleton.mp hu] at hr
    exact ⟨payouts, by decide, List.mem_singleton.mp hr⟩
  have hfirst : ∀ a b c d, SaysOnly PoolPanel.regions
      [.text networkRate a, .text height b, .text blocksFound c, .text effort d] := by
    intro a b c d
    simp only [SaysOnly, List.forall_mem_cons]
    exact ⟨saysOnly_text (by decide) a, saysOnly_text (by decide) b, saysOnly_text (by decide) c,
      saysOnly_text (by decide) d, List.forall_mem_nil _⟩
  unfold render
  exact (((((((((hfirst _ _ _ _).append (saysOnly_series (by decide) (by decide) _ _ _)).append
    (saysOnly_series? (by decide) (by decide) _ _)).append
    (saysOnly_series? (by decide) (by decide) _ _)).append hnormalize).append
    (saysOnly_text? (by decide) _)).append (saysOnly_text? (by decide) _)).append
    (saysOnly_text? (by decide) _)).append (saysOnly_text? (by decide) _)).append (hpayouts _)

end PoolPanel

/-! ## The records of a client -/

namespace PoolClient

variable {α : Type} {client : PoolClient} {decode : String → Except Fault α} {path : String}

/-- A client logs how long it asked, and where it was answered. -/
theorem mem_records_get_iff {r : Log.Record} :
    r ∈ (client.get decode path).records ↔
      r = Log.timed scope ∨
        r = Log.fetched path ∧ ∃ a, (client.get decode path).answer = .ok a := by
  unfold get
  cases Endpoint.resolve client.base path with
  | error e => simp
  | ok url =>
    dsimp only
    generalize interpret decode url (Http.get client.transport url).2 = answer
    cases answer with
    | error causes => simp
    | ok a => simp [or_comm]

theorem answer_get_of_unreachable {base url : Url}
    (hresolve : Endpoint.resolve base path = .ok url) (reason : String) :
    (get ⟨base, Http.unreachable reason⟩ decode path).answer =
      .error (Http.requestFailed url reason) := by
  unfold get
  rw [hresolve]
  rfl

theorem mem_records_miner {address : String} {lookup : MinerLookup}
    (h : (client.miner address).answer = .ok lookup) :
    Log.fetched (Endpoint.miner address) ∈ (client.miner address).records := by
  unfold miner at h ⊢
  exact mem_records_get_iff.mpr (.inr ⟨rfl, lookup, h⟩)

theorem answer_toReply (outcome : Outcome α) :
    outcome.toReply.answer = outcome.answer.mapError causeChain := rfl

theorem records_toReply (outcome : Outcome α) : outcome.toReply.records = outcome.records := rfl

/-- The first of the causes of a failure says what was asked. -/
theorem asked_of_error {url : Url} (hresolve : Endpoint.resolve client.base path = .ok url)
    {causes : List String} (h : (client.get decode path).answer = .error causes) :
    ∃ doing ∈ ["GET ", "reading ", "decoding "], ∃ cause,
      causes = [doing ++ url.render, cause] := by
  unfold get at h
  rw [hresolve] at h
  dsimp only at h
  unfold interpret at h
  split at h
  · cases h
    exact ⟨_, by decide, _, rfl⟩
  · split at h
    · cases h
      exact ⟨_, by decide, _, rfl⟩
    next body _ =>
      cases hdecode : decode body with
      | error fault =>
        rw [hdecode] at h
        cases h
        exact ⟨_, by decide, _, rfl⟩
      | ok a =>
        rw [hdecode] at h
        cases h

end PoolClient

/-! ## Refreshes -/

/-- What was logged on the way from a dashboard to a later one. -/
def Dashboard.logged (d e : Dashboard) : List Log.Record := e.log.drop d.log.length

theorem Dashboard.logged_makeAll (d : Dashboard) (cs : List Change) :
    d.logged (d.makeAll cs) = Changes.records d.screen cs := by
  rw [logged, log_makeAll, List.drop_left]

/-- The events that some changes enter. -/
def Changes.events (cs : List Change) : List Event :=
  cs.filterMap fun
    | .enter a => some a.event
    | _ => none

/-- A refresh with an address: who is asked for the figures of the pool and of the miner, and the
dashboards at which it begins, at which the answers arrive, and at which it ends. -/
structure Refresh where
  pool : PoolClient
  miner : PoolClient
  address : String
  occurrence : Occurrence
  begun : Dashboard
  atPool : Dashboard
  atMiner : Dashboard
  atEnd : Dashboard
  asksPool : ∀ occasion, begun.backend.stats occasion = pool.stats.toReply
  asksMiner : ∀ occasion,
    begun.backend.miner address occasion = (miner.miner address).toReply
  due : ∀ turn, occurrence = .periodic turn → begun.session.address = address

namespace Refresh

variable (w : Refresh)

def beginning : List Change :=
  match w.occurrence with
  | .visitor => Changes.handle w.begun (.address w.address)
  | .periodic turn => Changes.happen w.begun (.refreshDue turn)

/-- The dashboard once both questions are put. -/
def start : Dashboard :=
  match w.occurrence with
  | .visitor => w.begun.handle (.address w.address)
  | .periodic turn => w.begun.happen (.refreshDue turn)

def poolArrives : Event := .poolArrived w.pool.stats.toReply

def minerArrives : Event := .minerArrived w.address (w.miner.miner w.address).toReply

def ends : Event := .refreshEnded w.occurrence

def records : List Log.Record :=
  w.begun.logged w.start ++ w.atPool.logged (w.atPool.happen w.poolArrives) ++
    w.atMiner.logged (w.atMiner.happen w.minerArrives) ++ w.atEnd.logged (w.atEnd.happen w.ends)

theorem forall_mem_records {p : Log.Record → Prop} :
    (∀ r ∈ w.records, p r) ↔ (∀ r ∈ w.begun.logged w.start, p r) ∧
      (∀ r ∈ w.atPool.logged (w.atPool.happen w.poolArrives), p r) ∧
      (∀ r ∈ w.atMiner.logged (w.atMiner.happen w.minerArrives), p r) ∧
      ∀ r ∈ w.atEnd.logged (w.atEnd.happen w.ends), p r := by
  simp only [records, List.forall_mem_append, and_assoc]

theorem start_eq : w.start = w.begun.makeAll w.beginning := by
  unfold start beginning
  cases w.occurrence with
  | visitor => exact Dashboard.handle_eq _ _
  | periodic turn => exact Dashboard.happen_eq _ _

variable {w}

theorem refresh_of_long {d : Dashboard} (hlong : Dashboard.isShort d.session.address = false)
    (occurrence : Occurrence) : ∃ pool miner ended : Appointment Event,
      Changes.refresh d occurrence = [.ask .stats, .enter pool, .ask (.miner d.session.address),
        .enter miner, .enter ended] ∧
      pool.event = .poolArrived (d.backend.stats d.occasion) ∧
      miner.event = .minerArrived d.session.address
        (d.backend.miner d.session.address (d.ask .stats).occasion) ∧
      ended.event = .refreshEnded occurrence := by
  have hlong' : Dashboard.isShort (d.ask .stats).session.address = false := hlong
  unfold Changes.refresh Changes.askMiner
  dsimp only
  rw [if_neg (by rw [hlong']; exact Bool.false_ne_true)]
  exact ⟨_, _, _, rfl, rfl, rfl, rfl⟩

/-- A refresh begins with keeping the address if the visitor gave it. -/
theorem beginning_eq : ∃ front d, w.beginning = front ++ Changes.refresh d w.occurrence ∧
    d.session.address = w.address ∧ d.backend = w.begun.backend ∧ Changes.events front = [] ∧
    ∀ screen, ∀ r ∈ Changes.records screen front,
      r = Log.record .info .storage "address_saved" [("address", .string w.address)] ∨
      r = Dashboard.storeFailedRecord "address_save_failed" := by
  unfold beginning
  cases hoccurrence : w.occurrence with
  | visitor =>
    refine ⟨.remember (.address w.address) :: Changes.saveAddress w.begun w.address,
      w.begun.make (.remember (.address w.address)), rfl, rfl, rfl, ?_, fun screen r hr => ?_⟩
    · unfold Changes.saveAddress
      cases w.begun.store.set addressKey w.address <;> rfl
    · unfold Changes.saveAddress at hr
      cases hset : w.begun.store.set addressKey w.address with
      | none =>
        rw [hset] at hr
        exact .inr (List.mem_singleton.mp hr)
      | some store =>
        rw [hset] at hr
        exact .inl (List.mem_singleton.mp hr)
  | periodic turn =>
    exact ⟨[], w.begun, rfl, w.due turn hoccurrence, rfl, rfl, fun _ _ hr => by cases hr⟩

/-- What a refresh leads to is that the two answers arrive and that it ends. -/
theorem events_beginning (hlong : Dashboard.isShort w.address = false) :
    Changes.events w.beginning = [w.poolArrives, w.minerArrives, w.ends] := by
  obtain ⟨front, d, hbeginning, haddress, hbackend, hfront, -⟩ := w.beginning_eq
  obtain ⟨pool, miner, ended, hrefresh, hpool, hminer, hended⟩ :=
    refresh_of_long (by rw [haddress]; exact hlong) w.occurrence
  rw [haddress, hbackend, w.asksMiner] at hminer
  rw [hbackend, w.asksPool] at hpool
  rw [hbeginning, Changes.events, List.filterMap_append]
  rw [Changes.events] at hfront
  rw [hfront, hrefresh, ← Changes.events, poolArrives, minerArrives, ends, ← hpool, ← hminer,
    ← hended]
  rfl

theorem mem_logged_start {r : Log.Record} (hlong : Dashboard.isShort w.address = false)
    (hr : r ∈ w.begun.logged w.start) :
    r = Log.record .info .storage "address_saved" [("address", .string w.address)] ∨
      r = Dashboard.storeFailedRecord "address_save_failed" := by
  obtain ⟨front, d, hbeginning, haddress, -, -, hfront⟩ := w.beginning_eq
  obtain ⟨pool, miner, ended, hrefresh, -, -, -⟩ :=
    refresh_of_long (by rw [haddress]; exact hlong) w.occurrence
  rw [start_eq, Dashboard.logged_makeAll, hbeginning, hrefresh] at hr
  obtain ⟨later, happend⟩ := Changes.exists_records_append w.begun.screen front
    [.ask .stats, .enter pool, .ask (.miner d.session.address), .enter miner, .enter ended]
  have hnothing : Changes.records later [.ask .stats, .enter pool, .ask (.miner d.session.address),
      .enter miner, .enter ended] = [] := rfl
  rw [happend, hnothing, List.append_nil] at hr
  exact hfront _ _ hr

/-! ### Refreshes that do not mention their address -/

/-- No text of a server, the store or the file system holds the address. -/
structure Foreign (w : Refresh) : Prop where
  servers : ∀ client ∈ [w.pool, w.miner], ∀ url, match client.transport url with
    | .error reason => ¬ Holds reason w.address
    | .ok response => (∀ body ∈ response.body, ¬ Holds body w.address) ∧
        ∀ location ∈ response.location, ¬ Holds location w.address
  store : ¬ Holds Store.noTable w.address
  files : ∀ d ∈ [w.atPool, w.atMiner], ∀ file ∈ d.screen.file,
    ¬ Holds file.path w.address ∧ ∀ reason ∈ file.failure, ¬ Holds reason w.address

/-- The miner is not found out about, and what is said about that does not hold the address. -/
structure IsQuiet (w : Refresh) : Prop where
  pool : ∀ causes, w.pool.stats.answer = .error causes → ¬ Holds (causeChain causes) w.address
  miner : ∃ causes, (w.miner.miner w.address).answer = .error causes ∧
    ¬ Holds (causeChain causes) w.address ∧
    (w.atMiner.screen.file.isSome = true → ¬ Holds ("error: " ++ causeChain causes) w.address)
  endpoint : ¬ Holds (Endpoint.miner (Log.shortenAddress w.address)) w.address

section Quiet

variable {r : Log.Record}

theorem not_mentions_of_texts {texts : List String} (htexts : r.texts = texts)
    (h : ∀ t ∈ texts, ¬ Holds t address) : ¬ r.Mentions address := by
  rintro ⟨t, ht, hholds⟩
  exact h t (htexts ▸ ht) hholds

theorem not_mentions_timed (hlong : 16 < address.toList.length) {scope : String}
    (hscope : scope.toList.length ≤ 16) : ¬ (Log.timed scope).Mentions address := by
  refine not_mentions_of_texts (Log.texts_timed scope) ?_
  simp only [List.forall_mem_cons]
  exact ⟨not_holds_of_length hlong (by decide), not_holds_of_length hlong (by decide),
    not_holds_of_length hlong hscope, List.forall_mem_nil _⟩

theorem not_mentions_fetchFailed (hlong : 16 < address.toList.length)
    {view endpoint causes : String} (hview : view.toList.length ≤ 16)
    (hendpoint : ¬ Holds endpoint address) (hcauses : ¬ Holds causes address) :
    ¬ (Log.fetchFailed view endpoint causes).Mentions address := by
  refine not_mentions_of_texts (Log.texts_fetchFailed view endpoint causes) ?_
  simp only [List.forall_mem_cons]
  exact ⟨hcauses, not_holds_of_length hlong (by decide), hendpoint,
    not_holds_of_length hlong (by decide), not_holds_of_length hlong hview, List.forall_mem_nil _⟩

theorem not_mentions_failedRecord (hlong : 16 < address.toList.length) {path reason : String}
    (hpath : ¬ Holds path address) (hreason : ¬ Holds reason address) :
    ¬ (Snapshot.failedRecord path reason).Mentions address := by
  refine not_mentions_of_texts (Snapshot.texts_failedRecord path reason) ?_
  simp only [List.forall_mem_cons]
  exact ⟨hreason, not_holds_of_length hlong (by decide), hpath, List.forall_mem_nil _⟩

theorem not_mentions_start (hlong : 16 < w.address.toList.length)
    (hform : ∀ other, Log.shortenAddress other ≠ w.address) (hforeign : w.Foreign)
    (hr : r ∈ w.begun.logged w.start) : ¬ r.Mentions w.address := by
  rcases mem_logged_start (isShort_of_long hlong) hr with rfl | rfl
  · refine not_mentions_of_texts (Dashboard.texts_addressSaved _) ?_
    simp only [List.forall_mem_cons]
    exact ⟨not_holds_of_length hlong (by decide), not_holds_of_length hlong (by decide),
      not_holds_shortened hlong hform, List.forall_mem_nil _⟩
  · refine not_mentions_of_texts (Dashboard.texts_storeFailedRecord _) ?_
    simp only [List.forall_mem_cons]
    exact ⟨hforeign.store, List.forall_mem_nil _⟩

/-- What a client logs is no mention unless it was answered. -/
theorem not_mentions_get {α : Type} {client : PoolClient} {decode : String → Except Fault α}
    {path : String} (hlong : 16 < address.toList.length)
    (hpath : (∃ a, (client.get decode path).answer = .ok a) → ¬ Holds path address)
    (hr : r ∈ (client.get decode path).records) : ¬ r.Mentions address := by
  rcases PoolClient.mem_records_get_iff.mp hr with rfl | ⟨rfl, hok⟩
  · exact not_mentions_timed hlong (by decide)
  · refine not_mentions_of_texts (Log.texts_fetched path) ?_
    simp only [List.forall_mem_cons]
    exact ⟨not_holds_of_length hlong (by decide), not_holds_of_length hlong (by decide), hpath hok,
      List.forall_mem_nil _⟩

theorem not_mentions_poolArrives (hlong : 16 < w.address.toList.length) (hforeign : w.Foreign)
    (hpool : ∀ causes, w.pool.stats.answer = .error causes →
      ¬ Holds (causeChain causes) w.address)
    (hr : r ∈ w.atPool.logged (w.atPool.happen w.poolArrives)) : ¬ r.Mentions w.address := by
  have hstats : ¬ Holds Endpoint.stats w.address := not_holds_of_length hlong (by decide)
  rw [poolArrives, Dashboard.happen_eq, Dashboard.logged_makeAll, Changes.happen,
    Changes.records] at hr
  rcases List.mem_append.mp hr with hget | hreceived
  · exact not_mentions_get hlong (fun _ => hstats) hget
  rw [PoolClient.answer_toReply] at hreceived
  cases hanswer : w.pool.stats.answer with
  | error causes =>
    rw [hanswer] at hreceived
    rw [List.mem_singleton.mp hreceived]
    exact not_mentions_fetchFailed hlong (by decide) hstats (hpool causes hanswer)
  | ok stats =>
    rw [hanswer] at hreceived
    have hcall : r ∈ (w.atPool.screen.call (.applyAll
        (PoolPanel.render stats w.atPool.settings))).2 ++ [] := hreceived
    rw [List.append_nil] at hcall
    rcases Screen.mem_records_call hcall with hsaid | ⟨file, hfile, reason, hreason, rfl⟩
    · obtain ⟨u, hu, hsaid⟩ := List.mem_flatMap.mp hsaid
      obtain ⟨id, hid, rfl⟩ := PoolPanel.saysOnly_render stats _ u hu r hsaid
      have hshort : ∀ id ∈ PoolPanel.regions, id.toList.length ≤ 16 := by decide
      refine not_mentions_of_texts (texts_updated id) ?_
      simp only [List.forall_mem_cons]
      exact ⟨not_holds_of_length hlong (by decide), not_holds_of_length hlong (by decide),
        not_holds_of_length hlong (hshort id hid), List.forall_mem_nil _⟩
    · obtain ⟨hpath, hfailure⟩ := hforeign.files _ (.head _) file hfile
      exact not_mentions_failedRecord hlong hpath (hfailure reason hreason)

theorem not_mentions_ends (hlong : 16 < w.address.toList.length)
    (hr : r ∈ w.atEnd.logged (w.atEnd.happen w.ends)) : ¬ r.Mentions w.address := by
  have hended : r = Log.timed Dashboard.refreshScope := by
    rw [ends, Dashboard.happen_eq, Dashboard.logged_makeAll] at hr
    cases hoccurrence : w.occurrence with
    | visitor =>
      rw [hoccurrence] at hr
      exact List.mem_singleton.mp hr
    | periodic turn =>
      rw [hoccurrence] at hr
      exact List.mem_singleton.mp hr
  rw [hended]
  exact not_mentions_timed hlong (by decide)

/-- Where a miner was asked for is logged when it is answered. -/
theorem mem_minerArrives_of_ok {lookup : MinerLookup}
    (h : (w.miner.miner w.address).answer = .ok lookup) :
    Log.fetched (Endpoint.miner w.address) ∈
      w.atMiner.logged (w.atMiner.happen w.minerArrives) := by
  rw [minerArrives, Dashboard.happen_eq, Dashboard.logged_makeAll, Changes.happen, Changes.records,
    PoolClient.records_toReply]
  exact List.mem_append_left _ (PoolClient.mem_records_miner h)

theorem records_minerArrives_of_error {causes : List String}
    (h : (w.miner.miner w.address).answer = .error causes) :
    w.atMiner.logged (w.atMiner.happen w.minerArrives) =
      (w.miner.miner w.address).records ++
        Log.fetchFailed "miner" (Endpoint.miner (Log.shortenAddress w.address))
          (causeChain causes) ::
        (w.atMiner.screen.call (.applyAll [.alert ("error: " ++ causeChain causes)])).2 := by
  rw [minerArrives, Dashboard.happen_eq, Dashboard.logged_makeAll, Changes.happen, Changes.records,
    PoolClient.records_toReply, PoolClient.answer_toReply, h, Except.mapError, Changes.receiveMiner,
    Changes.records, Changes.records, Changes.records, List.append_nil, List.singleton_append]

theorem not_mentions_minerArrives (hlong : 16 < w.address.toList.length) (hforeign : w.Foreign)
    (hquiet : w.IsQuiet) (hr : r ∈ w.atMiner.logged (w.atMiner.happen w.minerArrives)) :
    ¬ r.Mentions w.address := by
  obtain ⟨causes, herror, hchain, halert⟩ := hquiet.miner
  rw [records_minerArrives_of_error herror] at hr
  rcases List.mem_append.mp hr with hget | hreceived
  · have hfailed : ¬ ∃ lookup, (w.miner.miner w.address).answer = .ok lookup := by
      rintro ⟨lookup, hok⟩
      cases herror.symm.trans hok
    rw [PoolClient.miner] at hget hfailed
    exact not_mentions_get hlong (fun hok => absurd hok hfailed) hget
  rcases List.mem_cons.mp hreceived with rfl | hcall
  · exact not_mentions_fetchFailed hlong (by decide) hquiet.endpoint hchain
  rcases Screen.mem_records_call hcall with hsaid | ⟨file, hfile, reason, hreason, rfl⟩
  · have halerted : r = Log.alert ("error: " ++ causeChain causes) := List.mem_singleton.mp hsaid
    have hfile : w.atMiner.screen.file.isSome = true := by
      cases hnone : w.atMiner.screen.file with
      | some file => rfl
      | none =>
        rw [Screen.call, hnone] at hcall
        cases hcall
    rw [halerted]
    refine not_mentions_of_texts (Log.texts_alert _) ?_
    simp only [List.forall_mem_cons]
    exact ⟨halert hfile, List.forall_mem_nil _⟩
  · obtain ⟨hpath, hfailure⟩ := hforeign.files _ (.tail _ (.head _)) file hfile
    exact not_mentions_failedRecord hlong hpath (hfailure reason hreason)

end Quiet

/-! ### Refreshes that mention their address -/

theorem fetchFailed_mem_poolArrives {causes : List String}
    (h : w.pool.stats.answer = .error causes) :
    Log.fetchFailed "stats" Endpoint.stats (causeChain causes) ∈
      w.atPool.logged (w.atPool.happen w.poolArrives) := by
  rw [poolArrives, Dashboard.happen_eq, Dashboard.logged_makeAll, Changes.happen, Changes.records,
    PoolClient.answer_toReply, h]
  exact List.mem_append_right _ (.head _)

theorem isQuiet_of_not_mentions (h : ∀ r ∈ w.records, ¬ r.Mentions w.address) : w.IsQuiet := by
  obtain ⟨-, hpool, hminer, -⟩ := w.forall_mem_records.mp h
  have hstats : ∀ causes, w.pool.stats.answer = .error causes →
      ¬ Holds (causeChain causes) w.address := fun causes herror hholds =>
    hpool _ (fetchFailed_mem_poolArrives herror) ⟨causeChain causes, .head _, hholds⟩
  cases hanswer : (w.miner.miner w.address).answer with
  | ok lookup =>
    have hholds : Holds (Endpoint.miner w.address) w.address := (Holds.refl _).append_right _
    refine absurd ?_ (hminer _ (mem_minerArrives_of_ok hanswer))
    rw [Log.Record.Mentions, Log.texts_fetched]
    exact ⟨_, .tail _ (.tail _ (.head _)), hholds⟩
  | error causes =>
    rw [records_minerArrives_of_error hanswer, List.forall_mem_append, List.forall_mem_cons]
      at hminer
    obtain ⟨-, hfailed, halert⟩ := hminer
    refine ⟨hstats, ⟨causes, hanswer, fun hholds => hfailed ⟨_, .head _, hholds⟩,
      fun hfile hholds => ?_⟩, fun hholds => hfailed ⟨_, .tail _ (.tail _ (.head _)), hholds⟩⟩
    exact halert _ (Screen.alert_mem_records_call hfile _) ⟨_, .head _, hholds⟩

/-- The address is asked for as it is, in a segment of the miner's own. -/
structure AsksPlainly (w : Refresh) : Prop where
  base : ∃ front, w.miner.base.path = .segments (front ++ [""])
  scheme : w.miner.base.scheme ≠ "file"
  segment : IsOneSegment w.address
  plain : ∀ c ∈ w.address.toList, isPathEscaped c = false

theorem AsksPlainly.not_isQuiet (h : w.AsksPlainly) (hlong : 16 < w.address.toList.length) :
    ¬ w.IsQuiet := by
  intro hquiet
  obtain ⟨front, hpath⟩ := h.base
  have hescaped : escapeWhere isPathEscaped w.address.toList = w.address.toList := by
    have hkept : ∀ c ∈ w.address.toList,
        (if isPathEscaped c then escapeBytes c else [c]) = [c] := fun c hc => by
      rw [h.plain c hc, if_neg Bool.false_ne_true]
    rw [escapeWhere, List.flatMap_congr hkept, List.flatMap_singleton']
  have hresolve := resolve_miner_of_segment hpath h.scheme (isShort_of_long hlong) h.segment
  rw [hescaped, String.ofList_toList] at hresolve
  have htext : Holds (Path.segments (front ++ ["stats"] ++ [w.address])).text w.address := by
    rw [Holds, toList_text_segments, pathChars_concat]
    exact List.infix_append_of_infix_right (List.infix_cons List.infix_rfl)
  obtain ⟨causes, herror, hchain, -⟩ := hquiet.miner
  rw [PoolClient.miner] at herror
  obtain ⟨doing, -, cause, rfl⟩ := PoolClient.asked_of_error hresolve herror
  refine hchain ?_
  have hcauses : ∀ url, causeChain [doing ++ url, cause] = doing ++ url ++ (": " ++ cause) :=
    fun url => String.append_assoc
  rw [hcauses]
  refine Holds.append_left (Holds.append_right ?_ _) _
  exact Holds.append_left (Holds.append_left (htext.append_right _) _) _

/-- Nothing that a refresh logs mentions its address just if the miner is not found out about, and
what is said about that does not hold the address.  It does if the address is asked for as it is. -/
theorem unmentioned_iff (w : Refresh) (hlong : 16 < w.address.toList.length)
    (hform : ∀ other, Log.shortenAddress other ≠ w.address) (hforeign : w.Foreign) :
    ((∀ r ∈ w.records, ¬ r.Mentions w.address) ↔ w.IsQuiet) ∧
      (w.AsksPlainly → ∃ r ∈ w.records, r.Mentions w.address) := by
  refine ⟨⟨isQuiet_of_not_mentions, fun hquiet => w.forall_mem_records.mpr ?_⟩, fun hplain => ?_⟩
  · exact ⟨fun _ hr => not_mentions_start hlong hform hforeign hr,
      fun _ hr => not_mentions_poolArrives hlong hforeign hquiet.pool hr,
      fun _ hr => not_mentions_minerArrives hlong hforeign hquiet hr,
      fun _ hr => not_mentions_ends hlong hr⟩
  · by_contra hnone
    push Not at hnone
    exact hplain.not_isQuiet hlong (isQuiet_of_not_mentions hnone)

/-- This machine, at a port that nothing is served at. -/
def loopback : Url :=
  ⟨"http", "", "", some (.ipv4 2130706433), some 1, .segments [""], none, none⟩

/-- A visitor gives an address while nothing is served at this machine. -/
def unanswered (address : String) : Refresh :=
  let pool : PoolClient := ⟨loopback, Http.unreachable "connection refused"⟩
  let d := Program.dashboard ⟨.standard, loopback, none⟩ (.none "connection refused") none
    (.new true) 0
  { pool
    miner := pool
    address
    occurrence := .visitor
    begun := d
    atPool := d
    atMiner := d
    atEnd := d
    asksPool := fun _ => rfl
    asksMiner := fun _ => rfl
    due := fun _ h => by cases h }

theorem foreign_unanswered {address : String} (hrefused : ¬ Holds "connection refused" address)
    (htable : ¬ Holds Store.noTable address)
    (hpath : ¬ Holds Settings.standard.snapshotPath address) : (unanswered address).Foreign where
  servers := fun client hclient url => by
    have hsame : client = (unanswered address).pool := by
      rcases List.mem_cons.mp hclient with h | h
      · exact h
      · exact List.mem_singleton.mp h
    rw [hsame]
    exact hrefused
  store := htable
  files := fun d hd file hfile => by
    have hsame : d = (unanswered address).begun := by
      rcases List.mem_cons.mp hd with h | h
      · exact h
      · exact List.mem_singleton.mp h
    rw [hsame] at hfile
    cases hfile
    exact ⟨hpath, fun _ h => by cases h⟩

/-- A space in an address is escaped where the address is asked for. -/
theorem unmentioned_spaced : 16 < "xel:my wallet address".toList.length ∧
    (∀ other, Log.shortenAddress other ≠ "xel:my wallet address") ∧
    (unanswered "xel:my wallet address").Foreign ∧
    Changes.events (unanswered "xel:my wallet address").beginning =
      [(unanswered "xel:my wallet address").poolArrives,
        (unanswered "xel:my wallet address").minerArrives,
        (unanswered "xel:my wallet address").ends] ∧
    ∀ r ∈ (unanswered "xel:my wallet address").records,
      ¬ r.Mentions "xel:my wallet address" := by
  have hlong : 16 < "xel:my wallet address".toList.length := by decide
  have hform : ∀ other, Log.shortenAddress other ≠ "xel:my wallet address" := by
    intro other h
    have hle := length_shortenAddress_le other
    rw [h] at hle
    exact absurd hle (by decide)
  have hforeign : (unanswered "xel:my wallet address").Foreign :=
    foreign_unanswered (by decide +kernel) (by decide +kernel) (by decide +kernel)
  have hstats : (unanswered "xel:my wallet address").pool.stats.answer = .error
      (Http.requestFailed { loopback with path := .segments ["stats"] } "connection refused") :=
    PoolClient.answer_get_of_unreachable (toOption_eq_some_iff.mp (by decide +kernel)) _
  have hminer : ((unanswered "xel:my wallet address").miner.miner "xel:my wallet address").answer =
      .error (Http.requestFailed
        { loopback with path := .segments ["stats", "xel:my%20wallet%20address"] }
        "connection refused") :=
    PoolClient.answer_get_of_unreachable (toOption_eq_some_iff.mp (by decide +kernel)) _
  refine ⟨hlong, hform, hforeign, events_beginning (by decide),
    (unmentioned_iff _ hlong hform hforeign).1.mpr
      ⟨fun causes herror => ?_, ⟨_, hminer, ?_, fun _ => ?_⟩, ?_⟩⟩
  · obtain rfl := Except.error.inj (hstats.symm.trans herror)
    exact (by decide +kernel : ¬ Holds (causeChain (Http.requestFailed
      { loopback with path := .segments ["stats"] } "connection refused")) "xel:my wallet address")
  · decide +kernel
  · decide +kernel
  · decide +kernel

/-- An address that is asked for as it is. -/
def someWallet : String := "xel:ys4peuzztwl67rzhsdu0yxfzwcfmgt85uu53hycpeeary7n8qvysqmxznt0"

/-- The whole address is told when it cannot be looked up. -/
theorem refused_lookup_mentions_address :
    ¬ ∀ w : Refresh, 16 < w.address.toList.length →
      (∀ other, Log.shortenAddress other ≠ w.address) → w.Foreign →
      ∀ r ∈ w.records, ¬ r.Mentions w.address := by
  intro h
  have hlong : 16 < someWallet.toList.length := by decide
  have hform : ∀ other, Log.shortenAddress other ≠ someWallet := by
    intro other hsame
    have hle := length_shortenAddress_le other
    rw [hsame] at hle
    exact absurd hle (by decide)
  have hforeign : (unanswered someWallet).Foreign :=
    foreign_unanswered (by decide +kernel) (by decide +kernel) (by decide +kernel)
  have hone : someWallet.toList.all
      (fun c => !(List.contains ['/', '\\', '?', '#', '\t', '\n', '\r'] c)) = true := by
    decide +kernel
  have hkept : someWallet.toList.all (!isPathEscaped ·) = true := by decide +kernel
  have hplain : (unanswered someWallet).AsksPlainly :=
    ⟨⟨[], rfl⟩, by decide,
      ⟨fun c hc => by simpa using List.all_eq_true.mp hone c hc, by decide +kernel,
        by decide +kernel⟩,
      fun c hc => by simpa using List.all_eq_true.mp hkept c hc⟩
  exact hplain.not_isQuiet hlong (isQuiet_of_not_mentions (h _ hlong hform hforeign))

end Refresh

end PoolPage
