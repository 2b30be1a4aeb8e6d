import PoolPage.Proofs.Page.Document
import PoolPage.Proofs.Page.Surface

/-!
# The file of a page

A `Copy` is a page together with the file that shows it.  Each call comes with the way an
attempt to write the file would end, which is for the file system to say: a failed attempt
may leave anything behind.

The flag of the page is taken before its document is written, whether or not this
succeeds.  A later call that changes nothing finds the flag down, does not write and
has nothing to log.  So after a call that flushes the page and logs no failure, the file
holds the document of the page except in this one case: the flag was down, and the last
attempt had failed (`keepsUp_iff`, `not_keepsUp_after_failure`).
-/

namespace PoolPage
namespace Snapshot

/-! ## What a call does to the file -/

/-- How an attempt to write the file ends. -/
inductive Ending where
  | written
  /-- It fails for a reason, and leaves something or nothing where the file was. -/
  | failed (reason : String) (left : Option String)

def Ending.failure : Ending → Option String
  | written => none
  | failed reason _ => some reason

structure Attempt where
  document : String
  ending : Ending

/-- What the file holds after an attempt. -/
def Attempt.content (a : Attempt) : Option String :=
  match a.ending with
  | .written => some a.document
  | .failed _ left => left

def Outcome.reportsFailure (outcome : Outcome) : Bool :=
  outcome.records.any fun r => r.event = "snapshot_failed"

/-- The attempt that a call made to write the file, if it made one. -/
def Outcome.attempt? (outcome : Outcome) (ending : Ending) : Option Attempt :=
  match outcome.written with
  | some document => some ⟨document, .written⟩
  | none => if outcome.reportsFailure then some ⟨outcome.page.toHtml, ending⟩ else none

/-- A page, what its file holds, and the last attempt to write it. -/
structure Copy where
  page : Page
  content : Option String
  attempt : Option Attempt

namespace Copy

/-- A new page on a file that may be there already. -/
def start (content : Option String) : Copy := ⟨.blank, content, none⟩

def outcome (copy : Copy) (path : String) (c : Call) (ending : Ending) : Outcome :=
  Snapshot.call ⟨path, ending.failure⟩ copy.page c

def call (copy : Copy) (path : String) (c : Call) (ending : Ending) : Copy :=
  let outcome := copy.outcome path c ending
  match outcome.attempt? ending with
  | some a => ⟨outcome.page, a.content, some a⟩
  | none => { copy with page := outcome.page }

def callAll (copy : Copy) (path : String) (run : List (Call × Ending)) : Copy :=
  run.foldl (fun copy step => copy.call path step.1 step.2) copy

/-- If writing was ever attempted, a call that flushes the page and logs no failure leaves its
document in the file. -/
def KeepsUp (copy : Copy) (path : String) (c : Call) (ending : Ending) : Prop :=
  let after := copy.call path c ending
  Screen.flushes c = true → (copy.outcome path c ending).reportsFailure = false →
    after.attempt.isSome = true → after.content = some after.page.toHtml

end Copy

/-! ## Calls that write -/

theorem event_updateRecords {u : Update} {r : Log.Record} (h : r ∈ updateRecords u) :
    r.event ≠ "snapshot_failed" := by
  cases u with
  | normalize viewBox preserveAspectRatio => simp [updateRecords, Update.target?] at h
  | _ =>
    simp only [updateRecords, Update.target?, List.mem_singleton] at h
    simp [h, Log.alert, Log.record]

theorem event_applyAll {us : List Update} {r : Log.Record} (h : r ∈ us.flatMap updateRecords) :
    r.event ≠ "snapshot_failed" := by
  obtain ⟨u, -, hu⟩ := List.mem_flatMap.mp h
  exact event_updateRecords hu

/-- A call changes the page, then flushes it or not; no record of the change is of a failure. -/
theorem call_eq (file : File) (page : Page) (c : Call) :
    ∃ records : List Log.Record, (∀ r ∈ records, r.event ≠ "snapshot_failed") ∧
      Snapshot.call file page c =
        if Screen.flushes c then flush file (Screen.change page c) records
        else ⟨Screen.change page c, none, records⟩ := by
  have hnone : ∀ r ∈ ([] : List Log.Record), r.event ≠ "snapshot_failed" := List.forall_mem_nil _
  cases c with
  | applyAll us => exact ⟨_, fun r hr => event_applyAll hr, rfl⟩
  | apply u => exact ⟨_, fun r hr => event_updateRecords hr, rfl⟩
  | _ => exact ⟨[], hnone, rfl⟩

theorem takeDirty_of_clean {page : Page} (h : page.dirty = false) :
    page.takeDirty = (false, page) := by
  unfold Page.takeDirty
  rw [← h]

theorem any_eq_false {records : List Log.Record} (h : ∀ r ∈ records, r.event ≠ "snapshot_failed") :
    (records.any fun r => r.event = "snapshot_failed") = false := by
  simpa [List.any_eq_false] using h

theorem flush_of_clean (file : File) {page : Page} (h : page.dirty = false)
    (records : List Log.Record) : flush file page records = ⟨page, none, records⟩ := by
  unfold flush
  rw [takeDirty_of_clean h]
  rfl

namespace Copy

/-- The attempt of a call that flushes the page while its flag is up. -/
def attemptOf (page : Page) (ending : Ending) : Attempt := ⟨page.takeDirty.2.toHtml, ending⟩

section Call

variable (copy : Copy) (path : String) {c : Call} (ending : Ending)

/-- A call that leaves the flag as it is, or that finds it down, does nothing to the file. -/
theorem call_of_not_writes
    (h : Screen.flushes c = false ∨ (Screen.change copy.page c).dirty = false) :
    copy.call path c ending = { copy with page := Screen.change copy.page c } ∧
      (copy.outcome path c ending).reportsFailure = false := by
  obtain ⟨records, hrecords, hcall⟩ := call_eq ⟨path, ending.failure⟩ copy.page c
  have houtcome : copy.outcome path c ending = ⟨Screen.change copy.page c, none, records⟩ := by
    unfold outcome
    rw [hcall]
    split
    next hflush => exact flush_of_clean _ (h.resolve_left (by simp [hflush])) records
    next => rfl
  have hsilent : (copy.outcome path c ending).reportsFailure = false := by
    rw [houtcome]
    exact any_eq_false hrecords
  have hnone : (copy.outcome path c ending).attempt? ending = none := by
    unfold Outcome.attempt?
    rw [hsilent, houtcome]
    rfl
  refine ⟨?_, hsilent⟩
  unfold call
  dsimp only
  rw [hnone, houtcome]

/-- A call that finds the flag up attempts to write, and logs it if this fails. -/
theorem call_of_writes (hflush : Screen.flushes c = true)
    (hdirty : (Screen.change copy.page c).dirty = true) :
    copy.call path c ending =
        ⟨(Screen.change copy.page c).takeDirty.2,
          (attemptOf (Screen.change copy.page c) ending).content,
          some (attemptOf (Screen.change copy.page c) ending)⟩ ∧
      (copy.outcome path c ending).reportsFailure = ending.failure.isSome := by
  obtain ⟨records, hrecords, hcall⟩ := call_eq ⟨path, ending.failure⟩ copy.page c
  rw [hflush, if_pos rfl] at hcall
  have hpage : (copy.outcome path c ending).page = (Screen.change copy.page c).takeDirty.2 := by
    unfold outcome
    rw [hcall, Screen.page_flush]
  cases ending with
  | written =>
    have houtcome : copy.outcome path c .written =
        ⟨(Screen.change copy.page c).takeDirty.2,
          some (Screen.change copy.page c).takeDirty.2.toHtml, records⟩ := by
      unfold outcome
      rw [hcall]
      simp only [flush, Page.takeDirty, hdirty, Ending.failure, if_true]
    refine ⟨?_, ?_⟩
    · unfold call
      simp only [houtcome, Outcome.attempt?, attemptOf]
    · rw [houtcome]
      exact any_eq_false hrecords
  | failed reason left =>
    have houtcome : copy.outcome path c (.failed reason left) =
        ⟨(Screen.change copy.page c).takeDirty.2, none, records ++ [failedRecord path reason]⟩ := by
      unfold outcome
      rw [hcall]
      simp only [flush, Page.takeDirty, hdirty, Ending.failure, if_true]
    -- nothing was written, so the record alone tells of the attempt
    have hreports : (copy.outcome path c (.failed reason left)).reportsFailure = true := by
      rw [houtcome]
      simp [Outcome.reportsFailure, failedRecord, Log.record]
    have hattempt : (copy.outcome path c (.failed reason left)).attempt? (.failed reason left) =
        some (attemptOf (Screen.change copy.page c) (.failed reason left)) := by
      unfold Outcome.attempt?
      rw [hreports, houtcome]
      rfl
    refine ⟨?_, hreports⟩
    unfold call
    dsimp only
    rw [hattempt, hpage]

end Call

/-! ## Runs -/

/-- What holds of every copy: the file holds what the last attempt left, and while the flag is down
the page has the document that was to be written then. -/
structure IsSound (copy : Copy) : Prop where
  content : ∀ a, copy.attempt = some a → copy.content = a.content
  document : copy.page.dirty = false → ∀ a, copy.attempt = some a →
    copy.page.toHtml = a.document

theorem isSound_start (content : Option String) : (start content).IsSound where
  content a ha := by simp [start] at ha
  document _ a ha := by simp [start] at ha

theorem IsSound.call {copy : Copy} (h : copy.IsSound) (path : String) (c : Call) (ending : Ending) :
    (copy.call path c ending).IsSound := by
  by_cases hwrites : Screen.flushes c = true ∧ (Screen.change copy.page c).dirty = true
  · rw [(copy.call_of_writes path ending hwrites.1 hwrites.2).1]
    constructor
    · intro a ha
      rw [← Option.some.inj ha]
    · intro _ a ha
      rw [← Option.some.inj ha]
      rfl
  · have hnot : Screen.flushes c = false ∨ (Screen.change copy.page c).dirty = false := by
      rw [← Bool.not_eq_true, ← Bool.not_eq_true]
      exact Decidable.not_and_iff_or_not.mp hwrites
    rw [(copy.call_of_not_writes path ending hnot).1]
    constructor
    · exact h.content
    · intro hclean a ha
      obtain ⟨hbefore, hsame⟩ := Page.tells_change copy.page c hclean
      exact hsame.toHtml.trans (h.document hbefore a ha)

theorem IsSound.callAll {copy : Copy} (h : copy.IsSound) (path : String)
    (run : List (Call × Ending)) : (copy.callAll path run).IsSound := by
  induction run generalizing copy with
  | nil => exact h
  | cons step run ih => exact ih (h.call path step.1 step.2)

theorem IsSound.keepsUp {copy : Copy} (h : copy.IsSound) (path : String) (c : Call)
    (ending : Ending) :
    copy.KeepsUp path c ending ↔
      (Screen.flushes c = true → (Screen.change copy.page c).dirty = false →
        ∀ a, copy.attempt = some a → a.content = some a.document) := by
  unfold KeepsUp
  dsimp only
  constructor
  · intro hkeeps hflush hclean a ha
    -- with the flag down the call is silent and changes neither the file nor the last attempt
    obtain ⟨hcall, hsilent⟩ := copy.call_of_not_writes path ending (.inr hclean)
    have hafter := (h.call path c ending).document
    have hholds := hkeeps hflush hsilent (by rw [hcall]; simp [ha])
    rw [hcall] at hafter hholds
    rw [← h.content a ha, ← hafter hclean a ha]
    exact hholds
  · intro hcondition hflush hsilent hattempted
    by_cases hdirty : (Screen.change copy.page c).dirty = true
    · obtain ⟨hcall, hreports⟩ := copy.call_of_writes path ending hflush hdirty
      rw [hcall]
      rw [hreports] at hsilent
      cases ending with
      | written => rfl
      | failed reason left => simp [Ending.failure] at hsilent
    · have hclean : (Screen.change copy.page c).dirty = false := Bool.not_eq_true _ ▸ hdirty
      have hcall := (copy.call_of_not_writes path ending (.inr hclean)).1
      have hafter := (h.call path c ending).document
      rw [hcall] at hattempted hafter ⊢
      obtain ⟨a, ha⟩ := Option.isSome_iff_exists.mp hattempted
      rw [hafter hclean a ha]
      exact (h.content a ha).trans (hcondition hflush hclean a ha)

/-- After any run, a call keeps the file up with the page unless it flushes the page, finds the flag
down, and the last attempt to write did not leave its document in the file. -/
theorem keepsUp_iff (path : String) (content : Option String) (run : List (Call × Ending))
    (c : Call) (ending : Ending) :
    ((start content).callAll path run).KeepsUp path c ending ↔
      (Screen.flushes c = true →
        (Screen.change ((start content).callAll path run).page c).dirty = false →
        ∀ a, ((start content).callAll path run).attempt = some a →
          a.content = some a.document) :=
  ((isSound_start content).callAll path run).keepsUp path c ending

/-- Writing the first document fails, and the pointer leaves a chart that is not there. -/
theorem not_keepsUp_after_failure :
    ¬ ((start none).callAll "page.html"
        [(.applyAll [.text "height" "1"], .failed "no space left" none)]).KeepsUp
      "page.html" (.pointerOut "workers-chart") .written := by
  have hsound := (isSound_start none).callAll "page.html"
    [(.applyAll [.text "height" "1"], .failed "no space left" none)]
  rw [hsound.keepsUp]
  intro h
  have hleft := h rfl rfl _ rfl
  simp [Attempt.content] at hleft

end Copy
end Snapshot
end PoolPage
