import PoolPage.Proofs.Dashboard.Changes

/-!
# What is logged

What a dashboard logs is read off the list of its changes and the screen that they find
(`Changes.records`, `log_makeAll`).  The texts of a record are those of its message and of its
data.
-/

namespace PoolPage

/-! ## The texts of a record -/

namespace Json

mutual

/-- The texts in a value, the names of members among them. -/
def texts : Json → List String
  | string text => [text]
  | array items => textsOfItems items
  | object members => textsOfMembers members
  | _ => []

def textsOfItems : List Json → List String
  | [] => []
  | item :: rest => item.texts ++ textsOfItems rest

def textsOfMembers : List (String × Json) → List String
  | [] => []
  | (name, value) :: rest => name :: (value.texts ++ textsOfMembers rest)

end

end Json

namespace Log

def Record.texts (r : Record) : List String :=
  r.message.texts ++ (Json.object r.data.entries).texts

theorem texts_timed (scope : String) : (timed scope).texts = ["", "label", scope] := rfl

theorem texts_fetched (endpoint : String) :
    (fetched endpoint).texts = ["", "endpoint", endpoint] := rfl

theorem texts_fetchFailed (view endpoint causes : String) :
    (fetchFailed view endpoint causes).texts = [causes, "endpoint", endpoint, "view", view] := rfl

theorem texts_alert (message : String) : (alert message).texts = [message] := rfl

end Log

theorem texts_updated (id : String) :
    (Log.record .trace .render "update" [("id", .string id)]).texts = ["", "id", id] := rfl

theorem Snapshot.texts_failedRecord (path reason : String) :
    (failedRecord path reason).texts = [reason, "path", path] := rfl

theorem Dashboard.texts_addressSaved (address : String) :
    (Log.record .info .storage "address_saved" [("address", .string address)]).texts =
      ["", "address", Log.shortenAddress address] := rfl

theorem Dashboard.texts_storeFailedRecord (event : String) :
    (storeFailedRecord event).texts = [Store.noTable] := rfl

/-! ## The records of changes -/

namespace Changes

/-- What is logged by some changes that find a screen. -/
def records (screen : Screen) : List Change → List Log.Record
  | [] => []
  | .note noted :: cs => noted ++ records screen cs
  | .call c :: cs => (screen.call c).2 ++ records (screen.call c).1 cs
  | _ :: cs => records screen cs

/-- Later changes find the screen that earlier ones leave. -/
theorem exists_records_append (screen : Screen) (cs cs' : List Change) :
    ∃ later, records screen (cs ++ cs') = records screen cs ++ records later cs' := by
  induction cs generalizing screen with
  | nil => exact ⟨screen, rfl⟩
  | cons c cs ih =>
    cases c with
    | note noted =>
      obtain ⟨later, h⟩ := ih screen
      exact ⟨later, by rw [List.cons_append, records, records, h, List.append_assoc]⟩
    | call c =>
      obtain ⟨later, h⟩ := ih (screen.call c).1
      exact ⟨later, by rw [List.cons_append, records, records, h, List.append_assoc]⟩
    | _ => exact ih screen

end Changes

theorem Dashboard.log_makeAll (cs : List Change) (d : Dashboard) :
    (d.makeAll cs).log = d.log ++ Changes.records d.screen cs := by
  induction cs generalizing d with
  | nil => exact (List.append_nil d.log).symm
  | cons c cs ih =>
    rw [makeAll_cons, ih]
    cases c with
    | note noted => exact List.append_assoc ..
    | call c => exact List.append_assoc ..
    | _ => rfl

end PoolPage
