import PoolPage.Log
import PoolPage.Page.Html

/-!
A page that is written to a file whenever it changed.

Each call changes the page, and most of them then flush it: if the page is dirty, its document
is written.  Taking the flag comes before writing, so a document whose writing failed is not
tried again until the page changes.  Alerts are logged, since there is no browser to show them.
-/

namespace PoolPage
namespace Snapshot

/-- A call on the page. -/
inductive Call where
  | applyAll (updates : List Update)
  | apply (update : Update)
  | pointerMove (id : String) (index : Nat)
  | pointerOut (id : String)
  | resize
  | reset

/-- What a call did: the page after it, the document it wrote if any, and its records. -/
structure Outcome where
  page : Page
  written : Option String
  records : List Log.Record

def updateRecords : Update → List Log.Record
  | .alert message => [Log.alert message]
  | update =>
    match update.target? with
    | some id => [Log.record .trace .render "update" [("id", .string id)]]
    | none => []

/-- Where the page is written, and the reason why writing there fails, if it does. -/
structure File where
  path : String
  failure : Option String

def failedRecord (path reason : String) : Log.Record :=
  Log.record .error .render "snapshot_failed" [("path", .string path), ("msg", .string reason)]

def flush (file : File) (page : Page) (records : List Log.Record) : Outcome :=
  let (dirty, page) := page.takeDirty
  if dirty then
    match file.failure with
    | some reason => ⟨page, none, records ++ [failedRecord file.path reason]⟩
    | none => ⟨page, some page.toHtml, records⟩
  else ⟨page, none, records⟩

def call (file : File) (page : Page) : Call → Outcome
  | .applyAll updates => flush file (page.applyAll updates) (updates.flatMap updateRecords)
  | .apply update => ⟨page.apply update, none, updateRecords update⟩
  | .pointerMove id index => flush file (page.pointerMove id index) []
  | .pointerOut id => flush file (page.pointerOut id) []
  | .resize => ⟨page.resize, none, []⟩
  | .reset => flush file Page.loaded []

end Snapshot
end PoolPage
