import PoolPage.Page.Snapshot

/-!
Screens: a page and where it is shown, which is in memory alone or in a file too.
-/

namespace PoolPage

structure Screen where
  page : Page
  /-- The file that shows the page, if there is one. -/
  file : Option Snapshot.File
  /-- The document that was written to the file last. -/
  document : Option String

namespace Screen

def memory (page : Page) : Screen := ⟨page, none, none⟩

def onFile (file : Snapshot.File) : Screen := ⟨.blank, some file, none⟩

/-- What a call does to a page that is shown in memory. -/
def change (page : Page) : Snapshot.Call → Page
  | .applyAll updates => page.applyAll updates
  | .apply update => page.apply update
  | .pointerMove id index => page.pointerMove id index
  | .pointerOut id => page.pointerOut id
  | .resize => page.resize
  | .reset => .loaded

/-- The screen after a call, and the records of the call. -/
def call (screen : Screen) (c : Snapshot.Call) : Screen × List Log.Record :=
  match screen.file with
  | none => ({ screen with page := change screen.page c }, [])
  | some file =>
    let outcome := Snapshot.call file screen.page c
    ({ screen with
        page := outcome.page
        document := outcome.written.or screen.document },
     outcome.records)

end Screen
end PoolPage
