import PoolPage.Proofs.Dashboard.Changes
import PoolPage.Proofs.Page.Surface
import PoolPage.Proofs.Route.Names

/-!
# Visits

Hashes are visited one after the other on one screen.  What answers for the fragments is asked
for paths, and may be another with each question: it is any function from its states.

A visit is all or nothing.  Either it is answered with a fragment, which the container then
shows, or the screen is as it was, its flag included (`visit_cases`).  So after any number of
visits the container shows the fragment that came last (`html_visitAll`).
-/

namespace PoolPage

/-- Shows updates, if there are any. -/
def Screen.showAll (screen : Screen) (updates : List Update) : Screen :=
  if updates.isEmpty then screen else (screen.call (.applyAll updates)).1

/-- A dashboard shows the outcome of a navigation in this way. -/
theorem Dashboard.screen_finishNavigation (d : Dashboard) (pageLoad : Bool)
    (outcome : Navigation.Outcome) :
    (d.finishNavigation pageLoad outcome).screen = d.screen.showAll outcome.updates := by
  have hload : ∀ e : Dashboard, e.finishLoad.screen = e.screen := by
    intro e
    unfold finishLoad
    dsimp only
    split <;> rfl
  have hshown : (if outcome.updates.isEmpty then d else d.update outcome.updates).screen =
      d.screen.showAll outcome.updates := by
    unfold Screen.showAll
    split <;> rfl
  unfold finishNavigation
  cases pageLoad with
  | false => exact hshown
  | true => exact (hload _).trans hshown

namespace Navigation

/-- The path that is asked for a hash, if any is. -/
def path? (hash : String) : Option String :=
  match start hash with
  | .fetch path => some path
  | .finished _ => none

theorem path?_eq_some_iff {hash path : String} :
    path? hash = some path ↔ ∃ name, Route.Names hash name ∧ path = Route.document name := by
  rw [← Route.path_eq_some_iff]
  unfold path? start
  cases Route.path hash with
  | error e => simp
  | ok path' => cases path' <;> simp

/-- Without a path there is nothing to show. -/
theorem run_of_path?_eq_none {hash : String} (h : path? hash = none)
    (fetch : String → Except String String) :
    (run fetch hash).updates = [] ∧ (run fetch hash).result ≠ .ok true := by
  unfold path? start at h
  unfold run start
  cases hpath : Route.path hash with
  | error e => simp [failed]
  | ok path =>
    cases path with
    | none => simp
    | some path =>
      rw [hpath] at h
      cases h

theorem run_of_path?_eq_some {hash path : String} (h : path? hash = some path)
    (fetch : String → Except String String) : run fetch hash = arrive hash (fetch path) := by
  unfold path? at h
  unfold run
  cases hstart : start hash with
  | finished outcome =>
    rw [hstart] at h
    cases h
  | fetch path' =>
    rw [hstart] at h
    rw [Option.some.inj h]

/-- What a visit brings: its result, and what answers and the screen after it. -/
structure Visit (σ : Type) where
  result : Except String Bool
  source : σ
  screen : Screen

variable {σ : Type} (ask : σ → String → Except String String × σ)

/-- What answers after a hash is visited. -/
def asked (source : σ) (hash : String) : σ :=
  match path? hash with
  | some path => (ask source path).2
  | none => source

def visit (source : σ) (screen : Screen) (hash : String) : Visit σ :=
  let outcome := run (fun path => (ask source path).1) hash
  ⟨outcome.result, asked ask source hash, screen.showAll outcome.updates⟩

/-- What answers, and the screen, after some hashes are visited. -/
def visitAll (source : σ) (screen : Screen) : List String → σ × Screen
  | [] => (source, screen)
  | hash :: hashes =>
    let visit := visit ask source screen hash
    visitAll visit.source visit.screen hashes

/-- The fragment that comes for a hash, if one is asked for and comes. -/
def body? (source : σ) (hash : String) : Option String :=
  (path? hash).bind fun path => (ask source path).1.toOption

/-- The fragments that come for some hashes, in order. -/
def bodies (source : σ) : List String → List String
  | [] => []
  | hash :: hashes => (body? ask source hash).toList ++ bodies (asked ask source hash) hashes

/-- A visit for which a fragment comes. -/
structure Replaces (source : σ) (screen : Screen) (hash body : String) : Prop where
  came : body? ask source hash = some body
  result : (visit ask source screen hash).result = .ok true
  shown : (visit ask source screen hash).screen =
    (screen.call (.applyAll [.html Route.container body])).1
  html : (visit ask source screen hash).screen.page.html.get? Route.container = some body

/-- A visit for which none comes. -/
structure Keeps (source : σ) (screen : Screen) (hash : String) : Prop where
  came : body? ask source hash = none
  result : (visit ask source screen hash).result ≠ .ok true
  kept : (visit ask source screen hash).screen = screen

theorem html_call (screen : Screen) (body : String) :
    (screen.call (.applyAll [.html Route.container body])).1.page.html.get? Route.container =
      some body := by
  have hhtml : (Screen.change screen.page (.applyAll [.html Route.container body])).html.get?
      Route.container = some body := (Table.get?_insert ..).trans (if_pos rfl)
  rw [Screen.page_call]
  split <;> exact hhtml

theorem visit_cases (source : σ) (screen : Screen) (hash : String) :
    (∃ body, Replaces ask source screen hash body) ∨ Keeps ask source screen hash := by
  cases hpath : path? hash with
  | none =>
    obtain ⟨hupdates, hresult⟩ := run_of_path?_eq_none hpath fun path => (ask source path).1
    refine .inr ⟨by rw [body?, hpath]; rfl, hresult, ?_⟩
    rw [visit, hupdates]
    rfl
  | some path =>
    have hrun := run_of_path?_eq_some hpath fun path => (ask source path).1
    have hbody : body? ask source hash = (ask source path).1.toOption := by
      rw [body?, hpath]
      rfl
    cases hanswer : (ask source path).1 with
    | error causes =>
      rw [hanswer] at hrun hbody
      refine .inr ⟨hbody, ?_, ?_⟩
      · rw [visit, hrun]
        exact nofun
      · rw [visit, hrun]
        rfl
    | ok body =>
      rw [hanswer] at hrun hbody
      have hscreen : (visit ask source screen hash).screen =
          (screen.call (.applyAll [.html Route.container body])).1 := by
        rw [visit, hrun]
        rfl
      refine .inl ⟨body, hbody, ?_, hscreen, ?_⟩
      · rw [visit, hrun]
        rfl
      · rw [hscreen, html_call]

/-! ## Many visits -/

theorem source_visitAll (source : σ) (screen : Screen) (hashes : List String) :
    (visitAll ask source screen hashes).1 =
      (hashes.filterMap path?).foldl (fun source path => (ask source path).2) source := by
  induction hashes generalizing source screen with
  | nil => rfl
  | cons hash hashes ih =>
    rw [visitAll, ih, visit, asked, List.filterMap_cons]
    cases path? hash <;> rfl

/-- The container shows the fragment that came last, and what it showed before if none came. -/
theorem html_visitAll (source : σ) (screen : Screen) (hashes : List String) :
    (visitAll ask source screen hashes).2.page.html.get? Route.container =
      (bodies ask source hashes).getLast?.or (screen.page.html.get? Route.container) := by
  induction hashes generalizing source screen with
  | nil => rfl
  | cons hash hashes ih =>
    have hhtml : (visit ask source screen hash).screen.page.html.get? Route.container =
        (body? ask source hash).or (screen.page.html.get? Route.container) := by
      rcases visit_cases ask source screen hash with ⟨body, h⟩ | h
      · rw [h.html, h.came, Option.some_or]
      · rw [h.kept, h.came, Option.none_or]
    rw [visitAll, ih, hhtml, bodies, List.getLast?_append, Option.or_assoc]
    congr 2
    cases body? ask source hash <;> rfl

/-! ## Directories -/

/-- A directory of files as what answers. -/
def askDirectory (directory : String) (contentOf : String → Except String ByteArray) (_ : Unit)
    (path : String) : Except String String × Unit :=
  ((FragmentSource.fromDirectory directory contentOf path).mapError causeChain, ())

/-- Of a directory nothing is read but the files of names. -/
theorem visit_directory_congr {directory : String}
    {contentOf contentOf' : String → Except String ByteArray}
    (h : ∀ name, Route.IsName name →
      contentOf (FragmentSource.filePath directory (Route.document name)) =
        contentOf' (FragmentSource.filePath directory (Route.document name)))
    (screen : Screen) (hash : String) :
    visit (askDirectory directory contentOf) () screen hash =
      visit (askDirectory directory contentOf') () screen hash := by
  have hrun : run (fun path => (askDirectory directory contentOf () path).1) hash =
      run (fun path => (askDirectory directory contentOf' () path).1) hash := by
    cases hpath : path? hash with
    | none =>
      unfold path? at hpath
      unfold run
      cases hstart : start hash with
      | finished outcome => rfl
      | fetch path =>
        rw [hstart] at hpath
        cases hpath
    | some path =>
      obtain ⟨name, hnames, rfl⟩ := path?_eq_some_iff.mp hpath
      rw [run_of_path?_eq_some hpath, run_of_path?_eq_some hpath, askDirectory, askDirectory,
        FragmentSource.fromDirectory, FragmentSource.fromDirectory, h name hnames.1]
  rw [visit, visit, hrun]

/-! ## Navigation -/

/-- Whatever hashes are visited and whatever answers for the fragments, the paths of names are asked
for and no others, and the container shows the fragment that came last.  A visit replaces what it
shows and says so, or leaves the screen as it was.  Of a directory only its children are read. -/
theorem navigation_is_atomic :
    (∀ hash path, path? hash = some path ↔
      ∃ name, Route.Names hash name ∧ path = Route.document name) ∧
    (∀ name name', Route.document name = Route.document name' → name = name') ∧
    (∀ (source : σ) screen hashes,
      (visitAll ask source screen hashes).1 =
          (hashes.filterMap path?).foldl (fun source path => (ask source path).2) source ∧
        (visitAll ask source screen hashes).2.page.html.get? Route.container =
          (bodies ask source hashes).getLast?.or (screen.page.html.get? Route.container)) ∧
    (∀ source screen hash,
      (∃ body, Replaces ask source screen hash body) ∨ Keeps ask source screen hash) ∧
    (∀ directory contentOf contentOf',
      (∀ name, Route.IsName name →
        contentOf (FragmentSource.filePath directory (Route.document name)) =
          contentOf' (FragmentSource.filePath directory (Route.document name))) →
      visit (askDirectory directory contentOf) () = visit (askDirectory directory contentOf') ()) ∧
    ∀ (files : Files) directory name place, Route.IsName name →
      files.resolve false (FragmentSource.filePath directory (Route.document name)) = .ok place →
        ∃ parent, files.directory directory = .ok parent ∧ place = parent ++ [Route.child name] :=
  ⟨fun _ _ => path?_eq_some_iff, fun _ _ => Route.document_inj,
    fun source screen hashes =>
      ⟨source_visitAll ask source screen hashes, html_visitAll ask source screen hashes⟩,
    visit_cases ask, fun _ _ _ h => funext fun screen => funext fun hash =>
      visit_directory_congr h screen hash,
    fun _ _ _ _ hname hplace => Route.resolve_filePath hname hplace⟩

/-- Answers the first question alone. -/
def askOnce : Bool → String → Except String String × Bool
  | true, path => (.ok path, false)
  | false, _ => (.error "404 Not Found", false)

theorem navigation_is_atomic_web :
    (visitAll askOnce true (.memory .blank)
      ["#../rules", "#rules", "faq", "#home"]).2.page.html.get? Route.container =
        some "/rules.html" ∧
    visit (askDirectory "web" fun _ => .error "none") () =
      visit (askDirectory "web" fun path =>
        if path = "secret" then .ok .empty else .error "none") () ∧
    ∃ parent, (Files.ofDirectory "web" []).directory "web" = .ok parent ∧
      ["home", "web", "rules.html"] = parent ++ [Route.child "rules"] := by
  obtain ⟨-, -, hvisits, -, hcongr, hplaces⟩ := navigation_is_atomic askOnce
  refine ⟨?_, hcongr "web" _ _ fun name hname => ?_, hplaces _ _ _ _ ⟨by decide, by decide, ?_⟩ ?_⟩
  · rw [(hvisits ..).2]
    rfl
  · have hweb : "web" ≠ "" := by decide
    obtain ⟨-, rest, hfile, -⟩ := Route.exists_front_of_filePath hname hweb
    have hsecret : "web" ++ rest ≠ "secret" := fun h => by
      rw [← String.toList_inj, String.toList_append] at h
      cases h
    rw [hfile, if_neg hsecret]
  · have hchars : "rules".toList.all (fun c => Route.IsNameChar c) = true := by decide
    exact fun c hc => of_decide_eq_true (List.all_eq_true.mp hchars c hc)
  · rfl

end Navigation
end PoolPage
