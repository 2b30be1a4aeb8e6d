import PoolPage.Files
import PoolPage.Route.Navigation
import PoolPage.Route.Source

/-!
# The names of fragments

A hash names a fragment if what stands behind its sign is a name (`Route.Names`).  Each name has a
path of its own (`Route.document`), and nothing else is ever asked for (`path_eq_some_iff`).

A name holds no slash and no dot, so in a directory its file is a direct child of that directory
(`resolve_filePath`).
-/

namespace PoolPage
namespace Route

/-- A letter or digit of ASCII, a hyphen or an underscore. -/
def IsNameChar (c : Char) : Prop :=
  ('A' ≤ c ∧ c ≤ 'Z') ∨ ('a' ≤ c ∧ c ≤ 'z') ∨ ('0' ≤ c ∧ c ≤ '9') ∨ c = '-' ∨ c = '_'

structure IsName (name : String) : Prop where
  ne_empty : name ≠ ""
  ne_home : name ≠ "home"
  chars : ∀ c ∈ name.toList, IsNameChar c

/-- A hash names a fragment with its sign or without it. -/
def Names (hash name : String) : Prop := IsName name ∧ (hash = name ∨ hash = "#" ++ name)

/-- The path of a name. -/
def document (name : String) : String := "/" ++ name ++ ".html"

variable {hash name name' : String}

theorem isFragmentChar_iff (c : Char) : isFragmentChar c = true ↔ IsNameChar c := by
  have hupper : c.isUpper = true ↔ 'A' ≤ c ∧ c ≤ 'Z' := decide_eq_true_iff
  have hlower : c.isLower = true ↔ 'a' ≤ c ∧ c ≤ 'z' := by
    have hbounds : c.isLower = (decide ('a' ≤ c) && decide (c ≤ 'z')) := rfl
    rw [hbounds, Bool.and_eq_true_iff, decide_eq_true_iff, decide_eq_true_iff]
  have hdigit : c.isDigit = true ↔ '0' ≤ c ∧ c ≤ '9' := by
    rw [Char.isDigit, Bool.and_eq_true_iff, decide_eq_true_iff, decide_eq_true_iff]
    exact Iff.rfl
  have halphanum : c.isAlphanum = ((c.isUpper || c.isLower) || c.isDigit) := rfl
  simp only [isFragmentChar, halphanum, Bool.or_eq_true, decide_eq_true_eq, hupper, hlower, hdigit,
    IsNameChar, or_assoc]

instance : DecidablePred IsNameChar := fun c => decidable_of_iff _ (isFragmentChar_iff c)

theorem IsName.notMem (h : IsName name) {c : Char} (hc : isFragmentChar c = false) :
    c ∉ name.toList := by
  intro hmem
  rw [(isFragmentChar_iff c).mpr (h.chars c hmem)] at hc
  cases hc

theorem toList_document (name : String) :
    (document name).toList = '/' :: (name.toList ++ ".html".toList) := by
  rw [document, String.toList_append, String.toList_append]
  rfl

theorem document_inj (h : document name = document name') : name = name' := by
  rw [← String.toList_inj, toList_document, toList_document] at h
  exact String.toList_inj.mp (List.append_cancel_right (List.cons.inj h).2)

/-! ## The fragment of a hash -/

theorem fragment_sign (name : String) : fragment ("#" ++ name) = name.toList := by
  rw [fragment, String.toList_append]
  rfl

theorem fragment_of_head?_ne (h : hash.toList.head? ≠ some '#') : fragment hash = hash.toList := by
  unfold fragment
  split
  next rest heq => exact absurd (by rw [heq]; rfl) h
  next => rfl

/-- At most one sign is taken off. -/
theorem eq_fragment (hash : String) :
    hash = String.ofList (fragment hash) ∨ hash = "#" ++ String.ofList (fragment hash) := by
  rw [← String.toList_inj, ← String.toList_inj, String.toList_append, String.toList_ofList]
  by_cases h : hash.toList.head? = some '#'
  · obtain ⟨rest, hrest⟩ := List.head?_eq_some_iff.mp h
    right
    rw [fragment, hrest]
    rfl
  · exact .inl (fragment_of_head?_ne h).symm

theorem Names.fragment_eq (h : Names hash name) : fragment hash = name.toList := by
  obtain ⟨hname, rfl | rfl⟩ := h
  · refine fragment_of_head?_ne fun hhead => ?_
    exact hname.notMem (c := '#') (by decide) (List.mem_of_head? hhead)
  · exact fragment_sign name

theorem path_eq_some_iff {path : String} :
    Route.path hash = .ok (some path) ↔ ∃ name, Names hash name ∧ path = document name := by
  constructor
  · intro h
    have htoList : (String.ofList (fragment hash)).toList = fragment hash := String.toList_ofList
    unfold Route.path at h
    dsimp only at h
    split at h
    · cases h
    next hnamed =>
      split at h
      next hchars =>
        rw [Bool.or_eq_true, List.isEmpty_iff, decide_eq_true_eq, not_or] at hnamed
        refine ⟨String.ofList (fragment hash),
          ⟨⟨fun hempty => hnamed.1 ?_, fun hhome => hnamed.2 ?_, fun c hc => ?_⟩,
            eq_fragment hash⟩, ?_⟩
        · rw [← htoList, hempty]
          rfl
        · rw [← htoList, hhome]
          rfl
        · rw [htoList] at hc
          exact (isFragmentChar_iff c).mp (List.all_eq_true.mp hchars c hc)
        · rw [← Option.some.inj (Except.ok.inj h), ← String.toList_inj, toList_document, htoList,
            String.toList_ofList]
          rfl
      · cases h
  · rintro ⟨name, hnames, rfl⟩
    have hname := hnames.1
    have hnamed : ¬(name.toList.isEmpty || decide (name.toList = home.toList)) = true := by
      rw [Bool.or_eq_true, List.isEmpty_iff, decide_eq_true_eq, not_or]
      exact ⟨fun h => hname.ne_empty (String.toList_inj.mp h),
        fun h => hname.ne_home (String.toList_inj.mp h)⟩
    have hchars : name.toList.all isFragmentChar = true :=
      List.all_eq_true.mpr fun c hc => (isFragmentChar_iff c).mpr (hname.chars c hc)
    have hpath : String.ofList ('/' :: name.toList ++ ".html".toList) = document name := by
      rw [← String.toList_inj, toList_document, String.toList_ofList]
      rfl
    unfold Route.path
    dsimp only
    rw [hnames.fragment_eq, if_neg hnamed, if_pos hchars, hpath]

/-! ## The file of a name -/

/-- The file in which a directory holds the fragment of a name. -/
def child (name : String) : String := name ++ ".html"

theorem relativePath_document (h : IsName name) :
    Endpoint.relativePath (document name) = child name := by
  have hchild : (child name).toList = name.toList ++ ".html".toList := String.toList_append
  have hfirst : (name.toList ++ ".html".toList).dropWhile (· = '/') =
      name.toList ++ ".html".toList := by
    cases hchars : name.toList with
    | nil => exact absurd (String.toList_inj.mp hchars) h.ne_empty
    | cons c cs =>
      have hc : c ≠ '/' := by
        rintro rfl
        exact h.notMem (c := '/') (by decide) (hchars ▸ List.mem_cons_self)
      rw [List.cons_append, List.dropWhile_cons_of_neg (by simpa using hc)]
  rw [Endpoint.relativePath, toList_document, List.dropWhile_cons_of_pos (by decide), hfirst,
    ← hchild, String.ofList_toList]

theorem no_slash_child (h : IsName name) : '/' ∉ (child name).toList := by
  rw [child, String.toList_append, List.mem_append, not_or]
  exact ⟨h.notMem (by decide), by decide⟩

/-- What a path leads through is a directory, which leads to itself and to its children. -/
theorem follow_child (h : IsName name) {files : Files} {place place' : List String}
    (hfollow : files.follow false place (child name) = .ok place') :
    files.follow false place "" = .ok place ∧ place' = place ++ [child name] := by
  have hlength : 5 < (child name).toList.length := by
    rw [child, String.toList_append, List.length_append]
    have hpositive : 0 < name.toList.length :=
      List.length_pos_iff.mpr fun hnil => h.ne_empty (String.toList_inj.mp hnil)
    exact Nat.lt_add_of_pos_left hpositive
  have hne : ∀ text : String, text.toList.length ≤ 5 → child name ≠ text := by
    rintro text htext rfl
    omega
  have hnamed : ¬((child name).isEmpty || decide (child name = ".")) = true := by
    rw [Bool.or_eq_true, String.isEmpty_iff, decide_eq_true_eq, not_or]
    exact ⟨hne "" (by decide), hne "." (by decide)⟩
  unfold Files.follow at hfollow ⊢
  cases hnode : files.node? place with
  | none =>
    rw [hnode] at hfollow
    cases hfollow
  | some node =>
    rw [hnode] at hfollow
    cases node with
    | file content => cases hfollow
    | directory =>
      dsimp only at hfollow ⊢
      rw [if_neg hnamed, if_neg (hne ".." (by decide))] at hfollow
      split at hfollow
      · cases hfollow
      · exact ⟨rfl, (Except.ok.inj hfollow).symm⟩

end Route

/-! ## Places -/

namespace Files

/-- The place of a directory.  The one without a name is where paths start that have no slash in
front. -/
def directory (files : Files) (path : String) : Except FileFault (List String) :=
  if path.isEmpty then .ok files.home else files.resolve false path

/-- The place that a path leads to, name by name. -/
def walk (files : Files) (start : List String) (names : List (List Char)) :
    Except FileFault (List String) :=
  (names.map String.ofList).foldlM (files.follow false) start

theorem walk_concat (files : Files) (start : List String) (names : List (List Char))
    (name : List Char) :
    files.walk start (names ++ [name]) =
      (files.walk start names).bind fun place => files.follow false place (String.ofList name) := by
  rw [walk, List.map_append, List.foldlM_append]
  exact congrArg _ (funext fun place => bind_pure _)

/-- The start of a path, and its names. -/
theorem resolve_eq_ok_iff {files : Files} {path : String} {place : List String}
    (hpath : path ≠ "") :
    files.resolve false path = .ok place ↔
      path.utf8ByteSize ≤ longestPath ∧
        files.walk (if path.toList.head? = some '/' then [] else files.home)
          (path.toList.splitOn '/') = .ok place := by
  have hempty : ¬path.isEmpty = true := fun h => hpath (String.isEmpty_iff.mp h)
  unfold resolve
  rw [if_neg hempty]
  split
  next hlong =>
    refine ⟨nofun, fun h => ?_⟩
    omega
  next hshort => exact (and_iff_right (Nat.not_lt.mp hshort)).symm

theorem directory_eq {files : Files} {path : String} (hpath : path ≠ "") :
    files.directory path = files.resolve false path :=
  if_neg fun h => hpath (String.isEmpty_iff.mp h)

end Files

namespace Route

variable {name : String}

/-- What a name leads to from a place is below that place, which is a directory. -/
theorem walk_child (h : IsName name) {files : Files} {start place : List String}
    (names : List (List Char))
    (hplace : files.walk start (names ++ [(child name).toList]) = .ok place) :
    ∃ parent, files.walk start names = .ok parent ∧
      files.walk start (names ++ [[]]) = .ok parent ∧ place = parent ++ [child name] := by
  rw [Files.walk_concat] at hplace
  cases hparent : files.walk start names with
  | error fault =>
    rw [hparent] at hplace
    cases hplace
  | ok parent =>
    rw [hparent, String.ofList_toList] at hplace
    obtain ⟨hself, heq⟩ := follow_child h hplace
    refine ⟨parent, rfl, ?_, heq⟩
    rw [Files.walk_concat, hparent]
    exact hself

theorem filePath_empty (h : IsName name) :
    FragmentSource.filePath "" (document name) = child name := by
  rw [FragmentSource.filePath, relativePath_document h]
  exact String.empty_append

/-- A directory is written with a slash at its end or without one. -/
theorem exists_front_of_filePath (h : IsName name) {directory : String}
    (hdirectory : directory ≠ "") :
    ∃ front rest, FragmentSource.filePath directory (document name) = directory ++ rest ∧
      (directory ++ rest).toList = front ++ '/' :: (child name).toList ∧
      (directory.toList = front ∨ directory.toList = front ++ ['/']) := by
  have hempty : directory.isEmpty = false := by
    simpa [← Bool.not_eq_true, String.isEmpty_iff] using hdirectory
  rw [FragmentSource.filePath, relativePath_document h, hempty, Bool.false_or]
  by_cases hlast : directory.toList.getLast? = some '/'
  · obtain ⟨front, hfront⟩ := List.getLast?_eq_some_iff.mp hlast
    refine ⟨front, child name, if_pos (decide_eq_true hlast), ?_, .inr hfront⟩
    rw [String.toList_append, hfront, List.append_assoc]
    rfl
  · refine ⟨directory.toList, "/" ++ child name, ?_, ?_, .inl rfl⟩
    · exact (if_neg (by simpa using hlast)).trans String.append_assoc
    · rw [String.toList_append, String.toList_append]
      rfl

/-- In a directory the file of a name is a direct child, if it is anywhere. -/
theorem resolve_filePath (h : IsName name) {files : Files} {directory : String}
    {place : List String}
    (hplace : files.resolve false (FragmentSource.filePath directory (document name)) = .ok place) :
    ∃ parent, files.directory directory = .ok parent ∧ place = parent ++ [child name] := by
  have hchild : (child name).toList.splitOn '/' = [(child name).toList] :=
    List.splitOn_eq_singleton (no_slash_child h)
  by_cases hdirectory : directory = ""
  · have hne : child name ≠ "" := fun hempty =>
      h.ne_empty (String.append_eq_empty_iff.mp hempty).1
    have hhead : (child name).toList.head? ≠ some '/' := fun hhead =>
      no_slash_child h (List.mem_of_head? hhead)
    rw [hdirectory, filePath_empty h, Files.resolve_eq_ok_iff hne, if_neg hhead, hchild] at hplace
    obtain ⟨parent, hparent, -, heq⟩ := walk_child h [] hplace.2
    exact ⟨parent, by rwa [hdirectory], heq⟩
  · obtain ⟨front, rest, hfile, hchars, hfront⟩ := exists_front_of_filePath h hdirectory
    have hne : directory ++ rest ≠ "" := fun hempty =>
      hdirectory (String.append_eq_empty_iff.mp hempty).1
    have hhead : (directory ++ rest).toList.head? = directory.toList.head? := by
      rw [String.toList_append]
      cases hcs : directory.toList with
      | nil => exact absurd (String.toList_inj.mp hcs) hdirectory
      | cons c cs => rfl
    rw [hfile, Files.resolve_eq_ok_iff hne, hhead, hchars, List.splitOn_append_cons_self,
      hchild, String.utf8ByteSize_append] at hplace
    obtain ⟨parent, hparent, hself, heq⟩ := walk_child h _ hplace.2
    refine ⟨parent, ?_, heq⟩
    rw [Files.directory_eq hdirectory, Files.resolve_eq_ok_iff hdirectory]
    refine ⟨Nat.le_trans (Nat.le_add_right ..) hplace.1, ?_⟩
    generalize (if directory.toList.head? = some '/' then [] else files.home) = start
      at hparent hself ⊢
    rcases hfront with hopen | hclosed
    · rwa [hopen]
    · rwa [hclosed, List.splitOn_append_cons_self]

end Route
end PoolPage
