import PoolPage.Proofs.Url.Authorities

/-!
# What follows the front of a URL

The path of a URL goes up to a question mark or a number sign, and what stands behind these does not
reach it (`Tail.path_append`).  Behind a front a path starts with a slash or with any other
character, and there may be none (`Front.after_slash`, `Front.after_cons`, `Front.after_nil`).
-/

namespace PoolPage
namespace Url

variable {cs text : List Char}

/-! ## Query and fragment -/

namespace Tail

/-- Whether there is a query or a fragment. -/
def isOpen (tail : Tail) : Bool := tail.query.isSome || tail.fragment.isSome

theorem ofText_cons {c : Char} (hquery : c ≠ '?') (hfragment : c ≠ '#') (cs : List Char) :
    ofText (c :: cs) = { ofText cs with path := c :: (ofText cs).path } := by
  have htake : (c :: cs).takeWhile (· ≠ '#') = c :: cs.takeWhile (· ≠ '#') := by
    rw [List.takeWhile_cons, if_pos (by simpa using hfragment)]
  have hdrop : (c :: cs).dropWhile (· ≠ '#') = cs.dropWhile (· ≠ '#') := by
    rw [List.dropWhile_cons, if_pos (by simpa using hfragment)]
  unfold ofText
  rw [htake, hdrop]
  generalize cs.takeWhile (· ≠ '#') = front
  have htake : (c :: front).takeWhile (· ≠ '?') = c :: front.takeWhile (· ≠ '?') := by
    rw [List.takeWhile_cons, if_pos (by simpa using hquery)]
  have hdrop : (c :: front).dropWhile (· ≠ '?') = front.dropWhile (· ≠ '?') := by
    rw [List.dropWhile_cons, if_pos (by simpa using hquery)]
  simp only [htake, hdrop]

theorem ofText_append {front : List Char} (hquery : '?' ∉ front) (hfragment : '#' ∉ front)
    (cs : List Char) :
    ofText (front ++ cs) = { ofText cs with path := front ++ (ofText cs).path } := by
  induction front with
  | nil => rfl
  | cons c front ih =>
    rw [List.mem_cons, not_or] at hquery hfragment
    rw [List.cons_append, ofText_cons (Ne.symm hquery.1) (Ne.symm hfragment.1),
      ih hquery.2 hfragment.2]
    rfl

theorem ofText_of_mark {c : Char} (hc : c = '?' ∨ c = '#') (cs : List Char) :
    (ofText (c :: cs)).path = [] ∧ (ofText (c :: cs)).isOpen = true := by
  rcases hc with rfl | rfl
  · simp [ofText, isOpen]
  · simp [ofText, isOpen]

theorem ofText_of_notMem (hquery : '?' ∉ cs) (hfragment : '#' ∉ cs) :
    ofText cs = ⟨cs, none, none⟩ := by
  have hnil := ofText_append hquery hfragment []
  rw [List.append_nil] at hnil
  exact hnil.trans (congrArg (fun path => (⟨path, none, none⟩ : Tail)) (List.append_nil cs))

theorem notMem_of_not_isOpen (h : (ofText cs).isOpen = false) : '?' ∉ cs ∧ '#' ∉ cs := by
  induction cs with
  | nil => exact ⟨List.not_mem_nil, List.not_mem_nil⟩
  | cons c cs ih =>
    by_cases hc : c = '?' ∨ c = '#'
    · rw [(ofText_of_mark hc cs).2] at h
      cases h
    · obtain ⟨hquery, hfragment⟩ := not_or.mp hc
      rw [ofText_cons hquery hfragment] at h
      obtain ⟨hq, hf⟩ := ih h
      exact ⟨List.not_mem_cons_of_ne_of_not_mem (Ne.symm hquery) hq,
        List.not_mem_cons_of_ne_of_not_mem (Ne.symm hfragment) hf⟩

/-- Text behind a query or a fragment does not reach the path. -/
theorem path_append (h : (ofText cs).isOpen = true) (ds : List Char) :
    (ofText (cs ++ ds)).path = (ofText cs).path := by
  induction cs with
  | nil => cases h
  | cons c cs ih =>
    by_cases hc : c = '?' ∨ c = '#'
    · rw [List.cons_append, (ofText_of_mark hc _).1, (ofText_of_mark hc _).1]
    · obtain ⟨hquery, hfragment⟩ := not_or.mp hc
      rw [ofText_cons hquery hfragment] at h
      rw [List.cons_append, ofText_cons hquery hfragment, ofText_cons hquery hfragment, ih h]

theorem path_of_not_isOpen (h : (ofText cs).isOpen = false) : (ofText cs).path = cs := by
  obtain ⟨hquery, hfragment⟩ := notMem_of_not_isOpen h
  rw [ofText_of_notMem hquery hfragment]

/-- Behind a path without a query or a fragment the text that follows is read with the path. -/
theorem path_append_of_not_isOpen (h : (ofText cs).isOpen = false) {more : List Char}
    (hquery : '?' ∉ more) (hfragment : '#' ∉ more) :
    (ofText (cs ++ more)).path = cs ++ more := by
  obtain ⟨hq, hf⟩ := notMem_of_not_isOpen h
  rw [ofText_of_notMem (by simp [hq, hquery]) (by simp [hf, hfragment])]

end Tail

/-! ## Drives -/

theorem eq_of_mem_isDrive (h : isDrive text = true) {c : Char} (hc : c ∈ text) :
    c.isAlpha = true ∨ c = ':' ∨ c = '|' := by
  match text, h with
  | [letter, mark], h =>
    simp only [isDrive, Bool.and_eq_true, Bool.or_eq_true, decide_eq_true_iff] at h
    rcases List.mem_cons.mp hc with rfl | hmark
    · exact Or.inl h.1
    · rw [List.mem_singleton.mp hmark]
      exact Or.inr h.2

theorem not_isOpen_of_isDrive (h : isDrive text = true) : (Tail.ofText text).isOpen = false := by
  have hquery : '?' ∉ text := fun hmem => absurd (eq_of_mem_isDrive h hmem) (by decide)
  have hfragment : '#' ∉ text := fun hmem => absurd (eq_of_mem_isDrive h hmem) (by decide)
  rw [Tail.ofText_of_notMem hquery hfragment]
  rfl

theorem no_slash_of_isDrive (h : isDrive text = true) (special : Bool) :
    ∀ c ∈ text, isSlash special c = false := by
  intro c hc
  have hslash : c ≠ '/' := by
    rintro rfl
    exact absurd (eq_of_mem_isDrive h hc) (by decide)
  have hback : c ≠ '\\' := by
    rintro rfl
    exact absurd (eq_of_mem_isDrive h hc) (by decide)
  simp [isSlash, hslash, hback]

/-! ## What follows an authority -/

theorem readPath_fst_ne_nil (scheme : String) (p : OpenPath) (cs : List Char) :
    (readPath scheme p cs).1 ≠ [] := by
  rw [readPath_eq, OpenPath.toSegments, List.reverse_cons, rooted_concat]
  exact List.append_ne_nil_of_right_ne_nil _ (List.cons_ne_nil _ _)

/-- Without a text the path from the root has one segment, which is empty. -/
theorem readPath_nil (scheme : String) : readPath scheme .root [] = ([""], false) := by
  have hpieces : splitSegments (isSpecial scheme) [] = [] ++ [[]] := rfl
  rw [readPath_eq, hpieces, OpenPath.readAll_concat]
  generalize decide (scheme = "file") = file
  cases file <;> rfl

namespace Front

variable {f : Front}

/-- The URL with nothing behind the front. -/
def bare (f : Front) : Url :=
  f.url f.host (.segments (if isSpecial f.scheme then [""] else [])) ⟨[], none, none⟩

/-- The URL with a path without structure. -/
def whole (f : Front) (text : List Char) : Url :=
  f.url f.host (.whole (String.ofList (escapeWhere isControl (Tail.ofText text).path)))
    (Tail.ofText text)

theorem after_nil (f : Front) : f.after [] = f.bare := rfl

theorem rooted_eq (hfile : f.scheme ≠ "file") (text : List Char) :
    f.rooted text = f.url f.host (pathFromRoot f.scheme (Tail.ofText text).path)
      (Tail.ofText text) := by
  have hhost : ¬ (f.scheme = "file" ∧ (readPath f.scheme .root (Tail.ofText text).path).2 = true) :=
    fun h => hfile h.1
  unfold rooted
  simp only [if_neg hhost]
  rfl

/-- A slash behind an authority is the one that the path starts with. -/
theorem after_slash (hfile : f.scheme ≠ "file") {c : Char}
    (hc : isSlash (isSpecial f.scheme) c = true) (text : List Char) :
    f.after (c :: text) = f.rooted text := by
  have hquery : c ≠ '?' := by
    rintro rfl
    simp [isSlash] at hc
  have hfragment : c ≠ '#' := by
    rintro rfl
    simp [isSlash] at hc
  rw [rooted_eq hfile, after, Tail.ofText_cons hquery hfragment]
  simp only [pathAfterAuthority, if_pos hc]
  rfl

/-- Any other character is the first one of the path. -/
theorem after_cons (hfile : f.scheme ≠ "file") {c : Char}
    (hc : endsAuthority f.scheme c = false) (text : List Char) :
    f.after (c :: text) = f.rooted (c :: text) := by
  simp only [endsAuthority, Bool.or_eq_false_iff, decide_eq_false_iff_not] at hc
  obtain ⟨⟨hslash, hquery⟩, hfragment⟩ := hc
  rw [rooted_eq hfile, after, Tail.ofText_cons hquery hfragment]
  simp only [pathAfterAuthority, hslash]
  rfl

theorem after_mark (hfile : f.scheme ≠ "file") (hspecial : isSpecial f.scheme = true) {c : Char}
    (hc : c = '?' ∨ c = '#') (text : List Char) :
    f.after (c :: text) = f.rooted (c :: text) := by
  rw [rooted_eq hfile, after, (Tail.ofText_of_mark hc text).1, pathFromRoot, readPath_nil]
  simp only [pathAfterAuthority, if_pos hspecial]

end Front

/-! ## Parts of a URL with a front -/

/-- There is a query or a fragment. -/
def isOpen (url : Url) : Bool := url.query.isSome || url.fragment.isSome

theorem isOpen_url (f : Front) (host : Option Host) (path : Path) (tail : Tail) :
    (f.url host path tail).isOpen = tail.isOpen := by
  show ((tail.query.map _).isSome || (tail.fragment.map _).isSome) = _
  rw [Option.isSome_map, Option.isSome_map]
  rfl

theorem isOpen_rooted (f : Front) (text : List Char) :
    (f.rooted text).isOpen = (Tail.ofText text).isOpen := isOpen_url f _ _ _

theorem path_rooted (f : Front) (text : List Char) :
    (f.rooted text).path = .segments (readPath f.scheme .root (Tail.ofText text).path).1 := rfl

theorem host_rooted (f : Front) (text : List Char) :
    (f.rooted text).host =
      if f.scheme = "file" ∧ (readPath f.scheme .root (Tail.ofText text).path).2 = true then noHost
      else f.host := rfl

theorem toList_text_rooted (f : Front) (hopen : (Tail.ofText text).isOpen = false) :
    (f.rooted text).path.text.toList = pathChars (readPath f.scheme .root text).1 := by
  rw [path_rooted, Tail.path_of_not_isOpen hopen, toList_text_segments]

theorem path_rooted_slash (f : Front) (hopen : (Tail.ofText text).isOpen = false)
    {padding : List Char} (hpadding : IsPadding padding) :
    (f.rooted (text ++ (padding ++ ['/']))).path =
      .segments (readPath f.scheme .root (text ++ padding ++ ['/'])).1 := by
  have hquery : '?' ∉ padding ++ ['/'] := by
    simpa using hpadding.notMem (by decide)
  have hfragment : '#' ∉ padding ++ ['/'] := by
    simpa using hpadding.notMem (by decide)
  rw [path_rooted, Tail.path_append_of_not_isOpen hopen hquery hfragment, List.append_assoc]

theorem exists_front_of_slash (scheme : String) (cs : List Char) :
    ∃ front, (readPath scheme .root (cs ++ ['/'])).1 = front ++ [""] := by
  refine readPath_of_slash OpenPath.isFresh_root (Or.inr ?_)
  rw [List.getLast?_concat]
  rfl

theorem text_rooted_ne_empty (f : Front) (text : List Char) : (f.rooted text).path.text ≠ "" := by
  intro hempty
  have hchars := congrArg String.toList hempty
  rw [path_rooted, toList_text_segments] at hchars
  exact readPath_fst_ne_nil _ _ _ (pathChars_eq_nil_iff.mp hchars)

theorem text_rooted_nil (f : Front) : (f.rooted []).path.text = "/" := by
  have hread : (readPath f.scheme .root (Tail.ofText []).path) = ([""], false) := readPath_nil _
  rw [path_rooted, hread]
  rfl

theorem isOpen_after (f : Front) (text : List Char) :
    (f.after text).isOpen = (Tail.ofText text).isOpen := isOpen_url f _ _ _

theorem text_bare (f : Front) : f.bare.path.text = if isSpecial f.scheme then "/" else "" := by
  rw [Front.bare, Front.url]
  cases isSpecial f.scheme <;> rfl

theorem isOpen_whole (f : Front) (text : List Char) :
    (f.whole text).isOpen = (Tail.ofText text).isOpen := isOpen_url f _ _ _

theorem text_whole (f : Front) (text : List Char) :
    (f.whole text).path.text = String.ofList (escapeWhere isControl (Tail.ofText text).path) := rfl

theorem text_whole_ne_empty (f : Front) (hopen : (Tail.ofText text).isOpen = false)
    (htext : text ≠ []) : (f.whole text).path.text ≠ "" := by
  intro hempty
  have hnil := congrArg String.toList hempty
  rw [text_whole, Tail.path_of_not_isOpen hopen, String.toList_ofList] at hnil
  have hlength := @length_escapeWhere_le isControl text
  rw [hnil] at hlength
  exact htext (List.length_eq_zero_iff.mp (Nat.le_zero.mp hlength))

/-- What stands in front of a file's path. -/
def fileFront (host : Option Host) : Front := ⟨"file", "", "", host, none⟩

theorem fileUrl_eq (host : Option Host) (text : List Char) :
    fileUrl host .root text = (fileFront host).rooted text := by
  unfold fileUrl Front.rooted
  simp only [fileFront, true_and]
  rfl

theorem rooted_file_slash (host : Option Host) :
    (fileFront host).rooted ['/'] = (fileFront host).rooted [] := rfl

theorem rooted_file_nil (host : Option Host) : (fileFront host).rooted [] = (fileFront host).bare :=
  rfl

end Url
end PoolPage
