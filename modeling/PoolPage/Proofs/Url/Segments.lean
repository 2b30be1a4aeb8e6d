import PoolPage.Proofs.Url.Escapes
import PoolPage.Url.Path

/-!
# The segments of a path as they are read

A path is read piece by piece, and between two pieces it is fresh: nothing of its last segment is
there yet (`OpenPath.IsFresh`).  So all but the last piece only decide which segments stand in
front, and a text that is longer at its end differs in the last piece alone (`exists_last_piece`).

The segments of a path from the root are those that its pieces leave, apart from empty ones at the
start of a file's path (`readPath_eq`).
-/

namespace PoolPage
namespace Url

variable {special file : Bool}

/-! ## Pieces -/

theorem exists_last_slash (special : Bool) (cs : List Char) :
    (∀ c ∈ cs, isSlash special c = false) ∨
      ∃ front slash last, cs = front ++ slash :: last ∧ isSlash special slash = true ∧
        ∀ c ∈ last, isSlash special c = false := by
  induction cs with
  | nil => exact Or.inl (List.forall_mem_nil _)
  | cons c cs ih =>
    rcases ih with hnone | ⟨front, slash, last, rfl, hslash, hlast⟩
    · cases hc : isSlash special c with
      | false => exact Or.inl (List.forall_mem_cons.mpr ⟨hc, hnone⟩)
      | true => exact Or.inr ⟨[], c, cs, rfl, hc, hnone⟩
    · exact Or.inr ⟨c :: front, slash, last, rfl, hslash, hlast⟩

/-- A slash in its usual form. -/
def plainSlash (special : Bool) (c : Char) : Char := if isSlash special c then '/' else c

theorem plainSlash_of_isSlash {c : Char} (h : isSlash special c = true) :
    plainSlash special c = '/' := if_pos h

theorem map_plainSlash {cs : List Char} (h : ∀ c ∈ cs, isSlash special c = false) :
    cs.map (plainSlash special) = cs := by
  refine (List.map_congr_left fun c hc => ?_).trans (List.map_id cs)
  rw [plainSlash, h c hc]
  rfl

theorem notMem_of_no_slash {cs : List Char} (h : ∀ c ∈ cs, isSlash special c = false) :
    '/' ∉ cs := by
  intro hmem
  have hslash := h '/' hmem
  simp [isSlash] at hslash

theorem splitSegments_eq (special : Bool) (cs : List Char) :
    splitSegments special cs = (cs.map (plainSlash special)).splitOn '/' := rfl

theorem splitSegments_of_no_slash {cs : List Char} (h : ∀ c ∈ cs, isSlash special c = false) :
    splitSegments special cs = [cs] := by
  rw [splitSegments_eq, map_plainSlash h, List.splitOn_eq_singleton (notMem_of_no_slash h)]

theorem splitSegments_slash (cs last : List Char) {slash : Char}
    (hslash : isSlash special slash = true) :
    splitSegments special (cs ++ slash :: last) =
      splitSegments special cs ++ splitSegments special last := by
  rw [splitSegments_eq, List.map_append, List.map_cons, plainSlash_of_isSlash hslash,
    List.splitOn_append_cons_self]
  rfl

theorem isSlash_slash (special : Bool) : isSlash special '/' = true := rfl

/-- What stands behind the last slash is the last piece, and what is added there goes into it. -/
theorem exists_last_piece (special : Bool) (cs : List Char) :
    ∃ front last, (∀ c ∈ last, isSlash special c = false) ∧ last <:+ cs ∧
      (last = [] → cs = [] ∨ cs.getLast?.any (isSlash special) = true) ∧
      ∀ xs, (∀ c ∈ xs, isSlash special c = false) →
        splitSegments special (cs ++ xs) = front ++ [last ++ xs] := by
  rcases exists_last_slash special cs with hnone | ⟨front, slash, last, rfl, hslash, hlast⟩
  · refine ⟨[], cs, hnone, List.suffix_refl cs, Or.inl, fun xs hxs => ?_⟩
    exact splitSegments_of_no_slash (List.forall_mem_append.mpr ⟨hnone, hxs⟩)
  · refine ⟨splitSegments special front, last, hlast, ⟨front ++ [slash], by simp⟩, ?_,
      fun xs hxs => ?_⟩
    · rintro rfl
      exact Or.inr (by simp [hslash])
    · rw [List.append_assoc, List.cons_append, splitSegments_slash _ _ hslash,
        splitSegments_of_no_slash (List.forall_mem_append.mpr ⟨hlast, hxs⟩)]

/-- The last piece is empty only behind a slash. -/
theorem getLast?_of_last_ne_nil {cs last : List Char}
    (hlast : ∀ c ∈ last, isSlash special c = false) (hsuffix : last <:+ cs) (hne : last ≠ []) :
    cs.getLast?.any (isSlash special) = false := by
  obtain ⟨front, rfl⟩ := hsuffix
  rw [List.getLast?_append, List.getLast?_eq_some_getLast hne]
  exact hlast _ (List.getLast_mem hne)

/-! ## Paths under way -/

namespace OpenPath

variable {p : OpenPath}

/-- There is nothing yet of the segment that is read next. -/
def IsFresh (p : OpenPath) : Prop := p.current = ""

theorem isFresh_root : root.IsFresh := rfl

theorem isFresh_slash : p.slash.IsFresh := rfl

theorem isFresh_up (h : p.IsFresh) : (p.up file).IsFresh := by
  unfold up
  rw [if_pos (by rw [h]; rfl)]
  split
  · split
    · exact h
    · exact h
  · exact h

theorem ended_of_isFresh (h : p.IsFresh) : p.ended = p := by
  rw [ended, if_pos (by rw [h]; rfl)]

/-- A piece that leads nowhere or up. -/
def isDots (text : List Char) : Bool := isDoubleDot text || isSingleDot text

/-- Where a piece of dots leads. -/
def lead (file : Bool) (p : OpenPath) (text : List Char) : OpenPath :=
  if isDoubleDot text then p.up file else p

theorem isFresh_lead (h : p.IsFresh) (text : List Char) : (p.lead file text).IsFresh := by
  unfold lead
  split
  · exact isFresh_up h
  · exact h

theorem read_of_isDots {closed : Bool} {text : List Char} (h : p.IsFresh)
    (hdots : isDots text = true) : p.read file closed text = p.lead file text := by
  have hdrive : isPlainDrive p.current.toList = false := by rw [h]; rfl
  unfold read lead
  simp only [hdrive, Bool.and_false, Bool.false_and, Bool.false_eq_true, if_false]
  split
  · split
    · exact ended_of_isFresh (isFresh_up h)
    · rfl
  next hdouble =>
    have hsingle : isSingleDot text = true := by simpa [isDots, hdouble] using hdots
    rw [if_pos hsingle, ended_of_isFresh h]

theorem read_of_not_isDots {closed : Bool} {text : List Char} (h : p.IsFresh)
    (hdots : isDots text = false) :
    p.read file closed text =
      if closed then (p.append file text).slash else p.append file text := by
  obtain ⟨hdouble, hsingle⟩ := Bool.or_eq_false_iff.mp hdots
  have hdrive : isPlainDrive p.current.toList = false := by rw [h]; rfl
  unfold read
  simp only [hdrive, hdouble, hsingle, Bool.and_false, Bool.false_and, Bool.false_eq_true, if_false]

/-- A piece behind which there is a slash leaves a path fresh. -/
theorem isFresh_read (h : p.IsFresh) (text : List Char) : (p.read file true text).IsFresh := by
  cases hdots : isDots text with
  | true => rw [read_of_isDots h hdots]; exact isFresh_lead h text
  | false => rw [read_of_not_isDots h hdots, if_pos rfl]; exact isFresh_slash

/-- Reads pieces with a slash behind each. -/
def readClosed (file : Bool) (p : OpenPath) (texts : List (List Char)) : OpenPath :=
  texts.foldl (fun p text => p.read file true text) p

theorem isFresh_readClosed (h : p.IsFresh) (texts : List (List Char)) :
    (p.readClosed file texts).IsFresh := by
  induction texts generalizing p with
  | nil => exact h
  | cons text rest ih => exact ih (isFresh_read h text)

theorem readAll_concat (p : OpenPath) (front : List (List Char)) (last : List Char) :
    p.readAll file (front ++ [last]) = (p.readClosed file front).read file false last := by
  induction front generalizing p with
  | nil => rfl
  | cons text front ih =>
    have hcons : p.readAll file (text :: (front ++ [last])) =
        (p.read file true text).readAll file (front ++ [last]) := by
      cases front <;> rfl
    rw [List.cons_append, hcons, ih]
    rfl

theorem readClosed_concat (p : OpenPath) (front : List (List Char)) (last : List Char) :
    p.readClosed file (front ++ [last]) = (p.readClosed file front).read file true last :=
  List.foldl_append ..

/-! ### The last piece -/

/-- The segment that a piece without dots becomes. -/
def segmentOf (file : Bool) (p : OpenPath) (text : List Char) : String :=
  (p.append file text).current

theorem parents_append (text : List Char) : (p.append file text).parents = p.parents := by
  unfold append
  split <;> rfl

theorem segmentOf_eq (h : p.IsFresh) (text : List Char) :
    p.segmentOf file text = String.ofList (escapeWhere isPathEscaped text) ∨
      (isDrive text = true ∧ p.segmentOf file text = String.ofList (text.take 1 ++ [':'])) := by
  unfold segmentOf append
  split
  next hdrive =>
    refine Or.inr ⟨?_, rfl⟩
    simp only [Bool.and_eq_true] at hdrive
    exact hdrive.2
  next =>
    refine Or.inl ?_
    rw [h]
    exact String.empty_append

theorem toSegments_append (text : List Char) :
    (p.append file text).toSegments = p.parents.reverse ++ [p.segmentOf file text] := by
  rw [toSegments, parents_append, List.reverse_cons]
  rfl

theorem toSegments_of_isFresh (h : p.IsFresh) : p.toSegments = p.parents.reverse ++ [""] := by
  rw [toSegments, h, List.reverse_cons]

/-- An empty piece at the end adds nothing to a fresh path. -/
theorem read_nil (h : p.IsFresh) : p.read file false [] = p := by
  have hsegment : p.append file [] = p := by
    obtain ⟨parents, current, hasDrive⟩ := p
    obtain rfl : current = "" := h
    simp [append, isDrive, escapeWhere]
  rw [read_of_not_isDots h rfl, hsegment]
  rfl

end OpenPath

/-! ## Paths from the root -/

/-- The segments in front of the last one: the path of a file does not start with empty ones. -/
def rootedFront (file : Bool) (front : List String) : List String :=
  if file then front.dropWhile (·.isEmpty) else front

/-- The segments of a path from the root. -/
def rooted (file : Bool) (segments : List String) : List String :=
  rootedFront file segments.dropLast ++ segments.getLast?.toList

theorem rooted_concat (front : List String) (last : String) :
    rooted file (front ++ [last]) = rootedFront file front ++ [last] := by
  simp [rooted]

theorem rootedFront_concat {last : String} (h : last ≠ "") (front : List String) :
    rootedFront file (front ++ [last]) = rootedFront file front ++ [last] := by
  cases file with
  | false => rfl
  | true =>
    have hlast : last.isEmpty = false := by simpa using h
    simp only [rootedFront, if_true, List.dropWhile_append]
    split
    next hempty => simp [hlast, List.isEmpty_iff.mp hempty]
    next => rfl

/-- Without empty segments at its start a path is left with at least one. -/
theorem rooted_of_file (front : List String) (last : String) :
    (match (front ++ [last]).dropWhile (·.isEmpty) with
      | [] => [""]
      | segments => segments) = rooted true (front ++ [last]) := by
  rw [rooted_concat, rootedFront, if_pos rfl]
  induction front with
  | nil =>
    by_cases hlast : last = ""
    · rw [hlast]
      rfl
    · have hfull : last.isEmpty = false := by simpa using hlast
      simp [hfull]
  | cons segment front ih =>
    by_cases hsegment : segment = ""
    · rw [hsegment]
      exact ih
    · have hfull : segment.isEmpty = false := by simpa using hsegment
      simp [hfull]

/-- A path from the root is what its pieces leave, apart from empty segments at its start. -/
theorem readPath_eq (scheme : String) (p : OpenPath) (cs : List Char) :
    readPath scheme p cs =
      (rooted (scheme = "file")
          (p.readAll (scheme = "file") (splitSegments (isSpecial scheme) cs)).toSegments,
        (p.readAll (scheme = "file") (splitSegments (isSpecial scheme) cs)).hasDrive) := by
  by_cases h : scheme = "file"
  · subst h
    simp only [readPath, if_true, decide_true]
    generalize p.readAll true (splitSegments (isSpecial "file") cs) = q
    rw [OpenPath.toSegments, List.reverse_cons]
    exact congrArg (·, q.hasDrive) (rooted_of_file q.parents.reverse q.current)
  · simp only [readPath, h, if_false, decide_false]
    generalize p.readAll false (splitSegments (isSpecial scheme) cs) = q
    rw [OpenPath.toSegments, List.reverse_cons, rooted_concat]
    rfl

end Url
end PoolPage
