import PoolPage.Proofs.Url.Segments

/-!
# A slash behind a path

A slash closes the last piece of a path.  A piece of dots has left an empty segment already, so the
slash adds nothing; any other piece but an empty one gets an empty segment behind it.  Either way
the path has the text it had, with a slash at its end (`readPath_slash`).  Behind a slash another
one adds an empty segment, except to a file's path that has no other segments
(`readPath_second_slash`), and behind controls and spaces a slash makes the
text longer (`readPath_padding`).
-/

namespace PoolPage
namespace Url

variable {special file : Bool} {scheme : String}

/-! ## Texts of paths -/

/-- The characters of segments, each behind a slash. -/
def pathChars (segments : List String) : List Char := segments.flatMap fun s => '/' :: s.toList

theorem toList_text_segments (segments : List String) :
    (Path.segments segments).text.toList = pathChars segments := by
  have htext : (Path.segments segments).text =
      String.join (segments.map fun segment => "/" ++ segment) := rfl
  rw [htext, String.toList_join, List.flatMap_map, pathChars]
  simp only [String.toList_append]
  rfl

theorem pathChars_append (front back : List String) :
    pathChars (front ++ back) = pathChars front ++ pathChars back := List.flatMap_append

theorem pathChars_eq_nil_iff {segments : List String} :
    pathChars segments = [] ↔ segments = [] := by
  cases segments with
  | nil => exact iff_of_true rfl rfl
  | cons s rest => exact iff_of_false (List.cons_ne_nil _ _) (List.cons_ne_nil _ _)

theorem pathChars_concat (front : List String) (last : String) :
    pathChars (front ++ [last]) = pathChars front ++ '/' :: last.toList := by
  rw [pathChars_append]
  exact congrArg (pathChars front ++ ·) (List.append_nil _)

/-- The last slash of a text is where it is. -/
theorem eq_of_last_slash {xs ys as bs : List Char} (ha : '/' ∉ as) (hb : '/' ∉ bs)
    (h : xs ++ '/' :: as = ys ++ '/' :: bs) : xs = ys ∧ as = bs := by
  rcases List.append_eq_append_iff.mp h with ⟨more, hys, hmore⟩ | ⟨more, hxs, hmore⟩
  · cases more with
    | nil => exact ⟨by rw [hys, List.append_nil], List.tail_eq_of_cons_eq hmore⟩
    | cons c more =>
      rw [List.tail_eq_of_cons_eq hmore] at ha
      exact absurd (List.mem_append_right _ (.head _)) ha
  · cases more with
    | nil => exact ⟨by rw [hxs, List.append_nil], (List.tail_eq_of_cons_eq hmore).symm⟩
    | cons c more =>
      rw [List.tail_eq_of_cons_eq hmore] at hb
      exact absurd (List.mem_append_right _ (.head _)) hb

/-- A text with a slash at its end. -/
def slashed (cs : List Char) : List Char := if cs.getLast? = some '/' then cs else cs ++ ['/']

theorem length_slashed_le (cs : List Char) : (slashed cs).length ≤ cs.length + 1 := by
  unfold slashed
  split
  · exact Nat.le_succ _
  · rw [List.length_append]
    exact Nat.le_refl _

theorem length_le_slashed (cs : List Char) : cs.length ≤ (slashed cs).length := by
  unfold slashed
  split
  · exact Nat.le_refl _
  · rw [List.length_append]
    exact Nat.le_add_right ..

theorem slashed_concat (cs : List Char) : slashed (cs ++ ['/']) = cs ++ ['/'] := by
  rw [slashed, List.getLast?_concat, if_pos rfl]

theorem slashed_pathChars_empty (front : List String) :
    slashed (pathChars (front ++ [""])) = pathChars (front ++ [""]) := by
  rw [pathChars_concat]
  exact slashed_concat _

/-- A slash behind a segment that is not empty starts another one. -/
theorem slashed_pathChars {last : String} (hne : last ≠ "") (hlast : '/' ∉ last.toList)
    (front : List String) :
    slashed (pathChars (front ++ [last])) = pathChars (front ++ [last, ""]) := by
  have hlist : last.toList ≠ [] := by
    intro h
    exact hne (String.toList_eq_nil_iff.mp h)
  have hend : (pathChars (front ++ [last])).getLast? ≠ some '/' := by
    rw [pathChars_concat, List.getLast?_append, List.getLast?_cons,
      List.getLast?_eq_some_getLast hlist]
    intro h
    have hslash : last.toList.getLast hlist = '/' := Option.some.inj h
    exact hlast (hslash ▸ List.getLast_mem hlist)
  have hsplit : front ++ [last, ""] = (front ++ [last]) ++ [""] := by simp
  rw [slashed, if_neg hend, hsplit, pathChars_concat (front ++ [last])]
  rfl

/-! ## The last segment -/

namespace OpenPath

variable {p : OpenPath} {text : List Char}

theorem length_segmentOf_le (h : p.IsFresh) (text : List Char) :
    (p.segmentOf file text).toList.length ≤ (escapeWhere isPathEscaped text).length := by
  rcases @segmentOf_eq file p h text with hsegment | ⟨hdrive, hsegment⟩
  · simp only [hsegment, String.toList_ofList, Nat.le_refl]
  · have hescaped := @length_escapeWhere_le isPathEscaped text
    match text, hdrive with
    | [letter, mark], _ =>
      rw [hsegment, String.toList_ofList]
      exact hescaped

theorem segmentOf_ne_empty (h : p.IsFresh) (htext : text ≠ []) : p.segmentOf file text ≠ "" := by
  intro hempty
  have hescaped := @length_escapeWhere_le isPathEscaped text
  have hpos : 0 < text.length := List.length_pos_iff.mpr htext
  rcases @segmentOf_eq file p h text with hsegment | ⟨-, hsegment⟩
  · rw [hempty] at hsegment
    have hnil : escapeWhere isPathEscaped text = [] := by
      rw [← String.toList_ofList (l := escapeWhere isPathEscaped text), ← hsegment]
      rfl
    rw [hnil, List.length_nil] at hescaped
    omega
  · rw [hempty] at hsegment
    have hlength := congrArg (fun s : String => s.toList.length) hsegment
    simp at hlength

theorem slash_notMem_segmentOf (h : p.IsFresh) (htext : '/' ∉ text) :
    '/' ∉ (p.segmentOf file text).toList := by
  rcases @segmentOf_eq file p h text with hsegment | ⟨-, hsegment⟩
  · rw [hsegment, String.toList_ofList]
    exact slash_notMem_escapeWhere htext
  · rw [hsegment, String.toList_ofList]
    intro hmem
    rcases List.mem_append.mp hmem with hmem | hmem
    · exact htext (List.mem_of_mem_take hmem)
    · exact absurd (List.mem_singleton.mp hmem) (by decide)

/-! ## The last piece -/

theorem hasDrive_read (h : p.IsFresh) (text : List Char) :
    (p.read file true text).hasDrive = (p.read file false text).hasDrive := by
  cases hdots : isDots text with
  | true => rw [read_of_isDots h hdots, read_of_isDots h hdots]
  | false =>
    rw [read_of_not_isDots h hdots, read_of_not_isDots h hdots]
    rfl

theorem rooted_read_of_isDots {closed : Bool} (h : p.IsFresh) (hdots : isDots text = true) :
    rooted file (p.read file closed text).toSegments =
      rootedFront file (p.lead file text).parents.reverse ++ [""] := by
  rw [read_of_isDots h hdots, toSegments_of_isFresh (isFresh_lead h text), rooted_concat]

theorem rooted_read (h : p.IsFresh) (hdots : isDots text = false) :
    rooted file (p.read file false text).toSegments =
      rootedFront file p.parents.reverse ++ [p.segmentOf file text] := by
  rw [read_of_not_isDots h hdots, if_neg Bool.false_ne_true, toSegments_append, rooted_concat]

theorem rooted_read_closed (h : p.IsFresh) (hdots : isDots text = false) :
    rooted file (p.read file true text).toSegments =
      rootedFront file (p.parents.reverse ++ [p.segmentOf file text]) ++ [""] := by
  rw [read_of_not_isDots h hdots, if_pos rfl, toSegments_of_isFresh isFresh_slash,
    ← toSegments_append, toSegments]
  exact rooted_concat _ _

theorem rooted_read_closed_of_ne_nil (h : p.IsFresh) (hdots : isDots text = false)
    (htext : text ≠ []) :
    rooted file (p.read file true text).toSegments =
      rootedFront file p.parents.reverse ++ [p.segmentOf file text, ""] := by
  rw [rooted_read_closed h hdots, rootedFront_concat (segmentOf_ne_empty h htext),
    List.append_assoc]
  rfl

end OpenPath

/-! ## Ends of paths -/

/-- An empty segment in front stays, unless it is the first of a file's path. -/
theorem rootedFront_concat_empty (front : List String) :
    rootedFront file (front ++ [""]) =
      if file = true ∧ rootedFront file front = [] then [] else rootedFront file front ++ [""] := by
  cases file with
  | false => rfl
  | true =>
    simp only [rootedFront, if_true, List.dropWhile_append, true_and, List.isEmpty_iff]
    split
    · rfl
    · rfl

variable {p : OpenPath}

/-- The end of a text goes into the last piece of its path, and a slash behind it closes this piece.
-/
theorem exists_ending (scheme : String) (h : p.IsFresh) (cs : List Char) :
    ∃ q : OpenPath, ∃ last, q.IsFresh ∧ '/' ∉ last ∧
      (last = [] ↔ cs = [] ∨ cs.getLast?.any (isSlash (isSpecial scheme)) = true) ∧
      ∀ xs, (∀ c ∈ xs, isSlash (isSpecial scheme) c = false) →
        (readPath scheme p (cs ++ xs) =
          (rooted (scheme = "file") (q.read (scheme = "file") false (last ++ xs)).toSegments,
            (q.read (scheme = "file") false (last ++ xs)).hasDrive)) ∧
        readPath scheme p (cs ++ xs ++ ['/']) =
          (rooted (scheme = "file") (q.read (scheme = "file") true (last ++ xs)).toSegments,
            (q.read (scheme = "file") true (last ++ xs)).hasDrive) := by
  obtain ⟨front, last, hlast, hsuffix, hend, hpieces⟩ := exists_last_piece (isSpecial scheme) cs
  have hfresh := @OpenPath.isFresh_readClosed (scheme = "file") p h front
  refine ⟨_, last, hfresh, notMem_of_no_slash hlast, ⟨hend, ?_⟩, fun xs hxs => ⟨?_, ?_⟩⟩
  · rintro (rfl | hslash)
    · exact List.suffix_nil.mp hsuffix
    · by_cases hne : last = []
      · exact hne
      · rw [getLast?_of_last_ne_nil hlast hsuffix hne] at hslash
        cases hslash
  · rw [readPath_eq, hpieces xs hxs, OpenPath.readAll_concat]
  · have hclosed : splitSegments (isSpecial scheme) (cs ++ xs ++ ['/']) =
        (front ++ [last ++ xs]) ++ [[]] := by
      rw [splitSegments_slash _ _ (isSlash_slash _), hpieces xs hxs]
      rfl
    rw [readPath_eq, hclosed, OpenPath.readAll_concat, OpenPath.readClosed_concat,
      OpenPath.read_nil (OpenPath.isFresh_read hfresh _)]

/-- Behind a slash an empty segment is left. -/
theorem readPath_of_slash (h : p.IsFresh) {cs : List Char}
    (hcs : cs = [] ∨ cs.getLast?.any (isSlash (isSpecial scheme)) = true) :
    ∃ front, (readPath scheme p cs).1 = front ++ [""] := by
  obtain ⟨q, last, hq, -, hend, hread⟩ := exists_ending scheme h cs
  obtain rfl : last = [] := hend.mpr hcs
  have hnil := (hread [] (List.forall_mem_nil _)).1
  rw [List.append_nil] at hnil
  rw [hnil, List.append_nil, OpenPath.read_nil hq, OpenPath.toSegments_of_isFresh hq, rooted_concat]
  exact ⟨_, rfl⟩

/-- A slash that is the first one at the end of a path is added to its text, and no more. -/
theorem readPath_slash (h : p.IsFresh) {cs : List Char} (hcs : cs ≠ [])
    (hlast : cs.getLast?.any (isSlash (isSpecial scheme)) = false) :
    (readPath scheme p (cs ++ ['/'])).2 = (readPath scheme p cs).2 ∧
      pathChars (readPath scheme p (cs ++ ['/'])).1 =
        slashed (pathChars (readPath scheme p cs).1) := by
  obtain ⟨q, last, hq, hslash, hend, hread⟩ := exists_ending scheme h cs
  have hne : last ≠ [] := by
    intro hnil
    rcases hend.mp hnil with hempty | hany
    · exact hcs hempty
    · rw [hlast] at hany
      cases hany
  obtain ⟨hopen, hclosed⟩ := hread [] (List.forall_mem_nil _)
  rw [List.append_nil, List.append_nil] at hopen hclosed
  rw [hopen, hclosed]
  refine ⟨OpenPath.hasDrive_read hq last, ?_⟩
  cases hdots : OpenPath.isDots last with
  | true =>
    rw [OpenPath.rooted_read_of_isDots hq hdots, OpenPath.rooted_read_of_isDots hq hdots,
      slashed_pathChars_empty]
  | false =>
    rw [OpenPath.rooted_read_closed_of_ne_nil hq hdots hne, OpenPath.rooted_read hq hdots,
      slashed_pathChars (OpenPath.segmentOf_ne_empty hq hne)
        (OpenPath.slash_notMem_segmentOf hq hslash)]

/-- A second slash stays in the text, unless it is that of a file's path without segments. -/
theorem readPath_second_slash (h : p.IsFresh) {cs : List Char}
    (hcs : cs = [] ∨ cs.getLast?.any (isSlash (isSpecial scheme)) = true) :
    (readPath scheme p (cs ++ ['/'])).2 = (readPath scheme p cs).2 ∧
      (pathChars (readPath scheme p (cs ++ ['/'])).1 =
          slashed (pathChars (readPath scheme p cs).1) ↔
        scheme = "file" ∧ pathChars (readPath scheme p cs).1 = ['/']) := by
  obtain ⟨q, last, hq, -, hend, hread⟩ := exists_ending scheme h cs
  obtain rfl : last = [] := hend.mpr hcs
  obtain ⟨hopen, hclosed⟩ := hread [] (List.forall_mem_nil _)
  rw [List.append_nil, List.append_nil] at hopen hclosed
  rw [hopen, hclosed]
  refine ⟨OpenPath.hasDrive_read hq [], ?_⟩
  have hempty : q.segmentOf (scheme = "file") [] = "" := by
    rcases @OpenPath.segmentOf_eq (scheme = "file") q hq [] with hsegment | ⟨hdrive, -⟩
    · exact hsegment
    · cases hdrive
  rw [OpenPath.rooted_read_closed hq rfl, OpenPath.rooted_read hq rfl, hempty,
    slashed_pathChars_empty, pathChars_concat, pathChars_concat, List.append_cancel_right_eq,
    rootedFront_concat_empty]
  have hslash : ['/'] = [] ++ '/' :: "".toList := rfl
  rw [hslash, List.append_cancel_right_eq, pathChars_eq_nil_iff]
  by_cases hkept : scheme = "file" ∧ rootedFront (scheme = "file") q.parents.reverse = []
  · rw [if_pos (by simpa using hkept), hkept.2]
    exact iff_of_true rfl ⟨hkept.1, rfl⟩
  · rw [if_neg (by simpa using hkept), pathChars_concat]
    refine iff_of_false (fun heq => ?_) hkept
    exact absurd (List.append_right_eq_self.mp heq) (List.cons_ne_nil _ _)

/-! ## Controls and spaces at the end -/

/-- Controls and spaces, as they are cut off at the ends of a text. -/
def IsPadding (cs : List Char) : Prop := ∀ c ∈ cs, c.toNat ≤ 0x20

theorem IsPadding.notMem {cs : List Char} {c : Char} (h : IsPadding cs) (hc : 0x20 < c.toNat) :
    c ∉ cs := fun hmem => Nat.not_le.mpr hc (h c hmem)

theorem IsPadding.no_slash {cs : List Char} (h : IsPadding cs) :
    ∀ c ∈ cs, isSlash special c = false := by
  intro c hc
  have hslash : c ≠ '/' := by
    rintro rfl
    exact h.notMem (by decide) hc
  have hback : c ≠ '\\' := by
    rintro rfl
    exact h.notMem (by decide) hc
  simp [isSlash, hslash, hback]

theorem toLower_of_not_capital {c : Char} (h : ¬ (c.val ≥ 'A'.val ∧ c.val ≤ 'Z'.val)) :
    c.toLower = c := dif_neg h

theorem toLower_of_le_space {c : Char} (h : c.toNat ≤ 0x20) : c.toLower = c := by
  refine toLower_of_not_capital ?_
  rintro ⟨hcapital, -⟩
  have hbound : 65 ≤ c.toNat := UInt32.le_iff_toNat_le.mp hcapital
  omega

theorem getLast?_map_toLower {text : List Char} {c : Char} (hlast : text.getLast? = some c)
    (h : c.toNat ≤ 0x20) : (text.map Char.toLower).getLast? = some c := by
  rw [List.getLast?_map, hlast, Option.map_some, toLower_of_le_space h]

/-- A piece with a control or a space at its end leads nowhere. -/
theorem OpenPath.isDots_of_padding {text : List Char} {c : Char} (hlast : text.getLast? = some c)
    (h : c.toNat ≤ 0x20) : isDots text = false := by
  have hlower := getLast?_map_toLower hlast h
  have hends : ∀ dots ∈ [['.', '.'], ['.', '%', '2', 'e'], ['%', '2', 'e', '.'],
      ['%', '2', 'e', '%', '2', 'e'], ['.'], ['%', '2', 'e']],
      dots.getLast?.all (0x20 < ·.toNat) = true := by decide
  have hnone : ∀ dots ∈ [['.', '.'], ['.', '%', '2', 'e'], ['%', '2', 'e', '.'],
      ['%', '2', 'e', '%', '2', 'e'], ['.'], ['%', '2', 'e']], text.map Char.toLower ≠ dots := by
    rintro dots hmem rfl
    have hend := hends _ hmem
    rw [hlower, Option.all_some, decide_eq_true_iff] at hend
    omega
  have hdot : text ≠ ['.'] := by
    rintro rfl
    exact hnone ['.'] (by decide) rfl
  rw [← Bool.not_eq_true]
  intro hdots
  simp only [isDots, isDoubleDot, isSingleDot, Bool.or_eq_true, decide_eq_true_iff,
    List.contains_iff_mem] at hdots
  rcases hdots with hmem | hsingle | hsingle
  · exact hnone _ (List.mem_append_left [['.'], ['%', '2', 'e']] hmem) rfl
  · exact hdot hsingle
  · exact hnone ['%', '2', 'e'] (by decide) hsingle

theorem isDrive_of_padding {text : List Char} {c : Char} (hlast : text.getLast? = some c)
    (h : c.toNat ≤ 0x20) : isDrive text = false := by
  match text with
  | [] => rfl
  | [_] => rfl
  | [letter, mark] =>
    obtain rfl : mark = c := Option.some.inj hlast
    have hcolon : mark ≠ ':' := by
      rintro rfl
      exact absurd h (by decide)
    have hbar : mark ≠ '|' := by
      rintro rfl
      exact absurd h (by decide)
    simp [isDrive, hcolon, hbar]
  | _ :: _ :: _ :: _ => rfl

theorem length_rootedFront_lead_le (q : OpenPath) (text : List Char) :
    (pathChars (rootedFront file (q.lead file text).parents.reverse)).length ≤
      (pathChars (rootedFront file q.parents.reverse)).length := by
  -- leading up takes the last of the segments away, if anything
  have hconcat : ∀ (front : List String) (s : String),
      (pathChars (rootedFront file front)).length ≤
        (pathChars (rootedFront file (front ++ [s]))).length := by
    intro front s
    cases file with
    | false =>
      rw [rootedFront, if_neg Bool.false_ne_true, rootedFront, if_neg Bool.false_ne_true,
        pathChars_concat, List.length_append]
      omega
    | true =>
      simp only [rootedFront, if_true, List.dropWhile_append, List.isEmpty_iff]
      split
      next hnil =>
        rw [hnil]
        exact Nat.zero_le _
      next =>
        rw [pathChars_concat, List.length_append]
        omega
  unfold OpenPath.lead OpenPath.up
  split
  · split
    · split
      next parent parents hparents =>
        split
        · exact Nat.le_refl _
        · rw [hparents, List.reverse_cons]
          exact hconcat _ _
      · exact Nat.le_refl _
    · unfold OpenPath.clear
      split <;> exact Nat.le_refl _
  · exact Nat.le_refl _

/-- With padding behind it and a slash behind that a path is longer than with a slash alone. -/
theorem readPath_padding (h : p.IsFresh) (cs : List Char) {padding : List Char} (hne : padding ≠ [])
    (hpadding : IsPadding padding) :
    pathChars (readPath scheme p (cs ++ padding ++ ['/'])).1 ≠
      slashed (pathChars (readPath scheme p cs).1) := by
  obtain ⟨q, last, hq, hslash, hend, hread⟩ := exists_ending scheme h cs
  have hopen := (hread [] (List.forall_mem_nil _)).1
  have hclosed := (hread padding hpadding.no_slash).2
  rw [List.append_nil, List.append_nil] at hopen
  rw [hopen, hclosed]
  have hlast : (last ++ padding).getLast? = some (padding.getLast hne) := by
    rw [List.getLast?_append, List.getLast?_eq_some_getLast hne]
    rfl
  have hlow := hpadding _ (List.getLast_mem hne)
  have hpos := List.length_pos_iff.mpr hne
  have hfull : last ++ padding ≠ [] := List.append_ne_nil_of_right_ne_nil _ hne
  rw [OpenPath.rooted_read_closed_of_ne_nil hq (OpenPath.isDots_of_padding hlast hlow) hfull]
  have hsegment : q.segmentOf (scheme = "file") (last ++ padding) =
      String.ofList (escapeWhere isPathEscaped (last ++ padding)) := by
    rcases @OpenPath.segmentOf_eq (scheme = "file") q hq (last ++ padding) with
      hsegment | ⟨hdrive, -⟩
    · exact hsegment
    · rw [isDrive_of_padding hlast hlow] at hdrive
      cases hdrive
  have hsplit : ∀ (front : List String) (s : String),
      front ++ [s, ""] = (front ++ [s]) ++ [""] := by
    intro front s
    simp
  have hescaped := @length_escapeWhere_le isPathEscaped padding
  rw [hsegment, hsplit, pathChars_concat, pathChars_concat, String.toList_ofList,
    escapeWhere_append]
  intro heq
  have hlength := congrArg List.length heq
  have hslashed := length_slashed_le
    (pathChars (rooted (scheme = "file") (q.read (scheme = "file") false last).toSegments))
  rw [← hlength] at hslashed
  cases hdots : OpenPath.isDots last with
  | true =>
    have hlead := @length_rootedFront_lead_le (scheme = "file") q last
    rw [OpenPath.rooted_read_of_isDots hq hdots, slashed_pathChars_empty] at hlength
    rw [pathChars_concat] at hlength
    simp only [List.length_append, List.length_cons] at hlength
    omega
  | false =>
    have hbound := @OpenPath.length_segmentOf_le (scheme = "file") q hq last
    rw [OpenPath.rooted_read hq hdots, pathChars_concat] at hslashed
    simp only [List.length_append, List.length_cons] at hslashed
    omega

end Url
end PoolPage
