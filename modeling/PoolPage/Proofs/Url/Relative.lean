import Mathlib.Data.List.DropRight
import PoolPage.Proofs.Url.Endings

/-!
# Texts with a slash behind them, and texts relative to a base

A slash behind a text brings back the controls and spaces that were cut off at its end
(`cleaned_slash`).  A text that starts with a name goes on from the segments of its base but the
last one (`join_eq`).
-/

namespace PoolPage
namespace Url

/-! ## Texts with a slash behind them -/

/-- A control or a space. -/
def isLow (c : Char) : Bool := c.toNat ≤ 0x20

/-- The controls and spaces at the end of a text that count when something stands behind them. -/
def trailing (text : String) : List Char :=
  (text.toList.reverse.takeWhile isLow).reverse.filter (!isIgnoredInText ·)

theorem isPadding_trailing (text : String) : IsPadding (trailing text) := by
  intro c hc
  have hmem := List.mem_reverse.mp (List.mem_filter.mp hc).1
  have hlow : isLow c = true := List.mem_takeWhile_imp hmem
  exact of_decide_eq_true hlow

theorem cleaned_eq (text : String) :
    cleaned text =
      (((text.toList.dropWhile isLow).reverse.dropWhile isLow).reverse).filter
        (!isIgnoredInText ·) := rfl

/-- Unless it is cut off whole, a text ends in what is left of it and what counts at its end. -/
theorem cleaned_slash {text : String} (h : cleaned text ≠ []) :
    cleaned (text ++ "/") = cleaned text ++ (trailing text ++ ['/']) := by
  rw [cleaned_eq] at h
  have hfront : text.toList.dropWhile isLow ≠ [] := by
    intro hnil
    rw [hnil] at h
    exact h rfl
  have hback : (text.toList.dropWhile isLow).reverse.dropWhile isLow ≠ [] := by
    intro hnil
    rw [hnil] at h
    exact h rfl
  have hreverse : text.toList.reverse =
      (text.toList.dropWhile isLow).reverse ++ (text.toList.takeWhile isLow).reverse := by
    rw [← List.reverse_append, List.takeWhile_append_dropWhile]
  have htrail : text.toList.reverse.takeWhile isLow =
      (text.toList.dropWhile isLow).reverse.takeWhile isLow := by
    rw [hreverse, takeWhile_append_of_stop hback]
  have hchars : (text ++ "/").toList = text.toList ++ ['/'] := String.toList_append
  rw [cleaned_eq, cleaned_eq, trailing, htrail, hchars, dropWhile_append_of_stop hfront]
  generalize text.toList.dropWhile isLow = front
  have hslash : (front ++ ['/']).reverse.dropWhile isLow = '/' :: front.reverse := by
    rw [List.reverse_append]
    rfl
  have hsplit : (front.reverse.dropWhile isLow).reverse ++ (front.reverse.takeWhile isLow).reverse =
      front := by
    rw [← List.reverse_append, List.takeWhile_append_dropWhile, List.reverse_reverse]
  rw [hslash, List.reverse_cons, List.reverse_reverse, ← List.append_assoc, ← List.filter_append,
    hsplit, List.filter_append]
  rfl

/-- A slash at the end of a text is not cut off. -/
theorem getLast?_cleaned {text : String} (h : text.toList.getLast? = some '/') :
    (cleaned text).getLast? = some '/' := by
  obtain ⟨before, hbefore⟩ := List.getLast?_eq_some_iff.mp h
  have hfront : ∃ front, text.toList.dropWhile isLow = front ++ ['/'] := by
    rw [hbefore, List.dropWhile_append]
    split
    · exact ⟨[], rfl⟩
    · exact ⟨_, rfl⟩
  obtain ⟨front, hfront⟩ := hfront
  have hslash : (front ++ ['/']).reverse.dropWhile isLow = '/' :: front.reverse := by
    rw [List.reverse_append]
    rfl
  rw [cleaned_eq, hfront, hslash, List.reverse_cons, List.filter_append]
  exact List.getLast?_concat

/-! ## Texts relative to a base -/

section Relative

variable {base : Url} {segments : List String} {text : String}

/-- A path to go on with. -/
def goOn (file : Bool) (segments : List String) : OpenPath :=
  (OpenPath.ofSegments segments).clear file

/-- A text that starts with a name, and not with a scheme or a drive, goes on from the segments of
its base. -/
theorem join_eq (hpath : base.path = .segments segments) {c : Char} {rest : List Char}
    (htext : cleaned text = c :: rest) (hscheme : splitScheme (c :: rest) = none)
    (hslash : isSlash true c = false) (hquery : c ≠ '?') (hfragment : c ≠ '#')
    (hdrive : startsWithDrive (c :: rest) = false) :
    base.join text =
      .ok (base.withTail
        (.segments (readPath base.scheme (goOn (base.scheme = "file") segments)
          (Tail.ofText (c :: rest)).path).1)
        (Tail.ofText (c :: rest))) := by
  have hwithin : parseWithin base (c :: rest) = base.withTail
      (.segments (readPath base.scheme (goOn (base.scheme = "file") segments)
        (Tail.ofText (c :: rest)).path).1) (Tail.ofText (c :: rest)) := by
    have hfull : (Tail.ofText (c :: rest)).path.isEmpty = false := by
      rw [Tail.ofText_cons hquery hfragment]
      rfl
    unfold parseWithin
    simp only [hfull, Bool.false_eq_true, if_false, hpath]
    rfl
  rw [← hwithin]
  have hwithout : base.join text =
      if base.scheme = "file" then parseFile (some base) (c :: rest)
      else parseRelative base (c :: rest) := by
    unfold join parseRelativeTo
    simp only [htext, hscheme]
    unfold parseWithoutScheme
    simp only [hpath]
    split
    next heq =>
      rw [List.cons.injEq] at heq
      exact absurd heq.1 hfragment
    next heq _ => cases heq
    next => rfl
  rw [hwithout]
  split
  · cases rest with
    | nil => simp only [parseFile, parseFile.within, hslash, hdrive, Bool.false_eq_true, if_false]
    | cons d rest =>
      simp only [parseFile, parseFile.within, hslash, hdrive, Bool.false_and, Bool.false_eq_true,
        if_false]
  · have hcount : slashCount (c :: rest) = 0 := by
      rw [slashCount, List.takeWhile_cons, hslash]
      rfl
    unfold parseRelative
    simp only [hcount]
    rfl

/-- A path without structure is none to go on from. -/
theorem join_of_whole {whole : String} (hpath : base.path = .whole whole) {c : Char}
    {rest : List Char} (htext : cleaned text = c :: rest)
    (hscheme : splitScheme (c :: rest) = none) (hfragment : c ≠ '#') :
    base.join text = .error .relativeToWhole := by
  unfold join parseRelativeTo
  simp only [htext, hscheme]
  unfold parseWithoutScheme
  simp only [hpath]
  split
  next heq =>
    rw [List.cons.injEq] at heq
    exact absurd heq.1 hfragment
  next => rfl
  next heq _ => cases heq

/-- The segments of a path from the root have no empty ones in front that a file's would lose. -/
theorem rootedFront_dropLast_readPath (scheme : String) (p : OpenPath) (cs : List Char) :
    rootedFront (scheme = "file") (readPath scheme p cs).1.dropLast =
      (readPath scheme p cs).1.dropLast := by
  rw [readPath_eq]
  generalize decide (scheme = "file") = file
  rw [OpenPath.toSegments, List.reverse_cons, rooted_concat, List.dropLast_concat]
  cases file with
  | false => rfl
  | true =>
    simp only [rootedFront, if_true]
    exact List.dropWhile_idempotent _ _

theorem goOn_of_not_kept {file : Bool} (h : (file && segments.getLast?.any
    fun last => isPlainDrive last.toList) = false) :
    goOn file segments = ⟨segments.dropLast.reverse, "", false⟩ := by
  rcases List.eq_nil_or_concat segments with rfl | ⟨front, last, rfl⟩
  · cases file <;> rfl
  · rw [List.concat_eq_append, List.getLast?_concat, Option.any_some] at h
    rw [List.concat_eq_append, List.dropLast_concat]
    unfold goOn OpenPath.ofSegments OpenPath.clear
    simp only [List.reverse_append, List.reverse_singleton, List.singleton_append, h]
    rfl

/-- A slash closes the piece before it, and what follows is read behind it. -/
theorem readPath_append_slash {scheme : String} (p : OpenPath) {cs : List Char}
    (hslash : ∀ c ∈ cs, isSlash (isSpecial scheme) c = false) (rest : List Char) :
    readPath scheme p (cs ++ '/' :: rest) =
      readPath scheme (p.read (scheme = "file") true cs) rest := by
  obtain ⟨front, last, -, -, -, hpieces⟩ := exists_last_piece (isSpecial scheme) rest
  have hrest := hpieces [] (List.forall_mem_nil _)
  rw [List.append_nil, List.append_nil] at hrest
  rw [readPath_eq, readPath_eq, splitSegments_slash _ _ (isSlash_slash _),
    splitSegments_of_no_slash hslash, hrest, ← List.append_assoc, OpenPath.readAll_concat,
    OpenPath.readAll_concat]
  rfl

/-- The last segment is what the text behind the last slash becomes, unless that is dots. -/
theorem exists_last_segment {scheme : String} {p : OpenPath} (h : p.IsFresh) (cs : List Char) :
    ∃ front segment, (readPath scheme p cs).1 = front ++ [segment] ∧
      (segment = "" ∨ ∃ (q : OpenPath) (last : List Char), q.IsFresh ∧ last <:+ cs ∧
        (∀ c ∈ last, isSlash (isSpecial scheme) c = false) ∧
        segment = q.segmentOf (scheme = "file") last) := by
  obtain ⟨pieces, last, hlast, hsuffix, -, hpieces⟩ := exists_last_piece (isSpecial scheme) cs
  have hsplit := hpieces [] (List.forall_mem_nil _)
  rw [List.append_nil, List.append_nil] at hsplit
  rw [readPath_eq, hsplit, OpenPath.readAll_concat]
  have hfresh := @OpenPath.isFresh_readClosed (scheme = "file") p h pieces
  cases hdots : OpenPath.isDots last with
  | true => exact ⟨_, _, OpenPath.rooted_read_of_isDots hfresh hdots, Or.inl rfl⟩
  | false =>
    exact ⟨_, _, OpenPath.rooted_read hfresh hdots, Or.inr ⟨_, last, hfresh, hsuffix, hlast, rfl⟩⟩

/-- A text without slashes becomes one more segment. -/
theorem readPath_name {scheme : String} {p : OpenPath} (h : p.IsFresh) {cs : List Char}
    (hslash : ∀ c ∈ cs, isSlash (isSpecial scheme) c = false) (hdots : OpenPath.isDots cs = false) :
    (readPath scheme p cs).1 =
      rootedFront (scheme = "file") p.parents.reverse ++ [p.segmentOf (scheme = "file") cs] := by
  rw [readPath_eq, splitSegments_of_no_slash hslash]
  exact OpenPath.rooted_read h hdots

end Relative

end Url
end PoolPage
