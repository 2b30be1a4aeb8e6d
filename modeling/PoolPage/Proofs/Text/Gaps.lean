import PoolPage.Text.Blank
import Mathlib.Data.List.Basic
import Mathlib.Data.List.TakeWhile

/-!
# White space around words

A text is what is left of it without the white space at its ends, between two gaps
(`exists_trimBlanks`), and there is only one such way to take it apart (`trimBlanks_of_gaps`).  The
same holds of a first word and what stands behind it (`splitAtBlank_append`,
`exists_of_splitAtBlank`).
-/

namespace PoolPage

/-- White space only. -/
def IsGap (cs : List Char) : Prop := ∀ c ∈ cs, isBlank c = true

/-- No white space at either end. -/
structure IsTrimmed (cs : List Char) : Prop where
  head : ∀ c ∈ cs.head?, isBlank c = false
  last : ∀ c ∈ cs.getLast?, isBlank c = false

/-- Some characters, and no white space among them. -/
structure IsWord (cs : List Char) : Prop where
  ne_nil : cs ≠ []
  solid : ∀ c ∈ cs, isBlank c = false

instance (cs : List Char) : Decidable (IsGap cs) := List.decidableBAll _ cs

instance (cs : List Char) : Decidable (IsTrimmed cs) :=
  match Option.decidableForallMem (p := (isBlank · = false)) cs.head?,
    Option.decidableForallMem (p := (isBlank · = false)) cs.getLast? with
  | isTrue hhead, isTrue hlast => isTrue ⟨hhead, hlast⟩
  | isFalse hhead, _ => isFalse fun h => hhead h.head
  | _, isFalse hlast => isFalse fun h => hlast h.last

instance (cs : List Char) : Decidable (IsWord cs) :=
  match List.decidableBAll (isBlank · = false) cs, decEq cs [] with
  | isTrue hsolid, isFalse hne => isTrue ⟨hne, hsolid⟩
  | isFalse hsolid, _ => isFalse fun h => hsolid h.solid
  | _, isTrue hnil => isFalse fun h => h.ne_nil hnil

section

variable {before after gap cs text word rest : List Char}

theorem isBlank_of_isAlphanum {c : Char} (h : c.isAlphanum = true) : isBlank c = false := by
  have hbounds : 48 ≤ c.toNat ∧ c.toNat ≤ 122 := by
    obtain halpha | hdigit := (Bool.or_eq_true _ _).mp h
    · obtain hupper | hlower := (Bool.or_eq_true _ _).mp halpha
      · have hrange : 65 ≤ c.toNat ∧ c.toNat ≤ 90 := of_decide_eq_true hupper
        omega
      · obtain ⟨hlow, hhigh⟩ := (Bool.and_eq_true _ _).mp hlower
        have hrange : 97 ≤ c.toNat ∧ c.toNat ≤ 122 :=
          ⟨of_decide_eq_true hlow, of_decide_eq_true hhigh⟩
        omega
    · obtain ⟨hlow, hhigh⟩ := (Bool.and_eq_true _ _).mp hdigit
      have hrange : 48 ≤ c.toNat ∧ c.toNat ≤ 57 :=
        ⟨of_decide_eq_true hlow, of_decide_eq_true hhigh⟩
      omega
  simp only [isBlank, Blank.ranges, List.any_cons, List.any_nil, Bool.or_false,
    Bool.or_eq_false_iff, Bool.and_eq_false_iff, decide_eq_false_iff_not]
  omega

theorem isBlank_of_isDigit {c : Char} (h : c.isDigit = true) : isBlank c = false :=
  isBlank_of_isAlphanum ((Bool.or_eq_true _ _).mpr (.inr h))

theorem isGap_nil : IsGap [] := nofun

theorem IsGap.append (h : IsGap before) (h' : IsGap after) : IsGap (before ++ after) :=
  List.forall_mem_append.mpr ⟨h, h'⟩

theorem IsWord.isTrimmed (h : IsWord cs) : IsTrimmed cs :=
  ⟨fun c hc => h.solid c (List.mem_of_mem_head? hc),
    fun c hc => h.solid c (List.mem_of_mem_getLast? hc)⟩

/-- What stands around a gap decides the ends. -/
theorem IsTrimmed.append (hword : IsTrimmed word) (hne : word ≠ []) (htext : IsTrimmed text)
    (hne' : text ≠ []) (gap : List Char) : IsTrimmed (word ++ gap ++ text) := by
  constructor
  · rw [List.append_assoc, List.head?_append_of_ne_nil _ hne]
    exact hword.head
  · rw [List.getLast?_append_of_ne_nil _ hne']
    exact htext.last

/-! ## The left end -/

theorem trimLeft_gap (h : IsGap gap) (cs : List Char) : trimLeft (gap ++ cs) = trimLeft cs :=
  List.dropWhile_append_of_pos h

theorem trimLeft_of_head (h : ∀ c ∈ cs.head?, isBlank c = false) : trimLeft cs = cs := by
  cases cs with
  | nil => rfl
  | cons c cs => exact List.dropWhile_cons_of_neg (by rw [h c rfl]; exact Bool.false_ne_true)

theorem trimLeft_word (h : IsWord word) (rest : List Char) :
    trimLeft (word ++ rest) = word ++ rest := by
  refine trimLeft_of_head fun c hc => ?_
  rw [List.head?_append_of_ne_nil _ h.ne_nil] at hc
  exact h.solid c (List.mem_of_mem_head? hc)

theorem exists_trimLeft (cs : List Char) :
    ∃ before, IsGap before ∧ cs = before ++ trimLeft cs ∧
      ∀ c ∈ (trimLeft cs).head?, isBlank c = false := by
  refine ⟨cs.takeWhile isBlank, fun c hc => List.mem_takeWhile_imp hc,
    List.takeWhile_append_dropWhile.symm, fun c hc => ?_⟩
  have hhead := List.head?_dropWhile_not isBlank cs
  unfold trimLeft at hc
  rw [Option.mem_def.mp hc] at hhead
  simpa using hhead

/-! ## The right end -/

theorem trimRight_gap (h : IsGap gap) (cs : List Char) : trimRight (cs ++ gap) = trimRight cs := by
  have hreverse : IsGap gap.reverse := fun c hc => h c (List.mem_reverse.mp hc)
  unfold trimRight
  rw [List.reverse_append, List.dropWhile_append_of_pos hreverse]

theorem trimRight_of_last (h : ∀ c ∈ cs.getLast?, isBlank c = false) : trimRight cs = cs := by
  have hreverse : trimLeft cs.reverse = cs.reverse :=
    trimLeft_of_head (by rwa [List.head?_reverse])
  show (trimLeft cs.reverse).reverse = cs
  rw [hreverse, List.reverse_reverse]

theorem exists_trimRight (cs : List Char) :
    ∃ after, IsGap after ∧ cs = trimRight cs ++ after ∧
      ∀ c ∈ (trimRight cs).getLast?, isBlank c = false := by
  obtain ⟨before, hbefore, heq, hhead⟩ := exists_trimLeft cs.reverse
  refine ⟨before.reverse, fun c hc => hbefore c (List.mem_reverse.mp hc), ?_, ?_⟩
  · show cs = (trimLeft cs.reverse).reverse ++ before.reverse
    rw [← List.reverse_append, ← heq, List.reverse_reverse]
  · show ∀ c ∈ (trimLeft cs.reverse).reverse.getLast?, isBlank c = false
    rwa [List.getLast?_reverse]

/-! ## Both ends -/

/-- A text is all that is left between two gaps. -/
theorem trimBlanks_of_gaps (hbefore : IsGap before) (htext : IsTrimmed text)
    (hafter : IsGap after) : trimBlanks (before ++ text ++ after) = text := by
  unfold trimBlanks
  rw [List.append_assoc, trimLeft_gap hbefore]
  cases text with
  | nil =>
    have hempty := trimLeft_gap hafter []
    rw [List.append_nil] at hempty
    rw [List.nil_append, hempty]
    rfl
  | cons c cs =>
    rw [trimLeft_of_head (by exact htext.head), trimRight_gap hafter, trimRight_of_last htext.last]

theorem trimBlanks_of_isTrimmed (h : IsTrimmed cs) : trimBlanks cs = cs := by
  have heq := trimBlanks_of_gaps isGap_nil h isGap_nil
  rwa [List.nil_append, List.append_nil] at heq

/-- What is left has no white space at its ends, and stands between two gaps. -/
theorem exists_trimBlanks (cs : List Char) :
    IsTrimmed (trimBlanks cs) ∧
      ∃ before after, IsGap before ∧ IsGap after ∧ cs = before ++ trimBlanks cs ++ after := by
  obtain ⟨before, hbefore, hleft, hhead⟩ := exists_trimLeft cs
  obtain ⟨after, hafter, hright, hlast⟩ := exists_trimRight (trimLeft cs)
  refine ⟨⟨fun c hc => hhead c ?_, hlast⟩, before, after, hbefore, hafter, ?_⟩
  · rw [hright]
    exact List.mem_head?_append_of_mem_head? hc
  · rw [List.append_assoc]
    exact hleft.trans (congrArg (before ++ ·) hright)

/-- Behind a text that does not end in white space the trimming goes on with the rest. -/
theorem trimBlanks_append (htext : IsTrimmed text) (hne : text ≠ []) (rest : List Char) :
    trimBlanks (text ++ rest) = text ++ trimRight rest := by
  obtain ⟨after, hafter, hrest, hlast⟩ := exists_trimRight rest
  have hwhole : IsTrimmed (text ++ trimRight rest) := by
    constructor
    · rw [List.head?_append_of_ne_nil _ hne]
      exact htext.head
    · by_cases hempty : trimRight rest = []
      · rw [hempty, List.append_nil]
        exact htext.last
      · rwa [List.getLast?_append_of_ne_nil _ hempty]
  have heq := trimBlanks_of_gaps isGap_nil hwhole hafter
  rwa [List.nil_append, List.append_assoc, ← hrest] at heq

/-! ## The first word -/

/-- What comes before the first character of another kind is the longest front of a kind. -/
theorem span_append {p : Char → Bool} (hword : ∀ c ∈ word, p c = true)
    (hrest : ∀ c ∈ rest.head?, p c = false) :
    (word ++ rest).takeWhile p = word ∧ (word ++ rest).dropWhile p = rest := by
  rw [List.takeWhile_append_of_pos hword, List.dropWhile_append_of_pos hword]
  cases rest with
  | nil => exact ⟨List.append_nil word, rfl⟩
  | cons c rest =>
    have hc := Bool.eq_false_iff.mp (hrest c rfl)
    rw [List.takeWhile_cons_of_neg hc, List.dropWhile_cons_of_neg hc, List.append_nil]
    exact ⟨rfl, rfl⟩

theorem splitAtBlank_append (hword : ∀ c ∈ word, isBlank c = false) (rest : List Char)
    (hrest : ∀ c ∈ rest.head?, isBlank c = true) :
    splitAtBlank (word ++ rest) = (word, rest.drop 1) := by
  obtain ⟨htake, hdrop⟩ := span_append (p := (!isBlank ·))
    (fun c hc => congrArg not (hword c hc)) (fun c hc => congrArg not (hrest c hc))
  rw [splitAtBlank, htake, hdrop]

/-- The first word ends at white space, or the text does. -/
theorem exists_of_splitAtBlank (h : splitAtBlank cs = (word, rest)) :
    (∀ c ∈ word, isBlank c = false) ∧
      ∃ gap, IsGap gap ∧ cs = word ++ gap ++ rest ∧ (gap = [] → rest = []) := by
  obtain ⟨rfl, rfl⟩ := Prod.mk.inj h
  refine ⟨fun c hc => by simpa using List.mem_takeWhile_imp hc, ?_⟩
  have hcs := (List.takeWhile_append_dropWhile (p := (!isBlank ·)) (l := cs)).symm
  have hhead := List.head?_dropWhile_not (!isBlank ·) cs
  cases hdrop : cs.dropWhile (!isBlank ·) with
  | nil =>
    rw [hdrop] at hcs
    exact ⟨[], isGap_nil, by simpa using hcs, fun _ => rfl⟩
  | cons c rest =>
    rw [hdrop] at hcs hhead
    refine ⟨[c], fun d hd => ?_, by simpa using hcs, nofun⟩
    rw [List.mem_singleton.mp hd]
    simpa using hhead

end

end PoolPage
