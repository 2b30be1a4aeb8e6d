import PoolPage.Figure
import PoolPage.Proofs.Number.Prefixes
import PoolPage.Proofs.Number.Rounding

/-!
# Reading numbers

The longest text of a number at the front of a text, white space apart, is read as the
double-precision number nearest to its value, and nothing is read if there is no such text
(`read?_longest`).
-/

namespace PoolPage
namespace Figure

/-- The text of an unsigned number with its value, which infinity does not have. -/
inductive IsUnsigned : List Char → Option ℚ → Prop
  | infinity : IsUnsigned infinityWord none
  | numeral {n : Numeral} {cs : List Char} :
      n.Spells cs →
        IsUnsigned cs
          (some (ofDigits (n.whole ++ n.fraction) * 10 ^ (n.exponent - n.fraction.length)))

/-- The text of a number with its sign and the value behind it. -/
def IsNumber (cs : List Char) (negative : Bool) (value : Option ℚ) : Prop :=
  ∃ sign unsigned, IsSign negative sign ∧ IsUnsigned unsigned value ∧ cs = sign ++ unsigned

/-- The longest text at the front of another one that is the text of a number. -/
structure IsLongestNumber (cs text : List Char) : Prop where
  front : text <+: cs
  number : ∃ negative value, IsNumber text negative value
  longest : ∀ other, other <+: cs → (∃ negative value, IsNumber other negative value) →
    other.length ≤ text.length

/-- The double-precision number nearest to a value with a sign, of two the even one, which is
infinite past the largest. -/
def IsNearestNumber (negative : Bool) (value : Option ℚ) (x : Binary64) : Prop :=
  match value with
  | some v => ∃ rank, IsNearestRank v rank ∧ x = .ofRank negative rank
  | none => x = .infinite negative

theorem IsNearestNumber.unique {negative : Bool} {value : Option ℚ} {x y : Binary64}
    (hx : IsNearestNumber negative value x) (hy : IsNearestNumber negative value y) : x = y := by
  cases value with
  | none => exact hx.trans hy.symm
  | some v =>
    obtain ⟨rank, hrank, rfl⟩ := hx
    obtain ⟨rank', hrank', rfl⟩ := hy
    rw [hrank.unique hrank']

/-! ## Unsigned numbers -/

section

variable {cs text rest : List Char} {negative : Bool} {value value' : Option ℚ} {x : Binary64}

theorem exists_infinityWord : ∃ letters, infinityWord = 'I' :: letters :=
  ⟨"nfinity".toList, by decide⟩

/-- The text of a numeral does not start like infinity. -/
theorem append_ne_infinityWord {n : Numeral} (h : n.Spells cs) (rest left : List Char) :
    cs ++ rest ≠ infinityWord ++ left := by
  obtain ⟨c, others, rfl, hc⟩ := h.exists_head
  intro heq
  obtain ⟨letters, hword⟩ := exists_infinityWord
  rw [hword, List.cons_append, List.cons_append] at heq
  obtain ⟨rfl, -⟩ := List.cons.inj heq
  rcases hc with hdigit | hpoint
  · exact nomatch hdigit
  · exact nomatch hpoint

/-- An unsigned number starts with no sign. -/
theorem IsUnsigned.head_ne (h : IsUnsigned cs value) (rest : List Char) :
    ∀ c ∈ (cs ++ rest).head?, c ≠ '-' ∧ c ≠ '+' := by
  intro c hc
  cases h with
  | infinity =>
    obtain ⟨letters, hword⟩ := exists_infinityWord
    rw [hword] at hc
    cases hc
    decide
  | numeral hspells =>
    obtain ⟨d, others, rfl, hd⟩ := hspells.exists_head
    cases hc
    rcases hd with hdigit | rfl
    · exact ne_sign_of_isDigit hdigit
    · decide

/-- A text has one value at most. -/
theorem IsUnsigned.unique (h : IsUnsigned cs value) (h' : IsUnsigned cs value') :
    value = value' := by
  cases h with
  | infinity =>
    generalize hcs : infinityWord = cs at h'
    cases h' with
    | infinity => rfl
    | numeral hspells =>
      exact absurd (congrArg (· ++ []) hcs.symm) (append_ne_infinityWord hspells [] [])
  | numeral hspells =>
    cases h' with
    | infinity => exact absurd rfl (append_ne_infinityWord hspells [] [])
    | numeral hspells' =>
      obtain ⟨n, left, hscan, -, hsame⟩ := hspells.scan?_append []
      obtain ⟨n', left', hscan', -, hsame'⟩ := hspells'.scan?_append []
      rw [hscan'] at hscan
      cases hscan
      rw [← hsame rfl, ← hsame' rfl]

/-- What `read?` makes of a text behind its sign. -/
def readUnsigned? (negative : Bool) (cs : List Char) : Option Binary64 :=
  if infinityWord.isPrefixOf cs then some (.infinite negative)
  else (Numeral.scan? cs).map fun (numeral, _) => numeral.toBinary64 negative

theorem readUnsigned?_eq_none (h : readUnsigned? negative (cs ++ rest) = none) :
    ¬IsUnsigned cs value := by
  intro hcs
  unfold readUnsigned? at h
  split at h
  · exact nomatch h
  · next hnot =>
    cases hcs with
    | infinity => exact hnot (List.isPrefixOf_iff_prefix.mpr (List.prefix_append _ _))
    | numeral hspells =>
      obtain ⟨n, left, hscan, -⟩ := hspells.scan?_append rest
      rw [hscan] at h
      exact nomatch h

theorem isNearestNumber_toBinary64 (n : Numeral) (negative : Bool) :
    IsNearestNumber negative
      (some (ofDigits (n.whole ++ n.fraction) * 10 ^ (n.exponent - n.fraction.length)))
      (n.toBinary64 negative) :=
  n.toDecimal.exists_isNearestRank negative

/-- What is read is the value of an unsigned number at the front, and none there is longer. -/
theorem readUnsigned?_eq_some (h : readUnsigned? negative cs = some x) :
    ∃ text value, text <+: cs ∧ IsUnsigned text value ∧ IsNearestNumber negative value x ∧
      ∀ other value', other <+: cs → IsUnsigned other value' → other.length ≤ text.length := by
  unfold readUnsigned? at h
  split at h
  · next hword =>
    cases h
    obtain ⟨left, rfl⟩ := List.isPrefixOf_iff_prefix.mp hword
    refine ⟨infinityWord, none, List.prefix_append _ _, .infinity, rfl, ?_⟩
    rintro other value' ⟨rest, heq⟩ hother
    cases hother with
    | infinity => exact le_refl _
    | numeral hspells => exact absurd heq (append_ne_infinityWord hspells _ _)
  · next hnot =>
    obtain ⟨⟨n, left⟩, hscan, rfl⟩ := Option.map_eq_some_iff.mp h
    obtain ⟨text, rfl, hspells⟩ := Numeral.exists_of_scan? hscan
    refine ⟨text, _, List.prefix_append _ _, .numeral hspells,
      isNearestNumber_toBinary64 n negative, ?_⟩
    rintro other value' ⟨rest, heq⟩ hother
    cases hother with
    | infinity => exact absurd (List.isPrefixOf_iff_prefix.mpr ⟨rest, heq⟩) hnot
    | numeral hspells' =>
      obtain ⟨n', left', hscan', hle, -⟩ := hspells'.scan?_append rest
      rw [heq, hscan] at hscan'
      cases hscan'
      have hlength := congrArg List.length heq
      rw [List.length_append, List.length_append] at hlength
      omega

/-! ## Numbers with a sign -/

/-- The sign of a number at the front is the sign that is found there. -/
theorem IsNumber.exists_of_prefix {sign : List Char} (hscan : scanSign cs = (negative, rest))
    (hcs : cs = sign ++ rest) {negative' : Bool} (h : IsNumber text negative' value)
    (hfront : text <+: cs) :
    ∃ unsigned, negative' = negative ∧ text = sign ++ unsigned ∧ unsigned <+: rest ∧
      IsUnsigned unsigned value := by
  obtain ⟨sign', unsigned, hsign, hunsigned, rfl⟩ := h
  obtain ⟨left, rfl⟩ := hfront
  rw [List.append_assoc, hsign.scanSign_append (hunsigned.head_ne left)] at hscan
  cases hscan
  rw [List.append_assoc] at hcs
  exact ⟨unsigned, rfl, by rw [List.append_cancel_right hcs], List.prefix_append _ _, hunsigned⟩

/-- A text is one number at most. -/
theorem IsNumber.unique {negative' : Bool} (h : IsNumber text negative value)
    (h' : IsNumber text negative' value') : negative = negative' ∧ value = value' := by
  obtain ⟨sign, unsigned, hsign, hunsigned, rfl⟩ := h
  obtain ⟨sign', unsigned', hsign', hunsigned', heq⟩ := h'
  have hhead := hunsigned.head_ne []
  have hhead' := hunsigned'.head_ne []
  rw [List.append_nil] at hhead hhead'
  have hscan := hsign.scanSign_append hhead
  rw [heq, hsign'.scanSign_append hhead'] at hscan
  cases hscan
  exact ⟨rfl, hunsigned.unique hunsigned'⟩

theorem IsLongestNumber.unique {text' : List Char} (h : IsLongestNumber cs text)
    (h' : IsLongestNumber cs text') : text = text' := by
  have hlength := Nat.le_antisymm (h'.longest _ h.front h.number) (h.longest _ h'.front h'.number)
  exact (List.prefix_of_prefix_length_le h.front h'.front hlength.le).eq_of_length hlength

theorem not_isNumber_of_eq_none (hscan : scanSign cs = (negative, rest))
    (hnone : readUnsigned? negative rest = none) (hfront : text <+: cs) {negative' : Bool} :
    ¬IsNumber text negative' value := by
  intro h
  obtain ⟨sign, hcs, -⟩ := exists_of_scanSign hscan
  obtain ⟨unsigned, -, -, ⟨left, rfl⟩, hunsigned⟩ := h.exists_of_prefix hscan hcs hfront
  exact readUnsigned?_eq_none hnone hunsigned

/-- What is read behind the sign is the longest number with the sign. -/
theorem exists_isLongestNumber (hscan : scanSign cs = (negative, rest))
    (hx : readUnsigned? negative rest = some x) :
    ∃ front value, IsLongestNumber cs front ∧ IsNumber front negative value ∧
      IsNearestNumber negative value x := by
  obtain ⟨sign, hcs, hsign⟩ := exists_of_scanSign hscan
  obtain ⟨unsigned, value, hprefix, hunsigned, hnearest, hlongest⟩ := readUnsigned?_eq_some hx
  have hnumber : IsNumber (sign ++ unsigned) negative value :=
    ⟨sign, unsigned, hsign, hunsigned, rfl⟩
  refine ⟨sign ++ unsigned, value, ⟨?_, ⟨_, _, hnumber⟩, ?_⟩, hnumber, hnearest⟩
  · rw [hcs]
    exact (List.prefix_append_right_inj sign).mpr hprefix
  · rintro other hother ⟨negative', value', hother'⟩
    obtain ⟨unsigned', -, rfl, hprefix', hunsigned'⟩ := hother'.exists_of_prefix hscan hcs hother
    rw [List.length_append, List.length_append]
    exact Nat.add_le_add_left (hlongest _ _ hprefix' hunsigned') _

theorem read?_eq (text : String) :
    read? text = readUnsigned? (scanSign (trimLeft text.toList)).1
      (scanSign (trimLeft text.toList)).2 := rfl

end

/-- Nothing is read exactly if no text of a number is at the front, white space apart; and what is
read is the number nearest to the value of the longest one there. -/
theorem read?_longest (text : String) :
    (read? text = none ↔
        ∀ front, front <+: trimLeft text.toList →
          ¬∃ negative value, IsNumber front negative value) ∧
      ∀ x, read? text = some x ↔
        ∃ front negative value, IsLongestNumber (trimLeft text.toList) front ∧
          IsNumber front negative value ∧ IsNearestNumber negative value x := by
  rw [read?_eq]
  generalize trimLeft text.toList = cs
  obtain ⟨⟨negative, rest⟩, hscan⟩ : ∃ r, scanSign cs = r := ⟨_, rfl⟩
  rw [hscan]
  constructor
  · constructor
    · rintro hnone front hfront ⟨negative', value, hnumber⟩
      exact not_isNumber_of_eq_none hscan hnone hfront hnumber
    · intro hnot
      by_contra hsome
      obtain ⟨x, hx⟩ := Option.ne_none_iff_exists'.mp hsome
      obtain ⟨front, value, hlongest, -⟩ := exists_isLongestNumber hscan hx
      exact hnot front hlongest.front hlongest.number
  · intro x
    constructor
    · intro hx
      obtain ⟨front, value, h⟩ := exists_isLongestNumber hscan hx
      exact ⟨front, negative, value, h⟩
    · rintro ⟨front, negative', value, hlongest, hnumber, hnearest⟩
      cases hx : readUnsigned? negative rest with
      | none => exact absurd hnumber (not_isNumber_of_eq_none hscan hx hlongest.front)
      | some y =>
        obtain ⟨front', value', hlongest', hnumber', hnearest'⟩ := exists_isLongestNumber hscan hx
        obtain rfl := hlongest.unique hlongest'
        obtain ⟨rfl, rfl⟩ := hnumber.unique hnumber'
        rw [hnearest.unique hnearest']

end Figure
end PoolPage
