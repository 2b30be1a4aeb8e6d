import PoolPage.Metric
import PoolPage.Proofs.Figure.Plain
import PoolPage.Proofs.Figure.Precision
import PoolPage.Proofs.Figure.Scaling

/-!
# Numerals

What the notations write is a decimal numeral (`IsNumeral`) for every finite number, and for no
other one: the words for infinities and for no number start with letters.
-/

namespace PoolPage
namespace Figure

/-! ## Numerals -/

/-- An exponent with its letter and sign. -/
def IsExponent (cs : List Char) : Prop :=
  ∃ letterSign digits, cs = 'e' :: letterSign :: digits ∧ (letterSign = '+' ∨ letterSign = '-') ∧
    IsCanonical digits

/-- A decimal numeral: an optional minus, digits without superfluous zeros, perhaps a point with
digits behind it, and perhaps an exponent. -/
def IsNumeral (cs : List Char) : Prop :=
  ∃ negative places n body exponent, cs = sign negative ++ (body ++ exponent) ∧
    Positional places n body ∧ (exponent = [] ∨ IsExponent exponent)

theorem isNumeral_of_positional (negative : Bool) {places n : Nat} {body : List Char}
    (h : Positional places n body) : IsNumeral (sign negative ++ body) :=
  ⟨negative, places, n, body, [], by rw [List.append_nil], h, .inl rfl⟩

/-- A numeral starts with a digit, or with a minus and a digit. -/
theorem IsNumeral.exists_cons {cs : List Char} (h : IsNumeral cs) :
    ∃ negative c rest, cs = sign negative ++ c :: rest ∧ c.isDigit = true := by
  obtain ⟨negative, places, n, body, exponent, rfl, hbody, -⟩ := h
  obtain ⟨c, rest, rfl, hc⟩ := hbody.exists_cons
  exact ⟨negative, c, rest ++ exponent, rfl, hc⟩

theorem isNumeral_digitsOf (n : Nat) : IsNumeral (digitsOf n) :=
  isNumeral_of_positional false (positional_digitsOf n)

theorem isNumeral_toString (n : Nat) : IsNumeral (toString n).toList := by
  have hdigits : (toString n).toList = digitsOf n := Nat.toList_repr
  rw [hdigits]
  exact isNumeral_digitsOf n

theorem IsLiteral.isNumeral {text : String} (h : IsLiteral text) : IsNumeral text.toList := by
  obtain ⟨negative, places, n, cs, -, htext, hcs, -⟩ := h
  rw [htext]
  exact isNumeral_of_positional negative hcs

theorem isNumeral_of_isWritten {negative : Bool} {digits n : ℕ} {e : ℤ} {cs : List Char}
    (h : IsWritten digits n e cs) : IsNumeral (sign negative ++ cs) := by
  unfold IsWritten at h
  split at h
  · obtain ⟨first, rest, hdigits, rfl⟩ := h
    have hall := AllDigits.digitsOf n
    rw [hdigits] at hall
    have hfirst : IsCanonical [first] :=
      ⟨fun c hc => hall c (by rw [List.mem_singleton.mp hc]; exact List.mem_cons_self), nofun,
        fun hlength => absurd hlength (Nat.lt_irrefl 1)⟩
    refine ⟨negative, rest.length, ofDigits ([first] ++ rest), first :: pointed rest, _, rfl,
      ⟨[first], rest, rfl, hfirst, fun c hc => hall c (List.mem_cons_of_mem _ hc), rfl, rfl⟩,
      .inr ⟨_, _, rfl, ?_, isCanonical_digitsOf _⟩⟩
    split
    · exact .inr rfl
    · exact .inl rfl
  · exact isNumeral_of_positional negative h

/-! ## Finite numbers -/

theorem isNumeral_plain {x : Binary64} (h : x.isFinite = true) : IsNumeral (plain x).toList := by
  obtain ⟨negative, rank, rfl⟩ := Binary64.exists_of_isFinite h
  exact (read?_plain negative rank).1.isNumeral

theorem isNumeral_fixed {x : Binary64} (h : x.isFinite = true) (places : Nat) :
    IsNumeral (fixed x places).toList := by
  obtain ⟨negative, rank, rfl⟩ := Binary64.exists_of_isFinite h
  by_cases hlt : magnitude rank < 10 ^ 21
  · rw [toList_fixed negative places hlt, fixedRank_eq]
    exact isNumeral_of_positional negative (positional_fixedDigits _ _)
  · rw [fixed, if_neg fun hlimit => hlt (abs_lt_integerLimit_iff.mp hlimit)]
    exact isNumeral_plain h

theorem isNumeral_precision {x : Binary64} (h : x.isFinite = true) {digits : Nat}
    (hmin : 1 ≤ digits) (hmax : digits ≤ 15) : IsNumeral (precision x digits).toList := by
  obtain ⟨negative, rank, rfl⟩ := Binary64.exists_of_isFinite h
  rcases Nat.eq_zero_or_pos rank.val with hzero | hpos
  · rw [precision_zero hmin hzero, ← fixedDigits_zero]
    exact isNumeral_of_positional false (positional_fixedDigits _ _)
  · obtain ⟨n, e, cs, -, hcs, htext⟩ := exists_isWritten negative hmin hmax hpos
    rw [htext]
    exact isNumeral_of_isWritten hcs

/-! ## Figures -/

/-- Numerals or sentinels one behind the other, each with a unit. -/
def IsFigure (units : List String) (text : String) : Prop :=
  ∃ parts : List (List Char × String), parts ≠ [] ∧
    text.toList = parts.flatMap (fun part => part.1 ++ part.2.toList) ∧
    ∀ part ∈ parts, (IsNumeral part.1 ∨ part.1 = Metric.sentinel.toList) ∧ part.2 ∈ units

section

variable {units : List String} {unit text : String} {x : Binary64}

theorem isFigure_of_isNumeral (h : IsNumeral text.toList) (hunit : unit ∈ units) :
    IsFigure units (text ++ unit) := by
  refine ⟨[(text.toList, unit)], List.cons_ne_nil _ _, ?_, ?_⟩
  · rw [String.toList_append, List.flatMap_singleton]
  · intro part hpart
    rw [List.mem_singleton.mp hpart]
    exact ⟨.inl h, hunit⟩

theorem isFigure_sentinel (hempty : "" ∈ units) : IsFigure units Metric.sentinel := by
  refine ⟨[(Metric.sentinel.toList, "")], List.cons_ne_nil _ _, rfl, ?_⟩
  intro part hpart
  rw [List.mem_singleton.mp hpart]
  exact ⟨.inr rfl, hempty⟩

/-- Two figures one behind the other. -/
theorem IsFigure.append {text' : String} (h : IsFigure units text) (h' : IsFigure units text') :
    IsFigure units (text ++ text') := by
  obtain ⟨parts, hne, htext, hparts⟩ := h
  obtain ⟨parts', -, htext', hparts'⟩ := h'
  refine ⟨parts ++ parts', List.append_ne_nil_of_left_ne_nil hne _, ?_, ?_⟩
  · rw [String.toList_append, htext, htext', List.flatMap_append]
  · exact List.forall_mem_append.mpr ⟨hparts, hparts'⟩

/-- A figure starts with a digit, with a minus and a digit, or with the sentinel. -/
theorem IsFigure.exists_cons (h : IsFigure units text) :
    (∃ negative c rest, text.toList = sign negative ++ c :: rest ∧ c.isDigit = true) ∨
      ∃ rest, text.toList = Metric.sentinel.toList ++ rest := by
  obtain ⟨parts, hne, htext, hparts⟩ := h
  obtain ⟨⟨cs, unit⟩, others, rfl⟩ := List.exists_cons_of_ne_nil hne
  rw [List.flatMap_cons, List.append_assoc] at htext
  rcases (hparts _ List.mem_cons_self).1 with hnumeral | hsentinel
  · obtain ⟨negative, c, rest, hcs, hc⟩ := hnumeral.exists_cons
    rw [hcs, List.append_assoc, List.cons_append] at htext
    exact .inl ⟨negative, c, _, htext, hc⟩
  · exact .inr ⟨_, by rw [htext, hsentinel]⟩

/-! ## Numbers that are not finite -/

/-- The words for infinities and for no number are no figures. -/
theorem not_isFigure_positional {rest : List Char} (hx : x.isFinite = false)
    (htext : text.toList = positional x ++ rest) : ¬IsFigure units text := by
  intro h
  rcases h.exists_cons with ⟨negative, c, rest', heq, hc⟩ | ⟨rest', heq⟩
  · rw [htext] at heq
    cases x with
    | nan =>
      cases negative <;> cases heq
      exact nomatch hc
    | infinite negative' =>
      cases negative <;> cases negative' <;> cases heq
      · exact nomatch hc
      · exact nomatch hc
      · exact nomatch hc
    | finite _ _ => exact nomatch hx
  · rw [htext] at heq
    cases x with
    | nan => exact nomatch heq
    | infinite negative' => cases negative' <;> exact nomatch heq
    | finite _ _ => exact nomatch hx

theorem plain_of_not_isFinite (hx : x.isFinite = false) :
    plain x = String.ofList (positional x) := by
  cases x with
  | finite _ _ => exact nomatch hx
  | _ => rfl

theorem fixed_of_not_isFinite (hx : x.isFinite = false) (places : Nat) :
    fixed x places = plain x := by
  cases x with
  | finite _ _ => exact nomatch hx
  | _ => rfl

theorem isFigure_plain_iff (hunit : unit ∈ units) :
    IsFigure units (plain x ++ unit) ↔ x.isFinite = true := by
  refine ⟨fun h => ?_, fun h => isFigure_of_isNumeral (isNumeral_plain h) hunit⟩
  by_contra hx
  rw [Bool.not_eq_true] at hx
  have htext : (plain x ++ unit).toList = positional x ++ unit.toList := by
    rw [plain_of_not_isFinite hx, String.toList_append, String.toList_ofList]
  exact not_isFigure_positional hx htext h

theorem isFigure_fixed_iff {places : Nat} (hunit : unit ∈ units) :
    IsFigure units (fixed x places ++ unit) ↔ x.isFinite = true := by
  refine ⟨fun h => ?_, fun h => isFigure_of_isNumeral (isNumeral_fixed h places) hunit⟩
  by_contra hx
  rw [Bool.not_eq_true] at hx
  rw [fixed_of_not_isFinite hx, isFigure_plain_iff hunit, hx] at h
  exact Bool.false_ne_true h

end

end Figure
end PoolPage
