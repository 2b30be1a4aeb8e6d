import PoolPage.Number.Decimal
import Mathlib.Tactic.IntervalCases
import Mathlib.Tactic.Ring

/-!
# Digits

`Positional places n text` says that a text writes `n / 10 ^ places` with that many places and
without superfluous zeros.  `fixedDigits` is such a text (`positional_fixedDigits`) and the only one
(`Positional.eq_fixedDigits`), and a text writes one number at most (`Positional.unique`).
-/

namespace PoolPage

/-! ## Lists of digits -/

def AllDigits (cs : List Char) : Prop := ∀ c ∈ cs, c.isDigit = true

namespace AllDigits

variable {cs ds : List Char}

theorem append (h : AllDigits cs) (h' : AllDigits ds) : AllDigits (cs ++ ds) :=
  List.forall_mem_append.mpr ⟨h, h'⟩

theorem replicate_zero (n : Nat) : AllDigits (List.replicate n '0') := by
  intro c hc
  rw [List.eq_of_mem_replicate hc]
  rfl

theorem digitsOf (n : Nat) : AllDigits (digitsOf n) := fun _ hc =>
  Nat.isDigit_of_mem_toDigits (by decide) (by decide) hc

end AllDigits

theorem ofDigits_eq (cs : List Char) : ofDigits cs = Nat.ofDigitChars 10 cs 0 :=
  Nat.ofDigitChars_eq_foldl.symm

@[simp] theorem ofDigits_digitsOf (n : Nat) : ofDigits (digitsOf n) = n := by
  rw [ofDigits_eq]
  exact Nat.ofDigitChars_ten_toDigits

theorem ofDigits_append (cs ds : List Char) :
    ofDigits (cs ++ ds) = ofDigits cs * 10 ^ ds.length + ofDigits ds := by
  rw [ofDigits_eq, ofDigits_eq, ofDigits_eq, Nat.ofDigitChars_append,
    Nat.ofDigitChars_eq_ofDigitChars_zero, Nat.mul_comm]

theorem ofDigits_replicate_zero (n : Nat) : ofDigits (List.replicate n '0') = 0 := by
  rw [ofDigits_eq, Nat.ofDigitChars_replicate_zero, Nat.mul_zero]

theorem ofDigits_singleton (c : Char) : ofDigits [c] = c.toNat - '0'.toNat := by simp [ofDigits]

theorem ofDigits_cons (c : Char) (cs : List Char) :
    ofDigits (c :: cs) = (c.toNat - '0'.toNat) * 10 ^ cs.length + ofDigits cs := by
  rw [← ofDigits_singleton]
  exact ofDigits_append [c] cs

theorem toNat_bounds {c : Char} (h : c.isDigit = true) : '0'.toNat ≤ c.toNat ∧ c.toNat ≤ 57 := by
  simp only [Char.isDigit, Bool.and_eq_true, decide_eq_true_eq] at h
  exact h

theorem AllDigits.ofDigits_lt {cs : List Char} (h : AllDigits cs) :
    ofDigits cs < 10 ^ cs.length := by
  induction cs with
  | nil => exact Nat.one_pos
  | cons c cs ih =>
    obtain ⟨hc, hcs⟩ := List.forall_mem_cons.mp h
    have hfirst : c.toNat - '0'.toNat ≤ 9 := Nat.sub_le_sub_right (toNat_bounds hc).2 _
    have hmul := Nat.mul_le_mul_right (10 ^ cs.length) hfirst
    have hrest := ih hcs
    rw [ofDigits_cons, List.length_cons, Nat.pow_succ]
    omega

/-- The number of the first digits and that of the last ones. -/
theorem AllDigits.div_mod {ds : List Char} (h : AllDigits ds) (cs : List Char) :
    ofDigits (cs ++ ds) / 10 ^ ds.length = ofDigits cs ∧
      ofDigits (cs ++ ds) % 10 ^ ds.length = ofDigits ds := by
  have hpos : 0 < 10 ^ ds.length := Nat.pow_pos (by decide)
  rw [ofDigits_append, Nat.mul_comm, Nat.mul_add_div hpos, Nat.mul_add_mod,
    Nat.div_eq_of_lt h.ofDigits_lt, Nat.mod_eq_of_lt h.ofDigits_lt]
  exact ⟨rfl, rfl⟩

/-- Lists of digits of one length are told apart by their numbers. -/
theorem AllDigits.eq_of_ofDigits {cs ds : List Char} (h : AllDigits cs) (h' : AllDigits ds)
    (hlength : cs.length = ds.length) (heq : ofDigits cs = ofDigits ds) : cs = ds := by
  induction cs generalizing ds with
  | nil => exact (List.length_eq_zero_iff.mp hlength.symm).symm
  | cons c cs ih =>
    cases ds with
    | nil => exact nomatch hlength
    | cons d ds =>
      obtain ⟨hc, hcs⟩ := List.forall_mem_cons.mp h
      obtain ⟨hd, hds⟩ := List.forall_mem_cons.mp h'
      have hrest : cs.length = ds.length := Nat.succ.inj hlength
      obtain ⟨hfirst, hothers⟩ := AllDigits.div_mod hcs [c]
      obtain ⟨hfirst', hothers'⟩ := AllDigits.div_mod hds [d]
      rw [List.singleton_append, heq, hrest] at hfirst hothers
      have hsame : c.toNat = d.toNat := by
        have hdigit := hfirst.symm.trans hfirst'
        rw [ofDigits_singleton, ofDigits_singleton] at hdigit
        have hle := (toNat_bounds hc).1
        have hle' := (toNat_bounds hd).1
        omega
      rw [Char.toNat_inj.mp hsame, ih hcs hds hrest (hothers.symm.trans hothers')]

theorem digitsOf_ne_nil (n : Nat) : digitsOf n ≠ [] := Nat.toDigits_ne_nil

theorem exists_length_digitsOf (n : Nat) : ∃ digits, (digitsOf n).length = digits + 1 :=
  ⟨_, (Nat.succ_pred_eq_of_pos (List.length_pos_iff.mpr (digitsOf_ne_nil n))).symm⟩

theorem length_digitsOf_le_iff {n places : Nat} (h : 0 < places) :
    (digitsOf n).length ≤ places ↔ n < 10 ^ places :=
  Nat.length_toDigits_le_iff (by decide) h

/-- The number of digits, from the powers of ten around a number. -/
theorem length_digitsOf_eq {n places : Nat} (hlow : 10 ^ places ≤ n)
    (hhigh : n < 10 ^ (places + 1)) : (digitsOf n).length = places + 1 := by
  refine Nat.le_antisymm ((length_digitsOf_le_iff (Nat.succ_pos _)).mpr hhigh) ?_
  by_contra hlt
  have hpos : 0 < (digitsOf n).length := List.length_pos_iff.mpr (digitsOf_ne_nil n)
  have hn := (length_digitsOf_le_iff (n := n) (show 0 < places by omega)).mp (by omega)
  omega

theorem le_of_length_digitsOf {n places : Nat} (hn : 0 < n)
    (h : (digitsOf n).length = places + 1) : 10 ^ places ≤ n ∧ n < 10 ^ (places + 1) := by
  refine ⟨?_, (length_digitsOf_le_iff (Nat.succ_pos _)).mp h.le⟩
  by_contra hlt
  rcases Nat.eq_zero_or_pos places with rfl | hpos
  · exact hlt hn
  · have hle := (length_digitsOf_le_iff (n := n) hpos).mpr (Nat.lt_of_not_le hlt)
    omega

/-! ## Superfluous zeros -/

/-- Digits that do not start with a zero, unless it is the only one. -/
structure IsCanonical (cs : List Char) : Prop where
  allDigits : AllDigits cs
  ne_nil : cs ≠ []
  head : 1 < cs.length → cs.head? ≠ some '0'

theorem digitsOf_of_ge {n : Nat} (h : 10 ≤ n) :
    digitsOf n = digitsOf (n / 10) ++ [(n % 10).digitChar] :=
  Nat.toDigits_of_base_le (by decide) h

theorem digitsOf_of_lt {n : Nat} (h : n < 10) : digitsOf n = [n.digitChar] :=
  Nat.toDigits_of_lt_base h

theorem head_digitsOf {n : Nat} (h : 0 < n) : (digitsOf n).head? ≠ some '0' := by
  induction n using Nat.strong_induction_on with
  | _ n ih =>
    rcases Nat.lt_or_ge n 10 with hlt | hge
    · rw [digitsOf_of_lt hlt]
      interval_cases n <;> decide
    · rw [digitsOf_of_ge hge, List.head?_append]
      have hhead := ih (n / 10) (by omega) (by omega)
      obtain ⟨c, rest, hdigits⟩ := List.exists_cons_of_ne_nil (digitsOf_ne_nil (n / 10))
      rw [hdigits] at hhead ⊢
      exact hhead

theorem isCanonical_digitsOf (n : Nat) : IsCanonical (digitsOf n) where
  allDigits := .digitsOf n
  ne_nil := digitsOf_ne_nil n
  head := by
    intro hlength
    rcases Nat.eq_zero_or_pos n with rfl | hpos
    · exact absurd hlength (by decide)
    · exact head_digitsOf hpos

namespace IsCanonical

variable {cs ds : List Char}

theorem le_ofDigits (h : IsCanonical cs) (hlength : 1 < cs.length) :
    10 ^ (cs.length - 1) ≤ ofDigits cs := by
  cases cs with
  | nil => exact nomatch hlength
  | cons c cs =>
    have hle := (toNat_bounds (h.allDigits c List.mem_cons_self)).1
    have hne : c.toNat ≠ '0'.toNat := by
      intro heq
      exact h.head hlength (congrArg some (Char.toNat_inj.mp heq))
    rw [ofDigits_cons]
    refine Nat.le_trans ?_ (Nat.le_add_right _ _)
    exact Nat.le_mul_of_pos_left _ (by omega)

/-- Digits without superfluous zeros are told apart by their numbers. -/
theorem eq_of_ofDigits (h : IsCanonical cs) (h' : IsCanonical ds)
    (heq : ofDigits cs = ofDigits ds) : cs = ds := by
  wlog hle : cs.length ≤ ds.length generalizing cs ds
  · exact (this h' h heq.symm (Nat.le_of_not_le hle)).symm
  refine h.allDigits.eq_of_ofDigits h'.allDigits (Nat.le_antisymm hle ?_) heq
  by_contra hlt
  have hpos : 0 < cs.length := List.length_pos_iff.mpr h.ne_nil
  have hlow := h'.le_ofDigits (by omega)
  have hhigh := h.allDigits.ofDigits_lt
  have hpow : 10 ^ cs.length ≤ 10 ^ (ds.length - 1) := Nat.pow_le_pow_right (by decide) (by omega)
  omega

end IsCanonical

/-! ## Numbers with places -/

/-- A point with the digits behind it, where there are any. -/
def pointed : List Char → List Char
  | [] => []
  | c :: cs => '.' :: c :: cs

/-- The text of `n / 10 ^ places` with that many places. -/
def Positional (places n : Nat) (cs : List Char) : Prop :=
  ∃ whole fraction, cs = whole ++ pointed fraction ∧ IsCanonical whole ∧ AllDigits fraction ∧
    fraction.length = places ∧ ofDigits (whole ++ fraction) = n

theorem pointed_of_length {fraction : List Char} {places : Nat} (h : fraction.length = places + 1) :
    pointed fraction = '.' :: fraction := by
  cases fraction with
  | nil => exact nomatch h
  | cons c cs => rfl

theorem positional_fixedDigits (n places : Nat) : Positional places n (fixedDigits n places) := by
  cases places with
  | zero =>
    refine ⟨digitsOf n, [], ?_, isCanonical_digitsOf n, nofun, rfl, ?_⟩
    · rw [fixedDigits, if_pos rfl]
      exact (List.append_nil _).symm
    · rw [List.append_nil, ofDigits_digitsOf]
  | succ places =>
    have hmod : n % 10 ^ (places + 1) < 10 ^ (places + 1) := Nat.mod_lt _ (Nat.pow_pos (by decide))
    have hlength := (length_digitsOf_le_iff (Nat.succ_pos places)).mpr hmod
    have hfraction : (List.replicate (places + 1 - (digitsOf (n % 10 ^ (places + 1))).length) '0' ++
        digitsOf (n % 10 ^ (places + 1))).length = places + 1 := by
      rw [List.length_append, List.length_replicate]
      omega
    refine ⟨digitsOf (n / 10 ^ (places + 1)), _, ?_, isCanonical_digitsOf _,
      (AllDigits.replicate_zero _).append (.digitsOf _), hfraction, ?_⟩
    · rw [pointed_of_length hfraction, fixedDigits, if_neg (Nat.succ_ne_zero _)]
      rfl
    · rw [ofDigits_append, hfraction, ofDigits_digitsOf, ofDigits_append, ofDigits_replicate_zero,
        ofDigits_digitsOf, Nat.zero_mul, Nat.zero_add]
      exact Nat.div_add_mod' _ _

namespace Positional

variable {places n n' : Nat} {cs : List Char}

/-- A text writes one number at most. -/
theorem unique (h : Positional places n cs) (h' : Positional places n' cs) : n = n' := by
  obtain ⟨whole, fraction, rfl, -, -, hlength, rfl⟩ := h
  obtain ⟨whole', fraction', heq, -, -, hlength', rfl⟩ := h'
  have hpointed : (pointed fraction).length = (pointed fraction').length := by
    cases places with
    | zero => rw [List.length_eq_zero_iff.mp hlength, List.length_eq_zero_iff.mp hlength']
    | succ places =>
      rw [pointed_of_length hlength, pointed_of_length hlength', List.length_cons, List.length_cons,
        hlength, hlength']
  obtain ⟨rfl, hfraction⟩ := List.append_inj' heq hpointed
  cases places with
  | zero => rw [List.length_eq_zero_iff.mp hlength, List.length_eq_zero_iff.mp hlength']
  | succ places =>
    rw [pointed_of_length hlength, pointed_of_length hlength'] at hfraction
    rw [(List.cons.inj hfraction).2]

/-- A number has one text. -/
theorem eq_fixedDigits (h : Positional places n cs) : cs = fixedDigits n places := by
  obtain ⟨whole, fraction, rfl, hwhole, hfraction, hlength, hn⟩ := h
  obtain ⟨whole', fraction', htext, hwhole', hfraction', hlength', hn'⟩ :=
    positional_fixedDigits n places
  obtain ⟨hfirst, hlast⟩ := hfraction.div_mod whole
  obtain ⟨hfirst', hlast'⟩ := hfraction'.div_mod whole'
  rw [hn, hlength] at hfirst hlast
  rw [hn', hlength'] at hfirst' hlast'
  rw [htext, hwhole.eq_of_ofDigits hwhole' (hfirst.symm.trans hfirst'),
    hfraction.eq_of_ofDigits hfraction' (hlength.trans hlength'.symm) (hlast.symm.trans hlast')]

/-- It starts with a digit. -/
theorem exists_cons (h : Positional places n cs) :
    ∃ c rest, cs = c :: rest ∧ c.isDigit = true := by
  obtain ⟨whole, fraction, rfl, hwhole, -⟩ := h
  obtain ⟨c, rest, rfl⟩ := List.exists_cons_of_ne_nil hwhole.ne_nil
  exact ⟨c, rest ++ pointed fraction, rfl, hwhole.allDigits c List.mem_cons_self⟩

end Positional

end PoolPage
