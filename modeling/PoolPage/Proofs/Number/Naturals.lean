import PoolPage.Number.Natural
import PoolPage.Proofs.Number.Digits
import PoolPage.Proofs.Text.Gaps

/-!
# Natural numbers in texts

A natural number is written as its digits, and may be written with more zeros and a plus before them
(`IsSpelling`).  Reading accepts exactly these texts, of the numbers below the limit
(`readNatural_eq_ok_iff`).
-/

namespace PoolPage

/-- The digits of a number, after any count of zeros and an optional plus. -/
def IsSpelling (n : ℕ) (cs : List Char) : Prop :=
  ∃ plus zeros, (plus = [] ∨ plus = ['+']) ∧ cs = plus ++ List.replicate zeros '0' ++ digitsOf n

theorem isSpelling_digitsOf (n : ℕ) : IsSpelling n (digitsOf n) := ⟨[], 0, .inl rfl, rfl⟩

section

variable {limit value n : ℕ} {cs : List Char}

/-- Digits are the digits of their number, after some zeros. -/
theorem exists_zeros_of_allDigits (h : AllDigits cs) (hne : cs ≠ []) :
    ∃ zeros, cs = List.replicate zeros '0' ++ digitsOf (ofDigits cs) := by
  have hlength := (length_digitsOf_le_iff (List.length_pos_iff.mpr hne)).mpr h.ofDigits_lt
  refine ⟨cs.length - (digitsOf (ofDigits cs)).length,
    h.eq_of_ofDigits ((AllDigits.replicate_zero _).append (.digitsOf _)) ?_ ?_⟩
  · rw [List.length_append, List.length_replicate]
    omega
  · rw [ofDigits_append, ofDigits_replicate_zero, ofDigits_digitsOf, Nat.zero_mul, Nat.zero_add]

theorem isSpelling_iff :
    IsSpelling n cs ↔
      ∃ ds, (cs = ds ∨ cs = '+' :: ds) ∧ ds ≠ [] ∧ AllDigits ds ∧ n = ofDigits ds := by
  constructor
  · rintro ⟨plus, zeros, hplus, rfl⟩
    refine ⟨List.replicate zeros '0' ++ digitsOf n, ?_,
      List.append_ne_nil_of_right_ne_nil _ (digitsOf_ne_nil n),
      (AllDigits.replicate_zero _).append (.digitsOf _), ?_⟩
    · exact hplus.imp (by rintro rfl; rfl) (by rintro rfl; rfl)
    · rw [ofDigits_append, ofDigits_replicate_zero, ofDigits_digitsOf, Nat.zero_mul, Nat.zero_add]
  · rintro ⟨ds, hcs, hne, hall, rfl⟩
    obtain ⟨zeros, hds⟩ := exists_zeros_of_allDigits hall hne
    rcases hcs with rfl | rfl
    · exact ⟨[], zeros, .inl rfl, hds⟩
    · exact ⟨['+'], zeros, .inr rfl, congrArg ('+' :: ·) hds⟩

theorem IsSpelling.isWord (h : IsSpelling n cs) : IsWord cs := by
  obtain ⟨ds, hcs, hne, hall, -⟩ := isSpelling_iff.mp h
  have hsolid : ∀ c ∈ ds, isBlank c = false := fun c hc => isBlank_of_isDigit (hall c hc)
  rcases hcs with rfl | rfl
  · exact ⟨hne, hsolid⟩
  · exact ⟨List.cons_ne_nil _ _, List.forall_mem_cons.mpr ⟨by decide, hsolid⟩⟩

/-- Digits are read to their end if the number that they continue stays below the limit. -/
theorem readDigits_eq_ok_iff (hvalue : value < limit) :
    readDigits limit value cs = .ok n ↔
      AllDigits cs ∧ n = value * 10 ^ cs.length + ofDigits cs ∧ n < limit := by
  induction cs generalizing value with
  | nil =>
    have hnil : value * 10 ^ ([] : List Char).length + ofDigits [] = value := Nat.mul_one value
    rw [hnil]
    constructor
    · rintro ⟨⟩
      exact ⟨nofun, rfl, hvalue⟩
    · rintro ⟨-, rfl, -⟩
      rfl
  | cons c cs ih =>
    have hnext : value * 10 ^ (c :: cs).length + ofDigits (c :: cs) =
        (10 * value + (c.toNat - '0'.toNat)) * 10 ^ cs.length + ofDigits cs := by
      rw [ofDigits_cons, List.length_cons, Nat.pow_succ]
      ring
    have hpow : 0 < 10 ^ cs.length := Nat.pow_pos (by decide)
    have hall : AllDigits (c :: cs) ↔ c.isDigit = true ∧ AllDigits cs := List.forall_mem_cons
    rw [hnext, hall]
    simp only [readDigits]
    generalize 10 * value + (c.toNat - '0'.toNat) = next
    split
    · next hc =>
      split
      · next hlt => rw [ih hlt, and_iff_right hc]
      · next hge =>
        -- The number only grows with the digits that are left.
        refine iff_of_false nofun ?_
        rintro ⟨-, rfl, hlt⟩
        exact hge ((Nat.le_mul_of_pos_right _ hpow).trans_lt (Nat.lt_of_add_right_lt hlt))
    · next hc => exact iff_of_false nofun fun h => hc h.1.1

/-- What is read is a number below the limit, in one of its spellings, and all of these are read. -/
theorem readNatural_eq_ok_iff (hlimit : 0 < limit) :
    readNatural limit cs = .ok n ↔ n < limit ∧ IsSpelling n cs := by
  have hread (ds : List Char) :
      readDigits limit 0 ds = .ok n ↔ n < limit ∧ AllDigits ds ∧ n = ofDigits ds := by
    rw [readDigits_eq_ok_iff hlimit, Nat.zero_mul, Nat.zero_add]
    tauto
  have hplus (ds : List Char) : ¬AllDigits ('+' :: ds) := fun h => nomatch h '+' List.mem_cons_self
  rw [isSpelling_iff]
  unfold readNatural
  split
  · exact iff_of_false nofun (by rintro ⟨-, ds, rfl | h, hne, -⟩ <;> contradiction)
  · refine iff_of_false nofun ?_
    rintro ⟨-, ds, rfl | h, hne, hall, -⟩
    · exact hplus [] hall
    · exact hne (List.cons.inj h).2.symm
  · next ds hne =>
    rw [hread]
    refine and_congr_right fun _ => ⟨fun h => ⟨ds, .inr rfl, hne, h⟩, ?_⟩
    rintro ⟨ds', rfl | h, -, hall⟩
    · exact absurd hall.1 (hplus ds)
    · rwa [(List.cons.inj h).2]
  · next hnil _ hnoPlus =>
    rw [hread]
    refine and_congr_right fun _ => ⟨fun h => ⟨cs, .inl rfl, hnil, h⟩, ?_⟩
    rintro ⟨ds, rfl | h, -, hall⟩
    · exact hall
    · exact absurd h (hnoPlus ds)

end

end PoolPage
