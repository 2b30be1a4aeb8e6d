import PoolPage.Number.Rounding
import Mathlib.Tactic.Ring

/-!
# Nearest whole numbers

`Half.roundDiv` is the whole number nearest to a quotient: it is within half a step
(`two_mul_roundDiv_le`, `le_two_mul_roundDiv`), and a whole number within less than half a step is
it (`roundDiv_eq_of_lt`).  At exactly half a step the ways of rounding part
(`even_roundDiv`, `lt_two_mul_roundDiv_up`); elsewhere they agree (`roundDiv_toEven_eq_up`), and so
they do after a step past the half that is short enough (`roundDiv_toEven_add_eq_iff`).
-/

namespace PoolPage
namespace Half

variable {num den n : Nat}

/-- A quotient is halfway between two whole numbers. -/
def IsHalf (num den : Nat) : Prop := 2 * (num % den) = den

/-- A quotient with its remainder, and which of its two neighbours it is rounded to. -/
theorem exists_roundDiv (half : Half) (num : Nat) (hden : 0 < den) :
    ∃ q r, num = q * den + r ∧ r < den ∧ num % den = r ∧
      (half.roundDiv num den = q ∧ (2 * r < den ∨ 2 * r = den ∧ half = toEven ∧ q % 2 = 0) ∨
        half.roundDiv num den = q + 1 ∧
          (den < 2 * r ∨ 2 * r = den ∧ (half = toEven → q % 2 = 1))) := by
  refine ⟨num / den, num % den, (Nat.div_add_mod' num den).symm, Nat.mod_lt num hden, rfl, ?_⟩
  simp only [roundDiv]
  split
  · next hlow => exact .inl ⟨rfl, .inl hlow⟩
  · next hlow =>
    split
    · next hhigh => exact .inr ⟨rfl, .inl hhigh⟩
    · next hhigh =>
      have htie : 2 * (num % den) = den := by omega
      cases half with
      | up => exact .inr ⟨rfl, .inr ⟨htie, fun heven => Half.noConfusion heven⟩⟩
      | toEven =>
        rcases Nat.mod_two_eq_zero_or_one (num / den) with heven | hodd
        · exact .inl ⟨by rw [heven]; rfl, .inr ⟨htie, rfl, heven⟩⟩
        · exact .inr ⟨by rw [hodd], .inr ⟨htie, fun _ => hodd⟩⟩

theorem two_mul_roundDiv_le (half : Half) (num : Nat) (hden : 0 < den) :
    2 * (half.roundDiv num den * den) ≤ 2 * num + den := by
  obtain ⟨q, r, rfl, -, -, ⟨hround, -⟩ | ⟨hround, h⟩⟩ := exists_roundDiv half num hden
  · rw [hround]
    omega
  · rw [hround, Nat.add_one_mul q]
    omega

theorem le_two_mul_roundDiv (half : Half) (num : Nat) (hden : 0 < den) :
    2 * num ≤ 2 * (half.roundDiv num den * den) + den := by
  obtain ⟨q, r, rfl, hr, -, ⟨hround, h⟩ | ⟨hround, h⟩⟩ := exists_roundDiv half num hden
  · rw [hround]
    omega
  · rw [hround, Nat.add_one_mul q]
    omega

/-- A half goes to the even neighbour. -/
theorem even_roundDiv (num : Nat) (hden : 0 < den)
    (h : 2 * (toEven.roundDiv num den * den) = 2 * num + den ∨
      2 * num = 2 * (toEven.roundDiv num den * den) + den) :
    toEven.roundDiv num den % 2 = 0 := by
  obtain ⟨q, r, rfl, hr, -, ⟨hround, hcase⟩ | ⟨hround, hcase⟩⟩ := exists_roundDiv toEven num hden
  · rw [hround] at h ⊢
    rcases hcase with hlow | ⟨-, -, heven⟩ <;> omega
  · rw [hround, Nat.add_one_mul q] at h
    rw [hround]
    rcases hcase with hhigh | ⟨-, hodd⟩
    · omega
    · have := hodd rfl
      omega

/-- A half goes up. -/
theorem lt_two_mul_roundDiv_up (num : Nat) (hden : 0 < den) :
    2 * num < 2 * (up.roundDiv num den * den) + den := by
  obtain ⟨q, r, rfl, hr, -, ⟨hround, hcase⟩ | ⟨hround, hcase⟩⟩ := exists_roundDiv up num hden
  · rw [hround]
    rcases hcase with hlow | ⟨-, hup, -⟩
    · omega
    · exact nomatch hup
  · rw [hround, Nat.add_one_mul q]
    omega

theorem le_roundDiv (half : Half) (hden : 0 < den) (h : 2 * (n * den) < 2 * num + den) :
    n ≤ half.roundDiv num den := by
  have hle := le_two_mul_roundDiv half num hden
  by_contra hlt
  have hmul := Nat.mul_le_mul_right den (Nat.lt_of_not_le hlt)
  rw [Nat.succ_mul] at hmul
  omega

theorem roundDiv_le (half : Half) (hden : 0 < den) (h : 2 * num < 2 * (n * den) + den) :
    half.roundDiv num den ≤ n := by
  have hle := two_mul_roundDiv_le half num hden
  by_contra hlt
  have hmul := Nat.mul_le_mul_right den (Nat.lt_of_not_le hlt)
  rw [Nat.succ_mul] at hmul
  omega

/-- A whole number within less than half a step is the nearest one. -/
theorem roundDiv_eq_of_lt (half : Half) (hden : 0 < den) (hlow : 2 * (n * den) < 2 * num + den)
    (hhigh : 2 * num < 2 * (n * den) + den) : half.roundDiv num den = n :=
  Nat.le_antisymm (roundDiv_le half hden hhigh) (le_roundDiv half hden hlow)

/-- Rounding keeps the order. -/
theorem roundDiv_mono (half : Half) {num' : Nat} (hden : 0 < den) (h : num ≤ num') :
    half.roundDiv num den ≤ half.roundDiv num' den := by
  have hlow := two_mul_roundDiv_le half num hden
  have hhigh := le_two_mul_roundDiv half num' hden
  by_contra hlt
  have hmul := Nat.mul_le_mul_right den (Nat.lt_of_not_le hlt)
  rw [Nat.succ_mul] at hmul
  -- Both quotients would be on the same half.
  obtain rfl : num = num' := by omega
  exact hlt (Nat.le_refl _)

/-- Away from the halves it does not matter where they go. -/
theorem roundDiv_toEven_eq_up (hden : 0 < den) (h : ¬IsHalf num den) :
    toEven.roundDiv num den = up.roundDiv num den := by
  obtain ⟨q, r, -, -, hmod, hcase⟩ := exists_roundDiv toEven num hden
  unfold IsHalf at h
  have hlow : 2 * (num % den) < den ∨ den < 2 * (num % den) := by omega
  rcases hlow with hlow | hhigh
  · simp only [roundDiv, if_pos hlow]
  · simp only [roundDiv, if_neg (Nat.lt_asymm hhigh), if_pos hhigh]

/-- A step from a half that divides it takes rounding to even where rounding up is already, exactly
if the step is shorter than the distance of the two neighbours. -/
theorem roundDiv_toEven_add_eq_iff {step : Nat} (hden : 0 < den) (h : IsHalf num den)
    (hstep : 0 < step) (hdvd : step ∣ num) :
    toEven.roundDiv (num + step) den = up.roundDiv num den ↔ step < den := by
  have hup : up.roundDiv num den = num / den + 1 := by
    unfold IsHalf at h
    simp only [roundDiv, h, Nat.lt_irrefl, if_false]
  have hnum := Nat.div_add_mod' num den
  unfold IsHalf at h
  rw [hup]
  generalize num / den = q at *
  constructor
  · intro hround
    rcases Nat.lt_trichotomy step den with hlt | rfl | hgt
    · exact hlt
    · rw [Nat.mod_eq_zero_of_dvd hdvd] at h
      omega
    · have hle : q + 2 ≤ toEven.roundDiv (num + step) den := by
        refine le_roundDiv toEven hden ?_
        rw [Nat.add_mul q 2]
        omega
      omega
  · intro hlt
    refine roundDiv_eq_of_lt toEven hden ?_ ?_ <;> rw [Nat.add_one_mul q] <;> omega

theorem isHalf_iff (hden : 0 < den) : IsHalf num den ↔ ∃ k, 2 * num = (2 * k + 1) * den := by
  constructor
  · intro h
    refine ⟨num / den, ?_⟩
    have hdiv := Nat.div_add_mod' num den
    unfold IsHalf at h
    rw [Nat.add_one_mul (2 * (num / den)), Nat.mul_assoc]
    omega
  · rintro ⟨k, hk⟩
    have hdiv := Nat.div_add_mod' num den
    have hmod := Nat.mod_lt num hden
    have hodd : (2 * k + 1) * den = 2 * (k * den) + den := by ring
    have hquotient : num / den = k := by
      refine Nat.div_eq_of_lt_le ?_ ?_
      · omega
      · rw [Nat.succ_mul]
        omega
    unfold IsHalf
    rw [hquotient] at hdiv
    omega

end Half
end PoolPage
