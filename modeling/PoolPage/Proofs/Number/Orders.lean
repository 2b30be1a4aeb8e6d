import PoolPage.Proofs.Number.Nearest
import PoolPage.Proofs.Number.Reading

/-!
# Decimal orders

The order of a number is the exponent of its leading digit (`HasOrder`); `rankOrder` finds it for a
magnitude.  The order of a number near to it may be another one, but then a power of ten lies
between the two (`exists_power_between`).
-/

namespace PoolPage

/-! ## Leading digits -/

/-- The exponent of the leading digit. -/
def HasOrder (x : ℚ) (order : ℤ) : Prop := (10 : ℚ) ^ order ≤ x ∧ x < 10 ^ (order + 1)

theorem zpow_ten_lt_iff {m n : ℤ} : (10 : ℚ) ^ m < 10 ^ n ↔ m < n :=
  zpow_lt_zpow_iff_right₀ (by norm_num)

theorem zpow_ten_le_iff {m n : ℤ} : (10 : ℚ) ^ m ≤ 10 ^ n ↔ m ≤ n :=
  zpow_le_zpow_iff_right₀ (by norm_num)

theorem zpow_ten_add (m n : ℤ) : (10 : ℚ) ^ (m + n) = 10 ^ m * 10 ^ n := zpow_add₀ (by norm_num) m n

theorem zpow_ten_mul {k m n : ℤ} (h : k + m = n) : (10 : ℚ) ^ k * 10 ^ m = 10 ^ n := by
  rw [← h, zpow_ten_add]

theorem natCast_pow_ten (k : ℕ) : ((10 ^ k : ℕ) : ℚ) = 10 ^ (k : ℤ) := by
  rw [zpow_natCast]
  push_cast
  rfl

theorem zpow_ten_pos (n : ℤ) : (0 : ℚ) < 10 ^ n := by positivity

namespace HasOrder

variable {x y : ℚ} {order order' : ℤ}

theorem pos (h : HasOrder x order) : 0 < x := (zpow_ten_pos order).trans_le h.1

theorem unique (h : HasOrder x order) (h' : HasOrder x order') : order = order' := by
  have hle := zpow_ten_lt_iff.mp (h.1.trans_lt h'.2)
  have hge := zpow_ten_lt_iff.mp (h'.1.trans_lt h.2)
  omega

/-- Numbers of different orders that are not far from each other have a power of ten between
them. -/
theorem exists_power_between {d : ℚ} (h : HasOrder x order) (h' : HasOrder y order')
    (hne : order' ≠ order) (hclose : |y - x| ≤ d) (hd : d ≤ x / 2) :
    ∃ k : ℤ, |x - 10 ^ k| ≤ d ∧ k - 1 ≤ order ∧ order ≤ k ∧ k - 1 ≤ order' ∧ order' ≤ k := by
  obtain ⟨hlow, hhigh⟩ := abs_le.mp hclose
  rcases lt_or_gt_of_ne hne with hlt | hgt
  · have hpower : (10 : ℚ) ^ (order' + 1) ≤ 10 ^ order := zpow_ten_le_iff.mpr hlt
    have hnear : (10 : ℚ) ^ (order - 1) < 10 ^ (order' + 1) := by
      have hten : (10 : ℚ) ^ order = 10 ^ (order - 1) * 10 := by
        rw [← zpow_add_one₀ (by norm_num), sub_add_cancel]
      have hpos := zpow_ten_pos (order - 1)
      linarith [h.1, h'.2]
    have hexp := zpow_ten_lt_iff.mp hnear
    refine ⟨order, ?_, by omega, le_refl _, by omega, by omega⟩
    rw [abs_of_nonneg (by linarith [h.1])]
    linarith [h'.2]
  · have hpower : (10 : ℚ) ^ (order + 1) ≤ 10 ^ order' := zpow_ten_le_iff.mpr hgt
    have hnear : (10 : ℚ) ^ order' < 10 ^ (order + 2) := by
      have hten : (10 : ℚ) ^ (order + 2) = 10 ^ (order + 1) * 10 := by
        rw [← zpow_add_one₀ (by norm_num), add_assoc]
        norm_num
      have hpos := h.pos
      linarith [h.2, h'.1]
    have hexp := zpow_ten_lt_iff.mp hnear
    refine ⟨order + 1, ?_, by omega, by omega, by omega, by omega⟩
    rw [abs_of_nonpos (by linarith [h.2])]
    linarith [h'.1]

end HasOrder

/-- The order of a quotient, from the number of digits before the point when it is moved to the
right. -/
theorem hasOrder_of_length {num den moved digits : ℕ} (hden : 0 < den)
    (hpos : 0 < num * Nat.pow 10 moved / den)
    (hdigits : (digitsOf (num * Nat.pow 10 moved / den)).length = digits + 1) :
    HasOrder (num / den) (digits - moved) := by
  have hten : Nat.pow 10 moved = 10 ^ moved := rfl
  rw [hten] at hpos hdigits
  obtain ⟨hlow, hhigh⟩ := le_of_length_digitsOf hpos hdigits
  rw [Nat.le_div_iff_mul_le hden] at hlow
  rw [Nat.div_lt_iff_lt_mul hden] at hhigh
  have hscale : (0 : ℚ) < 10 ^ moved := by positivity
  have hden' : (0 : ℚ) < den := Nat.cast_pos.mpr hden
  have hpow (n : ℕ) : (10 : ℚ) ^ ((n : ℤ) - moved) = 10 ^ n / 10 ^ moved := by
    rw [zpow_sub₀ (by norm_num), zpow_natCast, zpow_natCast]
  have hnext : (digits : ℤ) - moved + 1 = (digits + 1 : ℕ) - moved := by
    push_cast
    ring
  rw [HasOrder, hnext, hpow, hpow, div_le_div_iff₀ hscale hden', div_lt_div_iff₀ hden' hscale]
  exact ⟨by exact_mod_cast hlow, by exact_mod_cast hhigh⟩

theorem neg_le_rankOrder (rank : Nat) : -324 ≤ rankOrder rank := by
  obtain ⟨digits, hdigits⟩ := exists_length_digitsOf (rankUnits rank * Nat.pow 10 324 / unitsPerOne)
  rw [rankOrder, hdigits]
  omega

/-- The scale of `rankOrder` makes every magnitude at least one. -/
theorem hasOrder_rankOrder {rank : Nat} (hrank : 0 < rank) :
    HasOrder (magnitude rank) (rankOrder rank) := by
  have hone : unitsPerOne ≤ Nat.pow 10 324 := by decide +kernel
  have hscaled : 0 < rankUnits rank * Nat.pow 10 324 / unitsPerOne :=
    Nat.div_pos (hone.trans (Nat.le_mul_of_pos_left _ (rankUnits_pos hrank))) unitsPerOne_pos
  obtain ⟨digits, hdigits⟩ := exists_length_digitsOf (rankUnits rank * Nat.pow 10 324 / unitsPerOne)
  have horder : rankOrder rank = digits - (324 : ℕ) := by
    rw [rankOrder, hdigits]
    omega
  rw [horder]
  generalize 324 = moved at *
  exact hasOrder_of_length unitsPerOne_pos hscaled hdigits

/-! ## The spacing of magnitudes -/

theorem spacing_pos (rank : Nat) : 0 < spacing rank := by
  rw [spacing_eq]
  exact div_pos (by positivity) cast_unitsPerOne_pos

/-- The magnitude below is no farther away than the one above. -/
theorem sub_le_spacing (rank : Nat) : magnitude rank - magnitude (rank - 1) ≤ spacing rank := by
  cases rank with
  | zero =>
    rw [Nat.zero_sub, sub_self]
    exact (spacing_pos 0).le
  | succ rank =>
    show spacing rank ≤ spacing (rank + 1)
    have hshift : rankShift rank ≤ rankShift (rank + 1) := by
      simp only [rankShift, binadeSize]
      omega
    rw [spacing_eq, spacing_eq, div_le_div_iff_of_pos_right cast_unitsPerOne_pos]
    exact pow_le_pow_right₀ (by norm_num) hshift

/-- From the second binade on, magnitudes are close to each other. -/
theorem two_pow_mul_spacing_le {rank : Nat} (h : binadeSize ≤ rank) :
    2 ^ 52 * spacing rank ≤ magnitude rank := by
  have hle : (2 ^ 52 * 2 ^ rankShift rank : ℚ) ≤ rankUnits rank := by
    exact_mod_cast binadeSize_mul_two_pow_le h
  rw [spacing_eq, magnitude, ← mul_div_assoc]
  exact div_le_div_of_nonneg_right hle cast_unitsPerOne_pos.le

theorem spacing_le {rank : Nat} (hrank : 0 < rank) : spacing rank ≤ magnitude rank := by
  rcases Nat.lt_or_ge rank binadeSize with hlt | hge
  · have hshift : rankShift rank = 0 := by
      simp only [rankShift, binadeSize] at *
      omega
    rw [spacing_eq, hshift, magnitude, div_le_div_iff_of_pos_right cast_unitsPerOne_pos, pow_zero]
    exact_mod_cast rankUnits_pos hrank
  · have hle := two_pow_mul_spacing_le hge
    have hpos := spacing_pos rank
    linarith

/-! ## The value of a decimal -/

namespace Decimal

def value (d : Decimal) : ℚ := d.significand * 10 ^ d.exponent

variable {d : Decimal} {rank : Nat}

theorem value_eq (d : Decimal) :
    d.value = (d.significand * 10 ^ d.exponent.toNat : ℕ) / (10 ^ (-d.exponent).toNat : ℕ) := by
  have hexponent : d.exponent = d.exponent.toNat - (-d.exponent).toNat := by omega
  rw [value, hexponent, zpow_sub₀ (by norm_num), ← hexponent, zpow_natCast, zpow_natCast]
  push_cast
  ring

theorem hasOrder (h : 0 < d.significand) : HasOrder d.value d.order := by
  obtain ⟨digits, horder, hlow, hhigh⟩ := exists_order h
  have hnext : (digits : ℤ) + d.exponent + 1 = (digits + 1 : ℕ) + d.exponent := by
    push_cast
    ring
  have hpos := zpow_ten_pos d.exponent
  rw [horder, HasOrder, hnext, zpow_ten_add, zpow_ten_add, zpow_natCast, zpow_natCast, value]
  exact ⟨mul_le_mul_of_nonneg_right (by exact_mod_cast hlow) hpos.le,
    mul_lt_mul_of_pos_right (by exact_mod_cast hhigh) hpos⟩

end Decimal

theorem hasOrder_shortest (half : Half) {rank : Nat} (hrank : 0 < rank) :
    HasOrder (shortest half rank).value (shortest half rank).order :=
  Decimal.hasOrder ((isIn_shortest half hrank).significand_pos hrank)

end PoolPage
