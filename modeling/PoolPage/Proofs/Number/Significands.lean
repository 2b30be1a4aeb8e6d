import PoolPage.Proofs.Number.Orders

/-!
# Significant digits

The numbers with a given number of significant digits, and the one among them that is nearest to a
number (`IsSignificant`).  There is one exponent and one significand for it at most
(`IsSignificant.unique`), and rounding at the place of the last digit finds them
(`isSignificant_of_half_step`, `isSignificant_of_carry`).
-/

namespace PoolPage

/-- The positive numbers with so many significant digits. -/
def significands (digits : ℕ) : Set ℚ :=
  {v | ∃ n : ℕ, ∃ e : ℤ, 10 ^ (digits - 1) ≤ n ∧ n < 10 ^ digits ∧ v = n * 10 ^ (e - digits + 1)}

/-- The digits of a positive number, rounded to so many, and the exponent of the leading one. -/
structure IsSignificant (digits : ℕ) (x : ℚ) (n : ℕ) (e : ℤ) : Prop where
  low : 10 ^ (digits - 1) ≤ n
  high : n < 10 ^ digits
  nearest : IsNearest (significands digits) x (n * 10 ^ (e - digits + 1))

section

variable {digits n : ℕ} {e : ℤ} {x : ℚ}

theorem hasOrder_significand (hdigits : 1 ≤ digits) (hlow : 10 ^ (digits - 1) ≤ n)
    (hhigh : n < 10 ^ digits) : HasOrder (n * 10 ^ (e - digits + 1)) e := by
  have hpos := zpow_ten_pos (e - digits + 1)
  have hfirst : (10 : ℚ) ^ e = (10 ^ (digits - 1) : ℕ) * 10 ^ (e - digits + 1) := by
    rw [natCast_pow_ten]
    exact (zpow_ten_mul (by omega)).symm
  have hnext : (10 : ℚ) ^ (e + 1) = (10 ^ digits : ℕ) * 10 ^ (e - digits + 1) := by
    rw [natCast_pow_ten]
    exact (zpow_ten_mul (by omega)).symm
  rw [HasOrder, hfirst, hnext]
  exact ⟨mul_le_mul_of_nonneg_right (Nat.cast_le.mpr hlow) hpos.le,
    mul_lt_mul_of_pos_right (Nat.cast_lt.mpr hhigh) hpos⟩

theorem IsSignificant.unique (hdigits : 1 ≤ digits) {n' : ℕ} {e' : ℤ}
    (h : IsSignificant digits x n e) (h' : IsSignificant digits x n' e') : n = n' ∧ e = e' := by
  have horder := hasOrder_significand (e := e) hdigits h.low h.high
  have horder' := hasOrder_significand (e := e') hdigits h'.low h'.high
  have heq := h.nearest.unique h'.nearest horder.pos.le horder'.pos.le
  rw [heq] at horder
  obtain rfl := horder.unique horder'
  exact ⟨by exact_mod_cast mul_right_cancel₀ (zpow_ten_pos _).ne' heq, rfl⟩

/-- Distances, measured in the place of the last digit. -/
theorem abs_significand_sub (x k : ℚ) (digits : ℕ) (e : ℤ) :
    |k * 10 ^ (e - digits + 1) - x| =
      |k - x * 10 ^ (digits - 1 - e)| * 10 ^ (e - digits + 1) := by
  have hx : x = x * 10 ^ (digits - 1 - e) * 10 ^ (e - digits + 1) := by
    rw [mul_assoc, zpow_ten_mul (n := 0) (by ring), zpow_zero, mul_one]
  nth_rewrite 1 [hx]
  rw [← sub_mul, abs_mul, abs_of_pos (zpow_ten_pos _)]

/-- Numbers of a lower order are farther away than the power of ten above them. -/
theorem lt_abs_significand_sub {m : ℕ} {e' : ℤ} (hdigits : 1 ≤ digits) (hx : HasOrder x e)
    (hlow : 10 ^ (digits - 1) ≤ m) (hhigh : m < 10 ^ digits) (he : e' < e) :
    |(10 : ℚ) ^ e - x| < |(m : ℚ) * 10 ^ (e' - digits + 1) - x| := by
  have hw := (hasOrder_significand (e := e') hdigits hlow hhigh).2
  have hpower : (10 : ℚ) ^ (e' + 1) ≤ 10 ^ e := zpow_ten_le_iff.mpr he
  rw [abs_of_nonpos (by linarith [hx.1]), abs_of_nonpos (by linarith [hx.1])]
  linarith

/-- The multiple of the last place that is nearest to a number is nearer than all other numbers with
so many significant digits, or as near and not below them. -/
theorem significand_cases (hdigits : 1 ≤ digits) (hx : HasOrder x e)
    (hlow : (n : ℚ) - 1 / 2 ≤ x * 10 ^ (digits - 1 - e))
    (hhigh : x * 10 ^ (digits - 1 - e) < n + 1 / 2) {w : ℚ} (hw : w ∈ significands digits) :
    |n * 10 ^ (e - digits + 1) - x| < |w - x| ∨
      w ≤ n * 10 ^ (e - digits + 1) ∧ |n * 10 ^ (e - digits + 1) - x| ≤ |w - x| := by
  have hpos := zpow_ten_pos (e - digits + 1)
  obtain ⟨m, e', hm, hm', rfl⟩ := hw
  rcases lt_or_ge e' e with hlt | hge
  · left
    refine lt_of_le_of_lt ?_ (lt_abs_significand_sub hdigits hx hm hm' hlt)
    have hfirst : (10 : ℚ) ^ e = (10 ^ (digits - 1) : ℕ) * 10 ^ (e - digits + 1) := by
      rw [natCast_pow_ten]
      exact (zpow_ten_mul (by omega)).symm
    rw [hfirst, abs_significand_sub, abs_significand_sub]
    refine mul_le_mul_of_nonneg_right ?_ hpos.le
    rcases half_step_cases hlow hhigh (10 ^ (digits - 1) : ℕ) with h | ⟨-, h⟩
    · exact_mod_cast h.le
    · exact_mod_cast h
  · obtain ⟨t, rfl⟩ := Int.exists_add_of_le hge
    have hsplit : (m : ℚ) * 10 ^ (e + t - digits + 1) =
        ((m * 10 ^ t : ℕ) : ℤ) * 10 ^ (e - digits + 1) := by
      rw [Int.cast_natCast, Nat.cast_mul, natCast_pow_ten, mul_assoc,
        zpow_ten_mul (n := e + t - digits + 1) (by ring)]
    rw [hsplit, abs_significand_sub, abs_significand_sub, mul_lt_mul_iff_left₀ hpos,
      mul_le_mul_iff_left₀ hpos, mul_le_mul_iff_left₀ hpos]
    rcases half_step_cases hlow hhigh (m * 10 ^ t : ℕ) with h | ⟨hle, h⟩
    · exact .inl h
    · exact .inr ⟨by exact_mod_cast hle, h⟩

/-- The multiple of the last place that is nearest to a number is the nearest one with so many
significant digits, if it is one of these. -/
theorem isNearest_significands (hdigits : 1 ≤ digits) (hx : HasOrder x e)
    (hlow : (n : ℚ) - 1 / 2 ≤ x * 10 ^ (digits - 1 - e))
    (hhigh : x * 10 ^ (digits - 1 - e) < n + 1 / 2)
    (hmem : (n : ℚ) * 10 ^ (e - digits + 1) ∈ significands digits) :
    IsNearest (significands digits) x (n * 10 ^ (e - digits + 1)) := by
  have hcases {w : ℚ} := significand_cases hdigits hx hlow hhigh (w := w)
  refine ⟨hmem, fun w hw => ?_, fun w hw heq => ?_⟩
  · exact (hcases hw).elim le_of_lt And.right
  · have hpos : 0 ≤ w := by
      obtain ⟨m, e', -, -, rfl⟩ := hw
      positivity
    rw [abs_of_nonneg hpos, abs_of_nonneg (by positivity)]
    exact (hcases hw).elim (fun h => absurd heq h.ne') And.left

/-- Rounded at the place of the last digit, a number keeps its order or becomes the next power of
ten. -/
theorem half_step_bounds (hdigits : 1 ≤ digits) (hx : HasOrder x e)
    (hlow : (n : ℚ) - 1 / 2 ≤ x * 10 ^ (digits - 1 - e))
    (hhigh : x * 10 ^ (digits - 1 - e) < n + 1 / 2) :
    10 ^ (digits - 1) ≤ n ∧ n ≤ 10 ^ digits := by
  have hpos := zpow_ten_pos (digits - 1 - e)
  have hfirst : ((10 ^ (digits - 1) : ℕ) : ℚ) ≤ x * 10 ^ (digits - 1 - e) := by
    have hpower : ((10 ^ (digits - 1) : ℕ) : ℚ) = 10 ^ e * 10 ^ (digits - 1 - e) := by
      rw [natCast_pow_ten]
      exact (zpow_ten_mul (by omega)).symm
    rw [hpower]
    exact mul_le_mul_of_nonneg_right hx.1 hpos.le
  have hnext : x * 10 ^ (digits - 1 - e) < ((10 ^ digits : ℕ) : ℚ) := by
    have hpower : ((10 ^ digits : ℕ) : ℚ) = 10 ^ (e + 1) * 10 ^ (digits - 1 - e) := by
      rw [natCast_pow_ten]
      exact (zpow_ten_mul (by omega)).symm
    rw [hpower]
    exact mul_lt_mul_of_pos_right hx.2 hpos
  constructor
  · have h : ((10 ^ (digits - 1) : ℕ) : ℚ) < (n + 1 : ℕ) := by
      push_cast at *
      linarith
    exact Nat.lt_succ_iff.mp (Nat.cast_lt.mp h)
  · have h : (n : ℚ) < (10 ^ digits + 1 : ℕ) := by
      push_cast at *
      linarith
    exact Nat.lt_succ_iff.mp (Nat.cast_lt.mp h)

theorem isSignificant_of_half_step (hdigits : 1 ≤ digits) (hx : HasOrder x e)
    (hlow : (n : ℚ) - 1 / 2 ≤ x * 10 ^ (digits - 1 - e))
    (hhigh : x * 10 ^ (digits - 1 - e) < n + 1 / 2) (hn : n ≠ 10 ^ digits) :
    IsSignificant digits x n e := by
  obtain ⟨hmin, hmax⟩ := half_step_bounds hdigits hx hlow hhigh
  have hless := Nat.lt_of_le_of_ne hmax hn
  exact ⟨hmin, hless, isNearest_significands hdigits hx hlow hhigh ⟨n, e, hmin, hless, rfl⟩⟩

/-- A number that is rounded up to the next power of ten has its digits, and an exponent one
larger. -/
theorem isSignificant_of_carry (hdigits : 1 ≤ digits) (hx : HasOrder x e)
    (hlow : ((10 ^ digits : ℕ) : ℚ) - 1 / 2 ≤ x * 10 ^ (digits - 1 - e))
    (hhigh : x * 10 ^ (digits - 1 - e) < (10 ^ digits : ℕ) + 1 / 2) :
    IsSignificant digits x (10 ^ (digits - 1)) (e + 1) := by
  have hless : 10 ^ (digits - 1) < 10 ^ digits := Nat.pow_lt_pow_right (by decide) (by omega)
  have hvalue : ((10 ^ (digits - 1) : ℕ) : ℚ) * 10 ^ (e + 1 - digits + 1) =
      (10 ^ digits : ℕ) * 10 ^ (e - digits + 1) := by
    rw [natCast_pow_ten, natCast_pow_ten, zpow_ten_mul (n := e + 1) (by omega),
      zpow_ten_mul (n := e + 1) (by omega)]
  refine ⟨le_refl _, hless, ?_⟩
  rw [hvalue]
  exact isNearest_significands hdigits hx hlow hhigh
    ⟨10 ^ (digits - 1), e + 1, le_refl _, hless, hvalue.symm⟩

end

end PoolPage
