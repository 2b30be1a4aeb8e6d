import PoolPage.Proofs.Number.Orders

/-!
# Correct rounding

The rank whose magnitude is nearest to a rational number, and the even one of two that are equally
near (`IsNearestRank`).  There is one such rank (`IsNearestRank.unique`), larger numbers have no
smaller ones (`IsNearestRank.mono`), and `nearestRank` finds it (`isNearestRank_nearestRank`), so
that what is proved of nearest ranks holds of every operation that rounds.
-/

namespace PoolPage

/-- The rank whose magnitude is nearest to a number, of two the one with an even significand.  Ranks
from `rankLimit` on are magnitudes that a larger exponent would give; they stand for an overflow. -/
structure IsNearestRank (x : ℚ) (rank : ℕ) : Prop where
  le : ∀ r, |magnitude rank - x| ≤ |magnitude r - x|
  even : ∀ r, r ≠ rank → |magnitude r - x| = |magnitude rank - x| → rank % 2 = 0

/-! ## Distances -/

section

variable {a b x : ℚ}

/-- Of two numbers the larger one is nearer from their middle on. -/
theorem abs_sub_le_abs_sub_iff (h : a < b) : |b - x| ≤ |a - x| ↔ a + b ≤ 2 * x := by
  rw [← sq_le_sq]
  constructor <;> intro hle <;> nlinarith

theorem abs_sub_le_abs_sub_iff' (h : a < b) : |a - x| ≤ |b - x| ↔ 2 * x ≤ a + b := by
  rw [← sq_le_sq]
  constructor <;> intro hle <;> nlinarith

theorem abs_sub_eq_abs_sub_iff (h : a < b) : |a - x| = |b - x| ↔ a + b = 2 * x := by
  rw [le_antisymm_iff, abs_sub_le_abs_sub_iff h, abs_sub_le_abs_sub_iff' h, and_comm]
  exact le_antisymm_iff.symm

end

section

variable {x y : ℚ} {rank rank' : ℕ}

theorem magnitude_mono (h : rank ≤ rank') : magnitude rank ≤ magnitude rank' := by
  rcases Nat.lt_or_eq_of_le h with hlt | rfl
  · exact (magnitude_lt_iff.mpr hlt).le
  · exact le_refl _

/-- A rank is the nearest one if the number is not beyond the middles to the ranks on both sides,
and not on such a middle either if the rank is odd. -/
theorem isNearestRank_iff :
    IsNearestRank x rank ↔
      (∀ r < rank, magnitude r + magnitude rank ≤ 2 * x ∧
        (magnitude r + magnitude rank = 2 * x → rank % 2 = 0)) ∧
      ∀ r > rank, 2 * x ≤ magnitude rank + magnitude r ∧
        (magnitude rank + magnitude r = 2 * x → rank % 2 = 0) := by
  constructor
  · intro h
    refine ⟨fun r hr => ?_, fun r hr => ?_⟩
    · have hlt := magnitude_lt_iff.mpr hr
      exact ⟨(abs_sub_le_abs_sub_iff hlt).mp (h.le r),
        fun heq => h.even r hr.ne ((abs_sub_eq_abs_sub_iff hlt).mpr heq)⟩
    · have hlt := magnitude_lt_iff.mpr hr
      exact ⟨(abs_sub_le_abs_sub_iff' hlt).mp (h.le r),
        fun heq => h.even r hr.ne' ((abs_sub_eq_abs_sub_iff hlt).mpr heq).symm⟩
  · rintro ⟨hlow, hhigh⟩
    refine ⟨fun r => ?_, fun r hne heq => ?_⟩
    · rcases Nat.lt_trichotomy r rank with hr | rfl | hr
      · exact (abs_sub_le_abs_sub_iff (magnitude_lt_iff.mpr hr)).mpr (hlow r hr).1
      · exact le_refl _
      · exact (abs_sub_le_abs_sub_iff' (magnitude_lt_iff.mpr hr)).mpr (hhigh r hr).1
    · rcases Nat.lt_or_gt_of_ne hne with hr | hr
      · exact (hlow r hr).2 ((abs_sub_eq_abs_sub_iff (magnitude_lt_iff.mpr hr)).mp heq)
      · exact (hhigh r hr).2 ((abs_sub_eq_abs_sub_iff (magnitude_lt_iff.mpr hr)).mp heq.symm)

/-- A magnitude is rounded to its rank. -/
theorem isNearestRank_magnitude (rank : ℕ) : IsNearestRank (magnitude rank) rank := by
  refine ⟨fun r => ?_, fun r hne heq => ?_⟩
  · rw [sub_self, abs_zero]
    exact abs_nonneg _
  · rw [sub_self, abs_zero, abs_eq_zero, sub_eq_zero] at heq
    rcases Nat.lt_or_gt_of_ne hne with hr | hr
    · exact absurd heq (magnitude_lt_iff.mpr hr).ne
    · exact absurd heq (magnitude_lt_iff.mpr hr).ne'

/-- Small numbers are rounded to zero. -/
theorem isNearestRank_zero (h : 2 * x < magnitude 1) : IsNearestRank x 0 := by
  refine isNearestRank_iff.mpr ⟨fun r hr => absurd hr (Nat.not_lt_zero r), fun r hr => ?_⟩
  have hle := magnitude_mono (show 1 ≤ r from hr)
  rw [magnitude_zero, zero_add]
  exact ⟨(h.trans_le hle).le, fun _ => rfl⟩

namespace IsNearestRank

/-- Rounding keeps the order.  Where two ranks would change places, both are on the same middle and
even, and then the one between them is nearer. -/
theorem mono (h : IsNearestRank x rank) (h' : IsNearestRank y rank') (hle : x ≤ y) :
    rank ≤ rank' := by
  by_contra hgt
  have hlt := Nat.lt_of_not_le hgt
  obtain ⟨hlow, heven⟩ := (isNearestRank_iff.mp h).1 rank' hlt
  obtain ⟨hhigh, heven'⟩ := (isNearestRank_iff.mp h').2 rank hlt
  have heven := heven (by linarith)
  have heven' := heven' (by linarith)
  have hbetween := ((isNearestRank_iff.mp h).1 (rank' + 1) (by omega)).1
  have hstep := magnitude_lt_iff.mpr (Nat.lt_add_one rank')
  linarith

theorem unique (h : IsNearestRank x rank) (h' : IsNearestRank x rank') : rank = rank' :=
  Nat.le_antisymm (h.mono h' (le_refl x)) (h'.mono h (le_refl x))

/-- Numbers that are rounded to different ranks are in their order. -/
theorem lt_of_lt (h : IsNearestRank x rank) (h' : IsNearestRank y rank') (hlt : rank < rank') :
    x < y := by
  by_contra hge
  exact absurd (h'.mono h (not_lt.mp hge)) (Nat.not_le_of_lt hlt)

/-- A number is rounded by no more than half the distance to the next magnitude. -/
theorem abs_sub_le (h : IsNearestRank x rank) (hx : 0 ≤ x) :
    |magnitude rank - x| ≤ spacing rank / 2 := by
  obtain ⟨hlow, hhigh⟩ := isNearestRank_iff.mp h
  have habove := (hhigh (rank + 1) (Nat.lt_add_one rank)).1
  rw [abs_le]
  constructor
  · unfold spacing
    linarith
  · rcases Nat.eq_zero_or_pos rank with rfl | hpos
    · have hspacing := spacing_pos 0
      rw [magnitude_zero]
      linarith
    · have hbelow := (hlow (rank - 1) (by omega)).1
      have hspacing := sub_le_spacing rank
      linarith

/-- From the second binade on, the relative error is small. -/
theorem abs_sub_le_of_normal (h : IsNearestRank x rank) (hx : 0 ≤ x) (hnormal : binadeSize ≤ rank) :
    2 ^ 53 * |magnitude rank - x| ≤ magnitude rank := by
  have hle := h.abs_sub_le hx
  have hspacing := two_pow_mul_spacing_le hnormal
  linarith

end IsNearestRank

end

/-! ## Rounded quotients -/

/-- A quotient in the basin of a rank is rounded to it. -/
theorem isNearestRank_of_contains {rank num den : ℕ} (hden : 0 < den)
    (h : (Basin.ofRank rank).contains (2 * num) den = true) :
    IsNearestRank (num / den / unitsPerOne) rank := by
  obtain ⟨⟨hlow, hhigh⟩, hodd⟩ := Basin.contains_ofRank_iff.mp h
  have hden' : (0 : ℚ) < den := Nat.cast_pos.mpr hden
  have hone := cast_unitsPerOne_pos
  -- Both sides in units, and multiplied by the denominator.
  have hsum (r r' : ℕ) : magnitude r + magnitude r' =
      ((rankUnits r + rankUnits r') * den : ℕ) / den / unitsPerOne := by
    rw [magnitude, magnitude, ← add_div, Nat.cast_mul, mul_div_cancel_right₀ _ hden'.ne',
      Nat.cast_add]
  have htwice : 2 * ((num : ℚ) / den / unitsPerOne) = (2 * num : ℕ) / den / unitsPerOne := by
    push_cast
    ring
  have hle {m n : ℕ} : (m : ℚ) / den / unitsPerOne ≤ n / den / unitsPerOne ↔ m ≤ n := by
    rw [div_le_div_iff_of_pos_right hone, div_le_div_iff_of_pos_right hden', Nat.cast_le]
  have hbound {r r' s s' : ℕ} (hr : r ≤ s) (hr' : r' ≤ s') :
      (rankUnits r + rankUnits r') * den ≤ (rankUnits s + rankUnits s') * den :=
    Nat.mul_le_mul_right den (Nat.add_le_add (strictMono_rankUnits.monotone hr)
      (strictMono_rankUnits.monotone hr'))
  rw [isNearestRank_iff, htwice]
  refine ⟨fun r hr => ?_, fun r hr => ?_⟩
  · have hrank := hbound (show r ≤ rank - 1 by omega) (le_refl rank)
    rw [hsum, hle, le_antisymm_iff, hle, hle]
    refine ⟨hrank.trans hlow, fun heq => ?_⟩
    by_contra hne
    have := (hodd (by omega)).1
    omega
  · have hrank := hbound (le_refl rank) (show rank + 1 ≤ r by omega)
    rw [hsum, hle, le_antisymm_iff, hle, hle]
    refine ⟨hhigh.trans hrank, fun heq => ?_⟩
    by_contra hne
    have := (hodd (by omega)).2
    omega

/-- `nearestRank` is correct rounding. -/
theorem isNearestRank_nearestRank (num : ℕ) {den : ℕ} (hden : 0 < den) :
    IsNearestRank (num / den / unitsPerOne) (nearestRank num den) :=
  isNearestRank_of_contains hden (contains_nearestRank num hden)

/-- A whole number of units is rounded with a small relative error, also where it is itself one of
the first magnitudes. -/
theorem IsNearestRank.abs_sub_le_of_units {units rank : ℕ}
    (h : IsNearestRank (units / unitsPerOne) rank) :
    2 ^ 53 * |magnitude rank - units / unitsPerOne| ≤ magnitude rank := by
  rcases Nat.lt_or_ge rank binadeSize with hlt | hnormal
  · have hfirst {r : ℕ} (hr : r ≤ 2 * binadeSize) : rankUnits r = r := by
      have hunits := rankUnits_shift_add hr (.inl rfl)
      rwa [Nat.zero_mul, Nat.zero_add, Nat.pow_zero, Nat.mul_one] at hunits
    have hunits : units ≤ 2 * binadeSize := by
      by_contra hgt
      have hle : magnitude (2 * binadeSize) ≤ units / unitsPerOne := by
        rw [magnitude, hfirst (le_refl _)]
        exact div_le_div_of_nonneg_right (Nat.cast_le.mpr (Nat.le_of_not_le hgt))
          cast_unitsPerOne_pos.le
      have hrank := (isNearestRank_magnitude (2 * binadeSize)).mono h hle
      omega
    have hself : magnitude units = units / unitsPerOne := by rw [magnitude, hfirst hunits]
    have hrank := h.unique (hself ▸ isNearestRank_magnitude units)
    rw [hrank, hself, sub_self, abs_zero, mul_zero, ← hself]
    exact magnitude_nonneg units
  · exact h.abs_sub_le_of_normal (div_nonneg (Nat.cast_nonneg _) cast_unitsPerOne_pos.le) hnormal

/-! ## Decimals -/

theorem Binary64.ofRank_of_le (negative : Bool) {rank : ℕ} (h : rankLimit ≤ rank) :
    ofRank negative rank = .infinite negative := dif_neg (Nat.not_lt_of_le h)

namespace Decimal

variable {d : Decimal} {rank : ℕ}

theorem value_eq_units (d : Decimal) :
    d.value = (d.significand * 10 ^ d.exponent.toNat * unitsPerOne : ℕ) /
      (10 ^ (-d.exponent).toNat : ℕ) / unitsPerOne := by
  rw [value_eq, div_right_comm, Nat.cast_mul _ unitsPerOne,
    mul_div_cancel_right₀ _ cast_unitsPerOne_pos.ne']

/-- A decimal is rounded to the rank in whose basin it is. -/
theorem IsIn.isNearestRank (h : d.IsIn (.ofRank rank)) : IsNearestRank d.value rank := by
  rw [value_eq_units]
  exact isNearestRank_of_contains (Nat.pow_pos (by decide)) h

/-- Decimals of a very small order are below half the smallest magnitude. -/
theorem two_mul_value_lt (h : d.significand = 0 ∨ d.order < -400) :
    2 * d.value < magnitude 1 := by
  rcases Nat.eq_zero_or_pos d.significand with hzero | hpos
  · rw [value, hzero, Nat.cast_zero, zero_mul, mul_zero]
    exact magnitude_pos Nat.one_pos
  · have hunits : (2 * unitsPerOne : ℚ) ≤ 10 ^ (324 : ℤ) := by
      exact_mod_cast two_mul_unitsPerOne_le
    have hvalue : d.value < 10 ^ (-324 : ℤ) :=
      (hasOrder hpos).2.trans_le (zpow_ten_le_iff.mpr (by omega))
    have hscale : (10 : ℚ) ^ (-324 : ℤ) * 10 ^ (324 : ℤ) = 1 := zpow_ten_mul (n := 0) rfl
    have hone : rankUnits 1 = 1 := by decide
    rw [magnitude, hone, Nat.cast_one, lt_div_iff₀ cast_unitsPerOne_pos]
    calc 2 * d.value * unitsPerOne = d.value * (2 * unitsPerOne) := by ring
      _ ≤ d.value * 10 ^ (324 : ℤ) :=
        mul_le_mul_of_nonneg_left hunits (hasOrder hpos).pos.le
      _ < 10 ^ (-324 : ℤ) * 10 ^ (324 : ℤ) := mul_lt_mul_of_pos_right hvalue (zpow_ten_pos _)
      _ = 1 := hscale

/-- Decimals of a very large order are past the largest magnitude. -/
theorem magnitude_rankLimit_le (h : d.significand ≠ 0) (horder : 400 < d.order) :
    magnitude rankLimit ≤ d.value := by
  have hlimit : magnitude rankLimit ≤ 10 ^ (309 : ℤ) := by
    rw [magnitude, div_le_iff₀ cast_unitsPerOne_pos]
    exact_mod_cast rankUnits_rankLimit_le
  exact hlimit.trans ((zpow_ten_le_iff.mpr (by omega)).trans
    (hasOrder (Nat.pos_of_ne_zero h)).1)

/-- A decimal is rounded correctly, also where its order alone decides. -/
theorem exists_isNearestRank (d : Decimal) (negative : Bool) :
    ∃ rank, IsNearestRank d.value rank ∧ d.toBinary64 negative = .ofRank negative rank := by
  have hexact := isNearestRank_nearestRank (d.significand * 10 ^ d.exponent.toNat * unitsPerOne)
    (Nat.pow_pos (n := (-d.exponent).toNat) (show 0 < 10 by decide))
  rw [← value_eq_units] at hexact
  rw [toBinary64]
  by_cases hsmall : d.significand = 0 ∨ d.order < -400
  · exact ⟨0, isNearestRank_zero (two_mul_value_lt hsmall), by rw [nearestRank, if_pos hsmall]⟩
  · by_cases hlarge : 400 < d.order
    · refine ⟨_, hexact, ?_⟩
      have hle := (isNearestRank_magnitude rankLimit).mono hexact
        (magnitude_rankLimit_le (by omega) hlarge)
      rw [nearestRank, if_neg hsmall, if_pos hlarge, Binary64.ofRank_of_le _ (le_refl _),
        Binary64.ofRank_of_le _ hle]
    · refine ⟨_, hexact, ?_⟩
      rw [nearestRank, if_neg hsmall, if_neg hlarge]
      rfl

end Decimal

/-- The shortest decimal of a magnitude is within half the distance to the next one. -/
theorem abs_shortest_sub_le (half : Half) {rank : ℕ} (hrank : 0 < rank) :
    |(shortest half rank).value - magnitude rank| ≤ spacing rank / 2 := by
  rw [abs_sub_comm]
  exact (isIn_shortest half hrank).isNearestRank.abs_sub_le
    (mul_nonneg (Nat.cast_nonneg _) (zpow_ten_pos _).le)

end PoolPage
