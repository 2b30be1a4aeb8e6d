import PoolPage.Proofs.Number.Ranks
import Mathlib.Algebra.Order.Field.Rat
import Mathlib.Algebra.Order.Field.Power
import Mathlib.Data.Rat.Cast.Order
import Mathlib.Tactic.FieldSimp
import Mathlib.Tactic.Linarith
import Mathlib.Tactic.Positivity

/-!
# Nearest values

The exact magnitude of a rank as a rational number, and what it means for a value of a grid to be
the nearest one, a half going away from zero (`IsNearest`).  On the multiples of `10 ^ -places` it
is the one that `Half.up` rounds to (`isNearest_decimals_iff`).
-/

namespace PoolPage

/-! ## Exact values -/

/-- The exact magnitude of a rank. -/
def magnitude (rank : Nat) : ℚ := rankUnits rank / unitsPerOne

/-- A magnitude with a sign. -/
def signed (negative : Bool) (x : ℚ) : ℚ := if negative then -x else x

theorem unitsPerOne_pos : 0 < unitsPerOne := by decide

theorem cast_unitsPerOne_pos : (0 : ℚ) < unitsPerOne := Nat.cast_pos.mpr unitsPerOne_pos

theorem magnitude_nonneg (rank : Nat) : 0 ≤ magnitude rank := by
  unfold magnitude
  positivity

theorem magnitude_pos {rank : Nat} (h : 0 < rank) : 0 < magnitude rank :=
  div_pos (Nat.cast_pos.mpr (rankUnits_pos h)) cast_unitsPerOne_pos

@[simp] theorem magnitude_zero : magnitude 0 = 0 := by simp [magnitude]

theorem magnitude_lt_iff {rank rank' : Nat} : magnitude rank < magnitude rank' ↔ rank < rank' := by
  unfold magnitude
  rw [div_lt_div_iff_of_pos_right cast_unitsPerOne_pos, Nat.cast_lt, strictMono_rankUnits.lt_iff_lt]

/-- Comparisons of magnitudes with whole numbers are comparisons of units. -/
theorem magnitude_lt_natCast_iff {rank n : Nat} :
    magnitude rank < n ↔ rankUnits rank < n * unitsPerOne := by
  unfold magnitude
  rw [div_lt_iff₀ cast_unitsPerOne_pos]
  exact_mod_cast Iff.rfl

/-- The distance from a magnitude to the next one. -/
def spacing (rank : Nat) : ℚ := magnitude (rank + 1) - magnitude rank

theorem spacing_eq (rank : Nat) : spacing rank = 2 ^ rankShift rank / unitsPerOne := by
  rw [spacing, magnitude, magnitude, rankUnits_succ, ← sub_div]
  push_cast
  rw [add_sub_cancel_left]

/-- A number of units with its point moved is a quotient of whole numbers. -/
theorem units_mul_zpow (units : ℕ) (places : ℤ) :
    (units / unitsPerOne : ℚ) * 10 ^ places =
      (units * 10 ^ places.toNat : ℕ) / (unitsPerOne * 10 ^ (-places).toNat : ℕ) := by
  have hplaces : places = places.toNat - (-places).toNat := by omega
  have hpow : (10 : ℚ) ^ places = 10 ^ places.toNat / 10 ^ (-places).toNat := by
    rw [← zpow_natCast, ← zpow_natCast, ← zpow_sub₀ (by norm_num), ← hplaces]
  rw [hpow, div_mul_div_comm]
  push_cast
  rfl

/-! ## The nearest value of a grid -/

/-- A value of a grid that is nearest to a number and, of those that are equally near, farthest from
zero. -/
structure IsNearest (grid : Set ℚ) (x v : ℚ) : Prop where
  mem : v ∈ grid
  le : ∀ w ∈ grid, |v - x| ≤ |w - x|
  farthest : ∀ w ∈ grid, |w - x| = |v - x| → |w| ≤ |v|

/-- There is only one, among values that are not negative. -/
theorem IsNearest.unique {grid : Set ℚ} {x v w : ℚ} (hv : IsNearest grid x v)
    (hw : IsNearest grid x w) (hv0 : 0 ≤ v) (hw0 : 0 ≤ w) : v = w := by
  have heq := le_antisymm (hv.le w hw.mem) (hw.le v hv.mem)
  have hle := hw.farthest v hv.mem heq
  have hge := hv.farthest w hw.mem heq.symm
  rw [abs_of_nonneg hv0, abs_of_nonneg hw0] at hle hge
  exact le_antisymm hle hge

/-- The multiples of `10 ^ -places`. -/
def decimals (places : Nat) : Set ℚ := {v | ∃ k : ℤ, v = k / 10 ^ places}

theorem neg_mem_decimals {places : Nat} {v : ℚ} (h : v ∈ decimals places) :
    -v ∈ decimals places := by
  obtain ⟨k, rfl⟩ := h
  exact ⟨-k, by push_cast; ring⟩

theorem signed_mem_decimals {places : Nat} {negative : Bool} {v : ℚ} :
    signed negative v ∈ decimals places ↔ v ∈ decimals places := by
  cases negative with
  | false => exact Iff.rfl
  | true =>
    refine ⟨fun h => ?_, neg_mem_decimals⟩
    have hneg := neg_mem_decimals h
    simpa [signed] using hneg

theorem abs_signed_sub (negative : Bool) (v w : ℚ) :
    |signed negative v - signed negative w| = |v - w| := by
  cases negative with
  | false => rfl
  | true =>
    show |-v - -w| = _
    rw [neg_sub_neg, abs_sub_comm]

@[simp] theorem abs_signed (negative : Bool) (v : ℚ) : |signed negative v| = |v| := by
  cases negative with
  | false => rfl
  | true => exact abs_neg v

@[simp] theorem signed_signed (negative : Bool) (v : ℚ) :
    signed negative (signed negative v) = v := by
  cases negative with
  | false => rfl
  | true => exact neg_neg v

/-- Rounding to decimals is the same on both sides of zero. -/
theorem isNearest_signed_iff {places : Nat} {negative : Bool} {x v : ℚ} :
    IsNearest (decimals places) (signed negative x) (signed negative v) ↔
      IsNearest (decimals places) x v := by
  constructor
  · intro h
    refine ⟨signed_mem_decimals.mp h.mem, fun w hw => ?_, fun w hw heq => ?_⟩
    · have hle := h.le _ (signed_mem_decimals.mpr hw : signed negative w ∈ decimals places)
      rwa [abs_signed_sub, abs_signed_sub] at hle
    · have hle := h.farthest _ (signed_mem_decimals.mpr hw : signed negative w ∈ decimals places)
      rw [abs_signed_sub, abs_signed_sub, abs_signed, abs_signed] at hle
      exact hle heq
  · intro h
    refine ⟨signed_mem_decimals.mpr h.mem, fun w hw => ?_, fun w hw heq => ?_⟩
    · have hle := h.le _ (signed_mem_decimals.mpr hw : signed negative w ∈ decimals places)
      rwa [← abs_signed_sub negative, ← abs_signed_sub negative (signed negative w),
        signed_signed] at hle
    · have hle := h.farthest _ (signed_mem_decimals.mpr hw : signed negative w ∈ decimals places)
      rw [← abs_signed_sub negative, ← abs_signed_sub negative v, signed_signed, abs_signed] at hle
      rw [abs_signed]
      exact hle heq

/-- The whole number within half a step of a number is nearest to it, and of two the upper one if a
half goes up. -/
theorem half_step_cases {y : ℚ} {n : ℕ} (hlow : (n : ℚ) - 1 / 2 ≤ y) (hhigh : y < n + 1 / 2)
    (k : ℤ) : |(n : ℚ) - y| < |(k : ℚ) - y| ∨ k ≤ n ∧ |(n : ℚ) - y| ≤ |(k : ℚ) - y| := by
  have hnear : |(n : ℚ) - y| ≤ 1 / 2 := abs_le.mpr ⟨by linarith, by linarith⟩
  rcases lt_trichotomy k n with hlt | rfl | hgt
  · have hle : (k : ℚ) + 1 ≤ n := by exact_mod_cast hlt
    refine .inr ⟨hlt.le, ?_⟩
    rw [abs_of_nonpos (show (k : ℚ) - y ≤ 0 by linarith)]
    linarith
  · exact .inr ⟨le_refl _, le_of_eq (by simp)⟩
  · have hle : (n : ℚ) + 1 ≤ k := by exact_mod_cast hgt
    left
    rw [abs_of_nonneg (show (0 : ℚ) ≤ k - y by linarith), abs_lt]
    constructor <;> linarith

/-- The whole number within half a step of a number, a half going up, gives the nearest decimal. -/
theorem isNearest_of_half_step {places n : Nat} {x : ℚ} (hx : 0 ≤ x)
    (hlow : (n : ℚ) - 1 / 2 ≤ x * 10 ^ places) (hhigh : x * 10 ^ places < n + 1 / 2) :
    IsNearest (decimals places) x (n / 10 ^ places) := by
  have hscale : (0 : ℚ) < 10 ^ places := by positivity
  have hy : 0 ≤ x * 10 ^ places := by positivity
  have hdist (k : ℚ) : |k / 10 ^ places - x| = |k - x * 10 ^ places| / 10 ^ places := by
    rw [← abs_of_pos hscale, ← abs_div, abs_of_pos hscale]
    congr 1
    field_simp
  generalize x * 10 ^ places = y at hlow hhigh hy hdist
  refine ⟨⟨n, by simp⟩, ?_, ?_⟩
  · rintro w ⟨k, rfl⟩
    rw [hdist, hdist]
    refine div_le_div_of_nonneg_right ?_ hscale.le
    rcases half_step_cases hlow hhigh k with hlt | ⟨-, hle⟩
    · exact hlt.le
    · exact hle
  · rintro w ⟨k, rfl⟩ heq
    rw [hdist, hdist, div_left_inj' hscale.ne'] at heq
    have hle : (k : ℚ) ≤ n := by
      rcases half_step_cases hlow hhigh k with hlt | ⟨hle, -⟩
      · exact absurd heq hlt.ne'
      · exact_mod_cast hle
    have hnear : |(n : ℚ) - y| ≤ 1 / 2 := abs_le.mpr ⟨by linarith, by linarith⟩
    -- A negative number is at least one away.
    have hnonneg : 0 ≤ k := by
      by_contra hneg
      have hneg' : (k : ℚ) + 1 ≤ 0 := by exact_mod_cast Int.not_le.mp hneg
      have hfar := neg_le_abs ((k : ℚ) - y)
      linarith
    rw [abs_div, abs_div]
    refine div_le_div_of_nonneg_right ?_ (abs_nonneg _)
    rwa [abs_of_nonneg (by exact_mod_cast hnonneg), abs_of_nonneg (by positivity)]

/-- A rounded quotient is within half a step of it. -/
theorem abs_roundDiv_sub_le (half : Half) (num : Nat) {den : Nat} (hden : 0 < den) :
    |(half.roundDiv num den : ℚ) - num / den| ≤ 1 / 2 := by
  have hlow := Half.two_mul_roundDiv_le half num hden
  have hhigh := Half.le_two_mul_roundDiv half num hden
  generalize half.roundDiv num den = n at *
  have hpos : (0 : ℚ) < den := Nat.cast_pos.mpr hden
  have hlow' : (2 : ℚ) * (n * den) ≤ 2 * num + den := by exact_mod_cast hlow
  have hhigh' : (2 : ℚ) * num ≤ 2 * (n * den) + den := by exact_mod_cast hhigh
  have hdiv : (n : ℚ) - num / den = (n * den - num) / den := by field_simp
  rw [hdiv, abs_le, le_div_iff₀ hpos, div_le_iff₀ hpos]
  constructor <;> linarith

/-- Rounding up at halves does not stay half a step below. -/
theorem roundDiv_up_bounds (num : Nat) {den : Nat} (hden : 0 < den) :
    (Half.up.roundDiv num den : ℚ) - 1 / 2 ≤ num / den ∧
      (num / den : ℚ) < Half.up.roundDiv num den + 1 / 2 := by
  have hclose := (abs_le.mp (abs_roundDiv_sub_le .up num hden)).2
  have hhigh := Half.lt_two_mul_roundDiv_up num hden
  refine ⟨by linarith, ?_⟩
  have hhigh' : (2 : ℚ) * num < 2 * (Half.up.roundDiv num den * den) + den := by
    exact_mod_cast hhigh
  rw [div_lt_iff₀ (Nat.cast_pos.mpr hden)]
  linarith

/-- The decimals nearest to a number with a sign. -/
theorem isNearest_decimals_iff {negative : Bool} {rank places n : Nat} :
    IsNearest (decimals places) (signed negative (magnitude rank))
        (signed negative (n / 10 ^ places)) ↔
      n = Half.up.roundDiv (rankUnits rank * 10 ^ places) unitsPerOne := by
  have hvalue : magnitude rank * 10 ^ places =
      (rankUnits rank * 10 ^ places : ℕ) / (unitsPerOne : ℕ) := by
    rw [magnitude]
    push_cast
    ring
  obtain ⟨hlow, hhigh⟩ := roundDiv_up_bounds (rankUnits rank * 10 ^ places) unitsPerOne_pos
  rw [← hvalue] at hlow hhigh
  have hnearest := isNearest_of_half_step (magnitude_nonneg rank) hlow hhigh
  rw [isNearest_signed_iff]
  constructor
  · intro h
    have heq := h.unique hnearest (by positivity) (by positivity)
    have hscale : (10 : ℚ) ^ places ≠ 0 := by positivity
    rw [div_left_inj' hscale] at heq
    exact_mod_cast heq
  · rintro rfl
    exact hnearest

end PoolPage
