import PoolPage.Proofs.Number.Rounding

/-!
# Arithmetic in rational numbers

The exact value of a finite number (`Binary64.toRat`), and what it means that a number is an exact
value after rounding (`Binary64.IsRounded`).  Sums, differences, products and quotients of finite
numbers are rounded exact results, and rounding keeps the order (`IsRounded.le`) and all values that
are numbers already (`IsRounded.toRat_eq`).  Whole numbers below 2⁵³ are among these, so the nearest
whole number of a number is exact (`toRat_round`).
-/

namespace PoolPage
namespace Binary64

/-! ## Finite numbers -/

theorem isFinite_ofRank_iff {negative : Bool} {rank : Nat} :
    (ofRank negative rank).isFinite = true ↔ rank < rankLimit := by
  unfold ofRank
  split
  · next h => exact iff_of_true rfl h
  · next h => exact iff_of_false nofun h

theorem ofRank_eq_infinite {negative : Bool} {rank : Nat}
    (h : (ofRank negative rank).isFinite = false) : ofRank negative rank = infinite negative := by
  refine ofRank_of_le negative (Nat.le_of_not_lt fun hlt => ?_)
  exact absurd (isFinite_ofRank_iff.mpr hlt) (ne_true_of_eq_false h)

theorem exists_of_isFinite {x : Binary64} (h : x.isFinite = true) :
    ∃ negative rank, x = finite negative rank := by
  cases x with
  | finite negative rank => exact ⟨negative, rank, rfl⟩
  | _ => exact nomatch h

/-- The exact value of a finite number; the others have none, and count as zero. -/
def toRat : Binary64 → ℚ
  | finite negative rank => signed negative (magnitude rank)
  | _ => 0

@[simp] theorem toRat_finite (negative : Bool) (rank : Fin rankLimit) :
    (finite negative rank).toRat = signed negative (magnitude rank) := rfl

@[simp] theorem toRat_neg (x : Binary64) : x.neg.toRat = -x.toRat := by
  cases x with
  | finite negative rank => cases negative <;> simp [neg, signed]
  | _ => simp [neg, toRat]

@[simp] theorem isFinite_neg (x : Binary64) : x.neg.isFinite = x.isFinite := by cases x <;> rfl

theorem abs_toRat (negative : Bool) (rank : Fin rankLimit) :
    |(finite negative rank).toRat| = magnitude rank := by
  rw [toRat_finite, abs_signed, abs_of_nonneg (magnitude_nonneg _)]

theorem toRat_eq_signedUnits (negative : Bool) (rank : Fin rankLimit) :
    (finite negative rank).toRat = signedUnits negative rank / unitsPerOne := by
  cases negative with
  | false => rfl
  | true =>
    simp only [toRat_finite, signed, signedUnits, magnitude, if_true]
    push_cast
    ring

theorem toRat_zero : zero.toRat = 0 := magnitude_zero

theorem toRat_eq_zero_iff {x : Binary64} (hx : x.isFinite = true) :
    x.toRat = 0 ↔ x.isZero = true := by
  obtain ⟨s, a, rfl⟩ := exists_of_isFinite hx
  have hzero : magnitude a = 0 ↔ a.val = 0 := by
    constructor
    · intro h
      by_contra hpos
      exact (magnitude_pos (Nat.pos_of_ne_zero hpos)).ne' h
    · intro h
      rw [h, magnitude_zero]
  have hplace : (finite s a).isZero = true ↔ (if s then -(a.val : Int) else a.val) = 0 :=
    beq_iff_eq
  rw [toRat_finite, signed, hplace]
  cases s with
  | false => exact hzero.trans Int.natCast_eq_zero.symm
  | true => exact neg_eq_zero.trans (hzero.trans (Int.natCast_eq_zero.symm.trans neg_eq_zero.symm))

/-- A positive number has no minus. -/
theorem exists_of_toRat_pos {x : Binary64} (h : 0 < x.toRat) :
    ∃ rank : Fin rankLimit, x = finite false rank := by
  cases x with
  | finite s a =>
    cases s with
    | false => exact ⟨a, rfl⟩
    | true =>
      rw [toRat_finite, signed, if_pos rfl] at h
      linarith [magnitude_nonneg a]
  | _ => exact absurd h (lt_irrefl 0)

/-- Places in the order of numbers are those of exact values. -/
theorem signed_magnitude_le_iff {s t : Bool} {a b : ℕ} :
    signed s (magnitude a) ≤ signed t (magnitude b) ↔
      (if s then -(a : Int) else a) ≤ if t then -(b : Int) else b := by
  have hle {a b : ℕ} : magnitude a ≤ magnitude b ↔ a ≤ b := by
    rw [← not_lt, magnitude_lt_iff, Nat.not_lt]
  have hzero {a : ℕ} : magnitude a ≤ 0 ↔ a ≤ 0 := by rw [← magnitude_zero, hle]
  have ha := magnitude_nonneg a
  have hb := magnitude_nonneg b
  cases s <;> cases t <;> simp only [signed, if_true, if_false, Bool.false_eq_true]
  · rw [hle]
    omega
  · constructor
    · intro h
      have ha0 := hzero.mp (show magnitude a ≤ 0 by linarith)
      have hb0 := hzero.mp (show magnitude b ≤ 0 by linarith)
      omega
    · intro h
      have ha0 := hzero.mpr (show a ≤ 0 by omega)
      have hb0 := hzero.mpr (show b ≤ 0 by omega)
      linarith
  · exact iff_of_true (by linarith) (by omega)
  · rw [neg_le_neg_iff, hle]
    omega

section

variable {x y : Binary64}

theorem le_iff_toRat_le (hx : x.isFinite = true) (hy : y.isFinite = true) :
    x.le y = true ↔ x.toRat ≤ y.toRat := by
  obtain ⟨s, a, rfl⟩ := exists_of_isFinite hx
  obtain ⟨t, b, rfl⟩ := exists_of_isFinite hy
  rw [toRat_finite, toRat_finite, signed_magnitude_le_iff]
  exact decide_eq_true_iff

theorem lt_iff_toRat_lt (hx : x.isFinite = true) (hy : y.isFinite = true) :
    x.lt y = true ↔ x.toRat < y.toRat := by
  rw [← not_le, ← le_iff_toRat_le hy hx]
  obtain ⟨s, a, rfl⟩ := exists_of_isFinite hx
  obtain ⟨t, b, rfl⟩ := exists_of_isFinite hy
  simp only [lt, le, place?, decide_eq_true_eq, Int.not_le]

end

/-! ## Rounded values -/

/-- A number is an exact value after rounding.  A zero may have either sign. -/
def IsRounded (x : ℚ) (y : Binary64) : Prop :=
  ∃ negative rank, x = signed negative |x| ∧ IsNearestRank |x| rank ∧ y = ofRank negative rank

theorem place?_ofRank (negative : Bool) (rank : ℕ) :
    (ofRank negative rank).place? =
      some (if negative then -((Min.min rank rankLimit : ℕ) : Int)
        else (Min.min rank rankLimit : ℕ)) := by
  unfold ofRank
  split
  · next h =>
    have hmin := Nat.min_eq_left h.le
    rw [hmin]
    rfl
  · next h =>
    have hmin := Nat.min_eq_right (Nat.le_of_not_lt h)
    rw [hmin]
    rfl

/-- A number and a sign that it has: zero has both. -/
theorem eq_signed_abs_iff {negative : Bool} {x : ℚ} :
    x = signed negative |x| ↔ if negative then x ≤ 0 else 0 ≤ x := by
  cases negative with
  | false => exact eq_comm.trans abs_eq_self
  | true =>
    show x = -|x| ↔ x ≤ 0
    rw [← abs_eq_neg_self]
    constructor <;> intro h <;> linarith

namespace IsRounded

variable {x x' : ℚ} {y y' z : Binary64}

/-- Rounding keeps the order. -/
theorem le (h : IsRounded x y) (h' : IsRounded x' y') (hle : x ≤ x') : y.le y' = true := by
  obtain ⟨s, a, hx, ha, rfl⟩ := h
  obtain ⟨t, b, hx', hb, rfl⟩ := h'
  rw [eq_signed_abs_iff] at hx hx'
  unfold Binary64.le
  rw [place?_ofRank, place?_ofRank, decide_eq_true_eq]
  cases s <;> cases t <;>
    simp only [if_true, if_false, Bool.false_eq_true] at *
  · rw [abs_of_nonneg hx] at ha
    rw [abs_of_nonneg hx'] at hb
    have hab := ha.mono hb hle
    omega
  · have hx0 : x = 0 := le_antisymm (hle.trans hx') hx
    have hx0' : x' = 0 := le_antisymm hx' (hx.trans hle)
    rw [hx0, abs_zero, ← magnitude_zero] at ha
    rw [hx0', abs_zero, ← magnitude_zero] at hb
    have ha0 := ha.unique (isNearestRank_magnitude 0)
    have hb0 := hb.unique (isNearestRank_magnitude 0)
    omega
  · omega
  · rw [abs_of_nonpos hx] at ha
    rw [abs_of_nonpos hx'] at hb
    have hab := hb.mono ha (neg_le_neg hle)
    omega

/-- What is a number already is not changed. -/
theorem toRat_eq (h : IsRounded x y) (hz : z.isFinite = true) (hx : z.toRat = x) :
    y.isFinite = true ∧ y.toRat = x := by
  obtain ⟨s, a, hsign, ha, rfl⟩ := h
  obtain ⟨t, b, rfl⟩ := exists_of_isFinite hz
  have habs : |x| = magnitude b := by rw [← hx, abs_toRat]
  rw [habs] at ha hsign
  obtain rfl := ha.unique (isNearestRank_magnitude b)
  rw [ofRank_of_lt s b.isLt]
  exact ⟨rfl, hsign.symm⟩

/-- What is not beyond a finite number is rounded to a finite one. -/
theorem isFinite (h : IsRounded x y) (hz : z.isFinite = true) (hx : |x| ≤ |z.toRat|) :
    y.isFinite = true := by
  obtain ⟨s, a, -, ha, rfl⟩ := h
  obtain ⟨t, b, rfl⟩ := exists_of_isFinite hz
  rw [abs_toRat] at hx
  exact isFinite_ofRank_iff.mpr ((ha.mono (isNearestRank_magnitude b) hx).trans_lt b.isLt)

theorem toRat_mono (h : IsRounded x y) (h' : IsRounded x' y') (hy : y.isFinite = true)
    (hy' : y'.isFinite = true) (hle : x ≤ x') : y.toRat ≤ y'.toRat :=
  (le_iff_toRat_le hy hy').mp (h.le h' hle)

end IsRounded

theorem isRounded_toRat {x : Binary64} (hx : x.isFinite = true) : IsRounded x.toRat x := by
  obtain ⟨s, a, rfl⟩ := exists_of_isFinite hx
  refine ⟨s, a, by rw [abs_toRat, toRat_finite], ?_, (ofRank_of_lt s a.isLt).symm⟩
  rw [abs_toRat]
  exact isNearestRank_magnitude a

theorem isRounded_zero : IsRounded 0 zero := by
  have h := isRounded_toRat (x := zero) rfl
  rwa [toRat_zero] at h

theorem isRounded_neg {x : ℚ} {y : Binary64} (h : IsRounded x y) : IsRounded (-x) y.neg := by
  obtain ⟨s, a, hx, ha, rfl⟩ := h
  refine ⟨!s, a, ?_, by rwa [abs_neg], ?_⟩
  · rw [abs_neg]
    cases s with
    | false => exact congrArg Neg.neg hx
    | true => exact neg_eq_iff_eq_neg.mpr hx
  · unfold ofRank
    split <;> rfl

/-- There are finite numbers only between finite numbers. -/
theorem isFinite_of_le_of_le {low y high : Binary64} (hlow : low.isFinite = true)
    (hhigh : high.isFinite = true) (hle : low.le y = true) (hle' : y.le high = true) :
    y.isFinite = true := by
  obtain ⟨s, a, rfl⟩ := exists_of_isFinite hlow
  obtain ⟨t, b, rfl⟩ := exists_of_isFinite hhigh
  have ha := a.isLt
  have hb := b.isLt
  cases y with
  | nan => exact nomatch hle
  | finite => rfl
  | infinite negative =>
    simp only [le, place?, decide_eq_true_eq] at hle hle'
    cases negative <;> cases s <;> cases t <;>
      simp only [if_true, if_false, Bool.false_eq_true] at hle hle' <;> omega

/-- What lies between two values is rounded to a number between theirs. -/
theorem IsRounded.between {a x b : ℚ} {low y high : Binary64} (h : IsRounded x y)
    (hlow : IsRounded a low) (hhigh : IsRounded b high) (hfinite : low.isFinite = true)
    (hfinite' : high.isFinite = true) (hle : a ≤ x) (hle' : x ≤ b) :
    y.isFinite = true ∧ low.toRat ≤ y.toRat ∧ y.toRat ≤ high.toRat := by
  have hy := isFinite_of_le_of_le hfinite hfinite' (hlow.le h hle) (h.le hhigh hle')
  exact ⟨hy, hlow.toRat_mono h hfinite hy hle, h.toRat_mono hhigh hy hfinite' hle'⟩

/-- Rounding goes no further than to any given number. -/
theorem IsRounded.abs_sub_le {x : ℚ} {y z : Binary64} (h : IsRounded x y)
    (hy : y.isFinite = true) (hz : z.isFinite = true) : |y.toRat - x| ≤ |z.toRat - x| := by
  obtain ⟨s, a, hx, ha, rfl⟩ := h
  obtain ⟨t, b, rfl⟩ := exists_of_isFinite hz
  rw [ofRank_of_lt s (isFinite_ofRank_iff.mp hy), toRat_finite]
  obtain ⟨v, hv⟩ : ∃ v, |x| = v := ⟨_, rfl⟩
  rw [hv] at hx ha
  calc |signed s (magnitude a) - x| = |magnitude a - v| := by rw [hx, abs_signed_sub]
    _ ≤ |magnitude b - v| := ha.le b
    _ ≤ |(finite t b).toRat - x| := by
      rw [← abs_toRat t b, ← hv]
      exact abs_abs_sub_abs_le _ _

/-- From the second binade on, the relative error is small. -/
theorem IsRounded.abs_sub_le_of_normal {x : ℚ} {y : Binary64} (h : IsRounded x y)
    (hy : y.isFinite = true) (hx : magnitude binadeSize ≤ |x|) :
    2 ^ 53 * |y.toRat - x| ≤ |y.toRat| := by
  obtain ⟨s, a, hsign, ha, rfl⟩ := h
  have hlt := isFinite_ofRank_iff.mp hy
  obtain ⟨v, hv⟩ : ∃ v, |x| = v := ⟨_, rfl⟩
  rw [hv] at hsign ha hx
  have hnormal := (isNearestRank_magnitude binadeSize).mono ha hx
  rw [ofRank_of_lt s hlt, abs_toRat, toRat_finite, hsign, abs_signed_sub]
  exact IsNearestRank.abs_sub_le_of_normal ha (hv ▸ abs_nonneg x) hnormal

/-- The relative error is small also where the exact result is a whole number of units. -/
theorem IsRounded.abs_sub_le_of_units {units : ℤ} {y : Binary64}
    (h : IsRounded (units / unitsPerOne) y) (hy : y.isFinite = true) :
    2 ^ 53 * |y.toRat - units / unitsPerOne| ≤ |y.toRat| := by
  obtain ⟨s, a, hsign, ha, rfl⟩ := h
  have hlt := isFinite_ofRank_iff.mp hy
  have habs : |(units : ℚ) / unitsPerOne| = units.natAbs / unitsPerOne := by
    rw [abs_div, abs_of_pos cast_unitsPerOne_pos, Nat.cast_natAbs, Int.cast_abs]
  rw [habs] at hsign ha
  rw [ofRank_of_lt s hlt, abs_toRat, toRat_finite, hsign, abs_signed_sub]
  exact ha.abs_sub_le_of_units

/-! ## Operations -/

theorem isRounded_ofQuotient (negative : Bool) (num : ℕ) {den : ℕ} (hden : 0 < den) :
    IsRounded (signed negative (num / den / unitsPerOne)) (ofQuotient negative num den) := by
  have hnonneg : (0 : ℚ) ≤ num / den / unitsPerOne :=
    div_nonneg (div_nonneg (Nat.cast_nonneg _) (Nat.cast_nonneg _)) cast_unitsPerOne_pos.le
  have habs : |signed negative ((num : ℚ) / den / unitsPerOne)| = num / den / unitsPerOne := by
    rw [abs_signed, abs_of_nonneg hnonneg]
  refine ⟨negative, _, by rw [habs], ?_, rfl⟩
  rw [habs]
  exact isNearestRank_nearestRank num hden

/-- A whole number of units with the sign of its own, or any sign for zero. -/
theorem isRounded_units {negative : Bool} {units : ℤ}
    (h : units ≠ 0 → negative = decide (units < 0)) :
    IsRounded (units / unitsPerOne) (ofQuotient negative units.natAbs 1) := by
  have hrounded := isRounded_ofQuotient negative units.natAbs Nat.one_pos
  have hvalue : signed negative ((units.natAbs : ℚ) / (1 : ℕ) / unitsPerOne) =
      units / unitsPerOne := by
    rw [Nat.cast_one, div_one]
    obtain ⟨n, rfl | rfl⟩ := units.eq_nat_or_neg
    · have hnot : negative = true → n = 0 := by
        intro hnegative
        by_contra hne
        have hsign := of_decide_eq_true ((h (by omega)).symm.trans hnegative)
        omega
      cases negative with
      | false => rfl
      | true => simp [hnot rfl, signed]
    · have hnot : negative = false → n = 0 := by
        intro hnegative
        by_contra hne
        have hsign := of_decide_eq_false ((h (by omega)).symm.trans hnegative)
        omega
      cases negative with
      | false => simp [hnot rfl, signed]
      | true =>
        rw [Int.natAbs_neg, Int.natAbs_natCast, Int.cast_neg, Int.cast_natCast, neg_div]
        rfl
  rwa [hvalue] at hrounded

theorem isRounded_ofInt (n : ℤ) : IsRounded n (ofInt n) := by
  have hpos : (0 : ℤ) < unitsPerOne := Int.natCast_pos.mpr unitsPerOne_pos
  have hsign : n * unitsPerOne < 0 * unitsPerOne ↔ n < 0 := mul_lt_mul_iff_left₀ hpos
  rw [zero_mul] at hsign
  have h := @isRounded_units (decide (n < 0)) (n * unitsPerOne)
    fun _ => decide_eq_decide.mpr hsign.symm
  rw [Int.cast_mul, Int.cast_natCast, mul_div_cancel_right₀ _ cast_unitsPerOne_pos.ne',
    Int.natAbs_mul, Int.natAbs_natCast] at h
  exact h

theorem isRounded_ofNat (n : ℕ) : IsRounded n (ofNat n) := by
  have h := isRounded_ofInt n
  rwa [Int.cast_natCast] at h

section

variable {x y : Binary64}

theorem isRounded_add (hx : x.isFinite = true) (hy : y.isFinite = true) :
    IsRounded (x.toRat + y.toRat) (x + y) := by
  obtain ⟨s, a, rfl⟩ := exists_of_isFinite hx
  obtain ⟨t, b, rfl⟩ := exists_of_isFinite hy
  rw [toRat_eq_signedUnits, toRat_eq_signedUnits, ← add_div, ← Int.cast_add]
  exact isRounded_units fun hne => if_neg hne

theorem isRounded_sub (hx : x.isFinite = true) (hy : y.isFinite = true) :
    IsRounded (x.toRat - y.toRat) (x - y) := by
  have h := isRounded_add hx (show y.neg.isFinite = true by rw [isFinite_neg, hy])
  rwa [toRat_neg, ← sub_eq_add_neg] at h

theorem signed_mul_signed (s t : Bool) (u v : ℚ) :
    signed s u * signed t v = signed (s != t) (u * v) := by
  cases s <;> cases t <;> simp [signed]

theorem signed_div_signed (s t : Bool) (u v : ℚ) :
    signed s u / signed t v = signed (s != t) (u / v) := by
  cases s <;> cases t <;> simp [signed, neg_div, div_neg]

theorem isRounded_mul (hx : x.isFinite = true) (hy : y.isFinite = true) :
    IsRounded (x.toRat * y.toRat) (x * y) := by
  obtain ⟨s, a, rfl⟩ := exists_of_isFinite hx
  obtain ⟨t, b, rfl⟩ := exists_of_isFinite hy
  have h := isRounded_ofQuotient (s != t) (rankUnits a * rankUnits b) unitsPerOne_pos
  rw [Nat.cast_mul, div_div, mul_div_mul_comm] at h
  rw [toRat_finite, toRat_finite, signed_mul_signed]
  exact h

theorem isRounded_div (hx : x.isFinite = true) (hy : y.isFinite = true) (hne : y.toRat ≠ 0) :
    IsRounded (x.toRat / y.toRat) (x / y) := by
  obtain ⟨s, a, rfl⟩ := exists_of_isFinite hx
  obtain ⟨t, b, rfl⟩ := exists_of_isFinite hy
  have hb : b.val ≠ 0 := by
    intro hzero
    refine hne ?_
    rw [toRat_finite, hzero, magnitude_zero]
    cases t <;> simp [signed]
  have hpos := rankUnits_pos (Nat.pos_of_ne_zero hb)
  have h := isRounded_ofQuotient (s != t) (rankUnits a * unitsPerOne) hpos
  have hvalue : ((rankUnits a * unitsPerOne : ℕ) : ℚ) / rankUnits b / unitsPerOne =
      magnitude a / magnitude b := by
    have hone := cast_unitsPerOne_pos.ne'
    rw [magnitude, magnitude, div_div_div_cancel_right₀ hone, Nat.cast_mul, div_right_comm,
      mul_div_cancel_right₀ _ hone]
  rw [hvalue] at h
  rw [toRat_finite, toRat_finite, signed_div_signed]
  have hdiv : finite s a / finite t b =
      ofQuotient (s != t) (rankUnits a * unitsPerOne) (rankUnits b) := if_neg hb
  rwa [hdiv]

end

/-! ## Whole numbers -/

/-- Whole numbers below 2⁵³ are numbers of the format. -/
theorem exists_rankUnits_eq {n : ℕ} (h : n < 2 * binadeSize) :
    ∃ rank : Fin rankLimit, rankUnits rank = n * unitsPerOne := by
  rcases Nat.eq_zero_or_pos n with rfl | hpos
  · exact ⟨⟨0, by decide⟩, by rw [rankUnits_zero, Nat.zero_mul]⟩
  · have hlow : 2 ^ n.log2 ≤ n := Nat.log2_self_le hpos.ne'
    have hhigh : n < 2 ^ (n.log2 + 1) := Nat.lt_log2_self
    have hlog : n.log2 ≤ 52 := Nat.lt_succ_iff.mp ((Nat.log2_lt hpos.ne').mpr h)
    generalize n.log2 = log at *
    have hscale (k : ℕ) : 2 ^ (log + k) * 2 ^ (52 - log) = 2 ^ (52 + k) := by
      rw [← Nat.pow_add]
      congr 1
      omega
    have hnormal : binadeSize ≤ n * 2 ^ (52 - log) :=
      (hscale 0).ge.trans (Nat.mul_le_mul_right _ hlow)
    have hle : n * 2 ^ (52 - log) < 2 * binadeSize :=
      (Nat.mul_lt_mul_of_pos_right hhigh (Nat.two_pow_pos _)).trans_eq (hscale 1)
    have hlimit : (1022 + log) * binadeSize + n * 2 ^ (52 - log) < rankLimit := by
      have hshift := Nat.mul_le_mul_right binadeSize (show 1022 + log ≤ 1074 by omega)
      simp only [rankLimit, binadeSize] at *
      omega
    refine ⟨⟨_, hlimit⟩, ?_⟩
    rw [rankUnits_shift_add hle.le (.inr hnormal), unitsPerOne, Nat.one_shiftLeft, Nat.mul_assoc,
      ← Nat.pow_add]
    congr 2
    omega

/-- A whole number below 2⁵³ is not changed by rounding. -/
theorem IsRounded.toRat_eq_natCast {negative : Bool} {n : ℕ} {y : Binary64}
    (h : IsRounded (signed negative n) y) (hn : n < 2 * binadeSize) :
    y.isFinite = true ∧ y.toRat = signed negative n := by
  obtain ⟨rank, hrank⟩ := exists_rankUnits_eq hn
  refine h.toRat_eq (z := finite negative rank) rfl ?_
  rw [toRat_finite, magnitude, hrank, Nat.cast_mul,
    mul_div_cancel_right₀ _ cast_unitsPerOne_pos.ne']

theorem toRat_ofNat {n : ℕ} (h : n < 2 * binadeSize) :
    (ofNat n).isFinite = true ∧ (ofNat n).toRat = n :=
  @IsRounded.toRat_eq_natCast false n (ofNat n) (isRounded_ofNat n) h

/-- Written numbers from two on are what they are. -/
theorem toRat_literal (n : ℕ) [n.AtLeastTwo] (h : n < 2 * binadeSize) :
    (OfNat.ofNat n : Binary64).isFinite = true ∧ (OfNat.ofNat n : Binary64).toRat = OfNat.ofNat n :=
  toRat_ofNat h

theorem rankUnits_two_pow : rankUnits (1075 * binadeSize) = binadeSize * unitsPerOne := by decide

/-- All numbers from 2⁵² on are whole. -/
theorem unitsPerOne_dvd_of_le {rank : ℕ} (h : 1075 * binadeSize ≤ rank) :
    unitsPerOne ∣ rankUnits rank := by
  have hshift : 1074 ≤ rankShift rank := by
    simp only [rankShift, binadeSize] at *
    omega
  have hdvd {power : ℕ} (hle : power ≤ rankShift rank) : 1 <<< power ∣ rankUnits rank := by
    rw [Nat.one_shiftLeft]
    exact (Nat.pow_dvd_pow 2 hle).trans (two_pow_rankShift_dvd rank)
  exact hdvd hshift

/-- The nearest whole number is one of the format: a number that is not whole is small. -/
theorem toRat_round (negative : Bool) (rank : Fin rankLimit) :
    (finite negative rank).round.isFinite = true ∧
      (finite negative rank).round.toRat =
        signed negative (Half.up.roundDiv (rankUnits rank) unitsPerOne) := by
  have hrounded := isRounded_ofQuotient negative
    (Half.up.roundDiv (rankUnits rank) unitsPerOne * unitsPerOne) Nat.one_pos
  rw [Nat.cast_one, div_one, Nat.cast_mul, mul_div_cancel_right₀ _ cast_unitsPerOne_pos.ne']
    at hrounded
  by_cases hwhole : unitsPerOne ∣ rankUnits rank
  · refine hrounded.toRat_eq (z := finite negative rank) rfl ?_
    obtain ⟨n, hn⟩ := hwhole
    rw [Nat.mul_comm] at hn
    rw [toRat_finite, magnitude, hn, Half.roundDiv_mul _ _ unitsPerOne_pos, Nat.cast_mul,
      mul_div_cancel_right₀ _ cast_unitsPerOne_pos.ne']
  · refine hrounded.toRat_eq_natCast ?_
    have hlt : rank.val < 1075 * binadeSize := by
      by_contra hge
      exact hwhole (unitsPerOne_dvd_of_le (Nat.le_of_not_lt hge))
    have hunits := strictMono_rankUnits hlt
    rw [rankUnits_two_pow] at hunits
    have hdiv := (Nat.div_lt_iff_lt_mul unitsPerOne_pos).mpr hunits
    have hround := Half.roundDiv_le_succ .up (rankUnits rank) unitsPerOne
    omega

/-! ## Signs -/

/-- A number without a minus. -/
def IsUnsigned (x : Binary64) : Prop := ∃ rank, x = ofRank false rank

section

variable {x y : Binary64}

theorem IsUnsigned.exists_finite (h : IsUnsigned x) (hx : x.isFinite = true) :
    ∃ rank, x = finite false rank := by
  obtain ⟨rank, rfl⟩ := h
  exact ⟨_, ofRank_of_lt false (isFinite_ofRank_iff.mp hx)⟩

theorem isUnsigned_ofNat (n : ℕ) : IsUnsigned (ofNat n) := by
  refine ⟨nearestRank (n * unitsPerOne) 1, ?_⟩
  have hsign : decide ((n : ℤ) < 0) = false := decide_eq_false (by omega)
  rw [ofNat, ofInt, hsign]
  rfl

theorem IsUnsigned.mul (hx : IsUnsigned x) (hx' : x.isFinite = true) (hy : IsUnsigned y)
    (hy' : y.isFinite = true) : IsUnsigned (x * y) := by
  obtain ⟨a, rfl⟩ := hx.exists_finite hx'
  obtain ⟨b, rfl⟩ := hy.exists_finite hy'
  exact ⟨_, rfl⟩

theorem IsUnsigned.div (hx : IsUnsigned x) (hx' : x.isFinite = true) (hy : IsUnsigned y)
    (hne : y.toRat ≠ 0) : IsUnsigned (x / y) := by
  obtain ⟨a, rfl⟩ := hx.exists_finite hx'
  cases y with
  | finite t b =>
    obtain ⟨b, hb⟩ := hy.exists_finite rfl
    cases hb
    refine ⟨_, if_neg fun hzero => hne ?_⟩
    rw [toRat_finite, hzero, magnitude_zero]
    rfl
  | _ => exact absurd rfl hne

/-- A difference has no minus if it is not negative, also where it is zero. -/
theorem IsUnsigned.sub (hx : IsUnsigned x) (hx' : x.isFinite = true) (hy : y.isFinite = true)
    (hle : y.toRat ≤ x.toRat) : IsUnsigned (x - y) := by
  obtain ⟨a, rfl⟩ := hx.exists_finite hx'
  obtain ⟨t, b, rfl⟩ := exists_of_isFinite hy
  have htotal : 0 ≤ signedUnits false a + signedUnits (!t) b := by
    have hdifference : 0 ≤ (finite false a).toRat + (finite (!t) b).toRat := by
      have hneg := toRat_neg (finite t b)
      rw [neg] at hneg
      linarith
    rw [toRat_eq_signedUnits, toRat_eq_signedUnits, ← add_div,
      le_div_iff₀ cast_unitsPerOne_pos, zero_mul] at hdifference
    exact_mod_cast hdifference
  have hsign : (if signedUnits false a + signedUnits (!t) b = 0 then false && !t
      else decide (signedUnits false a + signedUnits (!t) b < 0)) = false := by
    split
    · rfl
    · exact decide_eq_false (Int.not_lt.mpr htotal)
  refine ⟨nearestRank (signedUnits false a + signedUnits (!t) b).natAbs 1, ?_⟩
  exact congrArg (fun s => ofQuotient s _ 1) hsign

end

/-- A whole number that is too large for the format is infinite. -/
theorem ofNat_eq_infinite {n : ℕ} (h : (ofNat n).isFinite = false) :
    ofNat n = infinite false := by
  obtain ⟨rank, hrank⟩ := isUnsigned_ofNat n
  rw [hrank] at h ⊢
  exact ofRank_eq_infinite h

end Binary64
end PoolPage
