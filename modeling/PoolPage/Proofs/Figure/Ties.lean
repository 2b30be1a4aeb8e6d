import PoolPage.Figure
import PoolPage.Proofs.Number.Nearest
import Mathlib.Algebra.Ring.Parity
import Mathlib.Data.Nat.Prime.Basic

/-!
# Exact halves

`Figure.isTie` finds the magnitudes halfway between two multiples of a power of ten by their
factors of two (`isTie_ofNat_iff`) or by their last digits (`isTie_negSucc`).  To the left of the
point it looks at small magnitudes and few digits only, and this is enough: a half there has as
many factors of five as digits, of which a significand has room for 22, and only as many factors of
two (`IsTie.factors`).  So the test is exact (`isTie_iff_exists_half`).  The next rank, whose
digits are written in place of such a magnitude, is past the half, and rounded as intended if it is
not too far past it (`roundDiv_breakTie_iff`).
-/

namespace PoolPage
namespace Figure

/-! ## Factors of two -/

/-- A number with exactly so many factors of two. -/
def OddMultiple (power n : Nat) : Prop := ∃ k, n = (2 * k + 1) * 2 ^ power

/-- The lowest bits of such a number: a one and then zeros. -/
theorem oddMultiple_of_mod_eq {power n : Nat} (h : n % 2 ^ (power + 1) = 2 ^ power) :
    OddMultiple power n := by
  refine ⟨n / 2 ^ (power + 1), ?_⟩
  have hdiv := Nat.div_add_mod' n (2 ^ (power + 1))
  rw [h] at hdiv
  calc n = n / 2 ^ (power + 1) * 2 ^ (power + 1) + 2 ^ power := hdiv.symm
    _ = (2 * (n / 2 ^ (power + 1)) + 1) * 2 ^ power := by rw [Nat.pow_succ]; ring

/-- Factors of five do not matter. -/
theorem oddMultiple_mul_five_pow_iff {power n places : Nat} :
    OddMultiple power (n * 5 ^ places) ↔ OddMultiple power n := by
  have hodd : Odd (5 ^ places) := Odd.pow (by decide)
  constructor
  · rintro ⟨k, hk⟩
    have hcoprime : Nat.Coprime (2 ^ power) (5 ^ places) := Nat.Coprime.pow _ _ (by decide)
    obtain ⟨b, rfl⟩ := hcoprime.dvd_of_dvd_mul_right (Dvd.intro_left _ hk.symm)
    have hb : b * 5 ^ places = 2 * k + 1 := by
      refine Nat.eq_of_mul_eq_mul_right (Nat.two_pow_pos power) ?_
      rw [← hk]
      ring
    obtain ⟨j, hj⟩ := (Nat.odd_mul.mp ⟨k, hb⟩).1
    exact ⟨j, by rw [hj]; ring⟩
  · rintro ⟨k, rfl⟩
    obtain ⟨j, hj⟩ := Odd.mul (odd_two_mul_add_one k) hodd
    exact ⟨j, by rw [← hj]; ring⟩

theorem oddMultiple_mul_two_pow_iff {power shift n : Nat} :
    OddMultiple (power + shift) (n * 2 ^ shift) ↔ OddMultiple power n := by
  have hpos := Nat.two_pow_pos shift
  constructor
  · rintro ⟨k, hk⟩
    refine ⟨k, Nat.eq_of_mul_eq_mul_right hpos ?_⟩
    rw [hk, Nat.pow_add]
    ring
  · rintro ⟨k, rfl⟩
    exact ⟨k, by rw [Nat.pow_add]; ring⟩

theorem not_oddMultiple_of_lt {power shift n : Nat} (h : power < shift) :
    ¬OddMultiple power (n * 2 ^ shift) := by
  rintro ⟨k, hk⟩
  obtain ⟨j, rfl⟩ : ∃ j, shift = power + 1 + j := ⟨shift - power - 1, by omega⟩
  have heq : n * (2 * 2 ^ j) = 2 * k + 1 := by
    refine Nat.eq_of_mul_eq_mul_right (Nat.two_pow_pos power) ?_
    rw [← hk, Nat.pow_add, Nat.pow_succ]
    ring
  have hring : n * (2 * 2 ^ j) = 2 * (n * 2 ^ j) := by ring
  omega

theorem OddMultiple.not_lt {power shift n : Nat} (h : OddMultiple power n)
    (h' : OddMultiple shift n) : ¬power < shift := by
  obtain ⟨k, rfl⟩ := h'
  exact fun hlt => not_oddMultiple_of_lt hlt h

/-- The zeros at the end of a word count its factors of two. -/
theorem oddMultiple_ctz {n : Nat} (hpos : 0 < n) (hlt : n < 2 ^ 64) :
    OddMultiple (BitVec.ofNat 64 n).ctz.toNat n := by
  have hbits (i : Nat) (hi : i < 64) : (BitVec.ofNat 64 n).getLsbD i = n.testBit i := by
    rw [BitVec.getLsbD_ofNat, decide_eq_true hi, Bool.true_and]
  have hne : BitVec.ofNat 64 n ≠ 0#64 := fun hzero => by
    have hnat := congrArg BitVec.toNat hzero
    rw [BitVec.toNat_ofNat, Nat.mod_eq_of_lt hlt] at hnat
    exact hpos.ne' hnat
  have hone := BitVec.getLsbD_true_ctz_of_ne_zero hne
  have hsize := BitVec.lt_of_getLsbD hone
  rw [hbits _ hsize] at hone
  refine oddMultiple_of_mod_eq (Nat.eq_of_testBit_eq fun i => ?_)
  rw [Nat.testBit_mod_two_pow, Nat.testBit_two_pow]
  rcases Nat.lt_trichotomy i (BitVec.ofNat 64 n).ctz.toNat with hi | rfl | hi
  · have hzero := BitVec.getLsbD_false_of_lt_ctz hi
    rw [hbits i (hi.trans hsize)] at hzero
    rw [hzero, Bool.and_false, decide_eq_false hi.ne']
  · rw [hone, Bool.and_true, decide_eq_true (Nat.lt_succ_self _), decide_eq_true rfl]
  · rw [decide_eq_false (show ¬i < _ + 1 by omega), Bool.false_and, decide_eq_false hi.ne]

theorem ctz_eq_iff {power n : Nat} (hpos : 0 < n) (hlt : n < 2 ^ 64) :
    (BitVec.ofNat 64 n).ctz.toNat = power ↔ OddMultiple power n := by
  have hctz := oddMultiple_ctz hpos hlt
  refine ⟨fun h => h ▸ hctz, fun h => ?_⟩
  have hle := h.not_lt hctz
  have hge := hctz.not_lt h
  omega

/-- The test of `isTie` to the right of the point, for any number of units. -/
theorem factors_iff {power shift n places : Nat} (hpos : 0 < n) (hlt : n < 2 ^ 64) :
    (shift < power ∧ (BitVec.ofNat 64 n).ctz.toNat + places + 1 = power - shift) ↔
      OddMultiple power (2 * (n <<< shift * 10 ^ places)) := by
  have hn : 2 * (n <<< shift * 10 ^ places) = n * 5 ^ places * 2 ^ (shift + places + 1) := by
    have hten : 10 ^ places = 2 ^ places * 5 ^ places := by rw [← Nat.mul_pow]
    rw [Nat.shiftLeft_eq, hten, Nat.pow_succ, Nat.pow_add]
    ring
  rw [hn]
  rcases Nat.lt_or_ge power (shift + places + 1) with hlow | hge
  · exact iff_of_false (by omega) (not_oddMultiple_of_lt hlow)
  · obtain ⟨rest, rfl⟩ : ∃ rest, power = rest + (shift + places + 1) :=
      ⟨power - (shift + places + 1), by omega⟩
    rw [oddMultiple_mul_two_pow_iff, oddMultiple_mul_five_pow_iff, ← ctz_eq_iff hpos hlt]
    omega

/-! ## Halves -/

/-- A magnitude halfway between two multiples of `10 ^ -places`. -/
def IsTie (rank : Nat) (places : Int) : Prop :=
  Half.IsHalf (rankUnits rank * 10 ^ places.toNat) (unitsPerOne * 10 ^ (-places).toNat)

theorem unit_pos (places : Int) : 0 < unitsPerOne * 10 ^ (-places).toNat :=
  Nat.mul_pos unitsPerOne_pos (Nat.pow_pos (by decide))

theorem isTie_iff {rank : Nat} {places : Int} :
    IsTie rank places ↔ ∃ k : ℕ, magnitude rank * 10 ^ places = k + 1 / 2 := by
  have hpos : (0 : ℚ) < (unitsPerOne * 10 ^ (-places).toNat : ℕ) :=
    Nat.cast_pos.mpr (unit_pos places)
  rw [IsTie, Half.isHalf_iff (unit_pos places), magnitude, units_mul_zpow]
  refine exists_congr fun k => ?_
  rw [div_eq_iff hpos.ne', ← @Nat.cast_inj ℚ]
  push_cast
  constructor <;> intro h <;> linarith

theorem not_isTie_zero (places : Int) : ¬IsTie 0 places := by
  intro h
  obtain ⟨k, hk⟩ := (Half.isHalf_iff (unit_pos places)).mp h
  rw [rankUnits_zero, Nat.zero_mul] at hk
  exact (Nat.mul_pos (Nat.succ_pos (2 * k)) (unit_pos places)).ne hk

/-- To the right of the point. -/
theorem isTie_ofNat_iff {rank places : Nat} : isTie rank places = true ↔ IsTie rank places := by
  rcases Nat.eq_zero_or_pos rank with rfl | hrank
  · exact iff_of_false Bool.false_ne_true (not_isTie_zero places)
  have hdown : (-(places : Int)).toNat = 0 := by omega
  rw [IsTie, Int.toNat_natCast, hdown, Nat.pow_zero, Nat.mul_one, Half.isHalf_iff unitsPerOne_pos,
    unitsPerOne, Nat.one_shiftLeft]
  show isTie rank (.ofNat places) = true ↔ OddMultiple 1074 _
  rw [isTie, if_neg hrank.ne', Bool.and_eq_true, decide_eq_true_eq, decide_eq_true_eq]
  have hword : rankSignificand rank < 2 ^ 64 := (rankSignificand_lt rank).trans (by decide)
  exact factors_iff (rankSignificand_pos hrank) hword

theorem isTie_negSucc_eq {rank : Nat} (hrank : rank ≠ 0) (less : Nat) :
    isTie rank (.negSucc less) =
      if rankUnits rank % unitsPerOne ≠ 0 ∨ tieLimit ≤ rank ∨ 38 < less + 1 then false
      else rankUnits rank / unitsPerOne % 10 ^ (less + 1) = 10 ^ (less + 1) / 2 :=
  if_neg hrank

theorem isTie_negSucc {rank less : Nat} :
    IsTie rank (.negSucc less) ↔
      rankUnits rank % unitsPerOne = 0 ∧
        rankUnits rank / unitsPerOne % 10 ^ (less + 1) = 10 ^ (less + 1) / 2 := by
  show 2 * (rankUnits rank * 10 ^ 0 % (unitsPerOne * 10 ^ (less + 1))) =
    unitsPerOne * 10 ^ (less + 1) ↔ _
  have hten : 10 ^ (less + 1) = 2 * (5 * 10 ^ less) := by rw [Nat.pow_succ]; ring
  rw [Nat.pow_zero, Nat.mul_one, Nat.mod_mul, hten, Nat.mul_div_cancel_left _ (by decide)]
  have hpos := unitsPerOne_pos
  have hlt := Nat.mod_lt (rankUnits rank) hpos
  generalize rankUnits rank / unitsPerOne % (2 * (5 * 10 ^ less)) = whole
  generalize rankUnits rank % unitsPerOne = part at *
  generalize 5 * 10 ^ less = half
  constructor
  · intro h
    have hring : unitsPerOne * (2 * half) = 2 * (unitsPerOne * half) := by ring
    have heq : part + unitsPerOne * whole = unitsPerOne * half := by omega
    have hdiv : (part + unitsPerOne * whole) / unitsPerOne = half := by
      rw [heq, Nat.mul_div_cancel_left _ hpos]
    rw [Nat.add_mul_div_left _ _ hpos, Nat.div_eq_of_lt hlt, Nat.zero_add] at hdiv
    subst hdiv
    exact ⟨by omega, rfl⟩
  · rintro ⟨rfl, rfl⟩
    ring

/-- A magnitude that is taken for a half is one. -/
theorem IsTie.of_isTie {rank : Nat} {places : Int} (h : isTie rank places = true) :
    IsTie rank places := by
  cases places with
  | ofNat places => exact isTie_ofNat_iff.mp h
  | negSucc less =>
    have hrank : rank ≠ 0 := fun hzero => by
      subst hzero
      exact Bool.false_ne_true h
    rw [isTie_negSucc_eq hrank] at h
    split at h
    · exact nomatch h
    · next hwhole => exact isTie_negSucc.mpr ⟨by omega, decide_eq_true_eq.mp h⟩

/-! ## Left of the point -/

section

variable {rank places : Nat}

theorem exists_two_mul_rankUnits (rank : Nat) :
    ∃ significand < 2 ^ 53, 2 * rankUnits rank = significand * 2 ^ (rankShift rank + 1) := by
  obtain ⟨significand, hrank, hlt, hnormal⟩ := exists_shift_significand rank
  refine ⟨significand, hlt, ?_⟩
  generalize rankShift rank = shift at *
  rw [hrank, rankUnits_shift_add hlt.le hnormal, Nat.pow_succ]
  ring

theorem unitsPerOne_mul_two_pow (places : Nat) :
    unitsPerOne * 2 ^ places = 2 ^ (1074 + places) := by
  rw [← Nat.shiftLeft_eq, ← Nat.shiftLeft_add, Nat.one_shiftLeft]

/-- The factors of a half. -/
theorem IsTie.factors (h : IsTie rank (-(places : Int))) :
    OddMultiple (1074 + places) (2 * rankUnits rank) ∧ 5 ^ places ∣ 2 * rankUnits rank := by
  have hup : (-(places : Int)).toNat = 0 := by omega
  have hdown : (- -(places : Int)).toNat = places := by omega
  obtain ⟨k, hk⟩ := (Half.isHalf_iff (unit_pos _)).mp h
  have hten : 10 ^ places = 2 ^ places * 5 ^ places := by rw [← Nat.mul_pow]
  rw [hup, hdown, Nat.pow_zero, Nat.mul_one, hten] at hk
  have hfives : 2 * rankUnits rank = (2 * k + 1) * 2 ^ (1074 + places) * 5 ^ places := by
    rw [hk, ← unitsPerOne_mul_two_pow]
    ring
  obtain ⟨j, hj⟩ := Odd.mul (odd_two_mul_add_one k) (Odd.pow (n := places) (by decide : Odd 5))
  refine ⟨⟨j, ?_⟩, ?_⟩
  · rw [hfives, ← hj]
    exact Nat.mul_right_comm _ _ _
  · rw [hfives]
    exact Nat.dvd_mul_left _ _

/-- A significand has at most 22 factors of five. -/
theorem IsTie.places_le (h : IsTie rank (-(places : Int))) : places ≤ 22 := by
  obtain ⟨⟨k, hodd⟩, hfives⟩ := h.factors
  obtain ⟨significand, hlt, hunits⟩ := exists_two_mul_rankUnits rank
  have hpos : 0 < significand := by
    refine Nat.pos_of_ne_zero fun hzero => ?_
    rw [hunits, hzero, Nat.zero_mul] at hodd
    exact (Nat.mul_pos (Nat.succ_pos (2 * k)) (Nat.two_pow_pos _)).ne hodd
  have hcoprime : Nat.Coprime (5 ^ places) (2 ^ (rankShift rank + 1)) :=
    Nat.Coprime.pow _ _ (by decide)
  rw [hunits] at hfives
  have hle := Nat.le_of_dvd hpos (hcoprime.dvd_of_dvd_mul_right hfives)
  by_contra hgt
  have hpow : 5 ^ 23 ≤ 5 ^ places := Nat.pow_le_pow_right (by decide) (Nat.lt_of_not_le hgt)
  exact absurd (hpow.trans (hle.trans hlt.le)) (by decide)

/-- A half has few factors of two, so its significand is not shifted far. -/
theorem IsTie.two_mul_rankUnits_lt (h : IsTie rank (-(places : Int))) :
    2 * rankUnits rank < 2 ^ 53 * (unitsPerOne * 2 ^ places) := by
  obtain ⟨hodd, -⟩ := h.factors
  obtain ⟨significand, hlt, hunits⟩ := exists_two_mul_rankUnits rank
  have hshift : rankShift rank + 1 ≤ 1074 + places := by
    by_contra hgt
    rw [hunits] at hodd
    exact not_oddMultiple_of_lt (Nat.lt_of_not_le hgt) hodd
  rw [hunits, unitsPerOne_mul_two_pow]
  exact Nat.mul_lt_mul_of_lt_of_le hlt (Nat.pow_le_pow_right (by decide) hshift)
    (Nat.two_pow_pos _)

theorem IsTie.lt_tieLimit (h : IsTie rank (-(places : Int))) : rank < tieLimit := by
  have hlimit : 2 ^ 53 * (unitsPerOne * 2 ^ 22) ≤ 2 * rankUnits tieLimit := by decide +kernel
  have hpow : unitsPerOne * 2 ^ places ≤ unitsPerOne * 2 ^ 22 :=
    Nat.mul_le_mul_left _ (Nat.pow_le_pow_right (by decide) h.places_le)
  have hlt : 2 * rankUnits rank < 2 * rankUnits tieLimit :=
    h.two_mul_rankUnits_lt.trans_le ((Nat.mul_le_mul_left _ hpow).trans hlimit)
  exact strictMono_rankUnits.lt_iff_lt.mp (Nat.lt_of_mul_lt_mul_left hlt)

/-- A half is found, since it is below the limits of the test. -/
theorem IsTie.isTie {rank : Nat} {places : Int} (h : IsTie rank places) :
    Figure.isTie rank places = true := by
  cases places with
  | ofNat places => exact isTie_ofNat_iff.mpr h
  | negSucc less =>
    have hrank : rank ≠ 0 := fun hzero => not_isTie_zero _ (hzero ▸ h)
    obtain ⟨hwhole, hhalf⟩ := isTie_negSucc.mp h
    rw [Int.negSucc_eq] at h
    have hplaces : less + 1 ≤ 22 := h.places_le
    have hlimit : rank < tieLimit := h.lt_tieLimit
    rw [isTie_negSucc_eq hrank, if_neg (by omega), decide_eq_true_eq]
    exact hhalf

end

/-- The test is exact, for every magnitude and every place on either side of the point. -/
theorem isTie_iff_exists_half (rank : Nat) (places : Int) :
    isTie rank places = true ↔ ∃ k : ℤ, magnitude rank * 10 ^ places = k + 1 / 2 := by
  have hpos : 0 ≤ magnitude rank * 10 ^ places :=
    mul_nonneg (magnitude_nonneg rank) (by positivity)
  constructor
  · intro h
    obtain ⟨k, hk⟩ := isTie_iff.mp (.of_isTie h)
    exact ⟨k, hk⟩
  · rintro ⟨k, hk⟩
    -- The whole number below a half is not negative.
    have hk0 : 0 ≤ k := by
      rw [hk] at hpos
      have hlt : (-1 : ℚ) < k := by linarith
      have hlt' : -1 < k := by exact_mod_cast hlt
      omega
    obtain ⟨n, rfl⟩ := Int.eq_ofNat_of_zero_le hk0
    exact (isTie_iff.mpr ⟨n, hk⟩).isTie

/-! ## Past the half -/

/-- Rounding in place of a half is rounding up, exactly if the next magnitude is less than one
multiple of `10 ^ -places` away. -/
theorem roundDiv_breakTie_iff (rank : Nat) (places : Int) :
    Half.toEven.roundDiv (rankUnits (breakTie rank places) * 10 ^ places.toNat)
        (unitsPerOne * 10 ^ (-places).toNat) =
      Half.up.roundDiv (rankUnits rank * 10 ^ places.toNat) (unitsPerOne * 10 ^ (-places).toNat) ↔
        (IsTie rank places →
          2 ^ rankShift rank * 10 ^ places.toNat < unitsPerOne * 10 ^ (-places).toNat) := by
  by_cases htie : IsTie rank places
  · have hten := Nat.pow_pos (n := places.toNat) (show 0 < 10 by decide)
    rw [breakTie, if_pos htie.isTie, rankUnits_succ, Nat.add_mul, imp_iff_right htie]
    exact Half.roundDiv_toEven_add_eq_iff (unit_pos places) htie
      (Nat.mul_pos (Nat.two_pow_pos _) hten) (Nat.mul_dvd_mul_right (two_pow_rankShift_dvd rank) _)
  · rw [breakTie, if_neg (fun h => htie (.of_isTie h))]
    exact iff_of_true (Half.roundDiv_toEven_eq_up (unit_pos places) htie) fun h => absurd h htie

end Figure
end PoolPage
