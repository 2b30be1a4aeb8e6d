import PoolPage.Number.Shortest
import PoolPage.Proofs.Number.Halves
import Mathlib.Order.Monotone.Basic
import Mathlib.Tactic.Ring

/-!
# The spacing of ranks

A rank is a shift and a significand (`exists_shift_significand`), and the next magnitude is one
significand further (`rankUnits_succ`), also at the ends of a binade.  The basins of the ranks
cover all magnitudes, and no two of them meet; `nearestRank` finds the one that a magnitude is in
(`nearestRank_eq_iff`).
-/

namespace PoolPage

/-! ## Shifts and significands -/

theorem exists_shift_significand (rank : Nat) :
    ∃ significand, rank = rankShift rank * binadeSize + significand ∧
      significand < 2 * binadeSize ∧ (rankShift rank = 0 ∨ binadeSize ≤ significand) := by
  refine ⟨rankSignificand rank, ?_⟩
  simp only [rankSignificand, rankShift, binadeSize]
  omega

theorem rankSignificand_pos {rank : Nat} (h : 0 < rank) : 0 < rankSignificand rank := by
  simp only [rankSignificand, rankShift, binadeSize]
  omega

theorem rankSignificand_lt (rank : Nat) : rankSignificand rank < 2 * binadeSize := by
  simp only [rankSignificand, rankShift, binadeSize]
  omega

theorem rankShift_shift_add {shift significand : Nat} (hlt : significand < 2 * binadeSize)
    (hnormal : shift = 0 ∨ binadeSize ≤ significand) :
    rankShift (shift * binadeSize + significand) = shift := by
  simp only [rankShift, binadeSize] at *
  omega

/-- The magnitude of a shift and a significand.  The significand may have run up to the end of its
binade. -/
theorem rankUnits_shift_add {shift significand : Nat} (hle : significand ≤ 2 * binadeSize)
    (hnormal : shift = 0 ∨ binadeSize ≤ significand) :
    rankUnits (shift * binadeSize + significand) = significand * 2 ^ shift := by
  rcases Nat.lt_or_eq_of_le hle with hlt | rfl
  · rw [rankUnits, rankSignificand, rankShift_shift_add hlt hnormal, Nat.add_sub_cancel_left,
      Nat.shiftLeft_eq]
  · have hnext : shift * binadeSize + 2 * binadeSize = (shift + 1) * binadeSize + binadeSize := by
      ring
    have hlt : binadeSize < 2 * binadeSize := by decide
    rw [hnext, rankUnits, rankSignificand, rankShift_shift_add hlt (.inr (Nat.le_refl _)),
      Nat.add_sub_cancel_left, Nat.shiftLeft_eq, Nat.pow_succ]
    ring

/-- The next magnitude is one significand further. -/
theorem rankUnits_succ (rank : Nat) :
    rankUnits (rank + 1) = rankUnits rank + 2 ^ rankShift rank := by
  obtain ⟨significand, hrank, hlt, hnormal⟩ := exists_shift_significand rank
  generalize rankShift rank = shift at *
  subst hrank
  rw [Nat.add_assoc, rankUnits_shift_add hlt (by omega), rankUnits_shift_add hlt.le hnormal]
  exact Nat.succ_mul _ _

theorem strictMono_rankUnits : StrictMono rankUnits := by
  refine strictMono_nat_of_lt_succ fun rank => ?_
  rw [rankUnits_succ]
  exact Nat.lt_add_of_pos_right (Nat.two_pow_pos _)

@[simp] theorem rankUnits_zero : rankUnits 0 = 0 := by decide

theorem rankUnits_pos {rank : Nat} (h : 0 < rank) : 0 < rankUnits rank := by
  have hlt := strictMono_rankUnits h
  rwa [rankUnits_zero] at hlt

theorem two_pow_rankShift_dvd (rank : Nat) : 2 ^ rankShift rank ∣ rankUnits rank := by
  rw [rankUnits, Nat.shiftLeft_eq]
  exact Nat.dvd_mul_left _ _

/-- From the second binade on, a step is a small part of the magnitude. -/
theorem binadeSize_mul_two_pow_le {rank : Nat} (h : binadeSize ≤ rank) :
    binadeSize * 2 ^ rankShift rank ≤ rankUnits rank := by
  obtain ⟨significand, hrank, hlt, hnormal⟩ := exists_shift_significand rank
  have hle : binadeSize ≤ significand := by
    rcases hnormal with hzero | hle
    · rw [hzero] at hrank
      omega
    · exact hle
  generalize rankShift rank = shift at *
  subst hrank
  rw [rankUnits_shift_add hlt.le hnormal]
  exact Nat.mul_le_mul_right _ hle

/-! ## Basins -/

namespace Basin

theorem contains_ofRank_iff {rank num den : Nat} :
    (ofRank rank).contains num den = true ↔
      ((rankUnits (rank - 1) + rankUnits rank) * den ≤ num ∧
        num ≤ (rankUnits rank + rankUnits (rank + 1)) * den) ∧
      (rank % 2 = 1 → (rankUnits (rank - 1) + rankUnits rank) * den ≠ num ∧
        num ≠ (rankUnits rank + rankUnits (rank + 1)) * den) := by
  by_cases heven : rank % 2 = 0
  · have hodd : rank % 2 ≠ 1 := by omega
    simp [contains, ofRank, heven]
  · have hodd : rank % 2 = 1 := by omega
    simp [contains, ofRank, hodd]
    omega

/-- A magnitude is in its own basin. -/
theorem contains_self {rank den : Nat} (hrank : 0 < rank) (hden : 0 < den) :
    (ofRank rank).contains (2 * (rankUnits rank * den)) den = true := by
  have hlow := strictMono_rankUnits (show rank - 1 < rank by omega)
  have hhigh := strictMono_rankUnits (Nat.lt_add_one rank)
  have hlow' := Nat.mul_lt_mul_of_pos_right (Nat.add_lt_add_right hlow (rankUnits rank)) hden
  have hhigh' := Nat.mul_lt_mul_of_pos_right (Nat.add_lt_add_left hhigh (rankUnits rank)) hden
  rw [← Nat.two_mul, Nat.mul_assoc] at hlow' hhigh'
  exact contains_ofRank_iff.mpr ⟨⟨hlow'.le, hhigh'.le⟩, fun _ => ⟨hlow'.ne, hhigh'.ne⟩⟩

/-- No magnitude is in the basins of two ranks: where two of them touch, one of the ranks is
odd. -/
theorem eq_of_contains {rank rank' num den : Nat} (hden : 0 < den)
    (h : (ofRank rank).contains num den = true) (h' : (ofRank rank').contains num den = true) :
    rank = rank' := by
  wlog hlt : rank < rank' generalizing rank rank'
  · rcases Nat.lt_or_eq_of_le (Nat.le_of_not_lt hlt) with hgt | heq
    · exact (this h' h hgt).symm
    · exact heq.symm
  rw [contains_ofRank_iff] at h h'
  have hlow := strictMono_rankUnits.monotone (show rank ≤ rank' - 1 by omega)
  have hhigh := strictMono_rankUnits.monotone (show rank + 1 ≤ rank' by omega)
  have hends := Nat.mul_le_mul_right den (Nat.add_le_add hlow hhigh)
  have hmeet : rankUnits rank + rankUnits (rank + 1) = rankUnits (rank' - 1) + rankUnits rank' :=
    Nat.eq_of_mul_eq_mul_right hden (by omega)
  have hnext : rank + 1 = rank' := strictMono_rankUnits.injective (by omega)
  subst hnext
  rw [Nat.add_sub_cancel] at h'
  rcases Nat.mod_two_eq_zero_or_one rank with heven | hodd
  · have := (h'.2 (by omega)).1
    omega
  · have := (h.2 hodd).2
    omega

end Basin

/-! ## The nearest rank -/

section NearestRank

variable {num den : Nat}

/-- The shift of `nearestRank`: the quotient fits the significand, and does not leave it half
empty. -/
theorem quotient_bounds (num : Nat) (hden : 0 < den) :
    num < 2 * binadeSize * (den * 2 ^ ((num / den).log2 - 52)) ∧
      ((num / den).log2 - 52 = 0 ∨
        binadeSize * (den * 2 ^ ((num / den).log2 - 52)) ≤ num) := by
  constructor
  · have hlog : num / den < 2 ^ ((num / den).log2 + 1) := Nat.lt_log2_self
    have hle : 2 ^ ((num / den).log2 + 1) ≤ 2 * binadeSize * 2 ^ ((num / den).log2 - 52) := by
      have hpow : 2 * binadeSize = 2 ^ 53 := rfl
      rw [hpow, ← Nat.pow_add]
      exact Nat.pow_le_pow_right (by decide) (by omega)
    have hlt := (Nat.div_lt_iff_lt_mul hden).mp (Nat.lt_of_lt_of_le hlog hle)
    calc num < 2 * binadeSize * 2 ^ ((num / den).log2 - 52) * den := hlt
      _ = 2 * binadeSize * (den * 2 ^ ((num / den).log2 - 52)) := by ring
  · by_cases hshift : (num / den).log2 - 52 = 0
    · exact .inl hshift
    · right
      have hne : num / den ≠ 0 := by
        intro hzero
        rw [hzero] at hshift
        exact hshift rfl
      have hlog : 2 ^ (num / den).log2 ≤ num / den := Nat.log2_self_le hne
      have heq : binadeSize * 2 ^ ((num / den).log2 - 52) = 2 ^ (num / den).log2 := by
        have hpow : binadeSize = 2 ^ 52 := rfl
        rw [hpow, ← Nat.pow_add]
        congr 1
        omega
      rw [← heq] at hlog
      calc binadeSize * (den * 2 ^ ((num / den).log2 - 52))
          = binadeSize * 2 ^ ((num / den).log2 - 52) * den := by ring
        _ ≤ num := (Nat.le_div_iff_mul_le hden).mp hlog

/-- The lower end of a basin lies half a step below its rank, or not so far at the start of a
binade. -/
theorem low_end {shift q : Nat} (hden : 0 < den) (hle : q ≤ 2 * binadeSize)
    (hnormal : shift = 0 ∨ binadeSize ≤ q ∧ binadeSize * (den * 2 ^ shift) ≤ num) :
    shift * binadeSize + q = 0 ∨
      (rankUnits (shift * binadeSize + q - 1) + rankUnits (shift * binadeSize + q)) * den +
          den * 2 ^ shift = 2 * (q * (den * 2 ^ shift)) ∨
      (rankUnits (shift * binadeSize + q - 1) + rankUnits (shift * binadeSize + q)) * den <
        2 * num := by
  have hunits := rankUnits_shift_add hle (hnormal.imp_right And.left)
  rcases Nat.eq_zero_or_pos q with rfl | hpos
  · rcases hnormal with rfl | ⟨hsize, -⟩
    · exact .inl (by simp)
    · exact absurd hsize (by decide)
  obtain ⟨p, rfl⟩ : ∃ p, q = p + 1 := ⟨q - 1, by omega⟩
  right
  by_cases hinner : shift = 0 ∨ binadeSize ≤ p
  · left
    rw [hunits, ← Nat.add_assoc, Nat.add_sub_cancel, rankUnits_shift_add (by omega) hinner]
    ring
  · right
    obtain ⟨hsize, hnum⟩ := hnormal.resolve_left fun h => hinner (.inl h)
    have hp : p + 1 = binadeSize := by omega
    have hlt := strictMono_rankUnits (Nat.lt_succ_self (shift * binadeSize + p))
    rw [Nat.succ_eq_add_one, Nat.add_assoc, hunits, hp] at hlt
    rw [hunits, ← Nat.add_assoc, Nat.add_sub_cancel, hp]
    calc _ < (binadeSize * 2 ^ shift + binadeSize * 2 ^ shift) * den :=
          Nat.mul_lt_mul_of_pos_right (Nat.add_lt_add_right hlt _) hden
      _ = 2 * (binadeSize * (den * 2 ^ shift)) := by ring
      _ ≤ 2 * num := Nat.mul_le_mul_left 2 hnum

/-- The upper end of a basin lies half a step above its rank, or farther at the end of a binade. -/
theorem high_end {shift q : Nat} (hle : q ≤ 2 * binadeSize)
    (hnormal : shift = 0 ∨ binadeSize ≤ q) (hnum : num < 2 * binadeSize * (den * 2 ^ shift)) :
    (rankUnits (shift * binadeSize + q) + rankUnits (shift * binadeSize + q + 1)) * den =
        2 * (q * (den * 2 ^ shift)) + den * 2 ^ shift ∨
      2 * num <
        (rankUnits (shift * binadeSize + q) + rankUnits (shift * binadeSize + q + 1)) * den := by
  have hunits := rankUnits_shift_add hle hnormal
  rcases Nat.lt_or_eq_of_le hle with hlt | rfl
  · left
    rw [rankUnits_succ, rankShift_shift_add hlt hnormal, hunits]
    ring
  · right
    have hlt := strictMono_rankUnits (Nat.lt_succ_self (shift * binadeSize + 2 * binadeSize))
    rw [Nat.succ_eq_add_one, hunits] at hlt
    rw [hunits]
    calc 2 * num < 2 * (2 * binadeSize * (den * 2 ^ shift)) :=
          Nat.mul_lt_mul_of_pos_left hnum (by decide)
      _ = (2 * binadeSize * 2 ^ shift + 2 * binadeSize * 2 ^ shift) * den := by ring
      _ ≤ _ := Nat.mul_le_mul_right den (Nat.add_le_add_left hlt.le _)

/-- A quotient of units is in the basin of its nearest rank. -/
theorem contains_nearestRank (num : Nat) (hden : 0 < den) :
    (Basin.ofRank (nearestRank num den)).contains (2 * num) den = true := by
  obtain ⟨hnum, hnormal⟩ := quotient_bounds num hden
  generalize hshift : (num / den).log2 - 52 = shift at hnum hnormal
  have hstep : 0 < den * 2 ^ shift := Nat.mul_pos hden (Nat.two_pow_pos _)
  have hrank : nearestRank num den =
      shift * binadeSize + Half.toEven.roundDiv num (den * 2 ^ shift) := by
    simp only [nearestRank, hshift, Nat.shiftLeft_eq]
  have hle : Half.toEven.roundDiv num (den * 2 ^ shift) ≤ 2 * binadeSize :=
    Half.roundDiv_le _ hstep (by omega)
  have hsize : shift = 0 ∨ binadeSize ≤ Half.toEven.roundDiv num (den * 2 ^ shift) ∧
      binadeSize * (den * 2 ^ shift) ≤ num :=
    hnormal.imp_right fun h => ⟨Half.le_roundDiv _ hstep (by omega), h⟩
  have hdown := Half.two_mul_roundDiv_le .toEven num hstep
  have hup := Half.le_two_mul_roundDiv .toEven num hstep
  have heven := Half.even_roundDiv num hstep
  rw [hrank, Basin.contains_ofRank_iff]
  generalize Half.toEven.roundDiv num (den * 2 ^ shift) = q at *
  have hlow := low_end hden hle hsize
  have hhigh := high_end hle (hsize.imp_right And.left) hnum
  have hparity : (shift * binadeSize + q) % 2 = 1 → q % 2 = 1 := by
    simp only [binadeSize]
    omega
  constructor
  · constructor
    · rcases hlow with hzero | hlow | hlow
      · rw [hzero]
        exact Nat.le_trans (Nat.le_of_eq (by simp)) (Nat.zero_le _)
      · omega
      · exact hlow.le
    · omega
  · intro hodd
    have hq := hparity hodd
    refine ⟨?_, ?_⟩
    · rcases hlow with hzero | hlow | hlow <;> omega
    · omega

/-- `nearestRank` is correct rounding: it is the rank whose basin holds the quotient. -/
theorem nearestRank_eq_iff {rank : Nat} (hden : 0 < den) :
    nearestRank num den = rank ↔ (Basin.ofRank rank).contains (2 * num) den = true := by
  constructor
  · rintro rfl
    exact contains_nearestRank num hden
  · exact Basin.eq_of_contains hden (contains_nearestRank num hden)

end NearestRank

end PoolPage
