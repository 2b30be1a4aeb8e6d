import PoolPage.Proofs.Figure.Plain
import PoolPage.Proofs.Figure.Scaling
import PoolPage.Proofs.Number.Shortest

/-!
# Amounts with a limit of places

A number that is rounded to decimal places by scaling it up and down is written with no more places
than that, and without an exponent (`hasPlaces_roundTo`).  Powers of ten up to 10²² are exact, so
the quotient is the number nearest to a decimal with these places; that decimal reads back, and the
shortest one that does has no more places.
-/

namespace PoolPage
namespace Figure

open Binary64

/-- A text of digits with an optional minus and, where there are any, a point and no more than so
many digits behind it. -/
def HasPlaces (places : ℕ) (text : String) : Prop :=
  ∃ negative used n cs, text.toList = sign negative ++ cs ∧ Positional used n cs ∧ used ≤ places

/-! ## Powers of ten -/

/-- A number is a power of ten without rounding. -/
def isPowerOfTen (places : ℕ) : Binary64 → Bool
  | .finite negative rank => !negative && rankUnits rank == 10 ^ places * unitsPerOne
  | _ => false

theorem isPowerOfTen_pow : ∀ places ≤ 22, isPowerOfTen places (Binary64.pow 10 places) = true := by
  decide +kernel

theorem toRat_of_isPowerOfTen {places : ℕ} {x : Binary64} (h : isPowerOfTen places x = true) :
    x.isFinite = true ∧ x.toRat = 10 ^ places := by
  cases x with
  | finite negative rank =>
    rw [isPowerOfTen, Bool.and_eq_true, Bool.not_eq_true', beq_iff_eq] at h
    obtain ⟨rfl, hrank⟩ := h
    refine ⟨rfl, ?_⟩
    show magnitude rank = 10 ^ places
    rw [magnitude, hrank, Nat.cast_mul, mul_div_cancel_right₀ _ cast_unitsPerOne_pos.ne',
      Nat.cast_pow, Nat.cast_ofNat]
  | _ => cases h

/-! ## Nearest numbers of decimals -/

/-- The number nearest to a decimal is written with no more places than the decimal has. -/
theorem hasPlaces_plain_of_isNearestRank {negative : Bool} {rank : Fin rankLimit} {n places : ℕ}
    (h : IsNearestRank (n / 10 ^ places) rank) :
    HasPlaces places (plain (.finite negative rank)) := by
  by_cases hwhole : rankUnits rank % unitsPerOne = 0 ∧ magnitude rank < 10 ^ 21
  · rw [plain_of_whole hwhole.1 hwhole.2]
    exact ⟨_, 0, _, _, toList_toString_int _, positional_digitsOf _, Nat.zero_le places⟩
  · have hrank : rank.val ≠ 0 := by
      intro hzero
      refine hwhole ?_
      rw [hzero, rankUnits_zero, Nat.zero_mod, magnitude_zero]
      exact ⟨rfl, by norm_num⟩
    have hvalue : (Decimal.mk n (-(places : ℤ))).value = n / 10 ^ places := by
      rw [Decimal.value, zpow_neg, zpow_natCast, ← div_eq_mul_inv]
    have hplaces := exponent_le_exponent_shortest .up (Nat.pos_of_ne_zero hrank)
      (Decimal.isIn_iff.mpr (hvalue ▸ h))
    rw [plain_of_not_whole hwhole]
    refine ⟨negative, _, _, (shortest .up rank).positional, ?_, positional_fixedDigits _ _, ?_⟩
    · rw [String.toList_ofList, positional, if_neg hrank]
    · have hexponent : -(places : ℤ) ≤ (shortest .up rank).exponent := hplaces
      omega

/-- A number that is rounded to at most twenty-two places has no more of them where it is written,
and never an exponent. -/
theorem hasPlaces_roundTo {x : Binary64} {places : ℕ} (hplaces : places ≤ 22)
    (h : (x * Binary64.pow 10 places).isFinite = true) :
    HasPlaces places (plain (roundTo x places)) := by
  obtain ⟨hfinite, hscale⟩ := toRat_of_isPowerOfTen (isPowerOfTen_pow places hplaces)
  have hpos : (0 : ℚ) < 10 ^ places := by positivity
  obtain ⟨negative, rank, hproduct⟩ := exists_of_isFinite h
  obtain ⟨hwhole, hround⟩ := toRat_round negative rank
  rw [← hproduct] at hwhole hround
  have hquotient := isRounded_div hwhole hfinite (by rw [hscale]; exact hpos.ne')
  rw [hscale, hround] at hquotient
  have hone : (1 : Binary64).le (Binary64.pow 10 places) = true := by
    rw [le_iff_toRat_le toRat_one.1 hfinite, toRat_one.2, hscale]
    exact one_le_pow₀ (by norm_num)
  have hbounded := isFinite_div hwhole hfinite hone
  obtain ⟨s, a, -, hnearest, heq⟩ := hquotient
  rw [abs_div, abs_signed, Nat.abs_cast, abs_of_pos hpos] at hnearest
  rw [roundTo, heq]
  rw [heq] at hbounded
  rw [ofRank_of_lt s (isFinite_ofRank_iff.mp hbounded)]
  exact hasPlaces_plain_of_isNearestRank hnearest

/-- The number nearest to 123456789012.34567. -/
def twelveDigitAmount : Fin rankLimit := ⟨1059 * binadeSize + 3587264497342590, by decide⟩

/-- Here the numbers are farther apart than decimals with five places. -/
theorem hasPlaces_twelveDigitAmount :
    5 ≤ 22 ∧ (Binary64.finite false twelveDigitAmount * Binary64.pow 10 (5 : ℕ)).isFinite = true ∧
      plain (roundTo (.finite false twelveDigitAmount) (5 : ℕ)) = "123456789012.34567" ∧
      HasPlaces 5 (plain (roundTo (.finite false twelveDigitAmount) (5 : ℕ))) := by
  have hproduct :
      (Binary64.finite false twelveDigitAmount * Binary64.pow 10 (5 : ℕ)).isFinite = true := by
    decide +kernel
  exact ⟨by decide, hproduct, by decide +kernel, hasPlaces_roundTo (by decide) hproduct⟩

end Figure
end PoolPage
