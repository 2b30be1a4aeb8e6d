import PoolPage.Proofs.Figure.Fixed
import PoolPage.Proofs.Number.Rounding
import PoolPage.Proofs.Number.Significands

/-!
# Significant digits

A number is written with one to fifteen significant digits as its nearest one with so many, a half
going away from zero (`isPrecision_iff`).  The place of the last digit is taken from the shortest
decimal, whose order can be another one than that of the number only beside a power of ten; there
are no halves so near to one (`not_isTie_of_order_ne`).  Elsewhere a half is found, and the next
number is far closer than the next decimal (`breakTie_correct`).
-/

namespace PoolPage
namespace Figure

/-! ## Where there are no halves -/

theorem two_pow_lt_one_shiftLeft {power n : Nat} (h : power < n) : 2 ^ power < 1 <<< n := by
  rw [Nat.one_shiftLeft]
  exact Nat.pow_lt_pow_right (by decide) h

/-- The first magnitudes have too many factors of one half. -/
theorem not_isTie_of_lt_binadeSize {rank : Nat} {places : ℤ} (hrank : 0 < rank)
    (hlt : rank < binadeSize) (hplaces : places ≤ 400) : ¬IsTie rank places := by
  intro h
  obtain ⟨k, hk⟩ := (Half.isHalf_iff (unit_pos places)).mp h
  have hunits : rankUnits rank = rank := by
    have hle : rank ≤ 2 * binadeSize := by omega
    have heq := rankUnits_shift_add hle (.inl rfl)
    rwa [Nat.zero_mul, Nat.zero_add, Nat.pow_zero, Nat.mul_one] at heq
  obtain ⟨t, ht, ht'⟩ : ∃ t, places.toNat = t ∧ t ≤ 400 := ⟨_, rfl, by omega⟩
  have hdvd : unitsPerOne ∣ rank * 2 ^ (t + 1) * 5 ^ t := by
    have hten : 10 ^ t = 2 ^ t * 5 ^ t := by rw [← Nat.mul_pow]
    have heq : 2 * (rank * 10 ^ t) = rank * 2 ^ (t + 1) * 5 ^ t := by
      rw [hten, Nat.pow_succ]
      ring
    rw [← heq, ← ht, ← hunits, hk]
    exact Dvd.dvd.mul_left (Nat.dvd_mul_right _ _) _
  have hcoprime (power : Nat) : Nat.Coprime (1 <<< power) (5 ^ t) := by
    rw [Nat.one_shiftLeft]
    exact Nat.Coprime.pow power t (by decide)
  have hle := Nat.le_of_dvd (Nat.mul_pos hrank (Nat.two_pow_pos _))
    ((hcoprime 1074).dvd_of_dvd_mul_right hdvd)
  have hgt : rank * 2 ^ (t + 1) < 2 ^ (52 + (t + 1)) := by
    rw [Nat.pow_add 2 52]
    exact Nat.mul_lt_mul_of_pos_right hlt (Nat.two_pow_pos _)
  have hless : 2 ^ (52 + (t + 1)) < unitsPerOne := two_pow_lt_one_shiftLeft (by omega)
  exact Nat.lt_irrefl _ (hle.trans_lt (hgt.trans hless))

/-- There is no half within half a step of a power of ten. -/
theorem not_isTie_of_near_power {rank : Nat} {places k : ℤ} (hk : 0 ≤ k + places)
    (hnear : |magnitude rank - 10 ^ k| * 10 ^ places < 1 / 2) : ¬IsTie rank places := by
  intro h
  obtain ⟨j, hj⟩ := isTie_iff.mp h
  obtain ⟨t, ht⟩ := Int.eq_ofNat_of_zero_le hk
  have hpower : (10 : ℚ) ^ k * 10 ^ places = (10 ^ t : ℕ) := by
    rw [natCast_pow_ten, zpow_ten_mul ht]
  have hpos := zpow_ten_pos places
  rw [← abs_of_pos hpos, ← abs_mul, sub_mul, hj, hpower, abs_lt] at hnear
  generalize 10 ^ t = power at hnear
  have hlow : (power : ℚ) < (j + 1 : ℕ) := by
    push_cast
    linarith
  have hhigh : (j : ℚ) < (power : ℕ) := by linarith
  have hlow' := Nat.cast_lt.mp hlow
  have hhigh' := Nat.cast_lt.mp hhigh
  omega

/-! ## The place of the last digit -/

section

variable {rank digits : Nat}

theorem spacing_mul_lt {order : ℤ} (hnormal : binadeSize ≤ rank) (hdigits : digits ≤ 15)
    (horder : HasOrder (magnitude rank) order) :
    spacing rank * 10 ^ (digits - 1 - order) < 1 / 2 := by
  have hle := two_pow_mul_spacing_le hnormal
  have hpos := zpow_ten_pos (digits - 1 - order)
  have hten : (10 : ℚ) ^ (order + 1) * 10 ^ (digits - 1 - order) ≤ (10 ^ 15 : ℕ) := by
    rw [zpow_ten_mul (n := digits) (by ring), natCast_pow_ten, zpow_ten_le_iff]
    omega
  have hscaled := mul_lt_mul_of_pos_right (hle.trans_lt horder.2) hpos
  push_cast at hten
  linarith

/-- Where the shortest decimal of a magnitude has another order, there is a power of ten between
the two, and no half beside it. -/
theorem not_isTie_of_order_ne {half : Half} {order : ℤ} (hrank : 0 < rank) (hmin : 1 ≤ digits)
    (hmax : digits ≤ 15) (hne : (shortest half rank).order ≠ rankOrder rank)
    (horder : order = rankOrder rank ∨ order = (shortest half rank).order) :
    ¬IsTie rank (digits - 1 - order) := by
  have hspacing := spacing_le hrank
  obtain ⟨k, hnear, hexact, hexact', hshortest, hshortest'⟩ :=
    (hasOrder_rankOrder hrank).exists_power_between (hasOrder_shortest half hrank) hne
      (abs_shortest_sub_le half hrank) (by linarith)
  have hlow : k - 1 ≤ order := by rcases horder with rfl | rfl <;> assumption
  have hhigh : order ≤ k := by rcases horder with rfl | rfl <;> assumption
  rcases Nat.lt_or_ge rank binadeSize with hlt | hnormal
  · have hleast := neg_le_rankOrder rank
    exact not_isTie_of_lt_binadeSize hrank hlt (by omega)
  · refine not_isTie_of_near_power (k := k) (by omega) ?_
    have hle := two_pow_mul_spacing_le hnormal
    have hpos := zpow_ten_pos (digits - 1 - order)
    have hten : (10 : ℚ) ^ k * 10 ^ (digits - 1 - order) ≤ (10 ^ 15 : ℕ) := by
      rw [← zpow_ten_add, natCast_pow_ten, zpow_ten_le_iff]
      omega
    have hbound : (2 ^ 52 - 1 / 2) * spacing rank ≤ 10 ^ k := by
      have habove := (abs_le.mp hnear).2
      linarith
    have hscaled := mul_le_mul_of_nonneg_right hbound hpos.le
    have hscaled' := mul_le_mul_of_nonneg_right hnear hpos.le
    have hspacing' := mul_pos (spacing_pos rank) hpos
    push_cast at hten
    linarith

/-- The next magnitude after a half at the place of the last digit has the same order. -/
theorem hasOrder_succ_of_isTie {order : ℤ} (hnormal : binadeSize ≤ rank) (hdigits : digits ≤ 15)
    (horder : HasOrder (magnitude rank) order) (h : IsTie rank (digits - 1 - order)) :
    HasOrder (magnitude (rank + 1)) order := by
  have hclose := spacing_mul_lt hnormal hdigits horder
  have hpos := zpow_ten_pos (digits - 1 - order)
  have hnext : magnitude (rank + 1) = magnitude rank + spacing rank := by
    rw [spacing, add_sub_cancel]
  have hspacing := spacing_pos rank
  obtain ⟨k, hk⟩ := isTie_iff.mp h
  have hten : (10 : ℚ) ^ (order + 1) * 10 ^ (digits - 1 - order) = (10 ^ digits : ℕ) := by
    rw [natCast_pow_ten]
    exact zpow_ten_mul (by ring)
  refine ⟨horder.1.trans (by linarith), ?_⟩
  have hscaled := mul_lt_mul_of_pos_right horder.2 hpos
  rw [hk, hten] at hscaled
  have hk' : k + 1 ≤ 10 ^ digits := by
    have hlt : (k : ℚ) < (10 ^ digits : ℕ) := by linarith
    exact Nat.cast_lt.mp hlt
  have hk'' : (k : ℚ) + 1 ≤ (10 ^ digits : ℕ) := by exact_mod_cast hk'
  refine lt_of_mul_lt_mul_right ?_ hpos.le
  rw [hten, hnext, add_mul, hk]
  linarith

/-- A half at the place of the last digit is not among the first magnitudes. -/
theorem IsTie.binadeSize_le (hrank : 0 < rank) (hdigits : digits ≤ 15)
    (h : IsTie rank (digits - 1 - rankOrder rank)) : binadeSize ≤ rank := by
  by_contra hlt
  have hleast := neg_le_rankOrder rank
  exact not_isTie_of_lt_binadeSize hrank (Nat.lt_of_not_le hlt) (by omega) h

theorem rankOrder_breakTie (hrank : 0 < rank) (hdigits : digits ≤ 15) :
    rankOrder (breakTie rank (digits - 1 - rankOrder rank)) = rankOrder rank := by
  unfold breakTie
  split
  · next hfound =>
    have htie := IsTie.of_isTie hfound
    have hsucc := hasOrder_succ_of_isTie (htie.binadeSize_le hrank hdigits) hdigits
      (hasOrder_rankOrder hrank) htie
    exact (hasOrder_rankOrder (Nat.succ_pos rank)).unique hsucc
  · rfl

/-- The next magnitude is less than a multiple of the last digit's place away. -/
theorem two_pow_mul_lt_unit {order : ℤ} (hnormal : binadeSize ≤ rank) (hdigits : digits ≤ 15)
    (horder : HasOrder (magnitude rank) order) :
    2 ^ rankShift rank * 10 ^ ((digits : ℤ) - 1 - order).toNat <
      unitsPerOne * 10 ^ (-((digits : ℤ) - 1 - order)).toNat := by
  have hclose := spacing_mul_lt hnormal hdigits horder
  have hcast : (2 : ℚ) ^ rankShift rank = (2 ^ rankShift rank : ℕ) := by push_cast; rfl
  have hunit : (0 : ℚ) < (unitsPerOne * 10 ^ (-((digits : ℤ) - 1 - order)).toNat : ℕ) :=
    Nat.cast_pos.mpr (unit_pos _)
  rw [spacing_eq, hcast, units_mul_zpow, div_lt_iff₀ hunit] at hclose
  refine (Nat.cast_lt (α := ℚ)).mp (hclose.trans ?_)
  linarith

/-- What is rounded in place of a half has the order of the half, and is rounded up. -/
theorem breakTie_correct (half : Half) (hrank : 0 < rank) (hmin : 1 ≤ digits)
    (hmax : digits ≤ 15) :
    rankOrder (breakTie rank (digits - 1 - (shortest half rank).order)) = rankOrder rank ∧
      Half.toEven.roundDiv
          (rankUnits (breakTie rank (digits - 1 - (shortest half rank).order)) *
            10 ^ ((digits : ℤ) - 1 - rankOrder rank).toNat)
          (unitsPerOne * 10 ^ (-((digits : ℤ) - 1 - rankOrder rank)).toNat) =
        Half.up.roundDiv (rankUnits rank * 10 ^ ((digits : ℤ) - 1 - rankOrder rank).toNat)
          (unitsPerOne * 10 ^ (-((digits : ℤ) - 1 - rankOrder rank)).toNat) := by
  have horder := hasOrder_rankOrder hrank
  by_cases heq : (shortest half rank).order = rankOrder rank
  · rw [heq]
    have hround := roundDiv_breakTie_iff rank (digits - 1 - rankOrder rank)
    refine ⟨rankOrder_breakTie hrank hmax, hround.mpr fun h => ?_⟩
    exact two_pow_mul_lt_unit (h.binadeSize_le hrank hmax) hmax horder
  · have hnone : ¬isTie rank (digits - 1 - (shortest half rank).order) = true := fun h =>
      not_isTie_of_order_ne hrank hmin hmax heq (.inr rfl) (.of_isTie h)
    rw [breakTie, if_neg hnone]
    exact ⟨rfl, Half.roundDiv_toEven_eq_up (unit_pos _)
      (not_isTie_of_order_ne hrank hmin hmax heq (.inl rfl))⟩

end

/-! ## The text -/

/-- The text of a significand of so many digits and an exponent: scientific notation for exponents
below -6 and those that the digits do not reach, otherwise a number with places. -/
def IsWritten (digits n : ℕ) (e : ℤ) (cs : List Char) : Prop :=
  if e < -6 ∨ digits ≤ e then
    ∃ first rest, digitsOf n = first :: rest ∧
      cs = first :: pointed rest ++ 'e' :: (if e < 0 then '-' else '+') :: digitsOf e.natAbs
  else Positional (digits - 1 - e).toNat n cs

/-- The text that a number rounded to so many significant digits has. -/
def IsPrecision (digits : ℕ) (x : ℚ) (text : String) : Prop :=
  if x = 0 then text.toList = '0' :: pointed (List.replicate (digits - 1) '0')
  else ∃ n e cs, IsSignificant digits |x| n e ∧ IsWritten digits n e cs ∧
    text.toList = sign (x < 0) ++ cs

theorem IsWritten.unique {digits n : ℕ} {e : ℤ} {cs ds : List Char} (h : IsWritten digits n e cs)
    (h' : IsWritten digits n e ds) : cs = ds := by
  unfold IsWritten at h h'
  split at h
  · next hscientific =>
    rw [if_pos hscientific] at h'
    obtain ⟨first, rest, hdigits, rfl⟩ := h
    obtain ⟨first', rest', hdigits', rfl⟩ := h'
    obtain ⟨rfl, rfl⟩ := List.cons.inj (hdigits.symm.trans hdigits')
    rfl
  · next hpositional =>
    rw [if_neg hpositional] at h'
    rw [h.eq_fixedDigits, h'.eq_fixedDigits]

theorem IsPrecision.unique {digits : ℕ} {x : ℚ} {text text' : String} (hmin : 1 ≤ digits)
    (h : IsPrecision digits x text) (h' : IsPrecision digits x text') : text = text' := by
  unfold IsPrecision at h h'
  apply String.toList_injective
  split at h
  · next hzero =>
    rw [if_pos hzero] at h'
    rw [h, h']
  · next hne =>
    rw [if_neg hne] at h'
    obtain ⟨n, e, cs, hnearest, hcs, htext⟩ := h
    obtain ⟨n', e', cs', hnearest', hcs', htext'⟩ := h'
    obtain ⟨rfl, rfl⟩ := hnearest.unique hmin hnearest'
    rw [htext, htext', hcs.unique hcs']

theorem fixedDigits_zero (places : Nat) :
    fixedDigits 0 places = '0' :: pointed (List.replicate places '0') := by
  cases places with
  | zero => rfl
  | succ places =>
    have hdigits : digitsOf 0 = ['0'] := rfl
    have hlength : (List.replicate (places + 1) '0').length = places + 1 := List.length_replicate
    rw [pointed_of_length hlength, fixedDigits, if_neg (Nat.succ_ne_zero _), Nat.zero_mod,
      Nat.zero_div, hdigits, List.replicate_succ']
    rfl

theorem mantissa_eq {digits n : Nat} (hmin : 1 ≤ digits) (hlow : 10 ^ (digits - 1) ≤ n)
    (hhigh : n < 10 ^ digits) :
    ∃ first rest, digitsOf n = first :: rest ∧ mantissa n digits = first :: pointed rest := by
  obtain ⟨places, rfl⟩ : ∃ places, digits = places + 1 := ⟨digits - 1, by omega⟩
  have hlength := length_digitsOf_eq hlow hhigh
  obtain ⟨first, rest, hdigits⟩ := List.exists_cons_of_ne_nil (digitsOf_ne_nil n)
  rw [hdigits, List.length_cons, Nat.add_sub_cancel] at hlength
  refine ⟨first, rest, hdigits, ?_⟩
  rw [mantissa, hdigits]
  cases rest with
  | nil => exact if_pos (by rw [← hlength]; exact Nat.le_refl 1)
  | cons c rest =>
    rw [List.length_cons] at hlength
    exact if_neg (by omega)

/-- Digits and places of a number that was rounded up to a power of ten. -/
theorem roundDiv_of_carry {num den digits : Nat} (hden : 0 < den) (hdigits : 1 ≤ digits)
    (h : Half.toEven.roundDiv (10 * num) den = 10 ^ digits) :
    Half.toEven.roundDiv num den = 10 ^ (digits - 1) := by
  have hlow := Half.two_mul_roundDiv_le .toEven (10 * num) hden
  have hhigh := Half.le_two_mul_roundDiv .toEven (10 * num) hden
  have hten : 10 ^ digits * den = 10 * (10 ^ (digits - 1) * den) := by
    rw [← Nat.mul_assoc, ← Nat.pow_succ', Nat.succ_eq_add_one, Nat.sub_add_cancel hdigits]
  rw [h, hten] at hlow hhigh
  refine Half.roundDiv_eq_of_lt .toEven hden ?_ ?_ <;> omega

section

variable {rank digits : Nat}

theorem significant_eq {order : ℤ} {n : Nat} (hmin : 1 ≤ digits) (horder : rankOrder rank = order)
    (hround : Half.toEven.roundDiv (rankUnits rank * 10 ^ ((digits : ℤ) - 1 - order).toNat)
      (unitsPerOne * 10 ^ (-((digits : ℤ) - 1 - order)).toNat) = n) :
    significant rank digits =
      if n = 10 ^ digits then (10 ^ (digits - 1), order + 1) else (n, order) := by
  have hunfold : significant rank digits =
      if n = 10 ^ digits then (n / 10, order + 1) else (n, order) := by
    subst horder hround
    rfl
  rw [hunfold]
  split
  · next hcarry =>
    obtain ⟨less, rfl⟩ : ∃ less, digits = less + 1 := ⟨digits - 1, by omega⟩
    rw [hcarry, Nat.pow_succ, Nat.mul_div_cancel _ (by decide), Nat.add_sub_cancel]
  · rfl

/-- Places right of the point. -/
theorem positional_fixedRank {places : ℤ} {n : Nat} (hplaces : 0 ≤ places)
    (hround : Half.toEven.roundDiv (rankUnits rank * 10 ^ places.toNat)
      (unitsPerOne * 10 ^ (-places).toNat) = n) :
    Positional places.toNat n (fixedRank rank places.toNat) := by
  have hzero : (-places).toNat = 0 := by omega
  rw [hzero, Nat.pow_zero, Nat.mul_one] at hround
  rw [fixedRank_eq, hround]
  exact positional_fixedDigits n places.toNat

/-- A number that is rounded up to a power of ten is that also with one place fewer. -/
theorem positional_fixedRank_of_carry {places : ℤ} (hmin : 1 ≤ digits) (hplaces : 1 ≤ places)
    (hround : Half.toEven.roundDiv (rankUnits rank * 10 ^ places.toNat)
      (unitsPerOne * 10 ^ (-places).toNat) = 10 ^ digits) :
    Positional (places - 1).toNat (10 ^ (digits - 1)) (fixedRank rank (places - 1).toNat) := by
  refine positional_fixedRank (by omega) ?_
  have hzero : (-places).toNat = 0 := by omega
  have hzero' : (-(places - 1)).toNat = 0 := by omega
  have hnext : places.toNat = (places - 1).toNat + 1 := by omega
  have hten : rankUnits rank * 10 ^ places.toNat =
      10 * (rankUnits rank * 10 ^ (places - 1).toNat) := by
    rw [hnext, Nat.pow_succ]
    ring
  rw [hten, hzero, Nat.pow_zero, Nat.mul_one] at hround
  rw [hzero', Nat.pow_zero, Nat.mul_one]
  exact roundDiv_of_carry unitsPerOne_pos hmin hround

/-- The significand and the exponent of what is written in place of a half, and its digits where
they reach the point. -/
theorem significant_breakTie (half : Half) (hrank : 0 < rank) (hmin : 1 ≤ digits)
    (hmax : digits ≤ 15) {rank' : Nat}
    (hrank' : rank' = breakTie rank (digits - 1 - (shortest half rank).order)) :
    ∃ n e, significant rank' digits = (n, e) ∧ IsSignificant digits (magnitude rank) n e ∧
      (e < digits → Positional ((digits : ℤ) - 1 - e).toNat n
        (fixedRank rank' ((digits : ℤ) - 1 - e).toNat)) := by
  have horder := hasOrder_rankOrder hrank
  obtain ⟨hsame, hround⟩ := breakTie_correct half hrank hmin hmax
  obtain ⟨hlow, hhigh⟩ := roundDiv_up_bounds
    (rankUnits rank * 10 ^ ((digits : ℤ) - 1 - rankOrder rank).toNat)
    (unit_pos ((digits : ℤ) - 1 - rankOrder rank))
  rw [← units_mul_zpow, ← magnitude] at hlow hhigh
  rw [← hrank'] at hsame hround
  generalize Half.up.roundDiv (rankUnits rank * 10 ^ ((digits : ℤ) - 1 - rankOrder rank).toNat)
    (unitsPerOne * 10 ^ (-((digits : ℤ) - 1 - rankOrder rank)).toNat) = n at *
  by_cases hcarry : n = 10 ^ digits
  · refine ⟨10 ^ (digits - 1), rankOrder rank + 1, ?_, ?_, fun hless => ?_⟩
    · rw [significant_eq hmin hsame hround, if_pos hcarry]
    · rw [hcarry] at hlow hhigh
      exact isSignificant_of_carry hmin horder hlow hhigh
    · rw [hcarry] at hround
      have hplaces : (digits : ℤ) - 1 - (rankOrder rank + 1) = digits - 1 - rankOrder rank - 1 := by
        ring
      rw [hplaces]
      exact positional_fixedRank_of_carry hmin (by omega) hround
  · refine ⟨n, rankOrder rank, ?_, ?_, fun hless => ?_⟩
    · rw [significant_eq hmin hsame hround, if_neg hcarry]
    · exact isSignificant_of_half_step hmin horder hlow hhigh hcarry
    · exact positional_fixedRank (by omega) hround

end

/-- The definition without its local names. -/
theorem precision_finite (negative : Bool) (rank : Fin rankLimit) (digits : Nat) :
    precision (.finite negative rank) digits =
      if rank.val = 0 then String.ofList (fixedDigits 0 (max digits 1 - 1))
      else
        match significant
            (breakTie rank ((max digits 1 : ℕ) - 1 - (shortest .up rank).order))
            (max digits 1) with
        | (n, e) =>
          String.ofList <| sign negative ++
            if e < -6 ∨ (max digits 1 : ℕ) ≤ e then
              mantissa n (max digits 1) ++ 'e' :: (if e < 0 then '-' else '+') ::
                digitsOf e.natAbs
            else
              fixedRank (breakTie rank ((max digits 1 : ℕ) - 1 - (shortest .up rank).order))
                (((max digits 1 : ℕ) : ℤ) - 1 - e).toNat := rfl

theorem precision_zero {digits : Nat} {negative : Bool} {rank : Fin rankLimit}
    (hmin : 1 ≤ digits) (hrank : rank.val = 0) :
    (precision (.finite negative rank) digits).toList =
      '0' :: pointed (List.replicate (digits - 1) '0') := by
  rw [precision_finite, if_pos hrank, Nat.max_eq_left hmin, String.toList_ofList, fixedDigits_zero]

theorem precision_pos {digits n : Nat} {e : ℤ} {negative : Bool} {rank : Fin rankLimit}
    {rank' : Nat} (hmin : 1 ≤ digits) (hrank : rank.val ≠ 0)
    (hrank' : rank' = breakTie rank (digits - 1 - (shortest .up rank).order))
    (hsignificant : significant rank' digits = (n, e)) :
    (precision (.finite negative rank) digits).toList =
      sign negative ++ if e < -6 ∨ digits ≤ e then
        mantissa n digits ++ 'e' :: (if e < 0 then '-' else '+') :: digitsOf e.natAbs
      else fixedRank rank' ((digits : ℤ) - 1 - e).toNat := by
  rw [precision_finite, if_neg hrank, Nat.max_eq_left hmin, ← hrank', hsignificant,
    String.toList_ofList]

/-- The significand, the exponent and the text of a nonzero number. -/
theorem exists_isWritten {digits : ℕ} (negative : Bool) {rank : Fin rankLimit} (hmin : 1 ≤ digits)
    (hmax : digits ≤ 15) (hrank : 0 < rank.val) :
    ∃ n e cs, IsSignificant digits (magnitude rank) n e ∧ IsWritten digits n e cs ∧
      (precision (.finite negative rank) digits).toList = sign negative ++ cs := by
  obtain ⟨n, e, hsignificant, hnearest, hplaces⟩ :=
    significant_breakTie .up hrank hmin hmax rfl
  refine ⟨n, e, _, hnearest, ?_, precision_pos hmin hrank.ne' rfl hsignificant⟩
  unfold IsWritten
  split
  · obtain ⟨first, rest, hfirst, hmantissa⟩ := mantissa_eq hmin hnearest.low hnearest.high
    rw [hmantissa]
    exact ⟨first, rest, hfirst, rfl⟩
  · exact hplaces (by omega)

theorem isPrecision_of_finite {digits : ℕ} (negative : Bool) (rank : Fin rankLimit)
    (hmin : 1 ≤ digits) (hmax : digits ≤ 15) :
    IsPrecision digits (signed negative (magnitude rank))
      (precision (.finite negative rank) digits) := by
  unfold IsPrecision
  rcases Nat.eq_zero_or_pos rank.val with hrank | hrank
  · have hzero : signed negative (magnitude rank) = 0 := by
      rw [hrank, magnitude_zero]
      cases negative <;> simp [signed]
    rw [if_pos hzero]
    exact precision_zero hmin hrank
  · have hvalue := magnitude_pos hrank
    have hne : signed negative (magnitude rank) ≠ 0 := by
      cases negative <;> simp [signed, hvalue.ne']
    have hsign : decide (signed negative (magnitude rank) < 0) = negative := by
      cases negative
      · exact decide_eq_false (not_lt.mpr hvalue.le)
      · exact decide_eq_true (neg_neg_of_pos hvalue)
    rw [if_neg hne, abs_signed, abs_of_pos hvalue, hsign]
    exact exists_isWritten negative hmin hmax hrank

/-- With one to fifteen significant digits, a number is written as its nearest one with so many, and
no other text is that of this one. -/
theorem isPrecision_iff {digits : ℕ} {text : String} (negative : Bool) (rank : Fin rankLimit)
    (hmin : 1 ≤ digits) (hmax : digits ≤ 15) :
    IsPrecision digits (signed negative (magnitude rank)) text ↔
      text = precision (.finite negative rank) digits := by
  have hwritten := isPrecision_of_finite negative rank hmin hmax
  constructor
  · exact fun h => h.unique hmin hwritten
  · rintro rfl
    exact hwritten

theorem isPrecision_twelveAndAQuarter :
    1 ≤ 3 ∧ 3 ≤ 15 ∧ precision (.finite false twelveAndAQuarter) 3 = "12.3" ∧
      IsPrecision 3 (signed false (magnitude twelveAndAQuarter)) "12.3" := by
  have htext : "12.3" = precision (.finite false twelveAndAQuarter) 3 := by decide +kernel
  exact ⟨by decide, by decide, htext.symm,
    (isPrecision_iff false twelveAndAQuarter (by decide) (by decide)).mpr htext⟩

end Figure
end PoolPage
