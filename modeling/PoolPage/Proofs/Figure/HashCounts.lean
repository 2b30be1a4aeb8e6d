import PoolPage.Proofs.Figure.Plain
import PoolPage.Proofs.Figure.Scaling
import PoolPage.Proofs.Number.Monotone
import Mathlib.Order.Bounds.Defs

/-!
# Hash counts

A hash count is shown as a decimal and a unit, a power of a thousand.  The quantity shown never falls
where the number grows (`hashCount_mono`): what is shown in one unit does not pass the next unit, and
the digits that are written in one unit grow with the number, past the limits of the 64-bit integers
and of fixed places too.
-/

namespace PoolPage
namespace Figure

open Binary64

/-! ## What a text shows -/

/-- A text of digits with an optional minus and an optional point. -/
def IsDecimalText (cs : List Char) (value : ℚ) : Prop :=
  ∃ negative places n digits, cs = sign negative ++ digits ∧ Positional places n digits ∧
    value = signed negative (n / 10 ^ places)

/-- The powers of a thousand. -/
def units : List String := ["", "k", "M", "G", "T"]

/-- A text of a decimal, a blank and a power of a thousand. -/
def Shows (text : String) (value : ℚ) (power : ℕ) : Prop :=
  ∃ cs unit, text.toList = cs ++ ' ' :: unit.toList ∧ IsDecimalText cs value ∧
    units[power]? = some unit

theorem eq_of_positional {places places' n n' : ℕ} {cs : List Char} (h : Positional places n cs)
    (h' : Positional places' n' cs) : places = places' ∧ n = n' := by
  obtain ⟨numeral, hscan, hdecimal⟩ := Numeral.scan?_positional h
  obtain ⟨numeral', hscan', hdecimal'⟩ := Numeral.scan?_positional h'
  rw [hscan'] at hscan
  cases hscan
  obtain ⟨hsame, hplaces⟩ := Decimal.mk.inj (hdecimal.symm.trans hdecimal')
  exact ⟨by omega, hsame⟩

theorem IsDecimalText.unique {cs : List Char} {v w : ℚ} (h : IsDecimalText cs v)
    (h' : IsDecimalText cs w) : v = w := by
  obtain ⟨negative, places, n, digits, rfl, hdigits, rfl⟩ := h
  obtain ⟨negative', places', n', digits', heq, hdigits', rfl⟩ := h'
  obtain ⟨rfl, rfl⟩ := sign_append_inj hdigits.exists_cons hdigits'.exists_cons heq
  obtain ⟨rfl, rfl⟩ := eq_of_positional hdigits hdigits'
  rfl

theorem IsDecimalText.not_mem_blank {cs : List Char} {v : ℚ} (h : IsDecimalText cs v) :
    ' ' ∉ cs := by
  obtain ⟨negative, places, n, digits, rfl, hpositional, -⟩ := h
  obtain ⟨whole, fraction, rfl, hwhole, hfraction, -, -⟩ := hpositional
  have hdigits {ds : List Char} (hds : AllDigits ds) : ' ' ∉ ds := fun hmem => nomatch hds _ hmem
  simp only [List.mem_append, not_or]
  refine ⟨by cases negative <;> decide, hdigits hwhole.allDigits, ?_⟩
  cases fraction with
  | nil => exact List.not_mem_nil
  | cons c cs =>
    rw [pointed, List.mem_cons, not_or]
    exact ⟨by decide, hdigits hfraction⟩

theorem Shows.unique {text : String} {v w : ℚ} {m n : ℕ} (h : Shows text v m)
    (h' : Shows text w n) : v = w ∧ m = n := by
  obtain ⟨cs, unit, htext, hvalue, hunit⟩ := h
  obtain ⟨cs', unit', htext', hvalue', hunit'⟩ := h'
  have hblank : ∀ unit ∈ units, ' ' ∉ unit.toList := by decide
  rw [htext] at htext'
  obtain ⟨rfl, -, hsame⟩ := (List.append_cons_inj_of_notMem hvalue.not_mem_blank
    (hblank _ (List.mem_of_getElem? hunit))).mp htext'
  rw [← String.toList_inj.mp hsame, ← hunit] at hunit'
  obtain ⟨hlength, -⟩ := List.getElem?_eq_some_iff.mp hunit
  exact ⟨hvalue.unique hvalue', (List.getElem?_inj hlength (by decide)).mp hunit'.symm⟩

/-! ## Shortest decimals -/

section

variable {rank rank' : ℕ}

/-- Shortest decimals are in the order of their numbers. -/
theorem value_shortest_mono (hrank : 0 < rank) (hle : rank ≤ rank') :
    (shortest .up rank).value ≤ (shortest .up rank').value := by
  rcases Nat.lt_or_eq_of_le hle with hlt | rfl
  · exact ((isIn_shortest .up hrank).isNearestRank.lt_of_lt
      (isIn_shortest .up (hrank.trans hlt)).isNearestRank hlt).le
  · exact le_refl _

/-- The rank of 10²¹. -/
def integerRank : ℕ := 1091 * binadeSize + 7629394531250000

theorem magnitude_integerRank : magnitude integerRank = 10 ^ 21 := by
  have hunits : rankUnits integerRank = 10 ^ 21 * unitsPerOne := rankUnits_integerLimit
  rw [magnitude, hunits, Nat.cast_mul, mul_div_cancel_right₀ _ cast_unitsPerOne_pos.ne']
  norm_num

theorem magnitude_lt_integerLimit_iff : magnitude rank < 10 ^ 21 ↔ rank < integerRank := by
  rw [← magnitude_integerRank, magnitude_lt_iff]

theorem value_shortest_integerRank : (shortest .up integerRank).value = 10 ^ 21 := by
  have h : shortest .up integerRank = ⟨1, 21⟩ := by decide +kernel
  rw [h, Decimal.value]
  norm_num

theorem le_value_shortest (h : integerRank ≤ rank) : 10 ^ 21 ≤ (shortest .up rank).value :=
  value_shortest_integerRank.ge.trans (value_shortest_mono (by decide) h)

theorem isDecimalText_positional {negative : Bool} {rank : Fin rankLimit} (hrank : rank.val ≠ 0) :
    IsDecimalText (positional (.finite negative rank))
      (signed negative (shortest .up rank).value) := by
  refine ⟨negative, _, _, (shortest .up rank).positional, by rw [positional, if_neg hrank],
    positional_fixedDigits _ _, ?_⟩
  rw [Decimal.value_eq, Nat.cast_pow 10 (-(shortest .up rank).exponent).toNat, Nat.cast_ofNat]
  rfl

/-! ## Fixed places -/

/-- The value of the digits of a positive number with two places. -/
def fixedValue (rank : ℕ) : ℚ :=
  if magnitude rank < 10 ^ 21 then
    (Half.toEven.roundDiv (rankUnits (breakTie rank 2) * 10 ^ 2) unitsPerOne : ℕ) / 10 ^ 2
  else (shortest .up rank).value

theorem isDecimalText_fixed (rank : Fin rankLimit) :
    IsDecimalText (fixed (.finite false rank) 2).toList (fixedValue rank) := by
  unfold fixedValue
  split
  · next hlt => exact ⟨false, _, _, _, toList_fixed false 2 hlt, positional_fixedDigits _ 2, rfl⟩
  · next hge =>
    have hplain : fixed (.finite false rank) 2 = plain (.finite false rank) := by
      rw [fixed, if_neg fun h => hge (abs_lt_integerLimit_iff.mp h)]
    rw [hplain, plain_of_not_whole fun h => hge h.2, String.toList_ofList]
    refine @isDecimalText_positional false rank fun hzero => hge ?_
    rw [hzero, magnitude_zero]
    norm_num

theorem breakTie_mono (places : ℤ) (hle : rank ≤ rank') :
    breakTie rank places ≤ breakTie rank' places := by
  rcases Nat.lt_or_eq_of_le hle with hlt | rfl
  · unfold breakTie
    split <;> split <;> omega
  · exact le_refl _

/-- Up to the end of fixed places no more than the end is written. -/
theorem roundDiv_breakTie_le (h : rank < integerRank) :
    Half.toEven.roundDiv (rankUnits (breakTie rank 2) * 10 ^ 2) unitsPerOne ≤ 10 ^ 21 * 10 ^ 2 := by
  have hnext : breakTie rank 2 ≤ integerRank := by
    unfold breakTie
    split <;> omega
  have hunits : rankUnits (breakTie rank 2) ≤ 10 ^ 21 * unitsPerOne :=
    (strictMono_rankUnits.monotone hnext).trans_eq rankUnits_integerLimit
  refine (Half.roundDiv_mono .toEven unitsPerOne_pos (Nat.mul_le_mul_right _ hunits)).trans_eq ?_
  rw [Nat.mul_right_comm, Half.roundDiv_mul _ _ unitsPerOne_pos]

/-- The digits grow with the number, also where the places end. -/
theorem fixedValue_mono (hle : rank ≤ rank') : fixedValue rank ≤ fixedValue rank' := by
  unfold fixedValue
  simp only [magnitude_lt_integerLimit_iff]
  split
  · next hlt =>
    split
    · refine div_le_div_of_nonneg_right (Nat.cast_le.mpr ?_) (by norm_num)
      exact Half.roundDiv_mono .toEven unitsPerOne_pos
        (Nat.mul_le_mul_right _ (strictMono_rankUnits.monotone (breakTie_mono 2 hle)))
    · next hge =>
      refine le_trans ?_ (le_value_shortest (Nat.le_of_not_lt hge))
      rw [div_le_iff₀ (by norm_num)]
      exact_mod_cast roundDiv_breakTie_le hlt
  · next hge =>
    rw [if_neg fun hlt => hge (hle.trans_lt hlt)]
    exact value_shortest_mono (Nat.lt_of_lt_of_le (by decide) (Nat.le_of_not_lt hge)) hle

/-- A whole number has its own digits. -/
theorem fixedValue_eq {n : ℕ} (hn : n < 10 ^ 21) (h : magnitude rank = n) :
    fixedValue rank = n := by
  have hlt : magnitude rank < 10 ^ 21 := by
    rw [h]
    exact_mod_cast hn
  have hround : Half.toEven.roundDiv (rankUnits (breakTie rank 2) * 10 ^ 2) unitsPerOne =
      n * 10 ^ 2 := by
    refine @roundDiv_breakTie_of_abs_lt rank 2 (n * 10 ^ 2) ?_
    rw [h, Nat.cast_mul, Nat.cast_pow, Nat.cast_ofNat, sub_self, abs_zero]
    norm_num
  rw [fixedValue, if_pos hlt, hround]
  push_cast
  norm_num

/-! ## Whole numbers -/

/-- The value of the digits of a whole number that is negative or below 2⁶³. -/
def wholeValue (rank : ℕ) : ℚ :=
  if magnitude rank < 10 ^ 21 then min (magnitude rank) (2 ^ 63) else (shortest .up rank).value

theorem wholeValue_mono (hle : rank ≤ rank') : wholeValue rank ≤ wholeValue rank' := by
  unfold wholeValue
  simp only [magnitude_lt_integerLimit_iff]
  split
  · split
    · exact min_le_min_right _ (magnitude_mono hle)
    · next hge =>
      refine (min_le_right _ _).trans (le_trans ?_ (le_value_shortest (Nat.le_of_not_lt hge)))
      norm_num
  · next hge =>
    rw [if_neg fun hlt => hge (hle.trans_lt hlt)]
    exact value_shortest_mono (Nat.lt_of_lt_of_le (by decide) (Nat.le_of_not_lt hge)) hle

theorem wholeValue_eq {n : ℕ} (hn : n < 2 ^ 63) (h : magnitude rank = n) : wholeValue rank = n := by
  have hlt : magnitude rank < 2 ^ 63 := by
    rw [h]
    exact_mod_cast hn
  rw [wholeValue, if_pos (hlt.trans (by norm_num)), min_eq_left hlt.le, h]

theorem signed_natAbs (i : ℤ) : signed (i < 0) (i.natAbs : ℚ) = i := by
  obtain ⟨n, rfl | rfl⟩ := i.eq_nat_or_neg
  · have hsign : decide ((n : ℤ) < 0) = false := decide_eq_false (by omega)
    rw [hsign, Int.natAbs_natCast, Int.cast_natCast]
    rfl
  · rcases Nat.eq_zero_or_pos n with rfl | hpos
    · simp [signed]
    · have hsign : decide (-(n : ℤ) < 0) = true := decide_eq_true (by omega)
      rw [hsign, Int.natAbs_neg, Int.natAbs_natCast, Int.cast_neg, Int.cast_natCast]
      rfl

/-- The integer that is written for a whole number below the limit. -/
theorem cast_clamped {negative : Bool} {whole : ℕ} (h : negative = false → whole < signedLimit) :
    ((clamped negative whole : ℤ) : ℚ) = signed negative (min (whole : ℚ) (2 ^ 63)) := by
  have hlimit : ((signedLimit : ℕ) : ℚ) = 2 ^ 63 := by norm_num [signedLimit]
  have hclamped : clamped negative whole =
      if negative then -((min whole signedLimit : ℕ) : ℤ) else (min whole signedLimit : ℕ) := by
    unfold clamped
    cases negative with
    | false =>
      have hlt := h rfl
      simp only [Bool.false_eq_true, if_false]
      omega
    | true =>
      simp only [if_true]
      omega
  rw [hclamped, ← hlimit, ← Nat.cast_min]
  cases negative with
  | false => exact Int.cast_natCast _
  | true => exact (Int.cast_neg _).trans (congrArg Neg.neg (Int.cast_natCast _))

theorem isDecimalText_plain {negative : Bool} {rank : Fin rankLimit}
    (hwhole : rankUnits rank % unitsPerOne = 0) (hlt : negative = false → magnitude rank < 2 ^ 63) :
    IsDecimalText (plain (.finite negative rank)).toList
      (signed negative (wholeValue rank)) := by
  unfold wholeValue
  split
  · next hsmall =>
    obtain ⟨whole, hunits⟩ := Nat.dvd_of_mod_eq_zero hwhole
    rw [Nat.mul_comm] at hunits
    have hmagnitude : magnitude rank = whole := by
      rw [magnitude, hunits, Nat.cast_mul, mul_div_cancel_right₀ _ cast_unitsPerOne_pos.ne']
    have hlimit : negative = false → whole < signedLimit := by
      intro hpositive
      have h := hlt hpositive
      rw [hmagnitude] at h
      exact_mod_cast h
    rw [plain_of_whole hwhole hsmall, toInt64_eq hunits]
    refine ⟨_, 0, _, _, toList_toString_int _, positional_digitsOf _, ?_⟩
    rw [hmagnitude, ← cast_clamped hlimit, pow_zero, div_one, signed_natAbs]
  · next hge =>
    rw [plain_of_not_whole fun h => hge h.2, String.toList_ofList]
    refine isDecimalText_positional fun hzero => hge ?_
    rw [hzero, magnitude_zero]
    norm_num

end

/-! ## Units -/

/-- The largest power of a thousand in use that is not above a number, and none below a thousand. -/
def thousands (q : ℚ) : ℕ :=
  if 1000 ^ 4 ≤ q then 4
  else if 1000 ^ 3 ≤ q then 3
  else if 1000 ^ 2 ≤ q then 2
  else if 1000 ≤ q then 1
  else 0

section

variable {q q' : ℚ} {x : Binary64}

theorem thousands_spec (q : ℚ) :
    thousands q ≤ 4 ∧ (thousands q ≠ 0 → 1000 ^ thousands q ≤ q) ∧
      (thousands q ≠ 4 → q < 1000 ^ (thousands q + 1)) := by
  unfold thousands
  split
  · exact ⟨by omega, fun _ => by assumption, fun h => absurd rfl h⟩
  · split
    · exact ⟨by omega, fun _ => by assumption, fun _ => not_le.mp (by assumption)⟩
    · split
      · exact ⟨by omega, fun _ => by assumption, fun _ => not_le.mp (by assumption)⟩
      · split
        · refine ⟨by omega, fun _ => ?_, fun _ => not_le.mp (by assumption)⟩
          rw [pow_one]
          assumption
        · refine ⟨by omega, fun h => absurd rfl h, fun _ => ?_⟩
          rw [zero_add, pow_one]
          exact not_le.mp (by assumption)

theorem thousands_mono (h : q ≤ q') : thousands q ≤ thousands q' := by
  obtain ⟨hle, hlow, -⟩ := thousands_spec q
  obtain ⟨-, -, hhigh⟩ := thousands_spec q'
  by_contra hlt
  have hpow : (1000 : ℚ) ^ (thousands q' + 1) ≤ 1000 ^ thousands q :=
    pow_le_pow_right₀ (by norm_num) (Nat.lt_of_not_le hlt)
  linarith [hlow (by omega), hhigh (by omega)]

theorem le_ofNat_iff {n : ℕ} (hx : x.isFinite = true) (hn : n < 2 * binadeSize) :
    (ofNat n).le x = true ↔ (n : ℚ) ≤ x.toRat := by
  obtain ⟨hfinite, htoRat⟩ := toRat_ofNat hn
  rw [le_iff_toRat_le hfinite hx, htoRat]

/-- A hash count in its unit, and without a unit where there is none. -/
theorem hashCount_eq (hx : x.isFinite = true) :
    ∃ unit, units[thousands x.toRat]? = some unit ∧
      hashCount x =
        (if thousands x.toRat = 0 then plain x.round
          else fixed (x / ofNat (1000 ^ thousands x.toRat)) 2) ++ " " ++ unit := by
  have hguard : (!x.isFinite) = false := by rw [hx]; rfl
  have hunits : hashUnits =
      [(ofNat (1000 ^ 4), "T"), (ofNat (1000 ^ 3), "G"), (ofNat (1000 ^ 2), "M"),
        (ofNat 1000, "k")] := rfl
  have hle (k : ℕ) (hk : 1000 ^ k < 2 * binadeSize) :
      (ofNat (1000 ^ k)).le x = decide (1000 ^ k ≤ x.toRat) := by
    rw [Bool.eq_iff_iff, le_ofNat_iff hx hk, decide_eq_true_eq, Nat.cast_pow, Nat.cast_ofNat]
  have hleast := hle 1 (by decide)
  rw [pow_one, pow_one] at hleast
  unfold hashCount
  rw [hguard, hunits]
  simp only [Bool.false_eq_true, if_false, List.find?_cons, List.find?_nil, hle 4 (by decide),
    hle 3 (by decide), hle 2 (by decide), hleast]
  unfold thousands
  split
  · next h4 => exact ⟨"T", rfl, by simp only [h4, decide_true]; rfl⟩
  · next h4 =>
    split
    · next h3 => exact ⟨"G", rfl, by simp only [h4, h3, decide_true, decide_false]; rfl⟩
    · next h3 =>
      split
      · next h2 => exact ⟨"M", rfl, by simp only [h4, h3, h2, decide_true, decide_false]; rfl⟩
      · next h2 =>
        split
        · next h1 =>
          exact ⟨"k", rfl, by simp only [h4, h3, h2, h1, decide_true, decide_false]; rfl⟩
        · next h1 =>
          refine ⟨"", rfl, ?_⟩
          simp only [h4, h3, h2, h1, decide_false, if_true, String.append_empty]

/-- The number that is written of a hash count. -/
def countValue (x : Binary64) : ℚ :=
  if thousands x.toRat = 0 then signedOf wholeValue x.round
  else signedOf fixedValue (x / ofNat (1000 ^ thousands x.toRat))

theorem thousand_pow_lt (q : ℚ) : 1000 ^ thousands q < 2 * binadeSize :=
  (Nat.pow_le_pow_right (by decide) (thousands_spec q).1).trans_lt (by decide)

theorem toRat_thousand : (ofNat 1000).isFinite = true ∧ (ofNat 1000).toRat = 1000 :=
  toRat_literal 1000 (by decide)

/-- The quotient that is written with a unit. -/
theorem isRounded_quotient (hx : x.isFinite = true) :
    (x / ofNat (1000 ^ thousands x.toRat)).isFinite = true ∧
      IsRounded (x.toRat / 1000 ^ thousands x.toRat) (x / ofNat (1000 ^ thousands x.toRat)) := by
  obtain ⟨hscale, hscale'⟩ := toRat_ofNat (thousand_pow_lt x.toRat)
  rw [Nat.cast_pow, Nat.cast_ofNat] at hscale'
  have hone : (1 : ℚ) ≤ 1000 ^ thousands x.toRat := one_le_pow₀ (by norm_num)
  have hrounded := isRounded_div hx hscale (by linarith)
  rw [hscale'] at hrounded
  refine ⟨hrounded.isFinite hx ?_, hrounded⟩
  rw [abs_div]
  exact div_le_self (abs_nonneg _) (hone.trans (le_abs_self _))

theorem one_le_quotient (hx : x.isFinite = true) (hunit : thousands x.toRat ≠ 0) :
    1 ≤ (x / ofNat (1000 ^ thousands x.toRat)).toRat := by
  obtain ⟨hfinite, hrounded⟩ := isRounded_quotient hx
  rw [← toRat_one.2]
  refine (isRounded_toRat toRat_one.1).toRat_mono hrounded toRat_one.1 hfinite ?_
  rw [toRat_one.2, one_le_div (by positivity)]
  exact (thousands_spec x.toRat).2.1 hunit

theorem quotient_le (hx : x.isFinite = true) (hunit : thousands x.toRat ≠ 4) :
    (x / ofNat (1000 ^ thousands x.toRat)).toRat ≤ 1000 := by
  obtain ⟨hfinite, hrounded⟩ := isRounded_quotient hx
  rw [← toRat_thousand.2]
  refine hrounded.toRat_mono (isRounded_toRat toRat_thousand.1) hfinite toRat_thousand.1 ?_
  rw [toRat_thousand.2, div_le_iff₀ (by positivity), ← pow_succ']
  exact ((thousands_spec x.toRat).2.2 hunit).le

theorem toRat_round_le (hx : x.isFinite = true) (hunit : thousands x.toRat = 0) :
    x.round.toRat ≤ 1000 := by
  have hlt := (thousands_spec x.toRat).2.2 (by omega)
  rw [hunit, zero_add, pow_one] at hlt
  have hround := toRat_round_ofNat (n := 1000) (by decide) (by decide)
  rw [Nat.cast_ofNat] at hround
  rw [← hround]
  exact toRat_round_mono hx toRat_thousand.1 (hlt.le.trans toRat_thousand.2.ge)

/-! ## What is shown -/

theorem isDecimalText_round (hx : x.isFinite = true) (hunit : thousands x.toRat = 0) :
    IsDecimalText (plain x.round).toList (signedOf wholeValue x.round) := by
  have hle := toRat_round_le hx hunit
  obtain ⟨s, a, rfl⟩ := exists_of_isFinite hx
  obtain ⟨hfinite, hround⟩ := toRat_round s a
  obtain ⟨t, rank, hrank⟩ := exists_of_isFinite hfinite
  rw [hrank] at hle hround ⊢
  have hmagnitude : magnitude rank = (Half.up.roundDiv (rankUnits a) unitsPerOne : ℕ) := by
    rw [← abs_toRat t rank, hround, abs_signed, abs_of_nonneg (Nat.cast_nonneg _)]
  refine isDecimalText_plain ?_ fun hpositive => ?_
  · rw [magnitude, div_eq_iff cast_unitsPerOne_pos.ne'] at hmagnitude
    rw [Nat.cast_injective (hmagnitude.trans (Nat.cast_mul _ _).symm)]
    exact Nat.mul_mod_left _ _
  · subst hpositive
    exact lt_of_le_of_lt hle (by norm_num)

theorem isDecimalText_quotient (hx : x.isFinite = true) (hunit : thousands x.toRat ≠ 0) :
    IsDecimalText (fixed (x / ofNat (1000 ^ thousands x.toRat)) 2).toList
      (signedOf fixedValue (x / ofNat (1000 ^ thousands x.toRat))) := by
  obtain ⟨rank, hrank⟩ := exists_of_toRat_pos (zero_lt_one.trans_le (one_le_quotient hx hunit))
  rw [hrank, signedOf_false]
  exact isDecimalText_fixed rank

theorem shows_hashCount (hx : x.isFinite = true) :
    Shows (hashCount x) (countValue x) (thousands x.toRat) := by
  obtain ⟨unit, hunit, htext⟩ := hashCount_eq hx
  have hlist := congrArg String.toList htext
  rw [String.toList_append, String.toList_append, List.append_assoc] at hlist
  refine ⟨_, unit, hlist, ?_, hunit⟩
  unfold countValue
  split
  · next hzero => exact isDecimalText_round hx hzero
  · next hne => exact isDecimalText_quotient hx hne

theorem wholeValue_zero : wholeValue 0 = 0 := by
  have h := wholeValue_eq (n := 0) (by decide) (magnitude_zero.trans Nat.cast_zero.symm)
  rwa [Nat.cast_zero] at h

theorem fixedValue_zero : fixedValue 0 = 0 := by
  have h := fixedValue_eq (n := 0) (by decide) (magnitude_zero.trans Nat.cast_zero.symm)
  rwa [Nat.cast_zero] at h

/-- What is shown without a unit, or with one, does not pass the next unit. -/
theorem countValue_le (hx : x.isFinite = true) (hunit : thousands x.toRat ≠ 4) :
    countValue x ≤ 1000 := by
  unfold countValue
  split
  · next hzero =>
    have hthousand := signedOf_ofNat (f := wholeValue) (n := 1000) (by decide) (by decide)
      fun rank => wholeValue_eq (by decide)
    rw [Nat.cast_ofNat] at hthousand
    rw [← hthousand]
    exact signedOf_mono (fun _ _ => wholeValue_mono) wholeValue_zero (isFinite_round hx)
      toRat_thousand.1 ((toRat_round_le hx hzero).trans toRat_thousand.2.ge)
  · have hthousand := signedOf_ofNat (f := fixedValue) (n := 1000) (by decide) (by decide)
      fun rank => fixedValue_eq (by decide)
    rw [Nat.cast_ofNat] at hthousand
    rw [← hthousand]
    exact signedOf_mono (fun _ _ => fixedValue_mono) fixedValue_zero (isRounded_quotient hx).1
      toRat_thousand.1 ((quotient_le hx hunit).trans toRat_thousand.2.ge)

theorem one_le_countValue (hx : x.isFinite = true) (hunit : thousands x.toRat ≠ 0) :
    1 ≤ countValue x := by
  rw [countValue, if_neg hunit]
  have hone := signedOf_ofNat (f := fixedValue) (n := 1) (by decide) (by decide)
    fun rank => fixedValue_eq (by decide)
  rw [Nat.cast_one] at hone
  rw [← hone]
  exact signedOf_mono (fun _ _ => fixedValue_mono) fixedValue_zero toRat_one.1
    (isRounded_quotient hx).1 (toRat_one.2.trans_le (one_le_quotient hx hunit))

/-- In one unit the digits grow with the number. -/
theorem countValue_mono {y : Binary64} (hx : x.isFinite = true) (hy : y.isFinite = true)
    (hle : x.toRat ≤ y.toRat) (hsame : thousands x.toRat = thousands y.toRat) :
    countValue x ≤ countValue y := by
  obtain ⟨hquotient, hrounded⟩ := isRounded_quotient hx
  obtain ⟨hquotient', hrounded'⟩ := isRounded_quotient hy
  unfold countValue
  rw [hsame] at hquotient hrounded ⊢
  split
  · exact signedOf_mono (fun _ _ => wholeValue_mono) wholeValue_zero (isFinite_round hx)
      (isFinite_round hy) (toRat_round_mono hx hy hle)
  · refine signedOf_mono (fun _ _ => fixedValue_mono) fixedValue_zero hquotient hquotient' ?_
    exact hrounded.toRat_mono hrounded' hquotient hquotient'
      (div_le_div_of_nonneg_right hle (by positivity))

/-- The unit of a number from a thousand on is the largest one not above it. -/
theorem isGreatest_thousands (h : 1000 ≤ q) :
    IsGreatest {f : ℚ | f ∈ [10 ^ 3, 10 ^ 6, 10 ^ 9, 10 ^ 12] ∧ f ≤ q} (1000 ^ thousands q) := by
  obtain ⟨hle, hlow, hhigh⟩ := thousands_spec q
  generalize thousands q = n at *
  have hne : n ≠ 0 := by
    rintro rfl
    have hlt := hhigh (by decide)
    rw [zero_add, pow_one] at hlt
    linarith
  refine ⟨⟨?_, hlow hne⟩, ?_⟩
  · obtain rfl | rfl | rfl | rfl : n = 1 ∨ n = 2 ∨ n = 3 ∨ n = 4 := by omega
    all_goals norm_num
  · rintro f ⟨hf, hfq⟩
    obtain ⟨k, hk, rfl⟩ : ∃ k ≤ 4, f = 1000 ^ k := by
      simp only [List.mem_cons, List.not_mem_nil, or_false] at hf
      rcases hf with rfl | rfl | rfl | rfl
      · exact ⟨1, by norm_num⟩
      · exact ⟨2, by norm_num⟩
      · exact ⟨3, by norm_num⟩
      · exact ⟨4, by norm_num⟩
    refine pow_le_pow_right₀ (by norm_num) ?_
    by_contra hgt
    have hpow : (1000 : ℚ) ^ (n + 1) ≤ 1000 ^ k :=
      pow_le_pow_right₀ (by norm_num) (Nat.lt_of_not_le hgt)
    linarith [hhigh (by omega)]

end

/-- A text shows one quantity, in one unit. -/
def ShowsOnly (text : String) (value : ℚ) (power : ℕ) : Prop :=
  ∀ v n, Shows text v n ↔ v = value ∧ n = power

/-- Two texts show a quantity each, and the second one no less than the first. -/
def InOrder (text text' : String) : Prop :=
  ∃ v m w n, ShowsOnly text v m ∧ ShowsOnly text' w n ∧ v * 1000 ^ m ≤ w * 1000 ^ n

/-- A text shows a quantity in the largest unit not above a number. -/
def InLargestUnit (text : String) (q : ℚ) : Prop :=
  ∃ v n, ShowsOnly text v n ∧
    IsGreatest {f : ℚ | f ∈ [10 ^ 3, 10 ^ 6, 10 ^ 9, 10 ^ 12] ∧ f ≤ q} (1000 ^ n)

section

variable {a b : Binary64}

theorem showsOnly_hashCount (ha : a.isFinite = true) :
    ShowsOnly (hashCount a) (countValue a) (thousands a.toRat) := by
  intro v n
  constructor
  · exact fun h => h.unique (shows_hashCount ha)
  · rintro ⟨rfl, rfl⟩
    exact shows_hashCount ha

theorem countValue_mul_mono (ha : a.isFinite = true) (hb : b.isFinite = true)
    (hle : a.toRat ≤ b.toRat) :
    countValue a * 1000 ^ thousands a.toRat ≤ countValue b * 1000 ^ thousands b.toRat := by
  rcases Nat.lt_or_eq_of_le (thousands_mono hle) with hlt | hsame
  · have hlast := (thousands_spec b.toRat).1
    calc countValue a * 1000 ^ thousands a.toRat
        ≤ 1000 * 1000 ^ thousands a.toRat :=
          mul_le_mul_of_nonneg_right (countValue_le ha (by omega)) (by positivity)
      _ = 1000 ^ (thousands a.toRat + 1) := (pow_succ' _ _).symm
      _ ≤ 1000 ^ thousands b.toRat := pow_le_pow_right₀ (by norm_num) hlt
      _ ≤ countValue b * 1000 ^ thousands b.toRat :=
          le_mul_of_one_le_left (by positivity) (one_le_countValue hb (by omega))
  · rw [hsame]
    exact mul_le_mul_of_nonneg_right (countValue_mono ha hb hle hsame) (by positivity)

/-- Hash counts are shown in the order of the numbers, and those from a thousand on in the largest
unit not above them. -/
theorem hashCount_mono (ha : a.isFinite = true) (hb : b.isFinite = true) (hle : a.le b = true) :
    InOrder (hashCount a) (hashCount b) ∧
      (1000 ≤ b.toRat → InLargestUnit (hashCount b) b.toRat) :=
  ⟨⟨_, _, _, _, showsOnly_hashCount ha, showsOnly_hashCount hb,
    countValue_mul_mono ha hb ((le_iff_toRat_le ha hb).mp hle)⟩,
    fun h => ⟨_, _, showsOnly_hashCount hb, isGreatest_thousands h⟩⟩

/-- The last whole number before a million is shown as a thousand thousands. -/
theorem hashCount_mono_beforeMillion :
    ((999999 : Binary64).isFinite = true ∧ (1000000 : Binary64).isFinite = true ∧
        (999999 : Binary64).le 1000000 = true ∧ 1000 ≤ (1000000 : Binary64).toRat) ∧
      InOrder (hashCount 999999) (hashCount 1000000) ∧
        InLargestUnit (hashCount 1000000) (1000000 : Binary64).toRat := by
  have hle : (999999 : Binary64).le 1000000 = true := by decide +kernel
  obtain ⟨hfinite, -⟩ := toRat_ofNat (n := 999999) (by decide)
  obtain ⟨hmillion, hmillion'⟩ := toRat_ofNat (n := 1000000) (by decide)
  have hthousand : 1000 ≤ (1000000 : Binary64).toRat := by
    refine le_of_le_of_eq ?_ hmillion'.symm
    norm_num
  obtain ⟨horder, hunit⟩ := hashCount_mono hfinite hmillion hle
  exact ⟨⟨hfinite, hmillion, hle, hthousand⟩, horder, hunit hthousand⟩

example : hashCount 999999 = "1000.00 k" ∧ hashCount 1000000 = "1.00 M" := by decide +kernel

end

end Figure
end PoolPage
