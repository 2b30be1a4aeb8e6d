import PoolPage.Proofs.Figure.Fixed
import PoolPage.Proofs.Number.Operations
import PoolPage.Proofs.Text.Gaps

/-!
# Bare numbers

A bare number is a decimal literal that is read to its end.  Past the ends of the 64-bit integers
whole numbers below 10²¹ are written as these ends and read back as them; all other numbers read
back as themselves (`read?_plain`), and only those whole numbers have a text in common
(`plain_faithful`).
-/

namespace PoolPage
namespace Figure

/-! ## Literals -/

section

variable {negative : Bool} {places n : Nat} {cs : List Char} {text : String}

theorem scanSign_sign (hcs : ∃ c rest, cs = c :: rest ∧ c.isDigit = true) :
    scanSign (trimLeft (sign negative ++ cs)) = (negative, cs) := by
  obtain ⟨c, rest, rfl, hc⟩ := hcs
  cases negative with
  | true => rfl
  | false =>
    have htrim : trimLeft (c :: rest) = c :: rest := by
      rw [trimLeft, List.dropWhile_cons_of_neg]
      rw [isBlank_of_isDigit hc]
      exact Bool.false_ne_true
    show scanSign (trimLeft (c :: rest)) = _
    rw [htrim, scanSign_cons hc]

theorem infinityWord_isPrefixOf (hcs : ∃ c rest, cs = c :: rest ∧ c.isDigit = true) :
    infinityWord.isPrefixOf cs = false := by
  obtain ⟨c, rest, rfl, hc⟩ := hcs
  have hword : infinityWord = 'I' :: "nfinity".toList := by decide
  have hne : ('I' == c) = false := by
    rw [beq_eq_false_iff_ne]
    rintro rfl
    exact nomatch hc
  rw [hword, List.isPrefixOf_cons_cons, hne, Bool.false_and]

/-- A text of digits with an optional minus and an optional point, that is read to its end. -/
def IsLiteral (text : String) : Prop :=
  ∃ negative places n cs numeral, text.toList = sign negative ++ cs ∧ Positional places n cs ∧
    scanSign (trimLeft text.toList) = (negative, cs) ∧ Numeral.scan? cs = some (numeral, []) ∧
      read? text = some (numeral.toBinary64 negative)

/-- A sign and a number with places are a literal, and read as the number nearest to it. -/
theorem isLiteral_of_positional (htext : text.toList = sign negative ++ cs)
    (hcs : Positional places n cs) :
    IsLiteral text ∧ read? text = some ((Decimal.mk n (-(places : Int))).toBinary64 negative) := by
  have hsign : scanSign (trimLeft text.toList) = (negative, cs) := by
    rw [htext]
    exact scanSign_sign hcs.exists_cons
  obtain ⟨numeral, hscan, hdecimal⟩ := Numeral.scan?_positional hcs
  have hread : read? text = some (numeral.toBinary64 negative) := by
    rw [read?, hsign]
    simp only [infinityWord_isPrefixOf hcs.exists_cons, hscan, Option.map_some]
    rfl
  refine ⟨⟨negative, places, n, cs, numeral, htext, hcs, hsign, hscan, hread⟩, ?_⟩
  rw [hread, Numeral.toBinary64, hdecimal]

end

/-! ## Whole numbers -/

theorem toList_toString_int (i : Int) :
    (toString i).toList = sign (i < 0) ++ digitsOf i.natAbs := by
  cases i with
  | ofNat n => exact Nat.toList_repr
  | negSucc n =>
    have hsign : decide (Int.negSucc n < 0) = true := decide_eq_true (Int.negSucc_lt_zero n)
    show ("-" ++ toString (n + 1)).toList = _
    rw [String.toList_append, hsign, Int.natAbs_negSucc]
    exact congrArg ('-' :: ·) Nat.toList_repr

theorem positional_digitsOf (n : Nat) : Positional 0 n (digitsOf n) := positional_fixedDigits n 0

/-- The rank of 2⁶³. -/
def signedRank : Nat := 1086 * binadeSize

theorem rankUnits_signedRank : rankUnits signedRank = signedLimit * unitsPerOne := by decide

theorem signedRank_lt : signedRank < rankLimit := by decide

section

variable {rank whole : Nat}

theorem le_signedRank_iff (h : rankUnits rank = whole * unitsPerOne) :
    rank ≤ signedRank ↔ whole ≤ signedLimit := by
  rw [← strictMono_rankUnits.le_iff_le, h, rankUnits_signedRank,
    Nat.mul_le_mul_right_iff unitsPerOne_pos]

/-- All numbers from 2⁶³ on are whole. -/
theorem mod_unitsPerOne_of_le (h : signedRank ≤ rank) : rankUnits rank % unitsPerOne = 0 := by
  refine Nat.mod_eq_zero_of_dvd (Binary64.unitsPerOne_dvd_of_le ?_)
  simp only [signedRank, binadeSize] at *
  omega

/-- A whole number is read from its digits. -/
theorem nearestRank_whole (hlt : rank < rankLimit) (h : rankUnits rank = whole * unitsPerOne) :
    (Decimal.mk whole (-((0 : ℕ) : ℤ))).nearestRank = rank := by
  rcases Nat.eq_zero_or_pos rank with rfl | hrank
  · have hzero : whole = 0 := by
      rw [rankUnits_zero] at h
      exact (Nat.mul_eq_zero.mp h.symm).resolve_right unitsPerOne_pos.ne'
    rw [hzero]
    rfl
  · refine Decimal.IsIn.nearestRank_eq hrank hlt (Decimal.isIn_of_eq hrank ?_)
    simp only [Nat.cast_zero, neg_zero, Int.toNat_zero, Nat.pow_zero, Nat.mul_one]
    exact h.symm

/-- The end of the 64-bit integers reads back as the number after it. -/
theorem nearestRank_signedLimit_pred :
    (Decimal.mk (signedLimit - 1) (-((0 : ℕ) : ℤ))).nearestRank = signedRank := by
  refine Decimal.IsIn.nearestRank_eq (by decide) signedRank_lt ?_
  unfold Decimal.IsIn
  decide

end

/-- A positive whole number with a sign within the range of 64-bit integers. -/
def clamped (negative : Bool) (whole : Nat) : Int :=
  max (-(signedLimit : Int)) (min (signedLimit - 1) (if negative then -(whole : Int) else whole))

theorem toInt64_eq {negative : Bool} {rank : Fin rankLimit} {whole : Nat}
    (h : rankUnits rank = whole * unitsPerOne) :
    (Binary64.finite negative rank).toInt64 = clamped negative whole := by
  have hdiv : (rankUnits rank : Int) / unitsPerOne = whole := by
    rw [h, Nat.cast_mul]
    exact Int.mul_ediv_cancel _ (Int.natCast_ne_zero.mpr unitsPerOne_pos.ne')
  simp only [Binary64.toInt64, Binary64.clampTo, hdiv, clamped]

theorem clamped_lt_zero_iff {negative : Bool} {whole : Nat} (hwhole : 0 < whole) :
    decide (clamped negative whole < 0) = negative := by
  cases negative with
  | false =>
    refine decide_eq_false ?_
    simp only [clamped, Bool.false_eq_true, if_false]
    omega
  | true =>
    refine decide_eq_true ?_
    have hpos : (0 : Int) < signedLimit := by decide
    simp only [clamped, if_true]
    rw [max_lt_iff, min_lt_iff]
    omega

theorem clamped_of_le {negative : Bool} {whole : Nat} (h : signedLimit ≤ whole) :
    clamped negative whole = if negative then -(signedLimit : Int) else signedLimit - 1 := by
  cases negative with
  | false =>
    have hle : (signedLimit : Int) - 1 ≤ whole :=
      (Int.sub_le_self _ (by decide)).trans (Int.ofNat_le.mpr h)
    simp only [clamped, Bool.false_eq_true, if_false]
    rw [min_eq_left hle]
    exact max_eq_right (by decide)
  | true =>
    have hle : -(whole : Int) ≤ -(signedLimit : Int) := Int.neg_le_neg (Int.ofNat_le.mpr h)
    simp only [clamped, if_true]
    exact max_eq_left ((min_le_right _ _).trans hle)

/-- The digits of an integer within the range read back as its number, or as 2⁶³. -/
theorem nearestRank_clamped {negative : Bool} {rank whole : Nat} (hlt : rank < rankLimit)
    (h : rankUnits rank = whole * unitsPerOne) :
    (Decimal.mk (clamped negative whole).natAbs (-((0 : ℕ) : ℤ))).nearestRank =
      min rank signedRank := by
  rcases Nat.lt_or_ge whole signedLimit with hsmall | hlarge
  · have habs : (clamped negative whole).natAbs = whole := by
      unfold clamped
      split <;> omega
    rw [habs, nearestRank_whole hlt h, Nat.min_eq_left ((le_signedRank_iff h).mpr hsmall.le)]
  · have hle : signedRank ≤ rank := by
      rw [← strictMono_rankUnits.le_iff_le, h, rankUnits_signedRank]
      exact Nat.mul_le_mul_right _ hlarge
    rw [Nat.min_eq_right hle, clamped_of_le hlarge]
    cases negative with
    | false => exact nearestRank_signedLimit_pred
    | true => exact nearestRank_whole signedRank_lt rankUnits_signedRank

/-- A whole number is read from the text of its integer, with the ends of the 64-bit integers as
limits. -/
theorem read?_toInt64 {negative : Bool} {rank : Fin rankLimit} {whole : Nat}
    (h : rankUnits rank = whole * unitsPerOne) :
    IsLiteral (toString (Binary64.finite negative rank).toInt64) ∧
      read? (toString (Binary64.finite negative rank).toInt64) =
        some (if rank.val = 0 then .zero else .ofRank negative (min rank signedRank)) := by
  obtain ⟨hliteral, hread⟩ := isLiteral_of_positional
    (toList_toString_int (Binary64.finite negative rank).toInt64) (positional_digitsOf _)
  refine ⟨hliteral, ?_⟩
  rw [hread, toInt64_eq h, Decimal.toBinary64, nearestRank_clamped rank.isLt h]
  split
  · next hzero =>
    have hwhole : whole = 0 := by
      rw [hzero, rankUnits_zero] at h
      exact (Nat.mul_eq_zero.mp h.symm).resolve_right unitsPerOne_pos.ne'
    rw [hzero, hwhole]
    cases negative <;> rfl
  · next hne =>
    have hwhole : 0 < whole := by
      refine Nat.pos_of_ne_zero fun hzero => ?_
      have hpos := rankUnits_pos (Nat.pos_of_ne_zero hne)
      rw [h, hzero, Nat.zero_mul] at hpos
      exact Nat.lt_irrefl 0 hpos
    rw [clamped_lt_zero_iff hwhole]

/-! ## All digits -/

/-- The shortest decimal with all its digits reads back. -/
theorem read?_positional {negative : Bool} {rank : Fin rankLimit} (hrank : rank.val ≠ 0) :
    IsLiteral (String.ofList (positional (.finite negative rank))) ∧
      read? (String.ofList (positional (.finite negative rank))) =
        some (.finite negative rank) := by
  have hpos := Nat.pos_of_ne_zero hrank
  have hin := isIn_shortest .up hpos
  have htext : (String.ofList (positional (.finite negative rank))).toList =
      sign negative ++ (shortest .up rank).positional := by
    rw [String.toList_ofList, positional, if_neg hrank]
  obtain ⟨hliteral, hread⟩ := isLiteral_of_positional htext (positional_fixedDigits _ _)
  refine ⟨hliteral, ?_⟩
  generalize shortest .up rank = d at *
  have hnearest : (Decimal.mk (d.significand * Nat.pow 10 d.exponent.toNat)
      (-((-d.exponent).toNat : ℤ))).nearestRank = rank := by
    refine Decimal.IsIn.nearestRank_eq hpos rank.isLt ?_
    have hup : (-((-d.exponent).toNat : ℤ)).toNat = 0 := by omega
    have hdown : (- -((-d.exponent).toNat : ℤ)).toNat = (-d.exponent).toNat := by omega
    unfold Decimal.IsIn at hin ⊢
    simp only [hup, hdown, Nat.pow_zero, Nat.mul_one]
    exact hin
  rw [hread, Decimal.toBinary64, hnearest, Binary64.ofRank_of_lt _ rank.isLt]

/-! ## Reading back -/

theorem plain_of_whole {negative : Bool} {rank : Fin rankLimit}
    (hwhole : rankUnits rank % unitsPerOne = 0) (hlt : magnitude rank < 10 ^ 21) :
    plain (.finite negative rank) = toString (Binary64.finite negative rank).toInt64 :=
  if_pos (Bool.and_eq_true_iff.mpr ⟨decide_eq_true hwhole, abs_lt_integerLimit_iff.mpr hlt⟩)

theorem plain_of_not_whole {negative : Bool} {rank : Fin rankLimit}
    (h : ¬(rankUnits rank % unitsPerOne = 0 ∧ magnitude rank < 10 ^ 21)) :
    plain (.finite negative rank) = String.ofList (positional (.finite negative rank)) := by
  refine if_neg fun hboth => h ?_
  rw [Bool.and_eq_true_iff, abs_lt_integerLimit_iff] at hboth
  exact ⟨of_decide_eq_true hboth.1, hboth.2⟩

/-- The rank whose magnitude is read back. -/
def readRank (rank : Nat) : Nat := if magnitude rank < 10 ^ 21 then min rank signedRank else rank

theorem readRank_le (rank : Nat) : readRank rank ≤ rank := by
  unfold readRank
  split
  · exact Nat.min_le_left _ _
  · exact Nat.le_refl _

/-- What a bare number reads back as. -/
theorem read?_plain (negative : Bool) (rank : Fin rankLimit) :
    IsLiteral (plain (.finite negative rank)) ∧
      read? (plain (.finite negative rank)) =
        some (if rank.val = 0 then .zero else .ofRank negative (readRank rank)) := by
  unfold readRank
  by_cases h : rankUnits rank % unitsPerOne = 0 ∧ magnitude rank < 10 ^ 21
  · have hunits := (Nat.div_mul_cancel (Nat.dvd_of_mod_eq_zero h.1)).symm
    rw [plain_of_whole h.1 h.2, if_pos h.2]
    exact read?_toInt64 hunits
  · have hrank : rank.val ≠ 0 := by
      intro hzero
      refine h ?_
      rw [hzero, rankUnits_zero, Nat.zero_mod, magnitude_zero]
      exact ⟨rfl, by norm_num⟩
    have hsame : (if magnitude rank < 10 ^ 21 then min rank.val signedRank else rank) = rank := by
      split
      · next hlt =>
        refine Nat.min_eq_left ?_
        by_contra hgt
        exact h ⟨mod_unitsPerOne_of_le (Nat.lt_of_not_le hgt).le, hlt⟩
      · rfl
    rw [plain_of_not_whole h, if_neg hrank, hsame, Binary64.ofRank_of_lt _ rank.isLt]
    exact read?_positional hrank

/-! ## What is lost -/

theorem magnitude_signedRank : magnitude signedRank = 2 ^ 63 := by
  rw [magnitude, rankUnits_signedRank, Nat.cast_mul,
    mul_div_cancel_right₀ _ cast_unitsPerOne_pos.ne']
  norm_num

theorem two_pow_lt_magnitude_iff {rank : Nat} : 2 ^ 63 < magnitude rank ↔ signedRank < rank := by
  rw [← magnitude_signedRank, magnitude_lt_iff]

theorem two_pow_le_magnitude_iff {rank : Nat} : 2 ^ 63 ≤ magnitude rank ↔ signedRank ≤ rank := by
  rw [← not_lt, ← magnitude_signedRank, magnitude_lt_iff, Nat.not_lt]

/-- A whole number written as an integer, at the end of the 64-bit integers or past it. -/
def IsSaturated (rank : Nat) : Prop := 2 ^ 63 ≤ magnitude rank ∧ magnitude rank < 10 ^ 21

theorem IsSaturated.ne_zero {rank : Nat} (h : IsSaturated rank) : rank ≠ 0 := by
  rintro rfl
  have hle := h.1
  rw [magnitude_zero] at hle
  exact absurd hle (by norm_num)

/-- The sign of a zero is not read back. -/
theorem read_eq_ofRank (negative : Bool) (rank : Nat) :
    (if rank = 0 then Binary64.zero else .ofRank negative (readRank rank)) =
      .ofRank (if rank = 0 then false else negative) (readRank rank) := by
  split
  · next hzero =>
    rw [hzero, Nat.le_zero.mp (readRank_le 0)]
    rfl
  · rfl

theorem ofRank_injective {negative negative' : Bool} {rank rank' : Nat} (hlt : rank < rankLimit)
    (hlt' : rank' < rankLimit) :
    Binary64.ofRank negative rank = .ofRank negative' rank' ↔
      negative = negative' ∧ rank = rank' := by
  rw [Binary64.ofRank_of_lt _ hlt, Binary64.ofRank_of_lt _ hlt', Binary64.finite.injEq,
    Fin.mk.injEq]

theorem readRank_eq_self_iff {rank : Nat} :
    readRank rank = rank ↔ ¬(2 ^ 63 < magnitude rank ∧ magnitude rank < 10 ^ 21) := by
  rw [two_pow_lt_magnitude_iff]
  unfold readRank
  split
  · next hlt => simp [hlt]
  · next hge => simp [hge]

/-- Where two magnitudes are read back as one. -/
theorem readRank_eq_iff {rank rank' : Nat} :
    readRank rank = readRank rank' ↔ rank = rank' ∨ IsSaturated rank ∧ IsSaturated rank' := by
  have hlarge {r : Nat} (h : ¬magnitude r < 10 ^ 21) : signedRank < r := by
    rw [← two_pow_lt_magnitude_iff]
    exact lt_of_lt_of_le (by norm_num) (not_lt.mp h)
  unfold readRank IsSaturated
  rw [two_pow_le_magnitude_iff, two_pow_le_magnitude_iff]
  split <;> split
  · next h h' =>
    simp only [h, h', and_true]
    omega
  · next h h' =>
    have := hlarge h'
    simp only [h, h', and_true, and_false, or_false]
    constructor
    · omega
    · rintro rfl
      exact absurd h h'
  · next h h' =>
    have := hlarge h
    simp only [h, h', and_true, and_false, false_and, or_false]
    constructor
    · omega
    · rintro rfl
      exact absurd h' h
  · next h h' => simp only [h, and_false, false_and, or_false]

/-- Numbers past the end of the 64-bit integers have the text of the end. -/
theorem plain_of_isSaturated {negative : Bool} {rank : Fin rankLimit} (h : IsSaturated rank) :
    plain (.finite negative rank) =
      toString (if negative then -(signedLimit : Int) else signedLimit - 1) := by
  have hle := two_pow_le_magnitude_iff.mp h.1
  have hwhole := mod_unitsPerOne_of_le hle
  have hunits := (Nat.div_mul_cancel (Nat.dvd_of_mod_eq_zero hwhole)).symm
  rw [plain_of_whole hwhole h.2, toInt64_eq hunits, clamped_of_le]
  rw [Nat.le_div_iff_mul_le unitsPerOne_pos, ← rankUnits_signedRank]
  exact strictMono_rankUnits.monotone hle

theorem plain_of_zero {negative : Bool} {rank : Fin rankLimit} (h : rank.val = 0) :
    plain (.finite negative rank) = "0" := by
  have hunits : rankUnits rank = 0 * unitsPerOne := by rw [h, rankUnits_zero, Nat.zero_mul]
  have hlt : magnitude rank < 10 ^ 21 := by
    rw [h, magnitude_zero]
    norm_num
  rw [plain_of_whole (by rw [hunits, Nat.zero_mul, Nat.zero_mod]) hlt, toInt64_eq hunits]
  cases negative <;> decide

/-- A bare number is a literal that is read to its end.  It reads back as itself, or as zero if it
is one, unless it is larger than 2⁶³ and still written as an integer; and two numbers have one text
only if both are zero, or both have one sign and are at the end of the 64-bit integers or past
it. -/
theorem plain_faithful (negative : Bool) (rank : Fin rankLimit) :
    IsLiteral (plain (.finite negative rank)) ∧
      (read? (plain (.finite negative rank)) =
          some (if rank.val = 0 then .zero else .finite negative rank) ↔
        ¬(2 ^ 63 < magnitude rank ∧ magnitude rank < 10 ^ 21)) ∧
      ∀ (negative' : Bool) (rank' : Fin rankLimit),
        plain (.finite negative rank) = plain (.finite negative' rank') ↔
          Binary64.finite negative rank = .finite negative' rank' ∨
            (rank.val = 0 ∧ rank'.val = 0) ∨
            (negative = negative' ∧ IsSaturated rank ∧ IsSaturated rank') := by
  have hlimit (r : Fin rankLimit) : readRank r < rankLimit := (readRank_le r).trans_lt r.isLt
  obtain ⟨hliteral, hread⟩ := read?_plain negative rank
  refine ⟨hliteral, ?_, fun negative' rank' => ⟨fun heq => ?_, ?_⟩⟩
  · rw [hread, Option.some.injEq, ← readRank_eq_self_iff]
    split
    · next hzero =>
      rw [hzero]
      exact iff_of_true rfl (Nat.le_zero.mp (readRank_le 0))
    · rw [← Binary64.ofRank_of_lt negative rank.isLt, ofRank_injective (hlimit rank) rank.isLt]
      exact and_iff_right rfl
  · obtain ⟨-, hread'⟩ := read?_plain negative' rank'
    rw [heq, hread', Option.some.injEq, read_eq_ofRank, read_eq_ofRank,
      ofRank_injective (hlimit rank') (hlimit rank)] at hread
    obtain ⟨hsign, hranks⟩ := hread
    rcases readRank_eq_iff.mp hranks with hsame | ⟨hlarge', hlarge⟩
    · obtain rfl := Fin.ext hsame
      by_cases hzero : rank'.val = 0
      · exact .inr (.inl ⟨hzero, hzero⟩)
      · rw [if_neg hzero, if_neg hzero] at hsign
        rw [hsign]
        exact .inl rfl
    · rw [if_neg hlarge'.ne_zero, if_neg hlarge.ne_zero] at hsign
      exact .inr (.inr ⟨hsign.symm, hlarge, hlarge'⟩)
  · rintro (hsame | ⟨hzero, hzero'⟩ | ⟨rfl, hlarge, hlarge'⟩)
    · rw [hsame]
    · rw [plain_of_zero hzero, plain_of_zero hzero']
    · rw [plain_of_isSaturated hlarge, plain_of_isSaturated hlarge']

/-- The number 10¹⁹. -/
def tenPowNineteen : Fin rankLimit := ⟨1086 * binadeSize + 379212872629504, by decide⟩

/-- 10¹⁹ is written and read back as the end of the 64-bit integers. -/
theorem plain_tenPowNineteen_not_faithful :
    magnitude tenPowNineteen = 10 ^ 19 ∧
      plain (.finite false tenPowNineteen) = "9223372036854775807" ∧
      read? (plain (.finite false tenPowNineteen)) ≠ some (.finite false tenPowNineteen) := by
  have hunits : rankUnits tenPowNineteen = 10 ^ 19 * unitsPerOne := by decide
  have hvalue : magnitude tenPowNineteen = 10 ^ 19 := by
    rw [magnitude, hunits, Nat.cast_mul, mul_div_cancel_right₀ _ cast_unitsPerOne_pos.ne']
    norm_num
  have htext : plain (.finite false tenPowNineteen) = "9223372036854775807" := by decide +kernel
  refine ⟨hvalue, htext, ?_⟩
  rw [htext]
  decide +kernel

end Figure
end PoolPage
