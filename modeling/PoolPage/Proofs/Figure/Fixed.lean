import PoolPage.Proofs.Figure.Ties
import PoolPage.Proofs.Number.Reading

/-!
# Fixed places

A number below 10²¹ is written with the given number of places, and the decimal written is the one
nearest to it, a half going away from zero, unless the number is a half so large that the next one
is past the next decimal, or on it (`isFixed_fixed_iff`).
-/

namespace PoolPage
namespace Figure

/-! ## Signs -/

/-- A sign and the digits behind it can be told apart. -/
theorem sign_append_inj {negative negative' : Bool} {cs ds : List Char}
    (hcs : ∃ c rest, cs = c :: rest ∧ c.isDigit = true)
    (hds : ∃ c rest, ds = c :: rest ∧ c.isDigit = true)
    (h : sign negative ++ cs = sign negative' ++ ds) : negative = negative' ∧ cs = ds := by
  obtain ⟨c, cs, rfl, hc⟩ := hcs
  obtain ⟨d, ds, rfl, hd⟩ := hds
  have hminus : '-'.isDigit = false := rfl
  cases negative <;> cases negative'
  · exact ⟨rfl, h⟩
  · cases h
    exact nomatch hminus.symm.trans hc
  · cases h
    exact nomatch hminus.symm.trans hd
  · exact ⟨rfl, (List.cons.inj h).2⟩

/-! ## The limit of whole numbers -/

theorem rankUnits_integerLimit :
    rankUnits (1091 * binadeSize + 7629394531250000) = 10 ^ 21 * unitsPerOne := by
  decide

theorem integerLimit_eq :
    integerLimit = .finite false ⟨1091 * binadeSize + 7629394531250000, by decide⟩ := by
  have hread : (Decimal.mk 1 21).nearestRank = 1091 * binadeSize + 7629394531250000 := by
    refine Decimal.IsIn.nearestRank_eq (by decide) (by decide) (Decimal.isIn_of_eq (by decide) ?_)
    rw [rankUnits_integerLimit, Nat.one_mul]
    exact (Nat.mul_one _).symm
  rw [integerLimit, Decimal.toBinary64, hread]
  exact Binary64.ofRank_of_lt _ _

theorem abs_lt_integerLimit_iff {negative : Bool} {rank : Fin rankLimit} :
    (Binary64.finite negative rank).abs.lt integerLimit = true ↔
      magnitude rank < 10 ^ 21 := by
  have hcast : ((10 ^ 21 : ℕ) : ℚ) = 10 ^ 21 := by norm_num
  rw [← hcast, magnitude_lt_natCast_iff, ← rankUnits_integerLimit,
    strictMono_rankUnits.lt_iff_lt, integerLimit_eq]
  show decide ((rank.val : Int) < ((1091 * binadeSize + 7629394531250000 : ℕ) : Int)) = true ↔ _
  rw [decide_eq_true_eq, Int.ofNat_lt]

/-! ## Halves -/

/-- A magnitude halfway between two multiples of `10 ^ -places`, with the next magnitude at least as
far away as two multiples are from each other. -/
def IsOverstepped (rank places : Nat) : Prop :=
  (∃ k : ℕ, magnitude rank * 10 ^ places = k + 1 / 2) ∧ 1 ≤ spacing rank * 10 ^ places

theorem isOverstepped_iff {rank places : Nat} :
    IsOverstepped rank places ↔
      IsTie rank places ∧ unitsPerOne ≤ 2 ^ rankShift rank * 10 ^ places := by
  rw [IsOverstepped, isTie_iff, zpow_natCast, spacing_eq, div_mul_eq_mul_div,
    one_le_div cast_unitsPerOne_pos]
  exact_mod_cast Iff.rfl

/-! ## The nearest decimal -/

theorem toList_fixed (negative : Bool) {rank : Fin rankLimit} (places : Nat)
    (h : magnitude rank < 10 ^ 21) :
    (fixed (.finite negative rank) places).toList =
      sign negative ++ fixedRank (breakTie rank places) places := by
  rw [fixed, if_pos (abs_lt_integerLimit_iff.mpr h), String.toList_ofList]

theorem fixedRank_eq (rank places : Nat) :
    fixedRank rank places =
      fixedDigits (Half.toEven.roundDiv (rankUnits rank * 10 ^ places) unitsPerOne) places := rfl

/-- The digits written are those of the nearest decimal, but for an overstepped half. -/
theorem roundDiv_fixed_iff {rank places : Nat} :
    Half.toEven.roundDiv (rankUnits (breakTie rank places) * 10 ^ places) unitsPerOne =
        Half.up.roundDiv (rankUnits rank * 10 ^ places) unitsPerOne ↔
      ¬IsOverstepped rank places := by
  have hdown : (-(places : Int)).toNat = 0 := by omega
  have hround := roundDiv_breakTie_iff rank places
  rw [Int.toNat_natCast, hdown, Nat.pow_zero, Nat.mul_one] at hround
  rw [hround, isOverstepped_iff, not_and, Nat.not_le]

/-- A text is an optional minus, digits and, if there are places, a point with so many digits, and
denotes the decimal with these places that is nearest to a number, a half going away from zero. -/
def IsFixed (places : Nat) (x : ℚ) (text : String) : Prop :=
  ∃ negative n cs, text.toList = sign negative ++ cs ∧ Positional places n cs ∧
    IsNearest (decimals places) x (signed negative (n / 10 ^ places))

/-- A text with a sign and places denotes one decimal only. -/
theorem isFixed_iff_isNearest {places n : Nat} {x : ℚ} {text : String} {negative : Bool}
    {cs : List Char} (htext : text.toList = sign negative ++ cs) (hcs : Positional places n cs) :
    IsFixed places x text ↔
      IsNearest (decimals places) x (signed negative (n / 10 ^ places)) := by
  constructor
  · rintro ⟨negative', n', cs', htext', hcs', hnearest⟩
    obtain ⟨rfl, rfl⟩ := sign_append_inj hcs'.exists_cons hcs.exists_cons (htext'.symm.trans htext)
    rwa [hcs.unique hcs']
  · exact fun hnearest => ⟨negative, n, cs, htext, hcs, hnearest⟩

/-- A number below 10²¹ is always written with its sign, with digits and with the given number of
places, and they are those of the nearest decimal except where a half is overstepped. -/
theorem isFixed_fixed_iff {rank : Fin rankLimit} (negative : Bool) (places : Nat)
    (h : magnitude rank < 10 ^ 21) :
    (∃ n cs, (fixed (.finite negative rank) places).toList = sign negative ++ cs ∧
        Positional places n cs) ∧
      (IsFixed places (signed negative (magnitude rank)) (fixed (.finite negative rank) places) ↔
        ¬IsOverstepped rank places) := by
  have htext := toList_fixed negative places h
  rw [fixedRank_eq] at htext
  have hwritten := positional_fixedDigits
    (Half.toEven.roundDiv (rankUnits (breakTie rank places) * 10 ^ places) unitsPerOne) places
  refine ⟨⟨_, _, htext, hwritten⟩, ?_⟩
  rw [isFixed_iff_isNearest htext hwritten, isNearest_decimals_iff, roundDiv_fixed_iff]

/-- Near to a decimal no half is in the way. -/
theorem roundDiv_breakTie_of_abs_lt {rank places n : Nat}
    (h : |magnitude rank * 10 ^ places - n| < 1 / 2) :
    Half.toEven.roundDiv (rankUnits (breakTie rank places) * 10 ^ places) unitsPerOne = n := by
  obtain ⟨hlow, hhigh⟩ := abs_lt.mp h
  have htie : isTie rank places = false := by
    by_contra htie
    obtain ⟨k, hk⟩ := isTie_iff.mp (.of_isTie ((Bool.not_eq_false _).mp htie))
    rw [zpow_natCast] at hk
    have hle : (n : ℚ) < (k + 1 : ℕ) := by
      push_cast
      linarith
    have hge : (k : ℚ) < n := by linarith
    rw [Nat.cast_lt] at hle hge
    omega
  have hone := cast_unitsPerOne_pos
  have hunits : ((rankUnits rank * 10 ^ places : ℕ) : ℚ) =
      magnitude rank * 10 ^ places * unitsPerOne := by
    rw [magnitude, Nat.cast_mul, Nat.cast_pow, Nat.cast_ofNat, mul_right_comm,
      div_mul_cancel₀ _ hone.ne']
  rw [breakTie, htie, if_neg Bool.false_ne_true]
  refine Half.roundDiv_eq_of_lt .toEven unitsPerOne_pos ?_ ?_
  · rw [← @Nat.cast_lt ℚ, Nat.cast_add, Nat.cast_mul, Nat.cast_mul 2, hunits]
    push_cast
    nlinarith
  · rw [← @Nat.cast_lt ℚ, Nat.cast_add, Nat.cast_mul, Nat.cast_mul 2, hunits]
    push_cast
    nlinarith

theorem fixed_of_abs_lt {negative : Bool} {rank : Fin rankLimit} {places n : Nat}
    (hlt : magnitude rank < 10 ^ 21) (h : |magnitude rank * 10 ^ places - n| < 1 / 2) :
    (fixed (.finite negative rank) places).toList = sign negative ++ fixedDigits n places := by
  rw [toList_fixed negative places hlt, fixedRank_eq, roundDiv_breakTie_of_abs_lt h]

/-- The number 12.25. -/
def twelveAndAQuarter : Fin rankLimit := ⟨1026 * binadeSize + 2392537302040576, by decide⟩

theorem fixed_twelveAndAQuarter :
    magnitude twelveAndAQuarter < 10 ^ 21 ∧
      IsFixed 1 (signed false (magnitude twelveAndAQuarter))
        (fixed (.finite false twelveAndAQuarter) 1) := by
  have hsmall : magnitude twelveAndAQuarter < 10 ^ 21 :=
    abs_lt_integerLimit_iff.mp
      (show (Binary64.finite false _).abs.lt integerLimit = true by decide +kernel)
  refine ⟨hsmall, (isFixed_fixed_iff false 1 hsmall).2.mpr ?_⟩
  rw [isOverstepped_iff]
  exact fun h => absurd h.2 (by decide +kernel)

/-- The number 2⁵⁰ + 1/4, whose last significant bit is worth a quarter. -/
def pastTwoPowFifty : Fin rankLimit := ⟨1073 * binadeSize + 1, by decide⟩

/-- 2⁵⁰ + 1/4 is halfway between two tenths, and what is written is not the upper one but the next
after it. -/
theorem not_isFixed_pastTwoPowFifty :
    magnitude pastTwoPowFifty = 1125899906842624 + 1 / 4 ∧
      fixed (.finite false pastTwoPowFifty) 1 = "1125899906842624.5" ∧
      ¬IsFixed 1 (magnitude pastTwoPowFifty) (fixed (.finite false pastTwoPowFifty) 1) := by
  have hvalue : magnitude pastTwoPowFifty = 1125899906842624 + 1 / 4 := by
    have hunits : 4 * rankUnits pastTwoPowFifty = 4503599627370497 * unitsPerOne := by
      decide
    rw [magnitude, div_eq_iff cast_unitsPerOne_pos.ne']
    have hcast : (4 : ℚ) * rankUnits pastTwoPowFifty = 4503599627370497 * unitsPerOne := by
      exact_mod_cast hunits
    linarith
  have htext : fixed (.finite false pastTwoPowFifty) 1 = "1125899906842624.5" := by decide +kernel
  refine ⟨hvalue, htext, ?_⟩
  have hcs : "1125899906842624.5".toList = sign false ++ fixedDigits 11258999068426245 1 := by
    decide
  rw [htext, isFixed_iff_isNearest hcs (positional_fixedDigits _ _), hvalue]
  intro hnearest
  have hle := hnearest.le (11258999068426243 / 10) ⟨11258999068426243, by norm_num⟩
  norm_num [signed, abs_le] at hle

end Figure
end PoolPage
