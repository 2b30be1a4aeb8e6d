import PoolPage.Number.Numeral
import PoolPage.Proofs.Number.Digits
import PoolPage.Proofs.Number.Ranks

/-!
# Reading decimals

A text of digits with a point is a numeral to its end (`scan?_positional`), and a decimal in the
basin of a rank is read as that rank (`Decimal.IsIn.nearestRank_eq`): it is never so large or small
that its order alone would answer.  The shortest decimal of a rank is in its basin
(`isIn_shortest`), so it reads back.
-/

namespace PoolPage

/-! ## Numerals -/

/-- A digit is no sign. -/
theorem scanSign_cons {c : Char} (hc : c.isDigit = true) (rest : List Char) :
    scanSign (c :: rest) = (false, c :: rest) := by
  unfold scanSign
  split
  · next heq =>
    cases heq
    cases hc
  · next heq =>
    cases heq
    cases hc
  · rfl

theorem scanDigits_append {digits rest : List Char} (hdigits : AllDigits digits)
    (hrest : ∀ c ∈ rest.head?, c.isDigit = false) :
    scanDigits (digits ++ rest) = (digits, rest) := by
  have htake : rest.takeWhile Char.isDigit = [] ∧ rest.dropWhile Char.isDigit = rest := by
    cases rest with
    | nil => exact ⟨rfl, rfl⟩
    | cons c rest => simp [hrest c rfl]
  unfold scanDigits
  rw [List.takeWhile_append_of_pos hdigits, List.dropWhile_append_of_pos hdigits, htake.1, htake.2,
    List.append_nil]

theorem scanDigits_self {digits : List Char} (hdigits : AllDigits digits) :
    scanDigits digits = (digits, []) := by
  have h : scanDigits (digits ++ []) = (digits, []) := scanDigits_append hdigits nofun
  rwa [List.append_nil] at h

/-- The text of a number with places is a numeral to its end. -/
theorem Numeral.scan?_positional {places n : Nat} {cs : List Char} (h : Positional places n cs) :
    ∃ numeral, Numeral.scan? cs = some (numeral, []) ∧
      numeral.toDecimal = ⟨n, -(places : Int)⟩ := by
  obtain ⟨whole, fraction, rfl, hwhole, hfraction, rfl, rfl⟩ := h
  refine ⟨⟨whole, fraction, 0⟩, ?_, ?_⟩
  · have hpoint : ∀ c ∈ (pointed fraction).head?, c.isDigit = false := by
      cases fraction with
      | nil => nofun
      | cons d ds =>
        intro c hc
        cases hc
        rfl
    have hnonempty : whole.isEmpty = false := by
      simpa [List.isEmpty_iff] using hwhole.ne_nil
    have hscan : scanFraction whole (pointed fraction) = (fraction, []) := by
      cases fraction with
      | nil => rfl
      | cons c cs => simp [pointed, scanFraction, scanDigits_self hfraction, hnonempty]
    simp [scan?, scanDigits_append hwhole.allDigits hpoint, hscan, hnonempty, scanExponent]
  · simp [toDecimal]

/-! ## Decimals -/

namespace Decimal

/-- Membership of a decimal in a basin. -/
def IsIn (d : Decimal) (basin : Basin) : Prop :=
  basin.contains (2 * (d.significand * 10 ^ d.exponent.toNat * unitsPerOne))
    (10 ^ (-d.exponent).toNat) = true

variable {d : Decimal} {rank : Nat}

/-- The bounds of a decimal in a basin. -/
theorem IsIn.bounds (h : d.IsIn (.ofRank rank)) :
    rankUnits rank * 10 ^ (-d.exponent).toNat ≤
        2 * (d.significand * 10 ^ d.exponent.toNat * unitsPerOne) ∧
      d.significand * 10 ^ d.exponent.toNat * unitsPerOne ≤
        rankUnits (rank + 1) * 10 ^ (-d.exponent).toNat := by
  obtain ⟨⟨hlow, hhigh⟩, -⟩ := Basin.contains_ofRank_iff.mp h
  have hmono := strictMono_rankUnits (Nat.lt_add_one rank)
  constructor
  · exact (Nat.mul_le_mul_right _ (Nat.le_add_left _ _)).trans hlow
  · have hle := Nat.mul_le_mul_right (10 ^ (-d.exponent).toNat)
      (show rankUnits rank + rankUnits (rank + 1) ≤ 2 * rankUnits (rank + 1) by omega)
    rw [Nat.mul_assoc 2] at hle
    omega

theorem two_mul_unitsPerOne_le : 2 * unitsPerOne ≤ 10 ^ 324 := by decide +kernel

theorem rankUnits_rankLimit_le : rankUnits rankLimit ≤ 10 ^ 309 * unitsPerOne := by decide +kernel

theorem IsIn.significand_pos (hrank : 0 < rank) (h : d.IsIn (.ofRank rank)) :
    0 < d.significand := by
  by_contra hzero
  have hle := h.bounds.1
  rw [Nat.eq_zero_of_not_pos hzero, Nat.zero_mul, Nat.zero_mul] at hle
  exact absurd hle (Nat.not_le_of_lt (Nat.mul_pos (rankUnits_pos hrank) (Nat.pow_pos (by decide))))

/-- The order of a decimal is that of its digits, moved by its exponent. -/
theorem exists_order (h : 0 < d.significand) :
    ∃ digits : Nat, d.order = digits + d.exponent ∧ 10 ^ digits ≤ d.significand ∧
      d.significand < 10 ^ (digits + 1) := by
  obtain ⟨digits, hdigits⟩ := exists_length_digitsOf d.significand
  refine ⟨digits, ?_, le_of_length_digitsOf h hdigits⟩
  rw [order, hdigits, Int.add_comm]
  rfl

/-- A decimal in the basin of a positive rank has no very small order. -/
theorem IsIn.le_order (hrank : 0 < rank) (h : d.IsIn (.ofRank rank)) : -325 ≤ d.order := by
  obtain ⟨digits, horder, -, hless⟩ := exists_order (h.significand_pos hrank)
  have hlow := h.bounds.1
  have hexponent : d.exponent = d.exponent.toNat - (-d.exponent).toNat := by omega
  generalize d.exponent.toNat = up at *
  generalize (-d.exponent).toNat = down at *
  have hunits : 10 ^ down ≤ rankUnits rank * 10 ^ down :=
    Nat.le_mul_of_pos_left _ (rankUnits_pos hrank)
  have hpos : 0 < 10 ^ up * (2 * unitsPerOne) := Nat.mul_pos (Nat.pow_pos (by decide)) (by decide)
  have hpow : 10 ^ down < 10 ^ (digits + 1 + up + 324) := by
    calc 10 ^ down ≤ 2 * (d.significand * 10 ^ up * unitsPerOne) := hunits.trans hlow
      _ = d.significand * (10 ^ up * (2 * unitsPerOne)) := by ring
      _ < 10 ^ (digits + 1) * (10 ^ up * (2 * unitsPerOne)) :=
        Nat.mul_lt_mul_of_pos_right hless hpos
      _ ≤ 10 ^ (digits + 1) * (10 ^ up * 10 ^ 324) :=
        Nat.mul_le_mul_left _ (Nat.mul_le_mul_left _ two_mul_unitsPerOne_le)
      _ = 10 ^ (digits + 1 + up + 324) := by
        rw [← Nat.mul_assoc, ← Nat.pow_add, ← Nat.pow_add]
  have hexp := (Nat.pow_lt_pow_iff_right (by decide)).mp hpow
  omega

/-- A decimal in the basin of a finite rank has no very large order. -/
theorem IsIn.order_le (hrank : 0 < rank) (hlt : rank < rankLimit) (h : d.IsIn (.ofRank rank)) :
    d.order ≤ 309 := by
  obtain ⟨digits, horder, hge, -⟩ := exists_order (h.significand_pos hrank)
  have hhigh := h.bounds.2
  have hexponent : d.exponent = d.exponent.toNat - (-d.exponent).toNat := by omega
  generalize d.exponent.toNat = up at *
  generalize (-d.exponent).toNat = down at *
  have hunits : rankUnits (rank + 1) ≤ 10 ^ 309 * unitsPerOne :=
    (strictMono_rankUnits.monotone hlt).trans rankUnits_rankLimit_le
  have hpow : 10 ^ (digits + up) ≤ 10 ^ (309 + down) := by
    refine Nat.le_of_mul_le_mul_right ?_ (show 0 < unitsPerOne by decide)
    calc 10 ^ (digits + up) * unitsPerOne = 10 ^ digits * (10 ^ up * unitsPerOne) := by ring
      _ ≤ d.significand * (10 ^ up * unitsPerOne) := Nat.mul_le_mul_right _ hge
      _ = d.significand * 10 ^ up * unitsPerOne := by ring
      _ ≤ rankUnits (rank + 1) * 10 ^ down := hhigh
      _ ≤ 10 ^ 309 * unitsPerOne * 10 ^ down := Nat.mul_le_mul_right _ hunits
      _ = 10 ^ (309 + down) * unitsPerOne := by rw [Nat.mul_right_comm, ← Nat.pow_add]
  have hexp := (Nat.pow_le_pow_iff_right (by decide)).mp hpow
  omega

/-- A decimal is read as the rank in whose basin it is. -/
theorem IsIn.nearestRank_eq (hrank : 0 < rank) (hlt : rank < rankLimit)
    (h : d.IsIn (.ofRank rank)) : d.nearestRank = rank := by
  have hlow := h.le_order hrank
  have hhigh := h.order_le hrank hlt
  have hpos := h.significand_pos hrank
  rw [Decimal.nearestRank, if_neg (by omega), if_neg (by omega)]
  exact (nearestRank_eq_iff (Nat.pow_pos (by decide))).mpr h

/-- A decimal that is a magnitude is in the basin of its rank. -/
theorem isIn_of_eq (hrank : 0 < rank)
    (h : d.significand * 10 ^ d.exponent.toNat * unitsPerOne =
      rankUnits rank * 10 ^ (-d.exponent).toNat) : d.IsIn (.ofRank rank) := by
  unfold IsIn
  rw [h]
  exact Basin.contains_self hrank (Nat.pow_pos (by decide))

end Decimal

/-! ## The shortest decimal -/

/-- What is chosen on a grid is one of the two neighbours, and in the basin. -/
theorem isIn_of_shortestOnGrid? {half : Half} {rank : Nat} {exponent : Int} {d : Decimal}
    (h : shortestOnGrid? half rank exponent = some d) : d.IsIn (.ofRank rank) := by
  simp only [shortestOnGrid?] at h
  have hscale (n : Nat) : n * (Nat.pow 10 exponent.toNat * (2 * unitsPerOne)) =
      2 * (n * 10 ^ exponent.toNat * unitsPerOne) := by
    show n * (10 ^ exponent.toNat * (2 * unitsPerOne)) = _
    ring
  simp only [hscale] at h
  generalize hbelow : 2 * rankUnits rank * Nat.pow 10 (-exponent).toNat /
    (Nat.pow 10 exponent.toNat * (2 * unitsPerOne)) = below at h
  have hround := Half.div_le_roundDiv half (2 * rankUnits rank * Nat.pow 10 (-exponent).toNat)
    (Nat.pow 10 exponent.toNat * (2 * unitsPerOne))
  have hround' := Half.roundDiv_le_succ half (2 * rankUnits rank * Nat.pow 10 (-exponent).toNat)
    (Nat.pow 10 exponent.toNat * (2 * unitsPerOne))
  rw [hbelow] at hround hround'
  generalize half.roundDiv (2 * rankUnits rank * Nat.pow 10 (-exponent).toNat)
    (Nat.pow 10 exponent.toNat * (2 * unitsPerOne)) = rounded at *
  split at h
  · next hboth =>
    rw [Bool.and_eq_true] at hboth
    cases h
    rcases (show rounded = below ∨ rounded = below + 1 by omega) with rfl | rfl
    · exact hboth.1
    · exact hboth.2
  · split at h
    · next hlow =>
      cases h
      exact hlow
    · split at h
      · next hhigh =>
        cases h
        exact hhigh
      · exact nomatch h

/-- All digits of a magnitude. -/
theorem isIn_exact {rank fives places : Nat} (hrank : 0 < rank)
    (hplaces : unitsPerOne * fives = 10 ^ places) :
    (Decimal.mk (rankUnits rank * fives) (-(places : Int))).IsIn (.ofRank rank) := by
  have hup : (-(places : Int)).toNat = 0 := by omega
  have hdown : (- -(places : Int)).toNat = places := by omega
  refine Decimal.isIn_of_eq hrank ?_
  simp only
  rw [hup, hdown, Nat.pow_zero, Nat.mul_one, Nat.mul_assoc, Nat.mul_comm fives, hplaces]

/-- The shortest decimal reads back. -/
theorem isIn_shortest (half : Half) {rank : Nat} (hrank : 0 < rank) :
    (shortest half rank).IsIn (.ofRank rank) := by
  simp only [shortest]
  cases hfound : (List.range 18).findSome? fun digits : Nat =>
      shortestOnGrid? half rank (rankOrder rank + 1 - digits) with
  | some d =>
    obtain ⟨digits, -, hd⟩ := List.exists_of_findSome?_eq_some hfound
    exact isIn_of_shortestOnGrid? hd
  | none =>
    refine isIn_exact hrank ?_
    decide +kernel

end PoolPage
