import PoolPage.Proofs.Number.Rounding
import Mathlib.Algebra.Order.Floor.Ring
import Mathlib.Data.Rat.Floor

/-!
# The fewest places

Of all decimals that read back as a magnitude the shortest one has the fewest places
(`exponent_le_exponent_shortest`).  On each grid that has a decimal in the basin the search finds
one (`isSome_shortestOnGrid?`), so it stops no later than there; and it stops at all, since a
magnitude is so far from the next ones that seventeen digits suffice (`exists_isIn_seventeen`).
-/

namespace PoolPage

/-! ## Between two values -/

/-- A basin has no holes. -/
theorem Basin.contains_of_le_of_le {b : Basin} {low num high den : ℕ}
    (hlow : b.contains low den = true) (hhigh : b.contains high den = true) (hle : low ≤ num)
    (hle' : num ≤ high) : b.contains num den = true := by
  unfold contains at *
  split at hlow
  · next hclosed =>
    rw [if_pos hclosed] at hhigh ⊢
    simp only [Bool.and_eq_true, decide_eq_true_eq] at *
    exact ⟨hlow.1.trans hle, hle'.trans hhigh.2⟩
  · next hopen =>
    rw [if_neg hopen] at hhigh ⊢
    simp only [Bool.and_eq_true, decide_eq_true_eq] at *
    exact ⟨hlow.1.trans_le hle, hle'.trans_lt hhigh.2⟩

/-- A decimal is in the basin of the rank that it is rounded to. -/
theorem Decimal.isIn_iff {d : Decimal} {rank : ℕ} :
    d.IsIn (.ofRank rank) ↔ IsNearestRank d.value rank := by
  refine ⟨IsIn.isNearestRank, fun h => ?_⟩
  have hden : 0 < 10 ^ (-d.exponent).toNat := Nat.pow_pos (by decide)
  have hexact :=
    isNearestRank_nearestRank (d.significand * 10 ^ d.exponent.toNat * unitsPerOne) hden
  rw [← value_eq_units] at hexact
  exact (nearestRank_eq_iff hden).mp (hexact.unique h)

/-! ## One grid -/

section

variable {half : Half} {rank : ℕ} {exponent : ℤ}

theorem exponent_of_shortestOnGrid? {d : Decimal}
    (h : shortestOnGrid? half rank exponent = some d) : d.exponent = exponent := by
  simp only [shortestOnGrid?] at h
  split at h
  · cases h
    rfl
  · split at h
    · cases h
      rfl
    · split at h
      · cases h
        rfl
      · cases h

/-- Where any point of a grid is in the basin, so is one of the two next to the magnitude. -/
theorem isSome_shortestOnGrid? {n : ℕ} (hrank : 0 < rank)
    (h : (Decimal.mk n exponent).IsIn (.ofRank rank)) :
    (shortestOnGrid? half rank exponent).isSome = true := by
  have hden : 0 < Nat.pow 10 (-exponent).toNat := Nat.pow_pos (by decide)
  have hself := Basin.contains_self hrank hden
  have hpoint : (Basin.ofRank rank).contains (n * (Nat.pow 10 exponent.toNat * (2 * unitsPerOne)))
      (Nat.pow 10 (-exponent).toNat) = true := by
    have hscale : n * (Nat.pow 10 exponent.toNat * (2 * unitsPerOne)) =
        2 * (n * 10 ^ exponent.toNat * unitsPerOne) := by
      show n * (10 ^ exponent.toNat * (2 * unitsPerOne)) = _
      ring
    rw [hscale]
    exact h
  have hstep : 0 < Nat.pow 10 exponent.toNat * (2 * unitsPerOne) :=
    Nat.mul_pos (Nat.pow_pos (by decide)) (Nat.mul_pos Nat.two_pos unitsPerOne_pos)
  rw [← Nat.mul_assoc] at hself
  simp only [shortestOnGrid?]
  generalize Nat.pow 10 exponent.toNat * (2 * unitsPerOne) = step at *
  generalize Nat.pow 10 (-exponent).toNat = den at *
  generalize 2 * rankUnits rank * den = target at *
  have hbelow : target / step * step ≤ target := Nat.div_mul_le_self target step
  have habove : target < (target / step + 1) * step :=
    (Nat.div_lt_iff_lt_mul hstep).mp (Nat.lt_add_one _)
  have hhit : (Basin.ofRank rank).contains (target / step * step) den = true ∨
      (Basin.ofRank rank).contains ((target / step + 1) * step) den = true := by
    rcases Nat.lt_or_ge (target / step) n with hlt | hge
    · exact .inr (Basin.contains_of_le_of_le hself hpoint habove.le (Nat.mul_le_mul_right step hlt))
    · exact .inl (Basin.contains_of_le_of_le hpoint hself (Nat.mul_le_mul_right step hge) hbelow)
  rcases hhit with hhit | hhit
  · rw [hhit]
    split <;> rfl
  · rw [hhit]
    split
    · rfl
    · split <;> rfl

end

/-! ## Seventeen digits -/

/-- The distance to the magnitude below is not too small a part of a magnitude. -/
theorem magnitude_le_mul_sub {rank : ℕ} (hrank : 0 < rank) :
    magnitude rank ≤ 2 ^ 53 * (magnitude rank - magnitude (rank - 1)) := by
  obtain ⟨below, rfl⟩ : ∃ below, rank = below + 1 := ⟨rank - 1, by omega⟩
  obtain ⟨significand, hbelow, hlt, hnormal⟩ := exists_shift_significand below
  have hunits : rankUnits below = significand * 2 ^ rankShift below := by
    rw [← rankUnits_shift_add hlt.le hnormal, ← hbelow]
  have hle : rankUnits (below + 1) ≤ 2 ^ 53 * 2 ^ rankShift below := by
    rw [rankUnits_succ, hunits, ← Nat.succ_mul]
    exact Nat.mul_le_mul_right _ hlt
  have hspacing : magnitude (below + 1) - magnitude below = 2 ^ rankShift below / unitsPerOne :=
    spacing_eq below
  rw [Nat.add_sub_cancel, hspacing, magnitude, ← mul_div_assoc]
  exact div_le_div_of_nonneg_right (by exact_mod_cast hle) cast_unitsPerOne_pos.le

/-- What is nearer to a magnitude than half the way to the one below is rounded to it. -/
theorem isNearestRank_of_near {x : ℚ} {rank : ℕ} (hrank : 0 < rank)
    (h : 2 * |x - magnitude rank| < magnitude rank - magnitude (rank - 1)) :
    IsNearestRank x rank := by
  have hspacing : magnitude rank - magnitude (rank - 1) ≤ magnitude (rank + 1) - magnitude rank :=
    sub_le_spacing rank
  have hdistance := abs_le.mp (le_refl |x - magnitude rank|)
  refine isNearestRank_iff.mpr ⟨fun r hr => ?_, fun r hr => ?_⟩
  · have hle := magnitude_mono (show r ≤ rank - 1 by omega)
    have hlt : magnitude r + magnitude rank < 2 * x := by linarith
    exact ⟨hlt.le, fun heq => absurd heq hlt.ne⟩
  · have hle := magnitude_mono (show rank + 1 ≤ r from hr)
    have hlt : 2 * x < magnitude rank + magnitude r := by linarith
    exact ⟨hlt.le, fun heq => absurd heq hlt.ne'⟩

/-- The multiples of a step come within half a step of every number. -/
theorem exists_near_multiple {x step : ℚ} (hx : 0 ≤ x) (hstep : 0 < step) :
    ∃ n : ℕ, 2 * |n * step - x| ≤ step := by
  have hlow : (⌊x / step + 1 / 2⌋₊ : ℚ) ≤ x / step + 1 / 2 := Nat.floor_le (by positivity)
  have hhigh : x / step + 1 / 2 < ⌊x / step + 1 / 2⌋₊ + 1 := Nat.lt_floor_add_one _
  refine ⟨⌊x / step + 1 / 2⌋₊, ?_⟩
  generalize (⌊x / step + 1 / 2⌋₊ : ℚ) = n at *
  have hdistance : |n - x / step| ≤ 1 / 2 := abs_le.mpr ⟨by linarith, by linarith⟩
  calc 2 * |n * step - x| = 2 * |n - x / step| * step := by
        rw [mul_assoc, ← abs_of_pos hstep, ← abs_mul, abs_of_pos hstep, sub_mul,
          div_mul_cancel₀ _ hstep.ne']
    _ ≤ 2 * (1 / 2) * step := by gcongr
    _ = step := by ring

/-- Among the decimals with seventeen digits there is one that reads back. -/
theorem exists_isIn_seventeen {rank : ℕ} (hrank : 0 < rank) :
    ∃ n, (Decimal.mk n (rankOrder rank + 1 - (17 : ℕ))).IsIn (.ofRank rank) := by
  have horder : (10 : ℚ) ^ rankOrder rank = 10 ^ (rankOrder rank + 1 - (17 : ℕ)) * 10 ^ 16 := by
    rw [← zpow_natCast, zpow_ten_mul]
    omega
  have hleading := (hasOrder_rankOrder hrank).1
  have hgap := magnitude_le_mul_sub hrank
  have hstep := zpow_ten_pos (rankOrder rank + 1 - (17 : ℕ))
  obtain ⟨n, hn⟩ := exists_near_multiple (magnitude_nonneg rank) hstep
  refine ⟨n, Decimal.isIn_iff.mpr (isNearestRank_of_near hrank (lt_of_le_of_lt hn ?_))⟩
  rw [horder] at hleading
  -- The step times 10¹⁶ is at most the magnitude, which is at most 2⁵³ times the gap.
  linarith

/-! ## The search -/

theorem exists_of_findSome?_range {α : Type} {f : ℕ → Option α} {n : ℕ} {a : α}
    (h : (List.range n).findSome? f = some a) : ∃ k, f k = some a ∧ ∀ j < k, f j = none := by
  obtain ⟨before, k, after, hrange, hk, hbefore⟩ := List.findSome?_eq_some_iff.mp h
  have hsorted := List.pairwise_lt_range (n := n)
  rw [hrange] at hsorted
  have hafter := (List.pairwise_cons.mp (List.pairwise_append.mp hsorted).2.1).1
  refine ⟨k, hk, fun j hj => hbefore j ?_⟩
  have hkn : k < n := List.mem_range.mp (hrange ▸ List.mem_append_right before List.mem_cons_self)
  have hmem : j ∈ before ++ k :: after := hrange ▸ List.mem_range.mpr (hj.trans hkn)
  rcases List.mem_append.mp hmem with hmem | hmem
  · exact hmem
  · rcases List.mem_cons.mp hmem with rfl | hmem
    · exact absurd hj (Nat.lt_irrefl j)
    · exact absurd (hafter j hmem) (Nat.lt_asymm hj)

/-- A decimal in a basin is not coarser than the leading digit of the magnitude, or by one place if
it is the next power of ten. -/
theorem Decimal.IsIn.exponent_le {d : Decimal} {rank : ℕ} (hrank : 0 < rank)
    (h : d.IsIn (.ofRank rank)) : d.exponent ≤ rankOrder rank + 1 := by
  have hsignificand := h.significand_pos hrank
  have hhigh := (isNearestRank_iff.mp h.isNearestRank).2 (rank + 1) (Nat.lt_add_one rank)
  have hspacing : magnitude (rank + 1) - magnitude rank ≤ magnitude rank := spacing_le hrank
  have horder := (hasOrder_rankOrder hrank).2
  by_contra hlt
  have hpower : (10 : ℚ) ^ (rankOrder rank + 1 + 1) ≤ 10 ^ d.exponent :=
    zpow_ten_le_iff.mpr (by omega)
  have hvalue : (10 : ℚ) ^ d.exponent ≤ d.value :=
    le_mul_of_one_le_left (zpow_ten_pos _).le (Nat.one_le_cast.mpr hsignificand)
  have hten : (10 : ℚ) ^ (rankOrder rank + 1 + 1) = 10 ^ (rankOrder rank + 1) * 10 := by
    rw [zpow_add_one₀ (by norm_num)]
  have hpos := zpow_ten_pos (rankOrder rank + 1)
  linarith [hhigh.1]

/-- The shortest decimal of a magnitude has the fewest places of all that read back. -/
theorem exponent_le_exponent_shortest (half : Half) {d : Decimal} {rank : ℕ} (hrank : 0 < rank)
    (h : d.IsIn (.ofRank rank)) : d.exponent ≤ (shortest half rank).exponent := by
  have hexponent := h.exponent_le hrank
  have hgrid {e : ℤ} {n : ℕ} (hn : (Decimal.mk n e).IsIn (.ofRank rank)) :
      shortestOnGrid? half rank e ≠ none :=
    Option.isSome_iff_ne_none.mp (isSome_shortestOnGrid? hrank hn)
  simp only [shortest]
  cases hfound : (List.range 18).findSome? fun digits : ℕ =>
      shortestOnGrid? half rank (rankOrder rank + 1 - digits) with
  | none =>
    obtain ⟨n, hn⟩ := exists_isIn_seventeen hrank
    exact absurd (List.findSome?_eq_none_iff.mp hfound 17 (by decide)) (hgrid hn)
  | some found =>
    obtain ⟨digits, hdigits, hfirst⟩ := exists_of_findSome?_range hfound
    rw [Option.getD_some, exponent_of_shortestOnGrid? hdigits]
    by_contra hlt
    have hearlier := hfirst (rankOrder rank + 1 - d.exponent).toNat (by omega)
    have hsame :
        rankOrder rank + 1 - ((rankOrder rank + 1 - d.exponent).toNat : ℤ) = d.exponent := by
      omega
    rw [hsame] at hearlier
    exact hgrid h hearlier

end PoolPage
