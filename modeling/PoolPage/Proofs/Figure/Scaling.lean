import PoolPage.Figure
import PoolPage.Proofs.Number.Operations

/-!
# Scaling

Whole numbers stay in the range of numbers when they are rounded, and so do numbers that are divided
by a number not below one.  A product may leave it; a value rounded by scaling it up and down again
is finite exactly if the scaled value is (`isFinite_roundTo_iff`).
-/

namespace PoolPage
namespace Binary64

theorem toRat_one : (1 : Binary64).isFinite = true ∧ (1 : Binary64).toRat = 1 := by
  have h := toRat_ofNat (n := 1) (by decide)
  rwa [Nat.cast_one] at h

theorem one_le_toRat {x : Binary64} (hx : x.isFinite = true) (hone : (1 : Binary64).le x = true) :
    1 ≤ x.toRat := by
  rw [← toRat_one.2]
  exact (le_iff_toRat_le toRat_one.1 hx).mp hone

/-- A quotient is no larger than the number that is divided, if the divisor is not below one. -/
theorem isFinite_div {x y : Binary64} (hx : x.isFinite = true) (hy : y.isFinite = true)
    (hone : (1 : Binary64).le y = true) : (x / y).isFinite = true := by
  have hle := one_le_toRat hy hone
  refine (isRounded_div hx hy (by linarith)).isFinite hx ?_
  rw [abs_div]
  exact div_le_self (abs_nonneg _) (hle.trans (le_abs_self _))

theorem isFinite_round {x : Binary64} (hx : x.isFinite = true) : x.round.isFinite = true := by
  obtain ⟨negative, rank, rfl⟩ := exists_of_isFinite hx
  exact (toRat_round negative rank).1

theorem isFinite_round_iff {x : Binary64} : x.round.isFinite = true ↔ x.isFinite = true := by
  refine ⟨fun h => ?_, isFinite_round⟩
  cases x with
  | finite _ _ => rfl
  | _ => exact h

end Binary64

namespace Figure

/-- A value rounded by scaling it up and down is finite, if only it is that between. -/
theorem isFinite_roundTo_iff {x scale : Binary64} {places : Int}
    (hscale : Binary64.pow 10 places = scale) (hfinite : scale.isFinite = true)
    (hone : (1 : Binary64).le scale = true) :
    (roundTo x places).isFinite = true ↔ (x * scale).isFinite = true := by
  rw [roundTo, hscale, ← Binary64.isFinite_round_iff (x := x * scale)]
  generalize (x * scale).round = y
  refine ⟨fun h => ?_, fun h => Binary64.isFinite_div h hfinite hone⟩
  obtain ⟨negative, rank, rfl⟩ := Binary64.exists_of_isFinite hfinite
  cases y with
  | finite _ _ => rfl
  | _ => exact h

end Figure
end PoolPage
