/-!
Rounding an exact quotient of natural numbers to a natural number.  Every
rounding of the library is this one function: of a real result to the nearest
floating-point number, of a number to a whole, of a number to decimal places.
-/

namespace PoolPage

/-- Which of its two neighbours an exact half goes to. -/
inductive Half where
  | toEven
  | up
deriving DecidableEq, Repr

namespace Half

/-- The whole number nearest to `num / den`. -/
def roundDiv (half : Half) (num den : Nat) : Nat :=
  let quotient := num / den
  let doubled := 2 * (num % den)
  if doubled < den then quotient
  else if den < doubled then quotient + 1
  else match half with
    | toEven => quotient + quotient % 2
    | up => quotient + 1

/-- A whole number is its own rounding. -/
theorem roundDiv_mul (half : Half) (n : Nat) {den : Nat} (h : 0 < den) :
    half.roundDiv (n * den) den = n := by
  simp [roundDiv, Nat.mul_mod_left, Nat.mul_div_cancel n h, h]

theorem div_le_roundDiv (half : Half) (num den : Nat) :
    num / den ≤ half.roundDiv num den := by
  simp only [roundDiv]
  split
  · exact Nat.le_refl _
  · split
    · omega
    · cases half <;> simp only <;> omega

theorem roundDiv_le_succ (half : Half) (num den : Nat) :
    half.roundDiv num den ≤ num / den + 1 := by
  simp only [roundDiv]
  split
  · omega
  · split
    · exact Nat.le_refl _
    · cases half <;> simp only <;> omega

end Half
end PoolPage
