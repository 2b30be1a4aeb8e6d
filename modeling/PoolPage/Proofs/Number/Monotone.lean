import PoolPage.Proofs.Number.Operations

/-!
# Operations that keep the order

Rounding keeps the order, and so do operations that round a monotone function once.  On an interval
whose ends they do not take out of the range of numbers, they take its numbers to numbers between
the ends' values, and chains of them do the same (`Stretches`).  A function of magnitudes keeps the
order of signed numbers too (`signedOf_mono`), as rounding to whole numbers does
(`toRat_round_mono`).
-/

namespace PoolPage
namespace Binary64

/-! ## Intervals -/

/-- A finite number between two bounds. -/
structure IsBetween (a b : ℚ) (x : Binary64) : Prop where
  isFinite : x.isFinite = true
  le : a ≤ x.toRat
  le' : x.toRat ≤ b

/-- An operation takes the numbers between two bounds to numbers between two bounds, in their order
and the ends to the ends. -/
structure Stretches (op : Binary64 → Binary64) (a b c d : ℚ) : Prop where
  between : ∀ x, IsBetween a b x → IsBetween c d (op x)
  mono : ∀ x y, IsBetween a b x → IsBetween a b y → x.toRat ≤ y.toRat →
    (op x).toRat ≤ (op y).toRat
  low : ∀ x, IsBetween a b x → x.toRat = a → (op x).toRat = c
  high : ∀ x, IsBetween a b x → x.toRat = b → (op x).toRat = d

namespace Stretches

variable {op op' : Binary64 → Binary64} {a b c d e f : ℚ}

theorem comp (h' : Stretches op' c d e f) (h : Stretches op a b c d) :
    Stretches (op' ∘ op) a b e f where
  between x hx := h'.between _ (h.between x hx)
  mono x y hx hy hle := h'.mono _ _ (h.between x hx) (h.between y hy) (h.mono x y hx hy hle)
  low x hx heq := h'.low _ (h.between x hx) (h.low x hx heq)
  high x hx heq := h'.high _ (h.between x hx) (h.high x hx heq)

/-- An operation that rounds a monotone function once. -/
theorem of_isRounded {g : ℚ → ℚ} {l u : Binary64} (hmono : Monotone g)
    (hop : ∀ x, x.isFinite = true → IsRounded (g x.toRat) (op x))
    (hlow : IsRounded (g a) l) (hhigh : IsRounded (g b) u)
    (hfinite : l.isFinite = true) (hfinite' : u.isFinite = true) :
    Stretches op a b l.toRat u.toRat := by
  have hbetween (x : Binary64) (hx : IsBetween a b x) :
      IsBetween l.toRat u.toRat (op x) := by
    obtain ⟨h, hle, hle'⟩ := (hop x hx.isFinite).between hlow hhigh hfinite hfinite'
      (hmono hx.le) (hmono hx.le')
    exact ⟨h, hle, hle'⟩
  refine ⟨hbetween, fun x y hx hy hle => ?_, fun x hx heq => ?_, fun x hx heq => ?_⟩
  · exact (hop x hx.isFinite).toRat_mono (hop y hy.isFinite) (hbetween x hx).isFinite
      (hbetween y hy).isFinite (hmono hle)
  · exact le_antisymm ((hop x hx.isFinite).toRat_mono hlow (hbetween x hx).isFinite hfinite
      (hmono heq.le)) (hbetween x hx).le
  · exact le_antisymm (hbetween x hx).le' (hhigh.toRat_mono (hop x hx.isFinite) hfinite'
      (hbetween x hx).isFinite (hmono heq.ge))

section

variable {s u : Binary64}

/-- A factor that is not negative keeps the order. -/
theorem mul (hs : s.isFinite = true) (hs0 : 0 ≤ s.toRat) (hu : IsRounded (b * s.toRat) u)
    (hu' : u.isFinite = true) : Stretches (· * s) 0 b 0 u.toRat := by
  have h := of_isRounded (a := 0) (l := zero) (g := (· * s.toRat))
    (fun _ _ h => mul_le_mul_of_nonneg_right h hs0) (fun x hx => isRounded_mul hx hs)
    (by rw [zero_mul]; exact isRounded_zero) hu rfl hu'
  rwa [toRat_zero] at h

/-- A positive divisor keeps the order. -/
theorem div (hs : s.isFinite = true) (hs0 : 0 < s.toRat) (hu : IsRounded (b / s.toRat) u)
    (hu' : u.isFinite = true) : Stretches (· / s) 0 b 0 u.toRat := by
  have h := of_isRounded (a := 0) (l := zero) (g := (· / s.toRat))
    (fun _ _ h => div_le_div_of_nonneg_right h hs0.le) (fun x hx => isRounded_div hx hs hs0.ne')
    (by rw [zero_div]; exact isRounded_zero) hu rfl hu'
  rwa [toRat_zero] at h

/-- The distances from a lower end. -/
theorem sub (hs : s.isFinite = true) (hu : IsRounded (b - s.toRat) u) (hu' : u.isFinite = true) :
    Stretches (· - s) s.toRat b 0 u.toRat := by
  have h := of_isRounded (a := s.toRat) (l := zero) (g := (· - s.toRat))
    (fun _ _ h => sub_le_sub_right h _) (fun x hx => isRounded_sub hx hs)
    (by rw [sub_self]; exact isRounded_zero) hu rfl hu'
  rwa [toRat_zero] at h

end

end Stretches

theorem isBetween_ofNat {m n : ℕ} (h : m ≤ n) (hn : (ofNat n).isFinite = true) :
    IsBetween 0 (ofNat n).toRat (ofNat m) := by
  obtain ⟨hzero, hzero'⟩ := toRat_ofNat (n := 0) (by decide)
  obtain ⟨hm, hle, hle'⟩ := (isRounded_ofNat m).between (isRounded_ofNat 0) (isRounded_ofNat n)
    hzero hn (Nat.cast_le.mpr (Nat.zero_le m)) (Nat.cast_le.mpr h)
  rw [hzero', Nat.cast_zero] at hle
  exact ⟨hm, hle, hle'⟩

theorem toRat_le_magnitude_rankLimit {x : Binary64} (hx : x.isFinite = true) :
    x.toRat ≤ magnitude rankLimit := by
  obtain ⟨s, a, rfl⟩ := exists_of_isFinite hx
  exact (le_abs_self _).trans ((abs_toRat s a).trans_le (magnitude_mono a.isLt.le))

/-! ## Signed values -/

/-- A function of magnitudes, with the signs of the numbers. -/
def signedOf (f : ℕ → ℚ) : Binary64 → ℚ
  | finite negative rank => signed negative (f rank)
  | _ => 0

@[simp] theorem signedOf_false (f : ℕ → ℚ) (rank : Fin rankLimit) :
    signedOf f (finite false rank) = f rank := rfl

section

variable {f : ℕ → ℚ} {x y : Binary64} {n : ℕ}

theorem signedOf_mono (hf : Monotone f) (hzero : f 0 = 0) (hx : x.isFinite = true)
    (hy : y.isFinite = true) (hle : x.toRat ≤ y.toRat) : signedOf f x ≤ signedOf f y := by
  obtain ⟨s, a, rfl⟩ := exists_of_isFinite hx
  obtain ⟨t, b, rfl⟩ := exists_of_isFinite hy
  have hnonneg (rank : ℕ) : 0 ≤ f rank := hzero.ge.trans (hf (Nat.zero_le rank))
  have ha := hnonneg a
  have hb := hnonneg b
  rw [toRat_finite, toRat_finite, signed_magnitude_le_iff] at hle
  simp only [signedOf, signed]
  cases s <;> cases t <;> simp only [if_true, if_false, Bool.false_eq_true] at hle ⊢
  · exact hf (by omega)
  · have ha0 : a.val = 0 := by omega
    have hb0 : b.val = 0 := by omega
    rw [ha0, hb0, hzero, neg_zero]
  · linarith
  · exact neg_le_neg (hf (by omega))

/-- A function that keeps a whole number keeps it as a bound. -/
theorem signedOf_ofNat (hpos : 0 < n) (hn : n < 2 * binadeSize)
    (h : ∀ rank, magnitude rank = n → f rank = n) : signedOf f (ofNat n) = n := by
  obtain ⟨-, htoRat⟩ := toRat_ofNat hn
  obtain ⟨rank, hrank⟩ := exists_of_toRat_pos (x := ofNat n) (by
    rw [htoRat]
    exact_mod_cast hpos)
  rw [hrank] at htoRat ⊢
  exact h rank htoRat

theorem toRat_round_eq (hx : x.isFinite = true) :
    x.round.toRat =
      signedOf (fun rank => (Half.up.roundDiv (rankUnits rank) unitsPerOne : ℕ)) x := by
  obtain ⟨s, a, rfl⟩ := exists_of_isFinite hx
  exact (toRat_round s a).2

/-- Rounding to whole numbers keeps the order. -/
theorem toRat_round_mono (hx : x.isFinite = true) (hy : y.isFinite = true)
    (hle : x.toRat ≤ y.toRat) : x.round.toRat ≤ y.round.toRat := by
  rw [toRat_round_eq hx, toRat_round_eq hy]
  refine signedOf_mono (fun a b hab => Nat.cast_le.mpr ?_) ?_ hx hy hle
  · exact Half.roundDiv_mono .up unitsPerOne_pos (strictMono_rankUnits.monotone hab)
  · have hround := Half.roundDiv_mul .up 0 unitsPerOne_pos
    rw [Nat.zero_mul] at hround
    rw [rankUnits_zero, hround, Nat.cast_zero]

theorem toRat_round_ofNat (hpos : 0 < n) (hn : n < 2 * binadeSize) :
    (ofNat n).round.toRat = n := by
  rw [toRat_round_eq (toRat_ofNat hn).1]
  refine signedOf_ofNat hpos hn fun rank hrank => ?_
  have hunits : rankUnits rank = n * unitsPerOne := by
    rw [magnitude, div_eq_iff cast_unitsPerOne_pos.ne'] at hrank
    exact_mod_cast hrank
  rw [hunits, Half.roundDiv_mul _ _ unitsPerOne_pos]

end

end Binary64
end PoolPage
