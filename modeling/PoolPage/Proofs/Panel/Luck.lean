import PoolPage.Proofs.Panel.Figures

/-!
# Long-term luck

The mean effort of a window in percent of itself.  It is rounded twice, and yet the text is always
one hundred percent where the figure is available (`longTerm_mem_render_iff`): whole multiples of a
number, also of the smallest ones, are rounded with a small relative error.
-/

namespace PoolPage

open Binary64

/-! ## A number in percent of itself -/

section

variable {x : Binary64}

theorem toRat_hundred : (100 : Binary64).isFinite = true ∧ (100 : Binary64).toRat = 100 :=
  toRat_literal 100 (by decide)

/-- A hundredfold is as near to the exact one as the number is precise, in all binades. -/
theorem abs_mul_hundred_sub_le (hx : x.isFinite = true) (hproduct : (x * 100).isFinite = true) :
    |(x * 100).toRat - x.toRat * 100| ≤ |x.toRat| / 2000 := by
  have hrounded := isRounded_mul hx toRat_hundred.1
  rw [toRat_hundred.2] at hrounded
  have hunits : ∃ units : ℤ, x.toRat * 100 = units / unitsPerOne := by
    obtain ⟨s, a, rfl⟩ := exists_of_isFinite hx
    refine ⟨signedUnits s a * 100, ?_⟩
    rw [toRat_eq_signedUnits, Int.cast_mul, Int.cast_ofNat, div_mul_eq_mul_div]
  obtain ⟨units, hunits⟩ := hunits
  rw [hunits] at hrounded
  have herror := hrounded.abs_sub_le_of_units hproduct
  rw [← hunits] at herror
  have htriangle : |(x * 100).toRat| ≤ |(x * 100).toRat - x.toRat * 100| + |x.toRat| * 100 := by
    have h := abs_add_le ((x * 100).toRat - x.toRat * 100) (x.toRat * 100)
    rwa [sub_add_cancel, abs_mul, abs_of_pos (show (0 : ℚ) < 100 by norm_num)] at h
  linarith [abs_nonneg x.toRat]

/-- The hundredfold of a number, divided by the number, is not far from 100, since 100 is a number
that the quotient might be rounded to. -/
theorem mul_hundred_div_self (hx : x.isFinite = true) (hne : x.toRat ≠ 0)
    (hproduct : (x * 100).isFinite = true) :
    ∃ rank : Fin rankLimit, x * 100 / x = .finite false rank ∧
      |magnitude rank - 100| ≤ 1 / 1000 := by
  obtain ⟨hhundred, hhundred'⟩ := toRat_hundred
  have hnear : |(x * 100).toRat / x.toRat - 100| ≤ 1 / 2000 := by
    have hquotient : (x * 100).toRat / x.toRat - 100 =
        ((x * 100).toRat - x.toRat * 100) / x.toRat := by
      rw [sub_div, mul_div_cancel_left₀ _ hne]
    rw [hquotient, abs_div, div_le_iff₀ (abs_pos.mpr hne)]
    linarith [abs_mul_hundred_sub_le hx hproduct]
  obtain ⟨hlow, hhigh⟩ := abs_le.mp hnear
  have hrounded := isRounded_div hproduct hx hne
  have hfinite : (x * 100 / x).isFinite = true := by
    obtain ⟨hzero, hzero'⟩ := toRat_ofNat (n := 0) (by decide)
    obtain ⟨hpast, hpast'⟩ := toRat_ofNat (n := 101) (by decide)
    refine (hrounded.between (isRounded_toRat hzero) (isRounded_toRat hpast) hzero hpast ?_ ?_).1
    · rw [hzero', Nat.cast_zero]
      linarith
    · rw [hpast', Nat.cast_ofNat]
      linarith
  have hdistance := hrounded.abs_sub_le hfinite hhundred
  rw [hhundred', abs_sub_comm 100] at hdistance
  have hclose : |(x * 100 / x).toRat - 100| ≤ 1 / 1000 := by
    have h := abs_sub_le (x * 100 / x).toRat ((x * 100).toRat / x.toRat) 100
    linarith
  have hpos : 0 < (x * 100 / x).toRat := by linarith [(abs_le.mp hclose).1]
  obtain ⟨rank, hrank⟩ := exists_of_toRat_pos hpos
  rw [hrank] at hclose
  exact ⟨rank, hrank, hclose⟩

theorem fixed_mul_hundred_div_self (hx : x.isFinite = true) (hne : x.toRat ≠ 0)
    (hproduct : (x * 100).isFinite = true) :
    (x * 100 / x).isFinite = true ∧ Figure.fixed (x * 100 / x) 1 = "100.0" := by
  obtain ⟨rank, hrank, hclose⟩ := mul_hundred_div_self hx hne hproduct
  obtain ⟨hlow, hhigh⟩ := abs_le.mp hclose
  rw [hrank]
  refine ⟨rfl, String.toList_inj.mp ?_⟩
  have hdigits : (Figure.fixed (.finite false rank) 1).toList =
      Figure.sign false ++ fixedDigits 1000 1 := by
    refine Figure.fixed_of_abs_lt (by linarith) (abs_lt.mpr ⟨?_, ?_⟩) <;> push_cast <;> linarith
  rw [hdigits]
  decide

end

/-! ## The window -/

/-- A figure that can be taken in percent of itself. -/
def Metric.comparable : Metric → Bool
  | .value x => !x.isZero && (x * 100).isFinite
  | .unavailable => false

theorem percentText_per_self {m : Metric} (hm : m.IsFinite) :
    BlocksPanel.percentText ((m.map (· * 100)).per m) =
      if m.comparable then "100.0%" else Metric.sentinel := by
  cases m with
  | unavailable => rfl
  | value x =>
    have hx := hm x rfl
    have hmap : (Metric.value x).map (· * 100) = Metric.finite (x * 100) := rfl
    have hcomparable : (Metric.value x).comparable = (!x.isZero && (x * 100).isFinite) := rfl
    rw [hmap, hcomparable, Metric.finite]
    cases hproduct : (x * 100).isFinite with
    | false =>
      rw [Bool.and_false]
      rfl
    | true =>
      have hper : (Metric.value (x * 100)).per (.value x) = Metric.ratio (x * 100) x := rfl
      rw [Bool.and_true, if_pos rfl, hper, Metric.ratio]
      cases hzero : x.isZero with
      | true => rfl
      | false =>
        have hne : x.toRat ≠ 0 := by
          rw [Ne, toRat_eq_zero_iff hx, hzero]
          exact Bool.false_ne_true
        obtain ⟨hfinite, htext⟩ := fixed_mul_hundred_div_self hx hne hproduct
        rw [if_neg Bool.false_ne_true, Bool.not_false, if_pos rfl, Metric.finite, if_pos hfinite]
        show Figure.fixed (x * 100 / x) 1 ++ "%" = "100.0%"
        rw [htext]
        decide

theorem per_unavailable (m : Metric) : m.per .unavailable = .unavailable := by cases m <;> rfl

/-- The long-term figure is the mean in percent of itself. -/
theorem longTermPercent_eq (blocks : List FoundBlock) (poolRate now : Binary64) (shortTerm : Nat)
    (blockTime : Binary64) :
    (BlockLuck.ofBlocks blocks poolRate now shortTerm blockTime).longTermPercent =
      ((Metric.mean (blocks.map FoundBlock.effort)).map (· * 100)).per
        (Metric.mean (blocks.map FoundBlock.effort)) := by
  unfold BlockLuck.ofBlocks
  dsimp only
  cases blocks with
  | nil => exact (per_unavailable _).trans (per_unavailable _).symm
  | cons block blocks =>
    have hmean : Metric.mean ((block :: blocks).map FoundBlock.effort) =
        Metric.ratio (Binary64.sum ((block :: blocks).map FoundBlock.effort))
          (Binary64.ofNat ((block :: blocks).map FoundBlock.effort).length) :=
      if_neg Bool.false_ne_true
    rw [hmean]

theorem isFinite_mean (efforts : List Binary64) : (Metric.mean efforts).IsFinite := by
  unfold Metric.mean
  split
  · exact nofun
  · exact Metric.isFinite_ratio _ _

/-- The long-term luck of any window is shown as one hundred percent where its mean effort can be
compared with itself, and otherwise not at all: where there are no blocks, where the mean is zero
or none, and where it is too large for a hundredfold. -/
theorem longTerm_mem_render_iff (blocks : List FoundBlock) (poolRate now : Binary64)
    (shortTerm : Nat) (blockTime : Binary64) (settings : Settings) (text : String) :
    Update.text BlocksPanel.longTerm text ∈
        BlocksPanel.render (BlockLuck.ofBlocks blocks poolRate now shortTerm blockTime) settings ↔
      text = if (Metric.mean (blocks.map FoundBlock.effort)).comparable then "100.0%"
        else "N/A" := by
  have hshort : BlocksPanel.longTerm ≠ BlocksPanel.shortTerm := by decide
  have hchunk : BlocksPanel.longTerm ≠ BlocksPanel.chunk := by decide
  have hrate : BlocksPanel.longTerm ≠ BlocksPanel.impliedRate := by decide
  have hlong := percentText_per_self (isFinite_mean (blocks.map FoundBlock.effort))
  rw [← longTermPercent_eq blocks poolRate now shortTerm blockTime] at hlong
  unfold BlocksPanel.render
  simp only [List.mem_cons, List.not_mem_nil, or_false, reduceCtorEq, false_or,
    Update.text.injEq, hshort, hchunk, hrate, false_and, true_and, hlong]
  rfl

end PoolPage
