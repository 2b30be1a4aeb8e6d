import PoolPage.Chart.Sparkline
import PoolPage.Proofs.Figure.Scaling
import PoolPage.Proofs.Number.Monotone

/-!
# Coordinates of sparklines

Where the points of a sparkline are drawn, in exact values.  Abscissas grow with the index and pass
the right edge by rounding only (`abscissa_spec`).  Ordinates fall as the values grow, from the
bottom edge at the smallest value to the top edge at the largest (`ordinate_spec`).  All of this
holds unless an index or the difference of two values is too large for a number.
-/

namespace PoolPage
namespace Sparkline

open Binary64

/-! ## Extreme values -/

/-- The smallest and the largest of some finite numbers. -/
structure IsBounds (values : List Binary64) (low high : Binary64) : Prop where
  low_mem : low ∈ values
  high_mem : high ∈ values
  low_le : ∀ v ∈ values, low.toRat ≤ v.toRat
  le_high : ∀ v ∈ values, v.toRat ≤ high.toRat

/-- A fold that keeps one of two elements, related to both, keeps one that is related to all. -/
theorem foldl_select {α : Type} {f : α → α → α} {r : α → α → Prop} {p : α → Prop}
    (hrefl : ∀ x, r x x) (htrans : ∀ x y z, r x y → r y z → r x z)
    (hkeep : ∀ x y, p x → p y →
      (f x y = x ∨ f x y = y) ∧ r (f x y) x ∧ r (f x y) y)
    {xs : List α} (hxs : ∀ x ∈ xs, p x) {start : α} (hstart : p start) :
    xs.foldl f start ∈ start :: xs ∧ ∀ x ∈ start :: xs, r (xs.foldl f start) x := by
  induction xs generalizing start with
  | nil => exact ⟨List.mem_cons_self, fun x hx => List.mem_singleton.mp hx ▸ hrefl start⟩
  | cons y ys ih =>
    obtain ⟨hy, hys⟩ := List.forall_mem_cons.mp hxs
    obtain ⟨hone, hleft, hright⟩ := hkeep start y hstart hy
    have hvalid : p (f start y) := by
      rcases hone with h | h <;> rw [h]
      · exact hstart
      · exact hy
    obtain ⟨hmem, hall⟩ := ih hys hvalid
    have hkept := hall _ List.mem_cons_self
    rw [List.foldl_cons]
    refine ⟨?_, List.forall_mem_cons.mpr ⟨htrans _ _ _ hkept hleft,
      List.forall_mem_cons.mpr ⟨htrans _ _ _ hkept hright, fun x hx =>
        hall x (List.mem_cons_of_mem _ hx)⟩⟩⟩
    rcases List.mem_cons.mp hmem with h | h
    · rw [h]
      rcases hone with hone | hone <;> rw [hone] <;> simp
    · exact List.mem_cons_of_mem _ (List.mem_cons_of_mem _ h)

section

variable {x y : Binary64}

theorem not_isNan_of_isFinite (hx : x.isFinite = true) : x.isNan = false := by
  obtain ⟨s, a, rfl⟩ := exists_of_isFinite hx
  rfl

theorem min_select (hx : x.isFinite = true) (hy : y.isFinite = true) :
    (x.min y = x ∨ x.min y = y) ∧ (x.min y).toRat ≤ x.toRat ∧ (x.min y).toRat ≤ y.toRat := by
  rw [Binary64.min, not_isNan_of_isFinite hx]
  simp only [Bool.false_eq_true, if_false]
  split
  · next h => exact ⟨.inr rfl, ((lt_iff_toRat_lt hy hx).mp h).le, le_refl _⟩
  · next h =>
    rw [lt_iff_toRat_lt hy hx, not_lt] at h
    exact ⟨.inl rfl, le_refl _, h⟩

theorem max_select (hx : x.isFinite = true) (hy : y.isFinite = true) :
    (x.max y = x ∨ x.max y = y) ∧ x.toRat ≤ (x.max y).toRat ∧ y.toRat ≤ (x.max y).toRat := by
  rw [Binary64.max, not_isNan_of_isFinite hx]
  simp only [Bool.false_eq_true, if_false]
  split
  · next h => exact ⟨.inr rfl, ((lt_iff_toRat_lt hx hy).mp h).le, le_refl _⟩
  · next h =>
    rw [lt_iff_toRat_lt hx hy, not_lt] at h
    exact ⟨.inl rfl, le_refl _, h⟩

/-- The infinities that the bounds start from give way to the first finite value. -/
theorem min_infinite (hx : x.isFinite = true) : (infinite false).min x = x := by
  obtain ⟨s, a, rfl⟩ := exists_of_isFinite hx
  have ha := a.isLt
  refine if_pos (decide_eq_true ?_)
  cases s <;> simp only [if_true, if_false, Bool.false_eq_true] <;> omega

theorem max_infinite (hx : x.isFinite = true) : (infinite true).max x = x := by
  obtain ⟨s, a, rfl⟩ := exists_of_isFinite hx
  have ha := a.isLt
  refine if_pos (decide_eq_true ?_)
  cases s <;> simp only [if_true, if_false, Bool.false_eq_true] <;> omega

end

theorem isBounds_bounds {values : List Binary64}
    (hne : values.filter Binary64.isFinite ≠ []) :
    IsBounds (values.filter Binary64.isFinite) (bounds values).1 (bounds values).2 := by
  have hfinite : ∀ v ∈ values.filter Binary64.isFinite, v.isFinite = true :=
    fun v hv => (List.mem_filter.mp hv).2
  unfold bounds
  generalize values.filter Binary64.isFinite = finite at *
  cases finite with
  | nil => exact absurd rfl hne
  | cons v vs =>
    obtain ⟨hv, hvs⟩ := List.forall_mem_cons.mp hfinite
    simp only [List.foldl_cons, min_infinite hv, max_infinite hv]
    obtain ⟨hlow, hlow'⟩ := foldl_select (f := Binary64.min) (r := fun x y => x.toRat ≤ y.toRat)
      (fun _ => le_refl _) (fun _ _ _ h h' => h.trans h') (fun _ _ => min_select) hvs hv
    obtain ⟨hhigh, hhigh'⟩ := foldl_select (f := Binary64.max) (r := fun x y => y.toRat ≤ x.toRat)
      (fun _ => le_refl _) (fun _ _ _ h h' => h'.trans h) (fun _ _ => max_select) hvs hv
    exact ⟨hlow, hhigh, hlow', hhigh'⟩

/-! ## Edges -/

theorem toRat_width : width.isFinite = true ∧ width.toRat = 200 := toRat_literal 200 (by decide)

theorem toRat_height : height.isFinite = true ∧ height.toRat = 100 := toRat_literal 100 (by decide)

/-! ## Ordinates -/

section

variable {low high v w : Binary64}

/-- Two different numbers have a difference. -/
theorem toRat_sub_pos (hlow : low.isFinite = true) (hhigh : high.isFinite = true)
    (hspan : (high - low).isFinite = true) (hlt : low.toRat < high.toRat) :
    0 < (high - low).toRat := by
  obtain ⟨s, a, rfl⟩ := exists_of_isFinite hlow
  obtain ⟨t, b, rfl⟩ := exists_of_isFinite hhigh
  have hone := cast_unitsPerOne_pos
  have hunit : magnitude 1 ≤ (finite t b).toRat - (finite s a).toRat := by
    rw [toRat_eq_signedUnits, toRat_eq_signedUnits, div_lt_div_iff_of_pos_right hone,
      Int.cast_lt] at hlt
    rw [toRat_eq_signedUnits, toRat_eq_signedUnits, ← sub_div, magnitude,
      div_le_div_iff_of_pos_right hone]
    have hrank : rankUnits 1 = 1 := by decide
    rw [hrank]
    exact_mod_cast Int.le_sub_left_of_add_le (Int.add_one_le_of_lt hlt)
  have hleast : (finite false ⟨1, by decide⟩).toRat ≤ (finite t b - finite s a).toRat :=
    (isRounded_toRat rfl).toRat_mono (isRounded_sub rfl rfl) rfl hspan hunit
  exact (magnitude_pos Nat.one_pos).trans_le hleast

/-- The distance of a value from the bottom edge. -/
def elevation (low high value : Binary64) : Binary64 := (value - low) / (high - low) * height

theorem stretches_elevation (hlow : low.isFinite = true) (hhigh : high.isFinite = true)
    (hspan : (high - low).isFinite = true) (hlt : low.toRat < high.toRat) :
    Stretches (elevation low high) low.toRat high.toRat 0 100 := by
  have hpos := toRat_sub_pos hlow hhigh hspan hlt
  have hdifference := Stretches.sub hlow (isRounded_sub hhigh hlow) hspan
  have hquotient : Stretches (· / (high - low)) 0 (high - low).toRat 0 1 := by
    have hone := isRounded_toRat toRat_one.1
    rw [toRat_one.2, ← div_self hpos.ne'] at hone
    have h := Stretches.div hspan hpos hone toRat_one.1
    rwa [toRat_one.2] at h
  have hproduct : Stretches (· * height) 0 1 0 100 := by
    obtain ⟨hfinite, hheight⟩ := toRat_height
    have hone := isRounded_toRat hfinite
    rw [← one_mul height.toRat] at hone
    have h := Stretches.mul hfinite (by rw [hheight]; norm_num) hone hfinite
    rwa [hheight] at h
  exact hproduct.comp (hquotient.comp hdifference)

/-- From the top edge distances are measured the other way. -/
theorem height_sub_spec (hv : IsBetween 0 100 v) (hw : IsBetween 0 100 w)
    (hle : v.toRat ≤ w.toRat) :
    IsBetween 0 100 (height - v) ∧ IsUnsigned (height - v) ∧
      (height - w).toRat ≤ (height - v).toRat ∧
      (v.toRat = 0 → (height - v).toRat = 100) ∧ (v.toRat = 100 → (height - v).toRat = 0) := by
  obtain ⟨hfinite, hheight⟩ := toRat_height
  have htop := isRounded_toRat hfinite
  rw [hheight] at htop
  have hrounded {x : Binary64} (hx : IsBetween 0 100 x) :
      IsRounded (100 - x.toRat) (height - x) := by
    have h := isRounded_sub hfinite hx.isFinite
    rwa [hheight] at h
  have hbetween {x : Binary64} (hx : IsBetween 0 100 x) : IsBetween 0 100 (height - x) := by
    obtain ⟨hxfinite, hx0, hx1⟩ := (hrounded hx).between isRounded_zero htop rfl hfinite
      (sub_nonneg.mpr hx.le') (by linarith [hx.le])
    rw [toRat_zero] at hx0
    rw [hheight] at hx1
    exact ⟨hxfinite, hx0, hx1⟩
  refine ⟨hbetween hv, ?_, ?_, fun heq => ?_, fun heq => ?_⟩
  · exact (isUnsigned_ofNat 100).sub hfinite hv.isFinite (hv.le'.trans hheight.ge)
  · exact (hrounded hw).toRat_mono (hrounded hv) (hbetween hw).isFinite (hbetween hv).isFinite
      (by linarith)
  · exact ((hrounded hv).toRat_eq hfinite (by rw [heq, hheight, sub_zero])).2.trans
      (by rw [heq, sub_zero])
  · exact ((hrounded hv).toRat_eq (z := zero) rfl (by rw [heq, toRat_zero, sub_self])).2.trans
      (by rw [heq, sub_self])

theorem height_div_two : IsBetween 0 100 (height / 2) ∧ IsUnsigned (height / 2) := by
  obtain ⟨hfinite, hheight⟩ := toRat_height
  obtain ⟨htwo, htwo'⟩ := toRat_ofNat (n := 2) (by decide)
  rw [Nat.cast_ofNat] at htwo'
  have hne : (ofNat 2).toRat ≠ 0 := by
    rw [htwo']
    exact two_ne_zero
  have hrounded := isRounded_div hfinite htwo hne
  obtain ⟨hhalf, hlow, hhigh⟩ := hrounded.between isRounded_zero (isRounded_toRat hfinite) rfl
    hfinite (by rw [hheight, htwo']; norm_num) (by rw [hheight, htwo']; norm_num)
  rw [toRat_zero] at hlow
  rw [hheight] at hhigh
  exact ⟨⟨hhalf, hlow, hhigh⟩, (isUnsigned_ofNat 100).div hfinite (isUnsigned_ofNat 2) hne⟩

/-- Ordinates fall as the values grow, from the bottom edge to the top edge. -/
theorem ordinate_spec (hlow : low.isFinite = true) (hhigh : high.isFinite = true)
    (hspan : (high - low).isFinite = true) (hv : IsBetween low.toRat high.toRat v)
    (hw : IsBetween low.toRat high.toRat w) (hvw : v.toRat ≤ w.toRat) :
    IsBetween 0 100 (ordinate low high v) ∧ IsUnsigned (ordinate low high v) ∧
      (ordinate low high w).toRat ≤ (ordinate low high v).toRat ∧
      (low.toRat < high.toRat →
        (v.toRat = low.toRat → (ordinate low high v).toRat = 100) ∧
          (v.toRat = high.toRat → (ordinate low high v).toRat = 0)) := by
  by_cases hlt : low.toRat < high.toRat
  · have hordinate (x : Binary64) : ordinate low high x = height - elevation low high x :=
      if_pos ((lt_iff_toRat_lt hlow hhigh).mpr hlt)
    have hstretch := stretches_elevation hlow hhigh hspan hlt
    obtain ⟨hbetween, hunsigned, hmono, hbottom, htop⟩ := height_sub_spec
      (hstretch.between v hv) (hstretch.between w hw) (hstretch.mono v w hv hw hvw)
    rw [hordinate, hordinate]
    exact ⟨hbetween, hunsigned, hmono, fun _ =>
      ⟨fun heq => hbottom (hstretch.low v hv heq), fun heq => htop (hstretch.high v hv heq)⟩⟩
  · have hordinate (x : Binary64) : ordinate low high x = height / 2 :=
      if_neg fun h => hlt ((lt_iff_toRat_lt hlow hhigh).mp h)
    rw [hordinate, hordinate]
    exact ⟨height_div_two.1, height_div_two.2, le_refl _, fun h => absurd h hlt⟩

/-- A difference that is too large for a number leaves no ordinate for the largest value. -/
theorem ordinate_high_eq_nan (hlow : low.isFinite = true) (hhigh : high.isFinite = true)
    (hle : low.toRat ≤ high.toRat) (hspan : (high - low).isFinite = false) :
    ordinate low high high = nan := by
  have hrounded := isRounded_sub hhigh hlow
  have hlt : low.lt high = true := by
    rw [lt_iff_toRat_lt hlow hhigh]
    refine lt_of_le_of_ne hle fun heq => ?_
    rw [heq, sub_self] at hrounded
    exact absurd (hrounded.toRat_eq (z := zero) rfl toRat_zero).1 (ne_true_of_eq_false hspan)
  obtain ⟨s, rank, -, -, hrank⟩ := hrounded
  have hinfinite : high - low = infinite s := by
    rw [hrank] at hspan ⊢
    exact ofRank_eq_infinite hspan
  obtain ⟨t, a, ha⟩ := exists_of_isFinite toRat_height.1
  rw [ordinate, if_pos hlt, hinfinite, ha]
  rfl

end

/-! ## Abscissas -/

/-- The least normal magnitude times the limit of all is 4. -/
theorem magnitude_rankLimit_mul_le : magnitude rankLimit * magnitude binadeSize ≤ 200 := by
  have hunits : rankUnits rankLimit * rankUnits binadeSize ≤ 200 * (unitsPerOne * unitsPerOne) := by
    decide +kernel
  have hone := cast_unitsPerOne_pos
  rw [magnitude, magnitude, div_mul_div_comm, div_le_iff₀ (mul_pos hone hone)]
  exact_mod_cast hunits

section

variable {n : Binary64}

/-- The steps are finite, and together they pass the width by rounding only. -/
theorem mul_step_le (hn : n.isFinite = true) (hone : 1 ≤ n.toRat) :
    (width / n).isFinite = true ∧ 0 ≤ (width / n).toRat ∧
      n.toRat * (width / n).toRat ≤ 200 + 1 / 1000 := by
  obtain ⟨hwidth, hwidth'⟩ := toRat_width
  have hpos : 0 < n.toRat := zero_lt_one.trans_le hone
  have hrounded := isRounded_div hwidth hn hpos.ne'
  rw [hwidth'] at hrounded
  have hnonneg : 0 ≤ 200 / n.toRat := div_nonneg (by norm_num) hpos.le
  obtain ⟨hstep, hstep0, -⟩ := hrounded.between isRounded_zero (isRounded_toRat hwidth) rfl hwidth
    hnonneg (by rw [hwidth']; exact div_le_self (by norm_num) hone)
  rw [toRat_zero] at hstep0
  have hnormal : magnitude binadeSize ≤ |200 / n.toRat| := by
    rw [abs_of_nonneg hnonneg, le_div_iff₀ hpos, mul_comm]
    exact (mul_le_mul_of_nonneg_right (toRat_le_magnitude_rankLimit hn)
      (magnitude_nonneg _)).trans magnitude_rankLimit_mul_le
  have herror := hrounded.abs_sub_le_of_normal hstep hnormal
  rw [abs_of_nonneg hstep0] at herror
  have hexcess : n.toRat * (width / n).toRat - 200 =
      n.toRat * ((width / n).toRat - 200 / n.toRat) := by
    rw [mul_sub, mul_div_cancel₀ _ hpos.ne']
  have htotal : 2 ^ 53 * (n.toRat * (width / n).toRat - 200) ≤ n.toRat * (width / n).toRat := by
    rw [hexcess, mul_left_comm]
    exact mul_le_mul_of_nonneg_left
      ((mul_le_mul_of_nonneg_left (le_abs_self _) (by norm_num)).trans herror) hpos.le
  exact ⟨hstep, hstep0, by linarith⟩

/-- All steps together are not far past the right edge, since they are near to it before the last
rounding. -/
theorem toRat_mul_step_le (hn : n.isFinite = true) (hone : 1 ≤ n.toRat) :
    (n * (width / n)).isFinite = true ∧ (n * (width / n)).toRat ≤ 200 + 1 / 250 := by
  obtain ⟨hwidth, hwidth'⟩ := toRat_width
  obtain ⟨hstep, hstep0, htotal⟩ := mul_step_le hn hone
  obtain ⟨hpast, hpast'⟩ := toRat_ofNat (n := 201) (by decide)
  rw [Nat.cast_ofNat] at hpast'
  have hrounded := isRounded_mul hn hstep
  obtain ⟨hfinite, -, -⟩ := hrounded.between isRounded_zero (isRounded_toRat hpast) rfl hpast
    (mul_nonneg (by linarith) hstep0) (by rw [hpast']; linarith)
  have hdistance := hrounded.abs_sub_le hfinite hwidth
  rw [hwidth'] at hdistance
  refine ⟨hfinite, ?_⟩
  have hle := (le_abs_self _).trans hdistance
  rcases abs_cases (200 - n.toRat * (width / n).toRat) with ⟨heq, -⟩ | ⟨heq, -⟩ <;>
    rw [heq] at hle <;> linarith

end

theorem width_div_infinite : width / infinite false = zero := by
  obtain ⟨a, ha⟩ := (isUnsigned_ofNat 200).exists_finite toRat_width.1
  rw [show width = ofNat 200 from rfl, ha]
  rfl

/-- The step is a finite number, and takes the indices in order to abscissas that do not pass the
right edge by more than rounding. -/
theorem exists_stretches_step (count : ℕ) :
    (step count).isFinite = true ∧ IsUnsigned (step count) ∧
      ∃ a d, Stretches (· * step count) 0 a 0 d ∧ d ≤ 200 + 1 / 250 ∧
        ∀ i < count, (ofNat i).isFinite = true → IsBetween 0 a (ofNat i) := by
  have hstill {s : Binary64} (hs : s.isFinite = true) (hs0 : s.toRat = 0) :
      ∃ a d, Stretches (· * s) 0 a 0 d ∧ d ≤ 200 + 1 / 250 ∧
        ∀ i < count, (ofNat i).isFinite = true → IsBetween 0 a (ofNat i) := by
    -- A step of zero keeps all abscissas at the left edge.
    have hrounded : IsRounded (magnitude rankLimit * s.toRat) zero := by
      rw [hs0, mul_zero]
      exact isRounded_zero
    have hstretch := Stretches.mul hs hs0.ge hrounded rfl
    rw [toRat_zero] at hstretch
    refine ⟨_, _, hstretch, by norm_num, fun i _ hi => ?_⟩
    have hself := isBetween_ofNat (le_refl i) hi
    exact ⟨hi, hself.le.trans hself.le', toRat_le_magnitude_rankLimit hi⟩
  unfold step
  split
  · next hcount =>
    cases hn : (ofNat (count - 1)).isFinite with
    | true =>
      have hone : 1 ≤ (ofNat (count - 1)).toRat := by
        obtain ⟨hone, hone'⟩ := toRat_ofNat (n := 1) (by decide)
        rw [← Nat.cast_one, ← hone']
        exact (isBetween_ofNat (by omega) hn).le'
      obtain ⟨hstep, hstep0, -⟩ := mul_step_le hn hone
      obtain ⟨hproduct, hle⟩ := toRat_mul_step_le hn hone
      refine ⟨hstep, (isUnsigned_ofNat 200).div toRat_width.1 (isUnsigned_ofNat _) (by linarith),
        _, _, .mul hstep hstep0 (isRounded_mul hn hstep) hproduct, hle, fun i hi _ => ?_⟩
      exact isBetween_ofNat (by omega) hn
    | false =>
      rw [ofNat_eq_infinite hn, width_div_infinite]
      exact ⟨rfl, ⟨0, rfl⟩, hstill rfl toRat_zero⟩
  · obtain ⟨hzero, hzero'⟩ := toRat_ofNat (n := 0) (by decide)
    exact ⟨hzero, isUnsigned_ofNat 0, hstill hzero (hzero'.trans Nat.cast_zero)⟩

/-- An index that is too large for a number has no abscissa. -/
theorem abscissa_eq_nan {count i : ℕ} (hi : (ofNat i).isFinite = false) (hcount : i < count) :
    ofNat i * step count = nan := by
  have hlast : (ofNat (count - 1)).isFinite = false := by
    by_contra h
    have hfinite := (isBetween_ofNat (m := i) (by omega) ((Bool.not_eq_false _).mp h)).isFinite
    exact absurd hfinite (ne_true_of_eq_false hi)
  have hpos : i ≠ 0 := by
    rintro rfl
    exact absurd (toRat_ofNat (n := 0) (by decide)).1 (ne_true_of_eq_false hi)
  rw [step, if_pos (by omega), ofNat_eq_infinite hlast, width_div_infinite,
    ofNat_eq_infinite hi]
  rfl

/-- Abscissas grow with the index, from the left edge to no further past the right one than rounding
takes them. -/
theorem abscissa_spec {count i j : ℕ} (hi : (ofNat i).isFinite = true)
    (hj : (ofNat j).isFinite = true) (hij : i ≤ j) (hcount : j < count) :
    IsBetween 0 (200 + 1 / 250) (ofNat i * step count) ∧ IsUnsigned (ofNat i * step count) ∧
      (ofNat i * step count).toRat ≤ (ofNat j * step count).toRat := by
  obtain ⟨hfinite, hunsigned, a, d, hstretch, hd, hindices⟩ := exists_stretches_step count
  have hx := hindices i (hij.trans_lt hcount) hi
  have hbetween := hstretch.between _ hx
  exact ⟨⟨hbetween.isFinite, hbetween.le, hbetween.le'.trans hd⟩,
    (isUnsigned_ofNat i).mul hi hunsigned hfinite,
    hstretch.mono _ _ hx (hindices j hcount hj) (isBetween_ofNat hij hj).le'⟩

end Sparkline
end PoolPage
