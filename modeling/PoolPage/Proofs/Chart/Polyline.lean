import PoolPage.Proofs.Chart.Coordinates
import PoolPage.Proofs.Number.Digits

/-!
# The line of a sparkline

A sparkline draws one point for each finite value, in order, inside its box; larger values are drawn
no lower, and where the values are not all equal, the largest are drawn at the top edge and the
smallest at the bottom edge (`IsScaled`).  This is so exactly if the values do not lie so far apart
that their difference overflows (`draw_iff`).
-/

namespace PoolPage
namespace Sparkline

open Binary64

/-! ## Written points -/

/-- The text of a point, whose coordinates are in hundredths. -/
def IsPoint (point : ℕ × ℕ) (text : String) : Prop :=
  ∃ xs ys, text.toList = xs ++ ',' :: ys ∧ Positional 2 point.1 xs ∧ Positional 2 point.2 ys

/-- A polyline through points, and nothing without points. -/
def IsPolyline (points : List (ℕ × ℕ)) (body : String) : Prop :=
  ∃ texts, List.Forall₂ IsPoint points texts ∧
    body = if texts.isEmpty then ""
      else "<polyline class=\"sparkline--line\" fill=\"none\" points=\"" ++
        String.intercalate " " texts ++ "\"/>"

/-- Points for a series of values, in a box of 200 times 100. -/
structure IsScaled (values : List Binary64) (points : List (ℕ × ℕ)) : Prop where
  length : points.length = values.length
  inside : ∀ point ∈ points, point.1 ≤ 20000 ∧ point.2 ≤ 10000
  rightward : points.Pairwise fun point next => point.1 ≤ next.1
  upward : ∀ a ∈ values.zip points, ∀ b ∈ values.zip points, a.1.le b.1 = true → b.2.2 ≤ a.2.2
  edges : (∃ v ∈ values, ∃ w ∈ values, v.lt w = true) → ∀ a ∈ values.zip points,
    ((∀ v ∈ values, v.le a.1 = true) → a.2.2 = 0) ∧
      ((∀ v ∈ values, a.1.le v = true) → a.2.2 = 10000)

/-! ## Hundredths -/

/-- The hundredths that are written of a coordinate. -/
def hundredths : Binary64 → ℕ
  | finite _ rank => Half.toEven.roundDiv (rankUnits rank * Nat.pow 10 places) unitsPerOne
  | _ => 0

section

variable {x y : Binary64} {n : ℕ}

theorem positional_hundredths (hx : x.isFinite = true) (hunsigned : IsUnsigned x) :
    Positional places (hundredths x) (Figure.halfEvenPlaces x places).toList := by
  obtain ⟨rank, rfl⟩ := hunsigned.exists_finite hx
  unfold Figure.halfEvenPlaces
  rw [String.toList_ofList, Figure.sign, if_neg Bool.false_ne_true, List.nil_append]
  unfold Figure.fixedRank hundredths
  exact positional_fixedDigits _ places

theorem hundredths_mono (hx : x.isFinite = true) (hy : y.isFinite = true)
    (hx' : IsUnsigned x) (hy' : IsUnsigned y) (hle : x.toRat ≤ y.toRat) :
    hundredths x ≤ hundredths y := by
  obtain ⟨a, rfl⟩ := hx'.exists_finite hx
  obtain ⟨b, rfl⟩ := hy'.exists_finite hy
  have hunits : rankUnits a ≤ rankUnits b := by
    have h : magnitude a ≤ magnitude b := hle
    rw [magnitude, magnitude, div_le_div_iff_of_pos_right cast_unitsPerOne_pos] at h
    exact_mod_cast h
  exact Half.roundDiv_mono .toEven unitsPerOne_pos (Nat.mul_le_mul_right _ hunits)

/-- A coordinate that passes a hundredth by less than a half is written as it. -/
theorem hundredths_le (hx : x.isFinite = true) (hx' : IsUnsigned x)
    (hle : x.toRat ≤ n / 100 + 1 / 250) : hundredths x ≤ n := by
  obtain ⟨a, rfl⟩ := hx'.exists_finite hx
  refine Half.roundDiv_le .toEven unitsPerOne_pos ?_
  have hone := cast_unitsPerOne_pos
  have hunits : (rankUnits a : ℚ) ≤ (n / 100 + 1 / 250) * unitsPerOne := (div_le_iff₀ hone).mp hle
  have hcast : (2 * (rankUnits a * 100) : ℚ) < 2 * (n * unitsPerOne) + unitsPerOne := by linarith
  exact_mod_cast hcast

theorem hundredths_eq (hx : x.isFinite = true) (hx' : IsUnsigned x) (heq : x.toRat = n / 100) :
    hundredths x = n := by
  obtain ⟨a, rfl⟩ := hx'.exists_finite hx
  have hone := cast_unitsPerOne_pos
  have hunits : rankUnits a * 100 = n * unitsPerOne := by
    have h : (rankUnits a : ℚ) = n / 100 * unitsPerOne := (div_eq_iff hone.ne').mp heq
    have hcast : (rankUnits a * 100 : ℚ) = n * unitsPerOne := by linarith
    exact_mod_cast hcast
  show Half.toEven.roundDiv (rankUnits a * 100) unitsPerOne = n
  rw [hunits, Half.roundDiv_mul _ _ unitsPerOne_pos]

end

/-! ## Scaled points -/

/-- The finite values with their indices. -/
def drawn (values : List Binary64) : List (Binary64 × ℕ) :=
  values.zipIdx.filter fun (value, _) => value.isFinite

/-- The point of a value, in hundredths. -/
def point (values : List Binary64) (value : Binary64 × ℕ) : ℕ × ℕ :=
  (hundredths (ofNat value.2 * step values.length),
    hundredths (ordinate (bounds values).1 (bounds values).2 value.1))

theorem coordinates_eq (values : List Binary64) :
    coordinates values = (drawn values).map fun value =>
      coordinate (ofNat value.2 * step values.length)
        (ordinate (bounds values).1 (bounds values).2 value.1) := rfl

section

variable {values : List Binary64}

theorem map_fst_drawn : (drawn values).map Prod.fst = values.filter Binary64.isFinite := by
  conv_rhs => rw [← List.zipIdx_map_fst 0 values]
  rw [List.filter_map]
  rfl

theorem pairwise_drawn : (drawn values).Pairwise fun v w => v.2 < w.2 := by
  have h := List.pairwise_lt_range' (s := 0) (n := values.length)
  rw [← List.zipIdx_map_snd 0 values, List.pairwise_map] at h
  exact h.filter _

/-- No index and no difference of two values is too large for a number. -/
structure Fits (values : List Binary64) : Prop where
  indices : ∀ v ∈ values.zipIdx, v.1.isFinite = true → (ofNat v.2).isFinite = true
  spans : ∀ v ∈ values, ∀ w ∈ values, v.isFinite = true → w.isFinite = true →
    (v - w).isFinite = true

theorem mem_drawn {v : Binary64 × ℕ} (hv : v ∈ drawn values) :
    v ∈ values.zipIdx ∧ v.1 ∈ values.filter Binary64.isFinite ∧ v.1.isFinite = true ∧
      v.2 < values.length := by
  obtain ⟨hmem, hfinite⟩ := List.mem_filter.mp hv
  exact ⟨hmem, List.mem_filter.mpr ⟨List.fst_mem_of_mem_zipIdx hmem, hfinite⟩, hfinite,
    List.snd_lt_of_mem_zipIdx hmem⟩

theorem isBounds_of_mem {v : Binary64} (hv : v ∈ values.filter Binary64.isFinite) :
    IsBounds (values.filter Binary64.isFinite) (bounds values).1 (bounds values).2 :=
  isBounds_bounds (List.ne_nil_of_mem hv)

theorem Fits.abscissa (h : Fits values) {v w : Binary64 × ℕ} (hv : v ∈ drawn values)
    (hw : w ∈ drawn values) (hvw : v.2 ≤ w.2) :
    IsBetween 0 (200 + 1 / 250) (ofNat v.2 * step values.length) ∧
      IsUnsigned (ofNat v.2 * step values.length) ∧
      (ofNat v.2 * step values.length).toRat ≤ (ofNat w.2 * step values.length).toRat := by
  obtain ⟨hv, -, hfinite, -⟩ := mem_drawn hv
  obtain ⟨hw, -, hfinite', hlength⟩ := mem_drawn hw
  exact abscissa_spec (h.indices v hv hfinite) (h.indices w hw hfinite') hvw hlength

theorem Fits.ordinate (h : Fits values) {v w : Binary64}
    (hv : v ∈ values.filter Binary64.isFinite) (hw : w ∈ values.filter Binary64.isFinite)
    (hvw : v.toRat ≤ w.toRat) :
    IsBetween 0 100 (ordinate (bounds values).1 (bounds values).2 v) ∧
      IsUnsigned (ordinate (bounds values).1 (bounds values).2 v) ∧
      (ordinate (bounds values).1 (bounds values).2 w).toRat ≤
        (ordinate (bounds values).1 (bounds values).2 v).toRat ∧
      ((bounds values).1.toRat < (bounds values).2.toRat →
        (v.toRat = (bounds values).1.toRat →
          (ordinate (bounds values).1 (bounds values).2 v).toRat = 100) ∧
          (v.toRat = (bounds values).2.toRat →
            (ordinate (bounds values).1 (bounds values).2 v).toRat = 0)) := by
  have hbounds := isBounds_of_mem hv
  obtain ⟨hlow, hlow'⟩ := List.mem_filter.mp hbounds.low_mem
  obtain ⟨hhigh, hhigh'⟩ := List.mem_filter.mp hbounds.high_mem
  have hbetween {x : Binary64} (hx : x ∈ values.filter Binary64.isFinite) :
      IsBetween (bounds values).1.toRat (bounds values).2.toRat x :=
    ⟨(List.mem_filter.mp hx).2, hbounds.low_le x hx, hbounds.le_high x hx⟩
  exact ordinate_spec hlow' hhigh' (h.spans _ hhigh _ hlow hhigh' hlow') (hbetween hv) (hbetween hw)
    hvw

theorem Fits.isPolyline (h : Fits values) :
    IsPolyline ((drawn values).map (point values)) (draw values).body := by
  refine ⟨coordinates values, ?_, rfl⟩
  rw [coordinates_eq, List.forall₂_map_left_iff, List.forall₂_map_right_iff, List.forall₂_same]
  intro v hv
  obtain ⟨hx, hx', -⟩ := h.abscissa hv hv (le_refl _)
  obtain ⟨-, hmem, -, -⟩ := mem_drawn hv
  obtain ⟨hy, hy', -, -⟩ := h.ordinate hmem hmem (le_refl _)
  refine ⟨_, _, ?_, positional_hundredths hx.isFinite hx', positional_hundredths hy.isFinite hy'⟩
  unfold coordinate
  rw [String.toList_append, String.toList_append, List.append_assoc]
  rfl

theorem Fits.isScaled (h : Fits values) :
    IsScaled (values.filter Binary64.isFinite) ((drawn values).map (point values)) := by
  have hzip : (values.filter Binary64.isFinite).zip ((drawn values).map (point values)) =
      (drawn values).map fun v => (v.1, point values v) := by
    rw [← map_fst_drawn, List.zip_map']
  have hfinite {v : Binary64} (hv : v ∈ values.filter Binary64.isFinite) : v.isFinite = true :=
    (List.mem_filter.mp hv).2
  constructor
  case length => rw [List.length_map, ← map_fst_drawn, List.length_map]
  case inside =>
    intro p hp
    obtain ⟨v, hv, rfl⟩ := List.mem_map.mp hp
    obtain ⟨hx, hx', -⟩ := h.abscissa hv hv (le_refl _)
    obtain ⟨-, hmem, -, -⟩ := mem_drawn hv
    obtain ⟨hy, hy', -, -⟩ := h.ordinate hmem hmem (le_refl _)
    exact ⟨hundredths_le hx.isFinite hx' (hx.le'.trans (by norm_num)),
      hundredths_le hy.isFinite hy' (hy.le'.trans (by norm_num))⟩
  case rightward =>
    rw [List.pairwise_map]
    refine pairwise_drawn.imp_of_mem fun hv hw hlt => ?_
    obtain ⟨hx, hx', hle⟩ := h.abscissa hv hw hlt.le
    obtain ⟨hy, hy', -⟩ := h.abscissa hw hw (le_refl _)
    exact hundredths_mono hx.isFinite hy.isFinite hx' hy' hle
  case upward =>
    rw [hzip]
    intro a ha b hb hle
    obtain ⟨v, hv, rfl⟩ := List.mem_map.mp ha
    obtain ⟨w, hw, rfl⟩ := List.mem_map.mp hb
    obtain ⟨-, hv, -, -⟩ := mem_drawn hv
    obtain ⟨-, hw, -, -⟩ := mem_drawn hw
    obtain ⟨hx, hx', hle, -⟩ :=
      h.ordinate hv hw ((le_iff_toRat_le (hfinite hv) (hfinite hw)).mp hle)
    obtain ⟨hy, hy', -, -⟩ := h.ordinate hw hw (le_refl _)
    exact hundredths_mono hy.isFinite hx.isFinite hy' hx' hle
  case edges =>
    rw [hzip]
    rintro ⟨v, hv, w, hw, hlt⟩ a ha
    obtain ⟨u, hu, rfl⟩ := List.mem_map.mp ha
    obtain ⟨-, hu, -, -⟩ := mem_drawn hu
    have hbounds := isBounds_of_mem hv
    have hspan := ((hbounds.low_le v hv).trans_lt
      ((lt_iff_toRat_lt (hfinite hv) (hfinite hw)).mp hlt)).trans_le (hbounds.le_high w hw)
    obtain ⟨hy, hy', -, hends⟩ := h.ordinate hu hu (le_refl _)
    obtain ⟨hbottom, htop⟩ := hends hspan
    refine ⟨fun hmax => ?_, fun hmin => ?_⟩
    · have hge := (le_iff_toRat_le (hfinite hbounds.high_mem) (hfinite hu)).mp
        (hmax _ hbounds.high_mem)
      have heq := htop (le_antisymm (hbounds.le_high _ hu) hge)
      exact hundredths_eq hy.isFinite hy' (heq.trans (by norm_num))
    · have hge := (le_iff_toRat_le (hfinite hu) (hfinite hbounds.low_mem)).mp
        (hmin _ hbounds.low_mem)
      have heq := hbottom (le_antisymm hge (hbounds.low_le _ hu))
      exact hundredths_eq hy.isFinite hy' (heq.trans (by norm_num))

end

/-! ## Overflow -/

/-- A text of digits has no letters. -/
theorem not_mem_of_positional {n d : ℕ} {cs : List Char} (h : Positional d n cs) : 'N' ∉ cs := by
  obtain ⟨whole, fraction, rfl, hwhole, hfraction, -, -⟩ := h
  intro hmem
  rcases List.mem_append.mp hmem with hmem | hmem
  · exact nomatch hwhole.allDigits _ hmem
  · cases fraction with
    | nil => exact nomatch hmem
    | cons c cs =>
      rcases List.mem_cons.mp hmem with hpoint | hmem
      · exact nomatch hpoint
      · exact nomatch hfraction _ hmem

theorem not_mem_of_isPoint {p : ℕ × ℕ} {text : String} (h : IsPoint p text) :
    'N' ∉ text.toList := by
  obtain ⟨xs, ys, htext, hx, hy⟩ := h
  rw [htext, List.mem_append, List.mem_cons, not_or, not_or]
  exact ⟨not_mem_of_positional hx, by decide, not_mem_of_positional hy⟩

theorem mem_intercalate_iff {texts : List String} {c : Char} (hc : c ≠ ' ') :
    c ∈ (String.intercalate " " texts).toList ↔ ∃ text ∈ texts, c ∈ text.toList := by
  match texts with
  | [] => exact iff_of_false (by rintro ⟨⟩) (by rintro ⟨-, ⟨⟩, -⟩)
  | [text] => simp
  | text :: next :: texts =>
    have ih := @mem_intercalate_iff (next :: texts) c hc
    rw [String.intercalate_cons_cons, String.toList_append, String.toList_append, List.mem_append,
      List.mem_append, ih]
    simp [hc]

theorem not_mem_of_isPolyline {points : List (ℕ × ℕ)} {body : String}
    (h : IsPolyline points body) : 'N' ∉ body.toList := by
  obtain ⟨texts, htexts, rfl⟩ := h
  have hpoints : ∀ text ∈ texts, 'N' ∉ text.toList := by
    induction htexts with
    | nil => nofun
    | cons hpoint _ ih => exact List.forall_mem_cons.mpr ⟨not_mem_of_isPoint hpoint, ih⟩
  split
  · exact List.not_mem_nil
  · rw [String.toList_append, String.toList_append, List.mem_append, List.mem_append,
      mem_intercalate_iff (by decide)]
    rintro ((hopen | ⟨text, htext, hmem⟩) | hclose)
    · revert hopen
      decide
    · exact hpoints text htext hmem
    · revert hclose
      decide

section

variable {values : List Binary64}

/-- A coordinate that is no number is legible in the drawing. -/
theorem mem_body {v : Binary64 × ℕ} (hv : v ∈ drawn values)
    (hnan : ofNat v.2 * step values.length = nan ∨
      ordinate (bounds values).1 (bounds values).2 v.1 = nan) :
    'N' ∈ (draw values).body.toList := by
  have hpoint : 'N' ∈ (coordinate (ofNat v.2 * step values.length)
      (ordinate (bounds values).1 (bounds values).2 v.1)).toList := by
    unfold coordinate
    rw [String.toList_append, String.toList_append, List.mem_append, List.mem_append]
    rcases hnan with hnan | hnan <;> rw [hnan]
    · exact .inl (.inl (by decide))
    · exact .inr (by decide)
  have hmem := List.mem_map_of_mem hv
    (f := fun v => coordinate (ofNat v.2 * step values.length)
      (ordinate (bounds values).1 (bounds values).2 v.1))
  have hsome : (coordinates values).isEmpty = false := by
    rw [List.isEmpty_eq_false_iff]
    exact List.ne_nil_of_mem hmem
  have hbody : (draw values).body =
      "<polyline class=\"sparkline--line\" fill=\"none\" points=\"" ++
        String.intercalate " " (coordinates values) ++ "\"/>" := by
    unfold draw
    simp only [hsome, Bool.false_eq_true, if_false]
  rw [hbody, String.toList_append, String.toList_append, List.mem_append, List.mem_append,
    mem_intercalate_iff (by decide)]
  exact .inl (.inr ⟨_, hmem, hpoint⟩)

theorem fits_of_not_mem (h : 'N' ∉ (draw values).body.toList) : Fits values := by
  constructor
  case indices =>
    intro v hv hfinite
    by_contra hindex
    have hdrawn : v ∈ drawn values := List.mem_filter.mpr ⟨hv, hfinite⟩
    exact h (mem_body hdrawn (.inl (abscissa_eq_nan (eq_false_of_ne_true hindex)
      (List.snd_lt_of_mem_zipIdx hv))))
  case spans =>
    intro v hv w hw hfinite hfinite'
    have hvmem : v ∈ values.filter Binary64.isFinite := List.mem_filter.mpr ⟨hv, hfinite⟩
    have hwmem : w ∈ values.filter Binary64.isFinite := List.mem_filter.mpr ⟨hw, hfinite'⟩
    have hbounds := isBounds_of_mem hvmem
    have hlow := (List.mem_filter.mp hbounds.low_mem).2
    have hhigh := (List.mem_filter.mp hbounds.high_mem).2
    have hspan : ((bounds values).2 - (bounds values).1).isFinite = true := by
      by_contra hspan
      have hmem := hbounds.high_mem
      rw [← map_fst_drawn] at hmem
      obtain ⟨u, hu, heq⟩ := List.mem_map.mp hmem
      refine h (mem_body hu (.inr ?_))
      rw [heq]
      exact ordinate_high_eq_nan hlow hhigh (hbounds.low_le _ hbounds.high_mem)
        (eq_false_of_ne_true hspan)
    have hrounded := isRounded_sub hhigh hlow
    refine ((isRounded_sub hfinite hfinite').between (isRounded_neg hrounded) hrounded
      (by rwa [isFinite_neg]) hspan ?_ ?_).1
    · linarith [hbounds.low_le v hvmem, hbounds.le_high w hwmem]
    · linarith [hbounds.low_le w hwmem, hbounds.le_high v hvmem]

end

/-- The drawing of a series is a polyline through points that are scaled to its box, one for each
finite value, exactly if no difference of two finite values overflows; and no index, which would
take a list of about 2¹⁰²⁴ values. -/
theorem draw_iff (values : List Binary64) :
    (∃ points, IsPolyline points (draw values).body ∧
        IsScaled (values.filter Binary64.isFinite) points) ↔
      (∀ v ∈ values.zipIdx, v.1.isFinite = true → (ofNat v.2).isFinite = true) ∧
        ∀ v ∈ values, ∀ w ∈ values, v.isFinite = true → w.isFinite = true →
          (v - w).isFinite = true := by
  constructor
  · rintro ⟨points, hpolyline, -⟩
    have h := fits_of_not_mem (not_mem_of_isPolyline hpolyline)
    exact ⟨h.indices, h.spans⟩
  · rintro ⟨hindices, hspans⟩
    have h : Fits values := ⟨hindices, hspans⟩
    exact ⟨_, h.isPolyline, h.isScaled⟩

/-- The number 10³⁰⁸. -/
def huge : Binary64 := (Decimal.mk 1 308).toBinary64 false

/-- Two values at both ends of the range: the larger one has no ordinate. -/
theorem not_isPolyline_hugeSpan :
    (draw [huge, huge.neg]).body =
        "<polyline class=\"sparkline--line\" fill=\"none\" points=\"0.00,NaN 200.00,100.00\"/>" ∧
      ¬∃ points, IsPolyline points (draw [huge, huge.neg]).body ∧
        IsScaled ([huge, huge.neg].filter Binary64.isFinite) points := by
  have hbody : (draw [huge, huge.neg]).body =
      "<polyline class=\"sparkline--line\" fill=\"none\" points=\"0.00,NaN 200.00,100.00\"/>" := by
    decide +kernel
  refine ⟨hbody, ?_⟩
  rintro ⟨points, hpolyline, -⟩
  rw [hbody] at hpolyline
  exact not_mem_of_isPolyline hpolyline (by decide)

end Sparkline
end PoolPage
