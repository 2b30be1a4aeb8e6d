import PoolPage.Calendar
import Mathlib.Tactic.IntervalCases

/-!
# Days of the calendar

The days are counted from 1 January 1970, one by one and in both directions (`IsDay`); each number
is that of one date (`isDay_iff`).  Months and years follow each other as their lengths say, so that
days are in the order of their dates.
-/

namespace PoolPage
namespace Date

/-- A month of the year and a day of the month. -/
structure IsValid (d : Date) : Prop where
  month_pos : 1 ≤ d.month
  month_le : d.month ≤ 12
  day_pos : 1 ≤ d.day
  day_le : d.day ≤ monthLength d.year d.month

/-- The day after. -/
def next (d : Date) : Date :=
  if d.day < monthLength d.year d.month then { d with day := d.day + 1 }
  else if d.month < 12 then { year := d.year, month := d.month + 1, day := 1 }
  else { year := d.year + 1, month := 1, day := 1 }

/-- The date of a day, counting from 1 January 1970. -/
inductive IsDay : Int → Date → Prop
  | epoch : IsDay 0 { year := 1970, month := 1, day := 1 }
  | next {n : Int} {d : Date} (h : IsDay n d) : IsDay (n + 1) d.next
  | previous {n : Int} {d : Date} (hvalid : d.IsValid) (h : IsDay (n + 1) d.next) : IsDay n d

section

variable {d e : Date} {year year' n : Int} {month month' day : Nat}

/-! ## Lengths -/

theorem isLeapYear_iff (year : Int) :
    isLeapYear year = true ↔ year % 4 = 0 ∧ (year % 100 ≠ 0 ∨ year % 400 = 0) := by
  simp only [isLeapYear, Bool.and_eq_true, Bool.or_eq_true, decide_eq_true_eq]
  exact Iff.rfl

theorem monthLength_bounds (year : Int) (month : Nat) :
    28 ≤ monthLength year month ∧ monthLength year month ≤ 31 := by
  unfold monthLength
  split_ifs <;> decide

theorem monthLength_february (year : Int) :
    (monthLength year 2 : Int) = 28 + (year / 4 - (year - 1) / 4) -
      (year / 100 - (year - 1) / 100) + (year / 400 - (year - 1) / 400) := by
  have hiff := isLeapYear_iff year
  cases hleap : isLeapYear year with
  | true =>
    have hyear := hiff.mp hleap
    simp only [monthLength, hleap, if_true]
    omega
  | false =>
    have hyear := mt hiff.mpr (Bool.eq_false_iff.mp hleap)
    simp only [monthLength, hleap, if_true, Bool.false_eq_true, if_false]
    omega

/-- The first of March. -/
def firstMarch (year : Int) : Int := year * 365 + year / 4 - year / 100 + year / 400 - 719468

theorem toEpochDay_of_lt (h : month < 3) : toEpochDay ⟨year, month, day⟩ =
    firstMarch (year - 1) + (daysBeforeMonth (month + 9) + day - 1 : Nat) := by
  simp only [toEpochDay, if_pos h]
  exact add_sub_right_comm _ _ _

theorem toEpochDay_of_ge (h : 3 ≤ month) : toEpochDay ⟨year, month, day⟩ =
    firstMarch year + (daysBeforeMonth (month - 3) + day - 1 : Nat) := by
  simp only [toEpochDay, if_neg h.not_gt]
  exact add_sub_right_comm _ _ _

/-! ## Successive days -/

theorem toEpochDay_day (year : Int) (month : Nat) (h : 1 ≤ day) :
    toEpochDay ⟨year, month, day⟩ = toEpochDay ⟨year, month, 1⟩ + day - 1 := by
  simp only [toEpochDay]
  omega

theorem toEpochDay_month_succ (year : Int) (h : 1 ≤ month) (h' : month < 12) :
    toEpochDay ⟨year, month + 1, 1⟩ = toEpochDay ⟨year, month, 1⟩ + monthLength year month := by
  obtain rfl | rfl | hlate : month = 1 ∨ month = 2 ∨ 3 ≤ month := by omega
  · have hlength : monthLength year 1 = 31 := rfl
    rw [toEpochDay_of_lt (by decide), toEpochDay_of_lt (by decide), hlength]
    simp only [daysBeforeMonth]
    omega
  · -- The year from March ends.
    rw [toEpochDay_of_ge (by decide), toEpochDay_of_lt (by decide), monthLength_february]
    simp only [daysBeforeMonth, firstMarch]
    omega
  · have hlength : daysBeforeMonth (month + 1 - 3) =
        daysBeforeMonth (month - 3) + monthLength year month := by
      interval_cases month <;> rfl
    rw [toEpochDay_of_ge (by omega), toEpochDay_of_ge hlate, hlength]
    omega

theorem toEpochDay_year_succ (year : Int) :
    toEpochDay ⟨year + 1, 1, 1⟩ = toEpochDay ⟨year, 12, 1⟩ + monthLength year 12 := by
  have hlength : monthLength year 12 = 31 := rfl
  rw [toEpochDay_of_lt (by decide), toEpochDay_of_ge (by decide), hlength, Int.add_sub_cancel]
  simp only [daysBeforeMonth]
  omega

theorem IsValid.next (h : d.IsValid) : d.next.IsValid := by
  have hmonth := h.month_le
  have hpos := h.day_pos
  unfold Date.next
  split_ifs with hday hlast
  · exact { h with day_pos := Nat.le_add_left 1 _, day_le := hday }
  · exact ⟨Nat.le_add_left 1 _, hlast, Nat.le_refl 1,
      Nat.le_trans (Nat.le_add_left 1 27) (monthLength_bounds _ _).1⟩
  · exact ⟨Nat.le_refl 1, Nat.le_add_left 1 11, Nat.le_refl 1, Nat.le_add_left 1 30⟩

/-- The day after has the next number. -/
theorem IsValid.toEpochDay_next (h : d.IsValid) : d.next.toEpochDay = d.toEpochDay + 1 := by
  obtain ⟨year, month, day⟩ := d
  obtain ⟨hmonth, hmonth', hday, hday'⟩ := h
  have hcount := toEpochDay_day year month hday
  unfold Date.next
  split_ifs with hwithin hmore
  · have hcount' := toEpochDay_day year month (Nat.le_add_left 1 day)
    dsimp only at *
    omega
  · have hsucc := toEpochDay_month_succ year hmonth hmore
    dsimp only at *
    omega
  · have hlast : month = 12 := by
      dsimp only at *
      omega
    subst hlast
    have hsucc := toEpochDay_year_succ year
    dsimp only at *
    omega

/-! ## Order -/

/-- The days of a month are before all later months of the year. -/
theorem toEpochDay_month_lt (year : Int) (h : 1 ≤ month) (hlt : month < month') (h' : month' ≤ 12) :
    toEpochDay ⟨year, month, 1⟩ + monthLength year month ≤ toEpochDay ⟨year, month', 1⟩ := by
  induction month', hlt using Nat.le_induction with
  | base => exact (toEpochDay_month_succ year h h').ge
  | succ month' hlt ih =>
    have hsucc := toEpochDay_month_succ year (Nat.one_le_of_lt hlt) h'
    have hprevious := ih (Nat.le_of_succ_le h')
    omega

theorem newYear_le (h : year ≤ year') : toEpochDay ⟨year, 1, 1⟩ ≤ toEpochDay ⟨year', 1, 1⟩ := by
  rw [toEpochDay_of_lt (by decide), toEpochDay_of_lt (by decide)]
  simp only [firstMarch]
  omega

/-- A day is in its month. -/
theorem IsValid.month_bounds (h : d.IsValid) :
    toEpochDay ⟨d.year, d.month, 1⟩ ≤ d.toEpochDay ∧
      d.toEpochDay < toEpochDay ⟨d.year, d.month, 1⟩ + monthLength d.year d.month := by
  have hcount : d.toEpochDay = _ := toEpochDay_day d.year d.month h.day_pos
  have hpos := h.day_pos
  have hle := h.day_le
  omega

/-- A day is in its year. -/
theorem IsValid.year_bounds (h : d.IsValid) :
    toEpochDay ⟨d.year, 1, 1⟩ ≤ d.toEpochDay ∧ d.toEpochDay < toEpochDay ⟨d.year + 1, 1, 1⟩ := by
  obtain ⟨hlow, hhigh⟩ := h.month_bounds
  have hsucc := toEpochDay_year_succ d.year
  constructor
  · obtain hone | hlater := h.month_pos.eq_or_lt
    · rwa [← hone] at hlow
    · have hfirst := toEpochDay_month_lt d.year le_rfl hlater h.month_le
      omega
  · obtain hlast | hearlier := h.month_le.eq_or_lt
    · rw [hlast] at hhigh
      omega
    · have hlast := toEpochDay_month_lt d.year h.month_pos hearlier le_rfl
      omega

theorem IsValid.year_lt_iff (h : d.IsValid) (year : Int) :
    d.year < year ↔ d.toEpochDay < toEpochDay ⟨year, 1, 1⟩ := by
  obtain ⟨hlow, hhigh⟩ := h.year_bounds
  refine ⟨fun hlt => hhigh.trans_le (newYear_le hlt), fun hlt => ?_⟩
  by_contra hge
  exact (hlow.trans_lt hlt).not_ge (newYear_le (not_lt.mp hge))

/-- A number is that of one date at most. -/
theorem IsValid.eq_of_toEpochDay (h : d.IsValid) (h' : e.IsValid)
    (heq : d.toEpochDay = e.toEpochDay) : d = e := by
  have hyear : d.year = e.year := by
    refine le_antisymm (not_lt.mp fun hlt => ?_) (not_lt.mp fun hlt => ?_)
    · rw [h'.year_lt_iff, ← heq] at hlt
      exact hlt.not_ge h.year_bounds.1
    · rw [h.year_lt_iff, heq] at hlt
      exact hlt.not_ge h'.year_bounds.1
  obtain ⟨hlow, hhigh⟩ := h.month_bounds
  obtain ⟨hlow', hhigh'⟩ := h'.month_bounds
  rw [hyear] at hlow hhigh
  have hmonth : d.month = e.month := by
    obtain hlt | heq | hlt := Nat.lt_trichotomy d.month e.month
    · have hle := toEpochDay_month_lt e.year h.month_pos hlt h'.month_le
      omega
    · exact heq
    · have hle := toEpochDay_month_lt e.year h'.month_pos hlt h.month_le
      omega
  have hday := toEpochDay_day d.year d.month h.day_pos
  have hday' := toEpochDay_day e.year e.month h'.day_pos
  obtain ⟨year, month, day⟩ := d
  obtain ⟨year', month', day'⟩ := e
  dsimp only at hyear hmonth hday hday'
  subst hyear hmonth
  have : day = day' := by omega
  rw [this]

/-! ## Dates of numbers -/

/-- The date of a day in a year from March. -/
def ofYearDay (marchYear : Int) (inYear : Nat) : Date :=
  let month := (5 * inYear + 2) / 153
  { year := if month < 10 then marchYear else marchYear + 1
    month := if month < 10 then month + 3 else month - 9
    day := inYear - daysBeforeMonth month + 1 }

/-- A number is taken apart into cycles of 400 years, centuries, groups of four years, years and
days; only the last year of a group has a day more, and of the last group only in the last
century. -/
theorem exists_ofYearDay (n : Int) : ∃ (era : Int) (century group year inYear : Nat),
    n = era * 146097 + (century * 36524 + group * 1461 + year * 365 + inYear : Nat) - epochOffset ∧
      century ≤ 3 ∧ group ≤ 24 ∧ year ≤ 3 ∧
      (inYear < 365 ∨ inYear = 365 ∧ year = 3 ∧ (group = 24 → century = 3)) ∧
      ofEpochDay n = ofYearDay (era * 400 + (century * 100 + group * 4 + year : Nat)) inYear := by
  have hlow : 0 ≤ (n + epochOffset).emod 146097 := Int.emod_nonneg _ (by decide)
  have hhigh : (n + epochOffset).emod 146097 < 146097 := Int.emod_lt_of_pos _ (by decide)
  have hsplit : (n + epochOffset).emod 146097 + 146097 * (n + epochOffset).ediv 146097 =
      n + epochOffset := Int.emod_add_mul_ediv _ _
  refine ⟨_, _, _, _, _, ?_, ?_, ?_, ?_, ?_, rfl⟩
  all_goals omega

theorem ofYearDay_spec {marchYear : Int} {inYear : Nat}
    (h : inYear < 365 ∨ inYear = 365 ∧ isLeapYear (marchYear + 1) = true) :
    (ofYearDay marchYear inYear).IsValid ∧
      (ofYearDay marchYear inYear).toEpochDay = firstMarch marchYear + inYear := by
  have hlow : daysBeforeMonth ((5 * inYear + 2) / 153) ≤ inYear := by
    simp only [daysBeforeMonth]
    omega
  have hhigh : inYear < daysBeforeMonth ((5 * inYear + 2) / 153 + 1) := by
    simp only [daysBeforeMonth]
    omega
  have hmonth : (5 * inYear + 2) / 153 < 12 := by omega
  unfold ofYearDay
  generalize (5 * inYear + 2) / 153 = month at hlow hhigh hmonth
  dsimp only
  split_ifs with hsame
  · have hlength : monthLength marchYear (month + 3) =
        daysBeforeMonth (month + 1) - daysBeforeMonth month := by
      interval_cases month <;> rfl
    refine ⟨⟨Nat.le_add_left 1 _, ?_, Nat.le_add_left 1 _, ?_⟩, ?_⟩
    · dsimp only
      omega
    · dsimp only
      omega
    · rw [toEpochDay_of_ge (Nat.le_add_left 3 _), Nat.add_sub_cancel]
      omega
  · have hten : 10 ≤ month := not_lt.mp hsame
    have hlength : inYear - daysBeforeMonth month + 1 ≤
        monthLength (marchYear + 1) (month - 9) := by
      obtain rfl | rfl : month = 10 ∨ month = 11 := by omega
      · have hjanuary : monthLength (marchYear + 1) (10 - 9) = 31 := rfl
        simp only [daysBeforeMonth] at hhigh hlow ⊢
        omega
      · have hfebruary : monthLength (marchYear + 1) (11 - 9) =
            if isLeapYear (marchYear + 1) then 29 else 28 := rfl
        simp only [daysBeforeMonth, hfebruary] at hhigh hlow ⊢
        split_ifs with hleap
        · omega
        · have hshort : inYear < 365 := h.resolve_right fun hlast => hleap hlast.2
          omega
    refine ⟨⟨?_, ?_, Nat.le_add_left 1 _, hlength⟩, ?_⟩
    · dsimp only
      omega
    · dsimp only
      omega
    · rw [toEpochDay_of_lt (by omega), Int.add_sub_cancel,
        Nat.sub_add_cancel (Nat.le_of_succ_le hten)]
      omega

/-- Each number has a date. -/
theorem ofEpochDay_spec (n : Int) : (ofEpochDay n).IsValid ∧ (ofEpochDay n).toEpochDay = n := by
  obtain ⟨era, century, group, year, inYear, hn, hcentury, hgroup, hyear, hinYear, heq⟩ :=
    exists_ofYearDay n
  have hleap : inYear < 365 ∨ inYear = 365 ∧
      isLeapYear (era * 400 + (century * 100 + group * 4 + year : Nat) + 1) = true := by
    rw [isLeapYear_iff]
    omega
  obtain ⟨hvalid, hday⟩ := ofYearDay_spec hleap
  refine ⟨heq ▸ hvalid, ?_⟩
  rw [heq, hday, hn]
  simp only [firstMarch, epochOffset]
  omega

/-! ## Counting -/

theorem next_ofEpochDay (n : Int) : (ofEpochDay n).next = ofEpochDay (n + 1) := by
  obtain ⟨hvalid, hday⟩ := ofEpochDay_spec n
  obtain ⟨hvalid', hday'⟩ := ofEpochDay_spec (n + 1)
  refine hvalid.next.eq_of_toEpochDay hvalid' ?_
  rw [hvalid.toEpochDay_next, hday, hday']

/-- Counting reaches each day once, at the date of its number. -/
theorem isDay_iff : IsDay n d ↔ d = ofEpochDay n := by
  constructor
  · intro h
    induction h with
    | epoch => rfl
    | next _ ih =>
      rw [ih]
      exact next_ofEpochDay _
    | @previous n d hvalid _ ih =>
      obtain ⟨hvalid', hday'⟩ := ofEpochDay_spec n
      refine hvalid.eq_of_toEpochDay hvalid' ?_
      have hnext := hvalid.toEpochDay_next
      rw [ih, (ofEpochDay_spec (n + 1)).2] at hnext
      omega
  · rintro rfl
    induction n using Int.induction_on with
    | zero => exact .epoch
    | succ n ih =>
      rw [← next_ofEpochDay]
      exact ih.next
    | pred n ih =>
      refine .previous (ofEpochDay_spec _).1 ?_
      rwa [next_ofEpochDay, Int.sub_add_cancel]

end

end Date
end PoolPage
