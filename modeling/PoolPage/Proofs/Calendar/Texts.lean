import PoolPage.Proofs.Calendar.Days
import PoolPage.Proofs.Figure.Plain

/-!
# Texts of seconds

The text of a second with a date is read as the date of its day and the time of it
(`read?_dateTime`); all other seconds are shown as numbers.  So no text is shown for two seconds
(`times_faithful`).
-/

namespace PoolPage

/-- A natural number of digits. -/
def readField? (cs : List Char) : Option Nat :=
  if !cs.isEmpty && cs.all Char.isDigit then some (ofDigits cs) else none

/-- Three natural numbers with marks between them. -/
def readFields? (mark : Char) (cs : List Char) : Option (Nat × Nat × Nat) :=
  match cs.splitOn mark with
  | [first, second, third] => do
    return (← readField? first, ← readField? second, ← readField? third)
  | _ => none

/-- A year with an optional sign, a month and a day. -/
def Date.read? (text : String) : Option Date := do
  let (negative, cs) := scanSign text.toList
  let (year, month, day) ← readFields? '-' cs
  return { year := if negative then -year else year, month := month, day := day }

/-- The second of a day at an hour, a minute and a second. -/
def readTime? (text : String) : Option Nat := do
  let (hour, minute, second) ← readFields? ':' text.toList
  guard (hour < 24 ∧ minute < 60 ∧ second < 60)
  return hour * 3600 + minute * 60 + second

namespace Moment

/-- A date and a time, with a blank between them. -/
def read? (text : String) : Option Moment :=
  match text.toList.splitOn ' ' with
  | [day, time] => do
    let date ← Date.read? (String.ofList day)
    let second ← readTime? (String.ofList time)
    return { date := date, secondOfDay := second }
  | _ => none

/-- The date and the time of a second since the beginning of 1970: the days before it are counted,
and the time is what is left. -/
structure IsSecond (seconds : Int) (m : Moment) : Prop where
  secondOfDay_lt : m.secondOfDay < 86400
  exists_day : ∃ n, Date.IsDay n m.date ∧ seconds = n * 86400 + m.secondOfDay

section

variable {mark : Char} {seconds : Int} {m : Moment}

/-! ## Fields -/

theorem toList_padded (width n : Nat) : ∃ zeros,
    (padded width n).toList = List.replicate zeros '0' ++ digitsOf n :=
  ⟨_, String.toList_ofList⟩

theorem allDigits_padded (width n : Nat) : AllDigits (padded width n).toList := by
  obtain ⟨zeros, htext⟩ := toList_padded width n
  rw [htext]
  exact (AllDigits.replicate_zero zeros).append (.digitsOf n)

theorem notMem_padded (hmark : mark.isDigit = false) (width n : Nat) :
    mark ∉ (padded width n).toList := by
  intro hmem
  exact Bool.false_ne_true (hmark.symm.trans (allDigits_padded width n mark hmem))

theorem readField?_padded (width n : Nat) : readField? (padded width n).toList = some n := by
  have hall : (padded width n).toList.all Char.isDigit = true :=
    List.all_eq_true.mpr (allDigits_padded width n)
  obtain ⟨zeros, htext⟩ := toList_padded width n
  have hne : (padded width n).toList.isEmpty = false := by
    rw [htext, List.isEmpty_eq_false_iff]
    exact List.append_ne_nil_of_right_ne_nil _ (digitsOf_ne_nil n)
  have hvalue : ofDigits (padded width n).toList = n := by
    rw [htext, ofDigits_append, ofDigits_replicate_zero, ofDigits_digitsOf, Nat.zero_mul,
      Nat.zero_add]
  rw [readField?, hall, hne, hvalue]
  rfl

theorem readFields?_padded (mark : Char) (hmark : mark.isDigit = false)
    (width width' width'' first second third : Nat) :
    readFields? mark ((padded width first).toList ++ mark :: ((padded width' second).toList ++
      mark :: (padded width'' third).toList)) = some (first, second, third) := by
  rw [readFields?, List.splitOn_append_cons_self_of_not_mem (notMem_padded hmark _ _),
    List.splitOn_append_cons_self_of_not_mem (notMem_padded hmark _ _),
    List.splitOn_eq_singleton (notMem_padded hmark _ _)]
  simp only [readField?_padded]
  rfl

/-! ## Dates and times -/

theorem scanSign_padded (width n : Nat) (rest : List Char) :
    scanSign ((padded width n).toList ++ rest) = (false, (padded width n).toList ++ rest) := by
  cases htext : (padded width n).toList with
  | nil =>
    have hread := readField?_padded width n
    rw [htext] at hread
    cases hread
  | cons c cs =>
    have hc : c.isDigit = true := allDigits_padded width n c (htext ▸ List.mem_cons_self)
    exact scanSign_cons hc (cs ++ rest)

/-- A year is its digits, with a sign outside of the first ten thousand years. -/
theorem scanSign_yearText (year : Int) (rest : List Char) :
    ∃ (negative : Bool) (n : Nat), year = (if negative then -(n : Int) else n) ∧
      scanSign ((yearText year).toList ++ rest) = (negative, (padded 4 n).toList ++ rest) := by
  unfold yearText
  split_ifs with hshort hnegative
  · exact ⟨false, year.toNat, (Int.toNat_of_nonneg hshort.1).symm, scanSign_padded 4 _ rest⟩
  · refine ⟨true, year.natAbs, ?_, ?_⟩
    · rw [if_pos rfl]
      omega
    · rw [String.toList_append]
      rfl
  · refine ⟨false, year.natAbs, ?_, ?_⟩
    · rw [if_neg Bool.false_ne_true]
      omega
    · rw [String.toList_append]
      rfl

theorem blank_notMem_yearText (year : Int) : ' ' ∉ (yearText year).toList := by
  have hdigits (n : Nat) := notMem_padded (show ' '.isDigit = false from rfl) 4 n
  unfold yearText
  split_ifs
  · exact hdigits _
  · rw [String.toList_append, List.mem_append]
    exact not_or_intro (by decide) (hdigits _)
  · rw [String.toList_append, List.mem_append]
    exact not_or_intro (by decide) (hdigits _)

theorem toList_dateText (m : Moment) : m.dateText.toList = (yearText m.date.year).toList ++ '-' ::
    ((padded 2 m.date.month).toList ++ '-' :: (padded 2 m.date.day).toList) := by
  have hmark : "-".toList = ['-'] := rfl
  simp only [dateText, String.toList_append, hmark, List.append_assoc, List.cons_append,
    List.nil_append]

theorem toList_timeText (m : Moment) : m.timeText.toList =
    (padded 2 (m.secondOfDay / 3600)).toList ++ ':' ::
      ((padded 2 (m.secondOfDay % 3600 / 60)).toList ++ ':' ::
        (padded 2 (m.secondOfDay % 60)).toList) := by
  have hmark : ":".toList = [':'] := rfl
  simp only [timeText, String.toList_append, hmark, List.append_assoc, List.cons_append,
    List.nil_append]

theorem read?_dateText (m : Moment) : Date.read? m.dateText = some m.date := by
  obtain ⟨negative, n, hyear, hscan⟩ := scanSign_yearText m.date.year
    ('-' :: ((padded 2 m.date.month).toList ++ '-' :: (padded 2 m.date.day).toList))
  rw [Date.read?, toList_dateText, hscan]
  simp only [readFields?_padded '-' rfl, Option.bind_eq_bind, Option.bind_some, Option.pure_def,
    ← hyear]

theorem read?_timeText (h : m.secondOfDay < 86400) : readTime? m.timeText = some m.secondOfDay := by
  have hhour : m.secondOfDay / 3600 < 24 := by omega
  have hminute : m.secondOfDay % 3600 / 60 < 60 := by omega
  have hsecond : m.secondOfDay % 60 < 60 := by omega
  have hsum : m.secondOfDay / 3600 * 3600 + m.secondOfDay % 3600 / 60 * 60 + m.secondOfDay % 60 =
      m.secondOfDay := by omega
  rw [readTime?, toList_timeText, readFields?_padded ':' rfl]
  simp [guard, hhour, hminute, hsecond, hsum]

theorem blank_notMem_dateText (m : Moment) : ' ' ∉ m.dateText.toList := by
  have hdigits (n : Nat) := notMem_padded (show ' '.isDigit = false from rfl) 2 n
  rw [toList_dateText]
  simp [blank_notMem_yearText, hdigits]

theorem blank_notMem_timeText (m : Moment) : ' ' ∉ m.timeText.toList := by
  have hdigits (n : Nat) := notMem_padded (show ' '.isDigit = false from rfl) 2 n
  rw [toList_timeText]
  simp [hdigits]

/-- A date and a time are read as they are. -/
theorem read?_dateTime (h : m.secondOfDay < 86400) :
    read? (m.dateText ++ " " ++ m.timeText) = some m := by
  have hsplit : (m.dateText ++ " " ++ m.timeText).toList.splitOn ' ' =
      [m.dateText.toList, m.timeText.toList] := by
    have hblank : " ".toList = [' '] := rfl
    rw [String.toList_append, String.toList_append, hblank, List.append_assoc,
      List.singleton_append, List.splitOn_append_cons_self_of_not_mem (blank_notMem_dateText m),
      List.splitOn_eq_singleton (blank_notMem_timeText m)]
  rw [read?, hsplit]
  simp only [String.ofList_toList, read?_dateText, read?_timeText h]
  rfl

/-! ## Seconds -/

theorem isSecond_ofEpochSecond (seconds : Int) : IsSecond seconds (ofEpochSecond seconds) := by
  have hlow : 0 ≤ seconds.emod 86400 := Int.emod_nonneg _ (by decide)
  have hhigh : seconds.emod 86400 < 86400 := Int.emod_lt_of_pos _ (by decide)
  have hsplit : seconds.emod 86400 + 86400 * seconds.ediv 86400 = seconds :=
    Int.emod_add_mul_ediv _ _
  constructor
  · show (seconds.emod 86400).toNat < 86400
    omega
  · refine ⟨seconds.ediv 86400, Date.isDay_iff.mpr rfl, ?_⟩
    show seconds = _ + ((seconds.emod 86400).toNat : Int)
    omega

theorem IsSecond.eq_toEpochSecond (h : IsSecond seconds m) : seconds = m.toEpochSecond := by
  obtain ⟨n, hday, hseconds⟩ := h.exists_day
  rw [toEpochSecond, Date.isDay_iff.mp hday, (Date.ofEpochDay_spec n).2]
  exact hseconds

/-- The seconds of the years from -262143 to 262142. -/
theorem inRange_iff (seconds : Int) : firstSecond ≤ seconds ∧ seconds ≤ lastSecond ↔
    -262143 ≤ (ofEpochSecond seconds).date.year ∧ (ofEpochSecond seconds).date.year ≤ 262142 := by
  obtain ⟨hvalid, hday⟩ := Date.ofEpochDay_spec (seconds.ediv 86400)
  have hlow := hvalid.year_lt_iff (-262143)
  have hhigh := hvalid.year_lt_iff 262143
  have hfirst : Date.toEpochDay ⟨-262143, 1, 1⟩ * 86400 = firstSecond := rfl
  have hlast : Date.toEpochDay ⟨262143, 1, 1⟩ * 86400 = lastSecond + 1 := rfl
  have hnonneg : 0 ≤ seconds.emod 86400 := Int.emod_nonneg _ (by decide)
  have hless : seconds.emod 86400 < 86400 := Int.emod_lt_of_pos _ (by decide)
  have hsplit : seconds.emod 86400 + 86400 * seconds.ediv 86400 = seconds :=
    Int.emod_add_mul_ediv _ _
  show _ ↔ -262143 ≤ (Date.ofEpochDay (seconds.ediv 86400)).year ∧
    (Date.ofEpochDay (seconds.ediv 86400)).year ≤ 262142
  rw [hday] at hlow hhigh
  omega

theorem blank_notMem_toString (i : Int) : ' ' ∉ (toString i).toList := by
  rw [Figure.toList_toString_int, List.mem_append]
  refine not_or_intro ?_ fun hmem => Bool.false_ne_true (AllDigits.digitsOf _ ' ' hmem)
  cases decide (i < 0) <;> decide

theorem read?_toString (i : Int) : read? (toString i) = none := by
  rw [read?, List.splitOn_eq_singleton (blank_notMem_toString i)]

theorem toString_int_inj {i j : Int} (h : toString i = toString j) : i = j := by
  have htext := congrArg String.toList h
  rw [Figure.toList_toString_int, Figure.toList_toString_int] at htext
  obtain ⟨hsign, hdigits⟩ := Figure.sign_append_inj (Figure.positional_digitsOf _).exists_cons
    (Figure.positional_digitsOf _).exists_cons htext
  have habs := congrArg ofDigits hdigits
  rw [ofDigits_digitsOf, ofDigits_digitsOf] at habs
  have hiff := decide_eq_decide.mp hsign
  omega

theorem read?_dateTimeText (seconds : Int) : read? (dateTimeText seconds) =
    if firstSecond ≤ seconds ∧ seconds ≤ lastSecond then some (ofEpochSecond seconds)
    else none := by
  rw [dateTimeText, render]
  split_ifs
  · exact read?_dateTime (isSecond_ofEpochSecond seconds).secondOfDay_lt
  · exact read?_toString seconds

/-- A text is shown for one second only. -/
theorem dateTimeText_inj {seconds other : Int} (h : dateTimeText seconds = dateTimeText other) :
    seconds = other := by
  have hread := congrArg read? h
  rw [read?_dateTimeText, read?_dateTimeText] at hread
  split_ifs at hread with hin hin' hin'
  · have heq := (isSecond_ofEpochSecond seconds).eq_toEpochSecond
    rw [Option.some.inj hread] at heq
    rw [heq, ← (isSecond_ofEpochSecond other).eq_toEpochSecond]
  · rw [dateTimeText, dateTimeText, render, render, if_neg hin, if_neg hin'] at h
    exact toString_int_inj h

/-- The text of a second in the years from -262143 to 262142 is read as its date and time of day,
and ends in the text of the time, which is read as the time.  Other seconds are shown as plain
numbers.  No two seconds are shown alike. -/
theorem times_faithful (seconds : Int) :
    ∃ m, IsSecond seconds m ∧
      (if -262143 ≤ m.date.year ∧ m.date.year ≤ 262142 then
        read? (dateTimeText seconds) = some m ∧
          (∃ day, dateTimeText seconds = day ++ " " ++ timeOfDayText seconds) ∧
          readTime? (timeOfDayText seconds) = some m.secondOfDay
      else dateTimeText seconds = toString seconds ∧ timeOfDayText seconds = toString seconds) ∧
      ∀ other, dateTimeText other = dateTimeText seconds ↔ other = seconds := by
  have hsecond := isSecond_ofEpochSecond seconds
  refine ⟨ofEpochSecond seconds, hsecond, ?_,
    fun other => ⟨dateTimeText_inj, congrArg dateTimeText⟩⟩
  rw [read?_dateTimeText, dateTimeText, timeOfDayText, render, render]
  simp only [← inRange_iff]
  split_ifs
  · exact ⟨rfl, ⟨_, rfl⟩, read?_timeText hsecond.secondOfDay_lt⟩
  · exact ⟨rfl, rfl⟩

/-- The last second of a leap day before the year 0. -/
example : dateTimeText (-62288265601) = "-0004-02-29 23:59:59" ∧
    read? "-0004-02-29 23:59:59" = some ⟨⟨-4, 2, 29⟩, 86399⟩ := by
  decide +kernel

end

end Moment
end PoolPage
