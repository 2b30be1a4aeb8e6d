import PoolPage.Number.Decimal

/-!
Dates and times of day in UTC, from seconds since 1970 and back.

Years are counted from March, so that a leap day is the last day of its year.  Then 400
years are three centuries of 36524 days and one of 36525, a century is 25 groups of
four years with 1461 days, the last possibly a day shorter, and a group is three years of 365 days
and one that may have 366.  Each level divides by the usual length, with the
last unit taking the odd day.
-/

namespace PoolPage

/-- A day of the proleptic Gregorian calendar. -/
structure Date where
  year : Int
  month : Nat
  day : Nat
deriving DecidableEq, Repr

namespace Date

/-- Days before the first of a month, in a year from March (month 0) to February. -/
def daysBeforeMonth (month : Nat) : Nat := (153 * month + 2) / 5

/-- Days from 1 March of the year 0 to 1 January 1970. -/
def epochOffset : Int := 719468

/-- The date a number of days after 1 January 1970. -/
def ofEpochDay (days : Int) : Date :=
  let shifted := days + epochOffset
  let inEra := (shifted.emod 146097).toNat
  let century := min (inEra / 36524) 3
  let inCentury := inEra - century * 36524
  let group := inCentury / 1461
  let inGroup := inCentury - group * 1461
  let year := min (inGroup / 365) 3
  let inYear := inGroup - year * 365
  let month := (5 * inYear + 2) / 153
  let marchYear := shifted.ediv 146097 * 400 + (century * 100 + group * 4 + year : Nat)
  { year := if month < 10 then marchYear else marchYear + 1
    month := if month < 10 then month + 3 else month - 9
    day := inYear - daysBeforeMonth month + 1 }

/-- Leap years are those divisible by four, except centuries not divisible by 400. -/
def isLeapYear (year : Int) : Bool :=
  year.emod 4 = 0 && (year.emod 100 ≠ 0 || year.emod 400 = 0)

def monthLength (year : Int) (month : Nat) : Nat :=
  if month = 2 then (if isLeapYear year then 29 else 28)
  else if month = 4 ∨ month = 6 ∨ month = 9 ∨ month = 11 then 30
  else 31

/-- The number of days from 1 January 1970 to a date. -/
def toEpochDay (d : Date) : Int :=
  let marchYear := if d.month < 3 then d.year - 1 else d.year
  let month := if d.month < 3 then d.month + 9 else d.month - 3
  marchYear * 365 + marchYear.ediv 4 - marchYear.ediv 100 + marchYear.ediv 400 +
    (daysBeforeMonth month + d.day - 1 : Nat) - epochOffset

end Date

/-- A second of UTC. -/
structure Moment where
  date : Date
  secondOfDay : Nat
deriving DecidableEq, Repr

namespace Moment

def ofEpochSecond (seconds : Int) : Moment where
  date := Date.ofEpochDay (seconds.ediv 86400)
  secondOfDay := (seconds.emod 86400).toNat

def toEpochSecond (m : Moment) : Int := m.date.toEpochDay * 86400 + m.secondOfDay

/-- The first and last seconds that have a date: years -262143 to 262142. -/
def firstSecond : Int := -8334601228800

def lastSecond : Int := 8210266876799

/-- A number with at least the given count of digits. -/
def padded (width n : Nat) : String :=
  let digits := digitsOf n
  String.ofList (List.replicate (width - digits.length) '0' ++ digits)

/-- Four digits within the first ten thousand years, and a sign outside of them. -/
def yearText (year : Int) : String :=
  if 0 ≤ year ∧ year ≤ 9999 then padded 4 year.toNat
  else (if year < 0 then "-" else "+") ++ padded 4 year.natAbs

def dateText (m : Moment) : String :=
  yearText m.date.year ++ "-" ++ padded 2 m.date.month ++ "-" ++ padded 2 m.date.day

def timeText (m : Moment) : String :=
  padded 2 (m.secondOfDay / 3600) ++ ":" ++ padded 2 (m.secondOfDay % 3600 / 60) ++ ":" ++
    padded 2 (m.secondOfDay % 60)

/-- The text of a timestamp; those without a date show as numbers. -/
def render (f : Moment → String) (seconds : Int) : String :=
  if firstSecond ≤ seconds ∧ seconds ≤ lastSecond then f (ofEpochSecond seconds)
  else toString seconds

end Moment

def dateTimeText (seconds : Int) : String :=
  Moment.render (fun m => m.dateText ++ " " ++ m.timeText) seconds

def timeOfDayText (seconds : Int) : String := Moment.render Moment.timeText seconds

end PoolPage
