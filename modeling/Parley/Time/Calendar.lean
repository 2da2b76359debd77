/-!
# The calendar

Dates of the proleptic Gregorian calendar from year 1 on, counted in days from the first of
January of year 1. The civil date of a day is found by peeling off cycles of four hundred, one
hundred, four and one years.
-/

namespace Parley.Time

/-- A day of the calendar. -/
structure Date where
  /-- The year, from 1. -/
  year : Nat
  /-- The month, from 1 to 12. -/
  month : Nat
  /-- The day of the month, from 1. -/
  day : Nat
deriving DecidableEq, Repr, Inhabited

/-- Whether a year has a twenty-ninth of February. -/
def isLeap (year : Nat) : Bool := year % 4 == 0 && (year % 100 != 0 || year % 400 == 0)

/-- The number of days in a month. -/
def daysInMonth (year month : Nat) : Nat :=
  if month = 2 then (if isLeap year then 29 else 28)
  else if month = 4 ∨ month = 6 ∨ month = 9 ∨ month = 11 then 30
  else 31

/-- The number of days of a year before a month. -/
def daysBeforeMonth (year : Nat) : (month : Nat) → Nat
  | 0 => 0
  | 1 => 0
  | month + 2 => daysBeforeMonth year (month + 1) + daysInMonth year (month + 1)

/-- The number of days before the first of January of a year. -/
def daysBeforeYear (year : Nat) : Nat :=
  let past := year - 1
  past * 365 + past / 4 - past / 100 + past / 400

/-- The number of days from the start of the calendar to a date. -/
def Date.dayNumber (date : Date) : Nat :=
  daysBeforeYear date.year + daysBeforeMonth date.year date.month + (date.day - 1)

/-- The month and the day of the month of a day of the year, counted from zero; months before
`month` have been passed, `left` days are left and at most `fuel` months follow. -/
def monthOfDay (year : Nat) : (fuel month left : Nat) → Nat × Nat
  | 0, month, left => (month, left + 1)
  | fuel + 1, month, left =>
    if left < daysInMonth year month then (month, left + 1)
    else monthOfDay year fuel (month + 1) (left - daysInMonth year month)

/-- The date of a day counted from the start of the calendar. -/
def Date.ofDayNumber (n : Nat) : Date :=
  let cycles := n / 146097
  let n := n % 146097
  let centuries := n / 36524
  let n := n % 36524
  let quads := n / 1461
  let n := n % 1461
  let singles := n / 365
  let n := n % 365
  let year := cycles * 400 + centuries * 100 + quads * 4 + singles + 1
  if singles = 4 ∨ centuries = 4 then ⟨year - 1, 12, 31⟩
  else
    let (month, day) := monthOfDay year 11 1 n
    ⟨year, month, day⟩

/-- The number of days of the calendar: it ends with year 9999. -/
def dayLimit : Nat := 3652059

/-- The day of the week, from zero for Monday. -/
def weekday (dayNumber : Nat) : Nat := dayNumber % 7

/-- The Monday of the first week of a year, counted in days: the week that holds the first
Thursday. It may lie before the calendar. -/
def firstWeekMonday (year : Nat) : Int :=
  let first := daysBeforeYear year
  let day := weekday first
  if day > 3 then (first : Int) - day + 7 else (first : Int) - day

/-- Whether a year has fifty-three weeks. -/
def hasLongWeeks (year : Nat) : Bool :=
  let day := weekday (daysBeforeYear year)
  day == 3 || (day == 2 && isLeap year)

end Parley.Time
