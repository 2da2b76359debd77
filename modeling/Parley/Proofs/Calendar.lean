import Mathlib.Order.Monotone.Basic
import Parley.Time.Calendar

/-!
# The order of dates

Days come in the order of their dates: peeling cycles, centuries and years off the number of a day
finds the year that holds it, and peeling months off what is left finds the month. So the date of a
day is a date of the calendar, and its number is that of the day.
-/

namespace Parley.Time

/-- A date comes before another: by the year, then by the month, then by the day. -/
def Date.Before (a b : Date) : Prop :=
  a.year < b.year ∨ a.year = b.year ∧ (a.month < b.month ∨ a.month = b.month ∧ a.day < b.day)

/-- A month has at least twenty-eight days, and no more than thirty-one. -/
theorem daysInMonth_bounds (year month : Nat) :
    28 ≤ daysInMonth year month ∧ daysInMonth year month ≤ 31 := by
  unfold daysInMonth
  split
  · split <;> omega
  · split <;> omega

/-- A fourth year is a leap year, but for a hundredth one that is no four hundredth. -/
theorem isLeap_of_mod {year : Nat} (fourth : year % 4 = 0)
    (hundredth : year % 100 ≠ 0 ∨ year % 400 = 0) : isLeap year = true := by
  simpa [isLeap, fourth] using hundredth

/-- A year has three hundred and sixty-five days, and a leap year one more. -/
theorem daysBeforeYear_succ (past : Nat) :
    daysBeforeYear (past + 1 + 1) =
      daysBeforeYear (past + 1) + if isLeap (past + 1) then 366 else 365 := by
  have fewer : past / 100 ≤ past / 4 := by omega
  by_cases fourth : (past + 1) % 4 = 0
  · have fours : (past + 1) / 4 = past / 4 + 1 := by omega
    by_cases hundredth : (past + 1) % 100 = 0
    · have hundreds : (past + 1) / 100 = past / 100 + 1 := by omega
      by_cases cycle : (past + 1) % 400 = 0
      · have cycles : (past + 1) / 400 = past / 400 + 1 := by omega
        have leap : isLeap (past + 1) = true := isLeap_of_mod fourth (.inr cycle)
        simp only [daysBeforeYear, Nat.add_sub_cancel, fours, hundreds, cycles, leap, if_true]
        omega
      · have cycles : (past + 1) / 400 = past / 400 := by omega
        have common : isLeap (past + 1) = false := by simp [isLeap, hundredth, cycle]
        simp only [daysBeforeYear, Nat.add_sub_cancel, fours, hundreds, cycles, common,
          Bool.false_eq_true, if_false]
        omega
    · have hundreds : (past + 1) / 100 = past / 100 := by omega
      have cycles : (past + 1) / 400 = past / 400 := by omega
      have leap : isLeap (past + 1) = true := isLeap_of_mod fourth (.inl hundredth)
      simp only [daysBeforeYear, Nat.add_sub_cancel, fours, hundreds, cycles, leap, if_true]
      omega
  · have fours : (past + 1) / 4 = past / 4 := by omega
    have hundreds : (past + 1) / 100 = past / 100 := by omega
    have cycles : (past + 1) / 400 = past / 400 := by omega
    have common : isLeap (past + 1) = false := by simp [isLeap, fourth]
    simp only [daysBeforeYear, Nat.add_sub_cancel, fours, hundreds, cycles, common,
      Bool.false_eq_true, if_false]
    omega

/-- A later year has no fewer days before it. -/
theorem daysBeforeYear_mono : Monotone daysBeforeYear := by
  refine monotone_nat_of_le_succ fun year => ?_
  cases year with
  | zero => decide
  | succ past =>
    rw [daysBeforeYear_succ past]
    exact Nat.le_add_right _ _

/-- The days before a year are those of its cycles, centuries, quads and single years. -/
theorem daysBeforeYear_eq (cycles : Nat) {centuries quads singles : Nat}
    (centuriesFew : centuries < 4) (quadsFew : quads < 25) (singlesFew : singles < 4) :
    daysBeforeYear (cycles * 400 + centuries * 100 + quads * 4 + singles + 1) =
      cycles * 146097 + centuries * 36524 + quads * 1461 + singles * 365 := by
  let past := cycles * 400 + centuries * 100 + quads * 4 + singles
  have fours : past / 4 = cycles * 100 + centuries * 25 + quads := by omega
  have hundreds : past / 100 = cycles * 4 + centuries := by omega
  have whole : past / 400 = cycles := by omega
  change past * 365 + past / 4 - past / 100 + past / 400 = _
  omega

section monthOfDay

variable (year : Nat)

/-- The month of a day is one of those that were not passed. -/
theorem monthOfDay_bounds (fuel month left : Nat) :
    month ≤ (monthOfDay year fuel month left).1 ∧
      (monthOfDay year fuel month left).1 ≤ month + fuel := by
  induction fuel generalizing month left with
  | zero => exact ⟨Nat.le_refl month, Nat.le_refl month⟩
  | succ fuel ih =>
    rw [monthOfDay]
    split
    · exact ⟨Nat.le_refl month, Nat.le_add_right month (fuel + 1)⟩
    · have later := ih (month + 1) (left - daysInMonth year month)
      omega

/-- A day of the month has two digits if the months that follow leave few days. -/
theorem monthOfDay_day {fuel left : Nat} (month : Nat) (few : left < 28 * fuel + 60) :
    (monthOfDay year fuel month left).2 < 100 := by
  induction fuel generalizing month left with
  | zero =>
    rw [monthOfDay]
    omega
  | succ fuel ih =>
    have bounds := daysInMonth_bounds year month
    rw [monthOfDay]
    split
    · dsimp only
      omega
    · exact ih (month + 1) (by omega)

/-- A later day of the year lies in a later month, or later in the month. -/
theorem monthOfDay_before {early late : Nat} (ordered : early < late) (fuel month : Nat) :
    (monthOfDay year fuel month early).1 < (monthOfDay year fuel month late).1 ∨
      (monthOfDay year fuel month early).1 = (monthOfDay year fuel month late).1 ∧
        (monthOfDay year fuel month early).2 < (monthOfDay year fuel month late).2 := by
  induction fuel generalizing month early late with
  | zero => exact .inr ⟨rfl, Nat.succ_lt_succ ordered⟩
  | succ fuel ih =>
    rw [monthOfDay, monthOfDay]
    by_cases within : late < daysInMonth year month
    · rw [if_pos within, if_pos (Nat.lt_trans ordered within)]
      exact .inr ⟨rfl, Nat.succ_lt_succ ordered⟩
    · rw [if_neg within]
      by_cases first : early < daysInMonth year month
      · rw [if_pos first]
        have later := (monthOfDay_bounds year fuel (month + 1)
          (late - daysInMonth year month)).1
        exact .inl later
      · rw [if_neg first]
        exact ih (by omega) (month + 1)

/-- The last day of a leap year is the last of December. -/
theorem monthOfDay_leap {year : Nat} (leap : isLeap year = true) :
    monthOfDay year 11 1 365 = (12, 31) := by
  simp [monthOfDay, daysInMonth, leap]

end monthOfDay

/-- A day is peeled into cycles, centuries, quads, single years and what is left of the year. The
last day of a leap year is left over as a fifth single year, or as a fifth century. -/
theorem ofDayNumber_peels (n : Nat) : ∃ cycles centuries quads singles rest : Nat,
    n = cycles * 146097 + centuries * 36524 + quads * 1461 + singles * 365 + rest ∧
      centuries ≤ 4 ∧ quads < 25 ∧ singles ≤ 4 ∧ rest < 365 ∧
      (centuries = 4 → quads = 0 ∧ singles = 0 ∧ rest = 0) ∧
      (singles = 4 → quads < 24 ∧ rest = 0) ∧
      Date.ofDayNumber n =
        if singles = 4 ∨ centuries = 4 then
          ⟨cycles * 400 + centuries * 100 + quads * 4 + singles + 1 - 1, 12, 31⟩
        else
          ⟨cycles * 400 + centuries * 100 + quads * 4 + singles + 1,
            (monthOfDay (cycles * 400 + centuries * 100 + quads * 4 + singles + 1) 11 1 rest).1,
            (monthOfDay (cycles * 400 + centuries * 100 + quads * 4 + singles + 1) 11 1 rest).2⟩ :=
  ⟨n / 146097, n % 146097 / 36524, n % 146097 % 36524 / 1461,
    n % 146097 % 36524 % 1461 / 365, n % 146097 % 36524 % 1461 % 365,
    by omega, by omega, by omega, by omega, by omega, by omega, by omega, rfl⟩

/-- The date of a day lies in the year that holds the day, in the month that is found for it. -/
theorem ofDayNumber_eq (n : Nat) : ∃ past, daysBeforeYear (past + 1) ≤ n ∧
    n < daysBeforeYear (past + 1 + 1) ∧
    Date.ofDayNumber n =
      ⟨past + 1, (monthOfDay (past + 1) 11 1 (n - daysBeforeYear (past + 1))).1,
        (monthOfDay (past + 1) 11 1 (n - daysBeforeYear (past + 1))).2⟩ := by
  obtain ⟨cycles, centuries, quads, singles, rest, whole, centuriesFew, quadsFew, singlesFew,
    restFew, fifthCentury, fifthYear, date⟩ := ofDayNumber_peels n
  by_cases last : singles = 4 ∨ centuries = 4
  · have ends : ∃ past, cycles * 400 + centuries * 100 + quads * 4 + singles = past + 1 ∧
        isLeap (past + 1) = true ∧ daysBeforeYear (past + 1) + 365 = n := by
      by_cases century : centuries = 4
      · have days := daysBeforeYear_eq cycles (show 3 < 4 by decide) (show 24 < 25 by decide)
          (show 3 < 4 by decide)
        obtain ⟨past, most⟩ : ∃ past, past = cycles * 400 + 3 * 100 + 24 * 4 + 3 := ⟨_, rfl⟩
        rw [← most] at days
        exact ⟨past, by omega, isLeap_of_mod (by omega) (by omega), by omega⟩
      · have days := daysBeforeYear_eq cycles (show centuries < 4 by omega) quadsFew
          (show 3 < 4 by decide)
        obtain ⟨past, most⟩ : ∃ past, past = cycles * 400 + centuries * 100 + quads * 4 + 3 :=
          ⟨_, rfl⟩
        rw [← most] at days
        exact ⟨past, by omega, isLeap_of_mod (by omega) (by omega), by omega⟩
    obtain ⟨past, next, leap, left⟩ := ends
    have long := daysBeforeYear_succ past
    rw [leap, if_pos rfl] at long
    refine ⟨past, by omega, by omega, ?_⟩
    have day : n - daysBeforeYear (past + 1) = 365 := by omega
    rw [day, monthOfDay_leap leap, date, if_pos last, Nat.add_sub_cancel, next]
  · have days := daysBeforeYear_eq cycles (show centuries < 4 by omega) quadsFew
      (show singles < 4 by omega)
    have long := daysBeforeYear_succ (cycles * 400 + centuries * 100 + quads * 4 + singles)
    have left : n - daysBeforeYear (cycles * 400 + centuries * 100 + quads * 4 + singles + 1) =
        rest := by omega
    refine ⟨cycles * 400 + centuries * 100 + quads * 4 + singles, by omega, ?_, ?_⟩
    · rw [long]
      split <;> omega
    · rw [left, date, if_neg last]

/-- A later day has a later date. -/
theorem ofDayNumber_before {early late : Nat} (ordered : early < late) :
    (Date.ofDayNumber early).Before (Date.ofDayNumber late) := by
  obtain ⟨first, begins, -, firstDate⟩ := ofDayNumber_eq early
  obtain ⟨second, -, ends, secondDate⟩ := ofDayNumber_eq late
  rw [firstDate, secondDate]
  rcases lt_trichotomy first second with before | rfl | after
  · exact .inl (Nat.succ_lt_succ before)
  · refine .inr ⟨rfl, monthOfDay_before (first + 1) ?_ 11 1⟩
    omega
  · have far : daysBeforeYear (second + 1 + 1) ≤ daysBeforeYear (first + 1) :=
      daysBeforeYear_mono (Nat.succ_le_succ after)
    omega

/-- The numbers of a date within the calendar have four and two digits. -/
theorem ofDayNumber_digits {n : Nat} (within : n < dayLimit) :
    (Date.ofDayNumber n).year < 10000 ∧ (Date.ofDayNumber n).month < 100 ∧
      (Date.ofDayNumber n).day < 100 := by
  obtain ⟨past, begins, ends, date⟩ := ofDayNumber_eq n
  rw [date]
  have month := (monthOfDay_bounds (past + 1) 11 1 (n - daysBeforeYear (past + 1))).2
  have long : daysBeforeYear (past + 1 + 1) ≤ daysBeforeYear (past + 1) + 366 := by
    rw [daysBeforeYear_succ]
    split <;> omega
  refine ⟨?_, Nat.lt_of_le_of_lt month (by decide), monthOfDay_day (past + 1) 1 (by omega)⟩
  by_contra beyond
  have far : daysBeforeYear 10000 ≤ daysBeforeYear (past + 1) :=
    daysBeforeYear_mono (Nat.le_of_not_lt beyond)
  have limit : daysBeforeYear 10000 = dayLimit := by decide
  omega

/-- The days before the next month are those before a month and its own. -/
theorem daysBeforeMonth_succ (year : Nat) {month : Nat} (positive : 0 < month) :
    daysBeforeMonth year (month + 1) = daysBeforeMonth year month + daysInMonth year month := by
  obtain ⟨past, rfl⟩ : ∃ past, month = past + 1 := ⟨month - 1, by omega⟩
  rfl

/-- The months of a year have all its days. -/
theorem daysBeforeMonth_year (year : Nat) :
    daysBeforeMonth year 13 = if isLeap year then 366 else 365 := by
  by_cases leap : isLeap year = true <;> simp [daysBeforeMonth, daysInMonth, leap]

/-- The month and day found for a day of the year are those of that day. -/
theorem monthOfDay_passed (year fuel : Nat) {month left : Nat} (positive : 0 < month)
    (within : daysBeforeMonth year month + left < daysBeforeMonth year (month + fuel + 1)) :
    daysBeforeMonth year (monthOfDay year fuel month left).1 +
        ((monthOfDay year fuel month left).2 - 1) = daysBeforeMonth year month + left ∧
      1 ≤ (monthOfDay year fuel month left).2 ∧
      (monthOfDay year fuel month left).2 ≤
        daysInMonth year (monthOfDay year fuel month left).1 := by
  induction fuel generalizing month left with
  | zero =>
    rw [Nat.add_zero, daysBeforeMonth_succ year positive] at within
    rw [monthOfDay]
    dsimp only
    omega
  | succ fuel ih =>
    rw [monthOfDay]
    split
    · dsimp only
      omega
    · rename_i beyond
      have next := daysBeforeMonth_succ year positive
      have further : daysBeforeMonth year (month + 1) + (left - daysInMonth year month) <
          daysBeforeMonth year (month + 1 + fuel + 1) := by
        rw [next, show month + 1 + fuel + 1 = month + (fuel + 1) + 1 by omega]
        omega
      have later := ih (Nat.succ_pos month) further
      rw [next] at later
      refine ⟨?_, later.2⟩
      rw [later.1]
      omega

/-- The date of a day within the calendar is one of the calendar. -/
theorem ofDayNumber_within {n : Nat} (within : n < dayLimit) :
    (1 ≤ (Date.ofDayNumber n).year ∧ (Date.ofDayNumber n).year ≤ 9999) ∧
      (1 ≤ (Date.ofDayNumber n).month ∧ (Date.ofDayNumber n).month ≤ 12) ∧
      1 ≤ (Date.ofDayNumber n).day ∧
      (Date.ofDayNumber n).day ≤ daysInMonth (Date.ofDayNumber n).year (Date.ofDayNumber n).month ∧
      (Date.ofDayNumber n).dayNumber = n := by
  have digits := (ofDayNumber_digits within).1
  obtain ⟨past, begins, ends, date⟩ := ofDayNumber_eq n
  rw [daysBeforeYear_succ, ← daysBeforeMonth_year] at ends
  have months := monthOfDay_bounds (past + 1) 11 1 (n - daysBeforeYear (past + 1))
  have first : daysBeforeMonth (past + 1) 1 = 0 := rfl
  have left : daysBeforeMonth (past + 1) 1 + (n - daysBeforeYear (past + 1)) <
      daysBeforeMonth (past + 1) 13 := by
    omega
  obtain ⟨days, early, late⟩ := monthOfDay_passed (past + 1) 11 (by decide) left
  rw [date] at digits ⊢
  dsimp only at digits
  refine ⟨⟨Nat.succ_pos past, Nat.le_of_lt_succ digits⟩, months, early, late, ?_⟩
  rw [Date.dayNumber, Nat.add_assoc, days]
  dsimp only
  omega

end Parley.Time
