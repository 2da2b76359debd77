import Parley.Proofs.Timestamps

/-!
# Moments that are read again

The text of a moment is read as the moment: each number is read from its digits, the separators are
found where they were put, and the offset begins at the first sign after the time. An offset of
less than a second is read as that of universal time, since a fraction counts only beside whole
seconds; no other moment changes.
-/

namespace Parley

namespace Time

open Text

section Digits

/-- A digit is read as its value. -/
theorem asciiDigit?_digitChar : ∀ digit < 10, asciiDigit? digit.digitChar = some digit := by
  decide

/-- Digits are read in two parts. -/
theorem takeDigits_add {first more value found : Nat} {cs rest : List Char}
    (taken : takeDigits first value cs = some (found, rest)) :
    takeDigits (first + more) value cs = takeDigits more found rest := by
  induction first generalizing value cs with
  | zero =>
    cases taken
    rw [Nat.zero_add]
  | succ first ih =>
    cases cs with
    | nil => cases taken
    | cons c cs =>
      rw [takeDigits] at taken
      rw [Nat.succ_add, takeDigits]
      split at taken
      · exact ih taken
      · cases taken

/-- The last digits of a number are read as what they are of it, below what was read before. -/
theorem takeDigits_lastDigits (width value n : Nat) (rest : List Char) :
    takeDigits width value (lastDigits width n ++ rest) =
      some (value * 10 ^ width + n % 10 ^ width, rest) := by
  -- The first digits are those of a tenth of the number; the last one is read after them.
  induction width generalizing n rest with
  | zero => simp [takeDigits, lastDigits, Nat.mod_one]
  | succ width ih =>
    have digit := asciiDigit?_digitChar (n % 10) (Nat.mod_lt n (by decide))
    rw [lastDigits, List.append_assoc, List.singleton_append, takeDigits_add (ih _ _)]
    simp only [takeDigits, digit, Option.some.injEq, Prod.mk.injEq, and_true]
    have shifted : value * (10 * 10 ^ width) = value * 10 ^ width * 10 := by
      rw [Nat.mul_comm 10, Nat.mul_assoc]
    rw [Nat.pow_succ, Nat.mul_comm (10 ^ width) 10, Nat.mod_mul, shifted]
    omega

/-- A number is read from its digits. -/
theorem takeDigits_eq (width : Nat) {n : Nat} (within : n < 10 ^ width) (rest : List Char) :
    takeDigits width 0 (lastDigits width n ++ rest) = some (n, rest) := by
  rw [takeDigits_lastDigits, Nat.zero_mul, Nat.zero_add, Nat.mod_eq_of_lt within]

end Digits

/-- A number with two digits is written with its last two. -/
theorem two_toList {n : Nat} (within : n < 100) : (two n).toList = lastDigits 2 n :=
  padZeros_digits (by decide) within

section Clock

/-- Digits begin no offset. -/
theorem beginsOffset_digitChar : ∀ digit < 10, beginsOffset digit.digitChar = false := by
  decide

/-- None of the last digits of a number begins an offset. -/
theorem beginsOffset_lastDigits (width n : Nat) :
    ∀ c ∈ lastDigits width n, beginsOffset c = false := by
  induction width generalizing n with
  | zero => exact nofun
  | succ width ih =>
    intro c member
    rw [lastDigits, List.mem_append, List.mem_singleton] at member
    rcases member with early | rfl
    · exact ih _ c early
    · exact beginsOffset_digitChar _ (Nat.mod_lt n (by decide))

/-- A number with two digits is two characters, from which it is read. -/
theorem lastDigits_two {n : Nat} (within : n < 100) :
    ∃ a b, lastDigits 2 n = [a, b] ∧ takeDigits 2 0 [a, b] = some (n, []) := by
  have taken := takeDigits_eq 2 within []
  rw [List.append_nil] at taken
  exact ⟨_, _, rfl, taken⟩

/-- Six digits are read as microseconds. -/
theorem readFraction_lastDigits (time : RawTime) {micros : Nat} (few : micros < 10 ^ 6) :
    readFraction time (lastDigits 6 micros) = some ({ time with micros := micros }, false) := by
  have taken := takeDigits_eq 6 few []
  rw [List.append_nil] at taken
  have count : min (lastDigits 6 micros).length 6 = 6 := by rw [lastDigits_length]; rfl
  rw [readFraction]
  simp only [count, taken]
  simp [digitCount]

variable {time : RawTime} {index value : Nat}

/-- A number before a colon is read, and then the numbers after it. -/
theorem readClock_colon (low : index < 3) (within : value < 100) {rest : List Char}
    (more : rest ≠ []) : readClock true time index (lastDigits 2 value ++ ':' :: rest) =
      readClock true (time.put index value) (index + 1) rest := by
  obtain ⟨a, b, digits, taken⟩ := lastDigits_two within
  obtain ⟨c, rest, rfl⟩ := List.exists_cons_of_ne_nil more
  rw [digits, List.cons_append, List.cons_append, List.nil_append, readClock, if_pos low, taken]
  simp

/-- A number at the end is read. -/
theorem readClock_end (low : index < 3) (within : value < 100) :
    readClock true time index (lastDigits 2 value) = some (time.put index value, false) := by
  obtain ⟨a, b, digits, taken⟩ := lastDigits_two within
  rw [digits, readClock, if_pos low, taken]

/-- The six digits after the point of the seconds are their microseconds. -/
theorem readClock_point (within : value < 100) {micros : Nat} (few : micros < 10 ^ 6) :
    readClock true time 2 (lastDigits 2 value ++ '.' :: lastDigits 6 micros) =
      some ({ time.put 2 value with micros := micros }, false) := by
  obtain ⟨a, b, digits, taken⟩ := lastDigits_two within
  have fraction := readFraction_lastDigits (time.put 2 value) few
  obtain ⟨c, rest, more⟩ : ∃ c rest, lastDigits 6 micros = c :: rest :=
    List.exists_cons_of_length_eq_add_one (lastDigits_length 6 micros)
  rw [more] at fraction ⊢
  rw [digits, List.cons_append, List.cons_append, List.nil_append, readClock,
    if_pos (by decide), taken]
  simpa using fraction

/-- The characters of a fraction, which is left out if it is zero. -/
def fractionChars (micros : Nat) : List Char :=
  if micros = 0 then [] else '.' :: lastDigits 6 micros

/-- The characters of hours and minutes, of a number of seconds. -/
def minuteChars (seconds : Nat) : List Char :=
  lastDigits 2 (seconds / 3600) ++ ':' :: lastDigits 2 (seconds / 60 % 60)

/-- The characters of a time of day. -/
def clockChars (seconds micros : Nat) : List Char :=
  minuteChars seconds ++ ':' :: (lastDigits 2 (seconds % 60) ++ fractionChars micros)

variable {seconds micros : Nat}

/-- A number with two digits is not empty. -/
theorem lastDigits_two_append (n : Nat) (rest : List Char) : lastDigits 2 n ++ rest ≠ [] :=
  List.cons_ne_nil _ _

/-- Hours and minutes are read. -/
theorem readClock_minutes (day : seconds < 86400) : readClock true {} 0 (minuteChars seconds) =
    some (⟨seconds / 3600, seconds / 60 % 60, 0, 0⟩, false) := by
  have more : lastDigits 2 (seconds / 60 % 60) ≠ [] := List.cons_ne_nil _ _
  rw [minuteChars, readClock_colon (by decide) (by omega) more,
    readClock_end (by decide) (by omega)]
  rfl

/-- A time of day is read. -/
theorem readClock_clock (day : seconds < 86400) (few : micros < 1000000) :
    readClock true {} 0 (clockChars seconds micros) =
      some (⟨seconds / 3600, seconds / 60 % 60, seconds % 60, micros⟩, false) := by
  rw [clockChars, minuteChars, List.append_assoc, List.cons_append,
    readClock_colon (by decide) (by omega) (lastDigits_two_append _ _),
    readClock_colon (by decide) (by omega) (lastDigits_two_append _ _)]
  unfold fractionChars
  split
  · rename_i whole
    rw [List.append_nil, readClock_end (by decide) (by omega), whole]
    rfl
  · rw [readClock_point (by omega) few]
    rfl

/-- Nothing in a time of day begins an offset. -/
theorem beginsOffset_clock : ∀ c ∈ clockChars seconds micros, beginsOffset c = false := by
  have fraction : ∀ c ∈ fractionChars micros, beginsOffset c = false := by
    unfold fractionChars
    split
    · exact nofun
    · exact List.forall_mem_cons.mpr ⟨by decide, beginsOffset_lastDigits 6 micros⟩
  intro c member
  simp only [clockChars, minuteChars, List.append_assoc, List.cons_append, List.mem_append,
    List.mem_cons] at member
  rcases member with hours | rfl | minutes | rfl | seconds | micros
  · exact beginsOffset_lastDigits _ _ c hours
  · decide
  · exact beginsOffset_lastDigits _ _ c minutes
  · decide
  · exact beginsOffset_lastDigits _ _ c seconds
  · exact fraction c micros

/-- A fraction is written with its characters. -/
theorem fractionText_toList (few : micros < 1000000) :
    (fractionText false micros).toList = fractionChars micros := by
  unfold fractionChars
  split
  · rename_i whole
    rw [whole]
    rfl
  · rename_i broken
    rw [fractionText, if_pos (by simpa using broken), String.toList_append,
      padZeros_digits (by decide) few]
    rfl

/-- Seconds of a day are written with their characters. -/
theorem secondsText_toList (day : seconds < 86400) :
    (secondsText seconds).toList = minuteChars seconds ++ ':' :: lastDigits 2 (seconds % 60) := by
  simp [secondsText, minuteChars, two_toList (show seconds / 3600 < 100 by omega),
    two_toList (show seconds / 60 % 60 < 100 by omega),
    two_toList (show seconds % 60 < 100 by omega)]

/-- The time of a day is written with its characters. -/
theorem timeText_toList {time : Nat} (day : time < 86400000000) :
    (timeText false time).toList = clockChars (time / 1000000) (time % 1000000) := by
  have split : timeText false time =
      secondsText (time / 1000000) ++ fractionText false (time % 1000000) := rfl
  rw [split, String.toList_append, secondsText_toList (by omega), fractionText_toList (by omega),
    clockChars, List.append_assoc, List.cons_append]

end Clock

section Offset

/-- The characters of an offset after its sign: seconds only if they or a fraction are not zero. -/
def offsetChars (magnitude : Nat) : List Char :=
  if magnitude / 1000000 % 60 = 0 ∧ magnitude % 1000000 = 0 then minuteChars (magnitude / 1000000)
  else clockChars (magnitude / 1000000) (magnitude % 1000000)

/-- The offset that is read for an offset: universal time for one of less than a second. -/
def Offset.reread (offset : Offset) : Offset :=
  if offset.micros.natAbs < 1000000 then .utc else offset

/-- An offset that has whole seconds, or is zero. -/
def Offset.Told (offset : Offset) : Prop :=
  offset.micros = 0 ∨ 1000000 ≤ offset.micros.natAbs

/-- What is read for an offset is the offset just if that has whole seconds, or is zero. -/
theorem Offset.reread_eq_iff {offset : Offset} : offset.reread = offset ↔ offset.Told := by
  obtain ⟨micros, -, -⟩ := offset
  simp only [reread, Told, utc]
  split
  · simp only [Offset.mk.injEq]
    omega
  · simp only [true_iff]
    omega

/-- An offset is less than a day. -/
theorem Offset.natAbs_lt (offset : Offset) : offset.micros.natAbs < 86400000000 := by
  have ahead := offset.lt_day
  have behind := offset.neg_day_lt
  omega

/-- An offset is written with its sign, hours and minutes, and what else there is. -/
theorem Offset.text_eq (offset : Offset) : offset.text =
    (if offset.micros < 0 then "-" else "+") ++ two (offset.micros.natAbs / 1000000 / 3600) ++ ":"
      ++ two (offset.micros.natAbs / 1000000 / 60 % 60)
      ++ (if offset.micros.natAbs / 1000000 % 60 != 0 || offset.micros.natAbs % 1000000 != 0
        then ":" ++ two (offset.micros.natAbs / 1000000 % 60) else "")
      ++ fractionText false (offset.micros.natAbs % 1000000) := rfl

/-- An offset is written with its sign and its characters. -/
theorem Offset.text_toList (offset : Offset) : offset.text.toList =
    (if offset.micros < 0 then '-' else '+') :: offsetChars offset.micros.natAbs := by
  have day := offset.natAbs_lt
  rw [Offset.text_eq]
  generalize offset.micros.natAbs = magnitude at day
  have sign : (if offset.micros < 0 then "-" else "+").toList =
      [if offset.micros < 0 then '-' else '+'] := by
    split <;> rfl
  have hours := two_toList (show magnitude / 1000000 / 3600 < 100 by omega)
  have minutes := two_toList (show magnitude / 1000000 / 60 % 60 < 100 by omega)
  have seconds := two_toList (show magnitude / 1000000 % 60 < 100 by omega)
  have fraction := fractionText_toList (Nat.mod_lt magnitude (show 0 < 1000000 by decide))
  simp only [String.toList_append, sign, hours, minutes, fraction]
  unfold offsetChars
  by_cases brief : magnitude / 1000000 % 60 = 0 ∧ magnitude % 1000000 = 0
  · simp [brief, minuteChars, fractionChars]
  · have shown : (magnitude / 1000000 % 60 != 0 || magnitude % 1000000 != 0) = true := by
      simpa using Decidable.not_and_iff_or_not.mp brief
    rw [if_neg brief, if_pos shown, String.toList_append, seconds]
    simp [clockChars, minuteChars]

/-- An offset is read from its characters, but for one of less than a second. -/
theorem readClock_offset {magnitude : Nat} (day : magnitude < 86400000000) :
    ∃ raw, readClock true {} 0 (offsetChars magnitude) = some (raw, false) ∧
      offsetMicros raw = if magnitude < 1000000 then 0 else (magnitude : Int) := by
  have whole (raw : RawTime)
      (seconds : raw.hour * 3600 + raw.minute * 60 + raw.second = magnitude / 1000000)
      (micros : raw.micros = magnitude % 1000000) :
      offsetMicros raw = if magnitude < 1000000 then 0 else (magnitude : Int) := by
    rw [offsetMicros, seconds, micros]
    unfold secondMicros
    split <;> split <;> omega
  unfold offsetChars
  split
  · refine ⟨_, readClock_minutes (by omega), whole _ ?_ ?_⟩
    · dsimp only
      omega
    · dsimp only
      omega
  · refine ⟨_, readClock_clock (by omega) (by omega), whole _ ?_ rfl⟩
    dsimp only
    omega

/-- The characters of an offset, if there is one. -/
def zoneChars : Option Offset → List Char
  | none => []
  | some offset => offset.text.toList

/-- The offset begins where the time of day ends. -/
theorem splitOffset_clock (seconds micros : Nat) (offset : Option Offset) :
    splitOffset (clockChars seconds micros ++ zoneChars offset) =
      (clockChars seconds micros, zoneChars offset) := by
  have clear : ∀ c ∈ clockChars seconds micros, (!beginsOffset c) = true := fun c member => by
    rw [beginsOffset_clock c member]
    rfl
  rw [splitOffset, List.takeWhile_append_of_pos clear, List.dropWhile_append_of_pos clear]
  cases offset with
  | none => simp [zoneChars]
  | some offset =>
    have sign : beginsOffset (if offset.micros < 0 then '-' else '+') = true := by
      split <;> decide
    simp [zoneChars, offset.text_toList, sign]

/-- A time of day with an offset is read. -/
theorem readTime_clock {seconds micros : Nat} (day : seconds < 86400) (few : micros < 1000000)
    (offset : Option Offset) :
    readTime (clockChars seconds micros ++ zoneChars offset) =
      some (⟨seconds / 3600, seconds / 60 % 60, seconds % 60, micros⟩,
        offset.map fun known => known.reread.micros) := by
  simp only [readTime, splitOffset_clock, readClock_clock day few, Option.bind_eq_bind,
    Option.bind_some]
  cases offset with
  | none => rfl
  | some offset =>
    obtain ⟨raw, read, magnitude⟩ := readClock_offset offset.natAbs_lt
    have known : offset.reread.micros =
        if offset.micros.natAbs < 1000000 then 0 else offset.micros := by
      unfold Offset.reread
      split <;> rfl
    have signed : (if offset.micros < 0 then -offsetMicros raw else offsetMicros raw) =
        offset.reread.micros := by
      rw [magnitude, known]
      split <;> split <;> omega
    rw [zoneChars, offset.text_toList, Option.map_some, ← signed]
    by_cases negative : offset.micros < 0 <;> simp [negative, read]

end Offset

section Dates

/-- The characters of a date. -/
def dateChars (date : Date) : List Char :=
  lastDigits 4 date.year ++ '-' :: (lastDigits 2 date.month ++ '-' :: lastDigits 2 date.day)

/-- A date with numbers of four and two digits is written with its characters. -/
theorem Date.text_toList {date : Date} (year : date.year < 10000) (month : date.month < 100)
    (day : date.day < 100) : date.text.toList = dateChars date := by
  simp only [Date.text, String.toList_append, padZeros_digits (show 0 < 4 by decide) year,
    two_toList month, two_toList day]
  simp [dateChars]

/-- A digit is no letter. -/
theorem digitChar_ne_week : ∀ digit < 10, digit.digitChar ≠ 'W' := by
  decide

/-- A date before a time has ten characters. -/
theorem dateLength_date (date : Date) (rest : List Char) :
    dateLength (dateChars date ++ 'T' :: rest) = 10 := by
  have digit := digitChar_ne_week (date.month / 10 % 10) (Nat.mod_lt _ (by decide))
  simp [dateLength, dateChars, lastDigits, digit]

/-- A date with numbers of four and two digits is read. -/
theorem readDate_date {date : Date} (year : date.year < 10000) (month : date.month < 100)
    (day : date.day < 100) (rest : List Char) :
    readDate 10 (dateChars date ++ rest) = some ⟨date.year, date.month, date.day⟩ := by
  have monthTaken := takeDigits_eq 2 month ('-' :: (lastDigits 2 date.day ++ rest))
  have dayTaken := takeDigits_eq 2 day rest
  obtain ⟨c, more, begins, digit⟩ : ∃ c more,
      lastDigits 2 date.month ++ '-' :: (lastDigits 2 date.day ++ rest) = c :: more ∧ c ≠ 'W' :=
    ⟨_, _, rfl, digitChar_ne_week _ (Nat.mod_lt _ (by decide))⟩
  rw [begins] at monthTaken
  rw [dateChars, List.append_assoc, List.cons_append, List.append_assoc, List.cons_append, begins]
  simp only [readDate, takeDigits_eq 4 year, Option.bind_eq_bind, Option.bind_some]
  split
  · rename_i week
    exact absurd (List.cons.inj week).1 digit
  · simp [monthTaken, dayTaken]

end Dates

section Moments

/-- Characters take at least one byte each. -/
theorem length_le_utf8ByteSize (cs : List Char) : cs.length ≤ (String.ofList cs).utf8ByteSize := by
  induction cs with
  | nil => exact Nat.zero_le _
  | cons c rest ih =>
    have size := c.utf8Size_pos
    rw [String.ofList_cons, String.utf8ByteSize_append, String.utf8ByteSize_singleton,
      List.length_cons]
    omega

/-- A date and a time of day with an offset are read. -/
theorem readFields_moment {date : Date} (year : date.year < 10000) (month : date.month < 100)
    (day : date.day < 100) {seconds micros : Nat} (daily : seconds < 86400)
    (few : micros < 1000000) (offset : Option Offset) :
    readFields (dateChars date ++ 'T' :: (clockChars seconds micros ++ zoneChars offset)) =
      some (⟨date.year, date.month, date.day⟩,
        ⟨seconds / 3600, seconds / 60 % 60, seconds % 60, micros⟩,
        offset.map fun known => known.reread.micros) := by
  have time := readTime_clock daily few offset
  generalize clockChars seconds micros ++ zoneChars offset = rest at time
  have width : (dateChars date).length = 10 := by simp [dateChars, lastDigits_length]
  have long : ¬(String.ofList (dateChars date ++ 'T' :: rest)).utf8ByteSize < 7 := by
    have count := length_le_utf8ByteSize (dateChars date ++ 'T' :: rest)
    rw [List.length_append, width] at count
    omega
  have later : (dateChars date ++ 'T' :: rest).drop 10 = 'T' :: rest := by
    rw [← width, List.drop_left]
  rw [readFields]
  simp only [dateLength_date, readDate_date year month day, later, time]
  rw [if_neg long]
  rfl

/-- The moment that is read for a moment. -/
def Moment.reread (moment : Moment) : Moment :=
  { moment with offset := moment.offset.map Offset.reread }

/-- The moment is on a clock whose offset has whole seconds, or is zero, or is not known. -/
def Moment.Told (moment : Moment) : Prop :=
  ∀ offset, moment.offset = some offset → offset.Told

/-- What is read for a moment is the moment just if its offset is told. -/
theorem Moment.reread_eq_iff {moment : Moment} : moment.reread = moment ↔ moment.Told := by
  obtain ⟨clock, within, offset⟩ := moment
  cases offset with
  | none => simp [reread, Told]
  | some offset => simp [reread, Told, Offset.reread_eq_iff]

/-- The date on a clock is one of the calendar, and its number is that of the day. -/
theorem Moment.date_within (moment : Moment) :
    (1 ≤ moment.date.year ∧ moment.date.year ≤ 9999) ∧
      (1 ≤ moment.date.month ∧ moment.date.month ≤ 12) ∧
      1 ≤ moment.date.day ∧ moment.date.day ≤ daysInMonth moment.date.year moment.date.month ∧
      moment.date.dayNumber = moment.clock / dayMicros := by
  have limit : clockLimit = dayLimit * dayMicros := by decide
  have days : moment.clock / dayMicros < dayLimit :=
    Nat.div_lt_of_lt_mul (by rw [Nat.mul_comm, ← limit]; exact moment.clock_lt)
  exact ofDayNumber_within days

/-- The numbers of the date on a clock have four and two digits. -/
theorem Moment.date_lt (moment : Moment) :
    moment.date.year < 10000 ∧ moment.date.month < 100 ∧ moment.date.day < 100 := by
  obtain ⟨year, month, -, day, -⟩ := moment.date_within
  have month_le := (daysInMonth_bounds moment.date.year moment.date.month).2
  exact ⟨by omega, by omega, by omega⟩

/-- The time of a day is less than a day. -/
theorem Moment.timeOfDay_lt (moment : Moment) : moment.timeOfDay < 86400000000 :=
  Nat.mod_lt _ (by decide)

/-- A moment is written with the characters of its date, its time and its offset. -/
theorem Moment.text_toList (moment : Moment) : moment.text.toList =
    dateChars moment.date ++ 'T' :: (clockChars (moment.timeOfDay / 1000000)
      (moment.timeOfDay % 1000000) ++ zoneChars moment.offset) := by
  obtain ⟨year, month, day⟩ := moment.date_lt
  rw [Moment.text, Moment.textWith, String.toList_append, String.toList_append,
    String.toList_append, timeText_toList moment.timeOfDay_lt,
    Date.text_toList year month day]
  cases moment.offset <;> simp [zoneChars]

/-- The text of a moment is not empty. -/
theorem Moment.text_ne_empty (moment : Moment) : moment.text ≠ "" := by
  intro empty
  have chars := moment.text_toList
  simp [empty] at chars

/-- The offset of a clock passes its check. -/
theorem checkOffset_map (offset : Option Offset) :
    checkOffset (offset.map Offset.micros) = .ok offset := by
  cases offset with
  | none => rfl
  | some offset =>
    have within : offset.micros < 86400000000 ∧ -86400000000 < offset.micros :=
      ⟨offset.lt_day, offset.neg_day_lt⟩
    simp [checkOffset, Offset.ofMicros?, within]

/-- A clock is put together of its days, hours, minutes, seconds and microseconds. -/
theorem clock_parts {clock time : Nat} (shows : clock % 86400000000 = time) :
    clock / 86400000000 * 86400000000 + (time / 1000000 / 3600 * 3600 +
      time / 1000000 / 60 % 60 * 60 + time / 1000000 % 60) * 1000000 + time % 1000000 = clock := by
  omega

/-- Fields within their limits are the moment whose clock shows them. -/
theorem checkFields_eq {date : RawDate} {time : RawTime} {offset : Option Int}
    {known : Option Offset} {moment : Moment} (checked : checkOffset offset = .ok known)
    (year : 1 ≤ date.year ∧ date.year ≤ 9999) (month : 1 ≤ date.month ∧ date.month ≤ 12)
    (day : 1 ≤ date.day ∧ date.day ≤ daysInMonth date.year date.month)
    (hour : time.hour ≤ 23) (minute : time.minute ≤ 59) (second : time.second ≤ 59)
    {clock : Int} (sum : (Date.dayNumber ⟨date.year, date.month, date.day⟩ * dayMicros +
      (time.hour * 3600 + time.minute * 60 + time.second : Nat) * secondMicros + time.micros : Int)
      = clock) (shows : Moment.ofClock? clock known = some moment) :
    checkFields date time offset = .ok moment := by
  have yearFits : ¬(date.year < 1 ∨ 9999 < date.year) := by omega
  have monthFits : ¬(date.month < 1 ∨ 12 < date.month) := by omega
  have dayFits : ¬(date.day < 1 ∨ daysInMonth date.year date.month < date.day) := by omega
  have next {α β : Type} (value : α) (rest : α → Except Fault β) :
      ((.ok value : Except Fault α) >>= rest) = rest value := rfl
  rw [checkFields, checked, next]
  dsimp only
  rw [if_neg yearFits, if_neg monthFits, if_neg dayFits, if_neg (Nat.not_lt.mpr hour),
    if_neg (Nat.not_lt.mpr minute), if_neg (Nat.not_lt.mpr second), sum, shows]
  rfl

/-- The clock of a moment shows the moment. -/
theorem Moment.ofClock?_clock (moment : Moment) :
    Moment.ofClock? moment.clock moment.offset = some moment := by
  have within : (0 : Int) ≤ moment.clock ∧ (moment.clock : Int).toNat < clockLimit :=
    ⟨Int.natCast_nonneg _, moment.clock_lt⟩
  rw [Moment.ofClock?, dif_pos within]
  rfl

/-- The fields of a date and of a time of day pass their checks, and make the moment. -/
theorem checkFields_date {date : Date} {time : Nat} (moment : Moment)
    (year : 1 ≤ date.year ∧ date.year ≤ 9999) (month : 1 ≤ date.month ∧ date.month ≤ 12)
    (day : 1 ≤ date.day ∧ date.day ≤ daysInMonth date.year date.month)
    (number : date.dayNumber = moment.clock / dayMicros)
    (shown : moment.clock % 86400000000 = time) :
    checkFields ⟨date.year, date.month, date.day⟩
        ⟨time / 1000000 / 3600, time / 1000000 / 60 % 60, time / 1000000 % 60, time % 1000000⟩
        (moment.offset.map Offset.micros) = .ok moment := by
  have parts := clock_parts shown
  refine checkFields_eq (checkOffset_map moment.offset) year month day ?_ ?_ ?_ ?_
    moment.ofClock?_clock
  · dsimp only
    omega
  · dsimp only
    omega
  · dsimp only
    omega
  · dsimp only
    rw [number]
    unfold dayMicros secondMicros
    exact_mod_cast parts

/-- A moment is read from its text, but for an offset of less than a second. -/
theorem Moment.read_text (moment : Moment) : Moment.read moment.text = .ok moment.reread := by
  obtain ⟨year, month, first, last, number⟩ := moment.date_within
  obtain ⟨yearFits, monthFits, dayFits⟩ := moment.date_lt
  have text := moment.text_toList
  have daily := moment.timeOfDay_lt
  have shown : moment.clock % 86400000000 = moment.timeOfDay := rfl
  -- From here on it is of no matter how the date and the time come from the clock.
  generalize moment.date = date at *
  generalize moment.timeOfDay = time at *
  rw [Moment.read, text,
    readFields_moment yearFits monthFits dayFits (by omega) (by omega) moment.offset]
  have checked := checkFields_date moment.reread year month ⟨first, last⟩ number shown
  rwa [reread, Option.map_map] at checked

/-- A moment is read from its text as it is, just if its offset is told. -/
theorem Moment.read_text_iff {moment : Moment} :
    Moment.read moment.text = .ok moment ↔ moment.Told := by
  rw [moment.read_text, Except.ok.injEq, reread_eq_iff]

end Moments

end Time

end Parley
