import Parley.Time.Fault
import Parley.Time.Moment

/-!
# The text of a moment

A moment is written as date and time with a `T` between them, a fraction of six digits only if
it is not zero, and the offset only if it is known. Reading takes more than writing gives: the
basic form without separators, week dates, a date alone, any one character between date and
time, a comma before the fraction, a fraction of any length cut to microseconds, and `Z` for
universal time.
-/

namespace Parley.Time

/-- A number with two digits. -/
def two (n : Nat) : String := Text.padZeros 2 (toString n)

/-- The text of a time of day, with a fraction if `full` or if it is not zero. -/
def timeText (full : Bool) (micros : Nat) : String :=
  let fraction := micros % secondMicros
  let seconds := micros / secondMicros
  two (seconds / 3600) ++ ":" ++ two (seconds / 60 % 60) ++ ":" ++ two (seconds % 60)
    ++ (if full || fraction != 0 then "." ++ Text.padZeros 6 (toString fraction) else "")

/-- The text of an offset: hours and minutes, and smaller parts if they are not zero. -/
def Offset.text (offset : Offset) : String :=
  let magnitude := offset.micros.natAbs
  let fraction := magnitude % secondMicros
  let seconds := magnitude / secondMicros
  (if offset.micros < 0 then "-" else "+") ++ two (seconds / 3600) ++ ":"
    ++ two (seconds / 60 % 60)
    ++ (if seconds % 60 != 0 || fraction != 0 then ":" ++ two (seconds % 60) else "")
    ++ (if fraction != 0 then "." ++ Text.padZeros 6 (toString fraction) else "")

/-- The text of a date. -/
def Date.text (date : Date) : String :=
  Text.padZeros 4 (toString date.year) ++ "-" ++ two date.month ++ "-" ++ two date.day

/-- The text of a moment with a given separator, with a fraction if `full` or not zero. -/
def Moment.textWith (separator : String) (full : Bool) (moment : Moment) : String :=
  moment.date.text ++ separator ++ timeText full moment.timeOfDay
    ++ (match moment.offset with | some offset => offset.text | none => "")

/-- The text of a moment. -/
def Moment.text (moment : Moment) : String := moment.textWith "T" false

/-- The text of a moment with all six digits of the fraction. -/
def Moment.fullText (moment : Moment) : String := moment.textWith "T" true

/-- The value of an ASCII digit. -/
def asciiDigit? (c : Char) : Option Nat :=
  if '0' ≤ c ∧ c ≤ '9' then some (c.toNat - 48) else none

/-- A number of exactly `count` ASCII digits, added below `value`, and what follows it. -/
def takeDigits : (count value : Nat) → List Char → Option (Nat × List Char)
  | 0, value, cs => some (value, cs)
  | _ + 1, _, [] => none
  | count + 1, value, c :: cs =>
    match asciiDigit? c with
    | some digit => takeDigits count (value * 10 + digit) cs
    | none => none

/-- The fields of a date as they were read. -/
structure RawDate where
  /-- The year. -/
  year : Nat
  /-- The month. -/
  month : Nat
  /-- The day of the month. -/
  day : Nat

/-- The date of a day of a week of a year. -/
def weekDate? (year week day : Nat) : Option RawDate :=
  if week = 0 ∨ 53 < week ∨ (week = 53 ∧ !hasLongWeeks year) then none
  else if day = 0 ∨ 7 < day then none
  else
    let number := firstWeekMonday year + (((week - 1) * 7 + day - 1 : Nat) : Int)
    if number < 0 then some ⟨0, 12, 31⟩
    else
      let date := Date.ofDayNumber number.toNat
      some ⟨date.year, date.month, date.day⟩

/-- The count of ASCII digits at the start of some characters. -/
def digitCount (cs : List Char) : Nat := (cs.takeWhile fun c => (asciiDigit? c).isSome).length

/-- The count of characters of the date at the start of a text. Where a week date may be read
in two ways, the separator is taken to be no digit. -/
def dateLength (cs : List Char) : Nat :=
  if cs.length = 7 then 7
  else if cs[4]? = some '-' then
    if cs[5]? = some 'W' then
      if cs[8]? = some '-' then
        if ((cs[10]?).bind asciiDigit?).isSome then 8 else 10
      else 8
    else 10
  else if cs[4]? = some 'W' then
    let reach := 7 + digitCount (cs.drop 7)
    if reach < 9 then reach
    else if reach % 2 = 0 then 7
    else 8
  else 8

/-- The week and day of a week date whose date part has `length` characters in all. -/
def readWeekDate (year length : Nat) (separated : Bool) (cs : List Char) : Option RawDate := do
  let (week, rest) ← takeDigits 2 0 cs
  let used := if separated then 8 else 7
  if length ≤ used then weekDate? year week 1
  else
    let rest ← if separated then
        match rest with
        | '-' :: rest => some rest
        | _ => none
      else some rest
    let (day, _) ← takeDigits 1 0 rest
    weekDate? year week day

/-- The date at the start of a text, whose date part has `length` characters. -/
def readDate (length : Nat) (cs : List Char) : Option RawDate := do
  let (year, rest) ← takeDigits 4 0 cs
  let (separated, rest) := match rest with
    | '-' :: rest => (true, rest)
    | _ => (false, rest)
  match rest with
  | 'W' :: rest => readWeekDate year length separated rest
  | _ =>
    let (month, rest) ← takeDigits 2 0 rest
    let rest ← if separated then
        match rest with
        | '-' :: rest => some rest
        | _ => none
      else some rest
    let (day, _) ← takeDigits 2 0 rest
    return ⟨year, month, day⟩

/-- The fields of a time of day as they were read. -/
structure RawTime where
  /-- The hour. -/
  hour : Nat := 0
  /-- The minute. -/
  minute : Nat := 0
  /-- The second. -/
  second : Nat := 0
  /-- The microseconds. -/
  micros : Nat := 0

/-- The time with its field `index` set. -/
def RawTime.put (time : RawTime) (index value : Nat) : RawTime :=
  match index with
  | 0 => { time with hour := value }
  | 1 => { time with minute := value }
  | _ => { time with second := value }

/-- The fraction of a second: up to six digits count, and further ones are passed over. What is
left over is reported. -/
def readFraction (time : RawTime) (cs : List Char) : Option (RawTime × Bool) := do
  let count := min cs.length 6
  let (value, rest) ← takeDigits count 0 cs
  let micros := value * Nat.pow 10 (6 - count)
  let rest := rest.drop (digitCount rest)
  return ({ time with micros := micros }, !rest.isEmpty)

/-- Hours, minutes and seconds from field `index` on, with or without colons, and a fraction.
The answer tells whether characters were left over. -/
def readClock (separated : Bool) (time : RawTime) (index : Nat) (cs : List Char) :
    Option (RawTime × Bool) :=
  if index < 3 then
    match cs with
    | a :: b :: rest =>
      match takeDigits 2 0 [a, b] with
      | none => none
      | some (value, _) =>
        let time := time.put index value
        let separated := if index = 0 then rest.head? == some ':' else separated
        match rest with
        | [] => some (time, false)
        | [c] => if c.toNat < 128 then some (time, true) else none
        | c :: more =>
          if separated && c == ':' then readClock separated time (index + 1) more
          else if c == '.' || c == ',' then readFraction time more
          else if !separated then readClock separated time (index + 1) (c :: more)
          else none
    | _ => none
  else readFraction time cs
termination_by cs.length

/-- Whether a character begins an offset. -/
def beginsOffset (c : Char) : Bool := c == '+' || c == '-' || c == 'Z'

/-- The characters before the first that begins an offset, and from it on. -/
def splitOffset (cs : List Char) : List Char × List Char :=
  (cs.takeWhile (!beginsOffset ·), cs.dropWhile (!beginsOffset ·))

/-- The microseconds of an offset. A fraction counts only beside whole seconds. -/
def offsetMicros (offset : RawTime) : Int :=
  let seconds := offset.hour * 3600 + offset.minute * 60 + offset.second
  if seconds = 0 then 0 else seconds * secondMicros + offset.micros

/-- A time of day and the microseconds of its offset, if it has one. -/
def readTime (cs : List Char) : Option (RawTime × Option Int) := do
  let (clock, zone) := splitOffset cs
  let (time, left) ← readClock true {} 0 clock
  match zone with
  | [] => if left then none else return (time, none)
  | ['Z'] => return (time, some 0)
  | 'Z' :: _ => none
  | sign :: rest =>
    let (offset, left) ← readClock true {} 0 rest
    if left then none
    else
      let magnitude := offsetMicros offset
      return (time, some (if sign == '-' then -magnitude else magnitude))

/-- The date, time and offset of a text, before their limits are checked. -/
def readFields (cs : List Char) : Option (RawDate × RawTime × Option Int) := do
  if (String.ofList cs).utf8ByteSize < 7 then none
  let length := dateLength cs
  let date ← readDate length cs
  match cs.drop length with
  | [] => return (date, {}, none)
  | _ :: rest =>
    let (time, offset) ← readTime rest
    return (date, time, offset)

/-- The offset of so many microseconds. -/
def checkOffset : Option Int → Except Fault (Option Offset)
  | none => .ok none
  | some micros =>
    match Offset.ofMicros? micros with
    | some offset => .ok (some offset)
    | none => .error (.offset micros)

/-- The moment of the given fields, if each lies within its limits. -/
def checkFields (date : RawDate) (time : RawTime) (offset : Option Int) :
    Except Fault Moment := do
  let offset ← checkOffset offset
  if date.year < 1 ∨ 9999 < date.year then throw (.year date.year)
  if date.month < 1 ∨ 12 < date.month then throw .month
  if date.day < 1 ∨ daysInMonth date.year date.month < date.day then throw .dayOfMonth
  if 23 < time.hour then throw .hour
  if 59 < time.minute then throw .minute
  if 59 < time.second then throw .second
  let days := Date.dayNumber ⟨date.year, date.month, date.day⟩
  let seconds := time.hour * 3600 + time.minute * 60 + time.second
  let clock : Int := days * dayMicros + seconds * secondMicros + time.micros
  match Moment.ofClock? clock offset with
  | some moment => return moment
  | none => throw .range

/-- The moment that a text shows. -/
def Moment.read (text : String) : Except Fault Moment :=
  match readFields text.toList with
  | some (date, time, offset) => checkFields date time offset
  | none => .error (.malformed text)

end Parley.Time
