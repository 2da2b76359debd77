import Parley.Text.Quoted

/-!
# Faults of time

What can be wrong with the text of a moment, with a duration, or with the sum of the two.
-/

namespace Parley.Time

/-- A reason why a text is no moment, a number no duration, or a sum no moment. -/
inductive Fault where
  /-- The text has none of the forms of a moment. -/
  | malformed (text : String)
  /-- The year lies outside the calendar. -/
  | year (value : Nat)
  /-- There is no such month. -/
  | month
  /-- The month has no such day. -/
  | dayOfMonth
  /-- There is no such hour. -/
  | hour
  /-- There is no such minute. -/
  | minute
  /-- There is no such second. -/
  | second
  /-- The offset, in microseconds, is a day or more. -/
  | offset (micros : Int)
  /-- The number of seconds is no number. -/
  | notANumber
  /-- The number of seconds is infinite. -/
  | infinite
  /-- The count of days does not fit a machine word. -/
  | dayWidth
  /-- The count of days is beyond a billion. -/
  | dayCount (days : Int)
  /-- The sum lies outside the calendar. -/
  | range
  /-- A clock with a known offset was compared with one without. -/
  | incomparable
  /-- Something that is no number was given as seconds; its type is named. -/
  | notSeconds (type : String)
deriving DecidableEq, Repr

/-- The parts of a duration that are not zero, as days, seconds and microseconds. -/
def durationText (micros : Int) : String :=
  let days := micros.fdiv 86400000000
  let rest := micros.fmod 86400000000
  let seconds := rest.fdiv 1000000
  let micros := rest.fmod 1000000
  let part (name : String) (value : Int) : List String :=
    if value = 0 then [] else [name ++ "=" ++ toString value]
  let parts := part "days" days ++ part "seconds" seconds ++ part "microseconds" micros
  "datetime.timedelta(" ++ Text.join ", " (if parts.isEmpty then ["0"] else parts) ++ ")"

/-- The kind of error that a fault is reported as. -/
def Fault.kind : Fault → String
  | .infinite | .dayWidth | .dayCount _ | .range => "OverflowError"
  | .incomparable | .notSeconds _ => "TypeError"
  | _ => "ValueError"

/-- The wording of a fault. -/
def Fault.message : Fault → String
  | .malformed text => "Invalid isoformat string: " ++ Text.quoted text
  | .year value => "year " ++ toString value ++ " is out of range"
  | .month => "month must be in 1..12"
  | .dayOfMonth => "day is out of range for month"
  | .hour => "hour must be in 0..23"
  | .minute => "minute must be in 0..59"
  | .second => "second must be in 0..59"
  | .offset micros =>
    "offset must be a timedelta strictly between -timedelta(hours=24) and "
      ++ "timedelta(hours=24), not " ++ durationText micros ++ "."
  | .notANumber => "cannot convert float NaN to integer"
  | .infinite => "cannot convert float infinity to integer"
  | .dayWidth => "Python int too large to convert to C int"
  | .dayCount days => "days=" ++ toString days ++ "; must have magnitude <= 999999999"
  | .range => "date value out of range"
  | .incomparable => "can't compare offset-naive and offset-aware datetimes"
  | .notSeconds type => "unsupported type for timedelta seconds component: " ++ type

end Parley.Time
