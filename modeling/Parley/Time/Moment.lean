import Parley.Time.Calendar

/-!
# Moments

A moment is a reading of a wall clock, in microseconds from the start of year 1, with the
clock's offset from universal time if it is known. Both lie within the limits of the calendar,
and the limits are part of the types.
-/

namespace Parley.Time

/-- The microseconds of a second. -/
def secondMicros : Nat := 1000000

/-- The microseconds of a day. -/
def dayMicros : Nat := 86400000000

/-- The offset of a clock from universal time, in microseconds: less than a day either way. -/
structure Offset where
  /-- The microseconds that the clock is ahead. -/
  micros : Int
  /-- The clock is less than a day ahead. -/
  lt_day : micros < 86400000000
  /-- The clock is less than a day behind. -/
  neg_day_lt : -86400000000 < micros
deriving DecidableEq, Repr

/-- The offset of universal time itself. -/
def Offset.utc : Offset := ⟨0, by decide, by decide⟩

/-- The offset of so many microseconds, if it is less than a day. -/
def Offset.ofMicros? (micros : Int) : Option Offset :=
  if h : micros < 86400000000 ∧ -86400000000 < micros then some ⟨micros, h.1, h.2⟩ else none

/-- The end of the calendar in microseconds. -/
abbrev clockLimit : Nat := 315537897600000000

/-- A reading of a wall clock, and the offset of the clock if it is known. -/
structure Moment where
  /-- The microseconds on the clock since the start of year 1. -/
  clock : Nat
  /-- The reading lies within the calendar. -/
  clock_lt : clock < clockLimit
  /-- How far the clock is ahead of universal time. -/
  offset : Option Offset
deriving DecidableEq, Repr

namespace Moment

instance : Inhabited Moment := ⟨⟨0, by decide, none⟩⟩

/-- The moment with a reading that may lie outside the calendar. -/
def ofClock? (clock : Int) (offset : Option Offset) : Option Moment :=
  if h : 0 ≤ clock ∧ clock.toNat < clockLimit then some ⟨clock.toNat, h.2, offset⟩ else none

/-- The date on the clock. -/
def date (moment : Moment) : Date := Date.ofDayNumber (moment.clock / dayMicros)

/-- The microseconds since midnight on the clock. -/
def timeOfDay (moment : Moment) : Nat := moment.clock % dayMicros

/-- The microseconds of universal time, taking a clock without offset to show it. -/
def instant (moment : Moment) : Int :=
  (moment.clock : Int) - (match moment.offset with | some offset => offset.micros | none => 0)

/-- Whether two moments can be compared: both offsets are known, or neither. -/
def comparable (a b : Moment) : Bool := a.offset.isSome == b.offset.isSome

/-- Whether two moments are the same instant; a clock without offset shows no instant that
another with one does. -/
def same (a b : Moment) : Bool := comparable a b && a.instant == b.instant

/-- The same instant on a clock of universal time. -/
def toUtc? (moment : Moment) : Option Moment := ofClock? moment.instant (some .utc)

/-- The moment so many microseconds later on the same clock. -/
def addMicros? (moment : Moment) (micros : Int) : Option Moment :=
  ofClock? ((moment.clock : Int) + micros) moment.offset

end Moment

end Parley.Time
