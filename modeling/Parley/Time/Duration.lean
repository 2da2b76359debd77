import Parley.Number.Basic
import Parley.Time.Fault
import Parley.Time.Moment

/-!
# Durations

A number of seconds becomes a whole number of microseconds: the whole seconds exactly, and the
rest of a binary64 number through one rounded product with a million, of which the half goes to
the even neighbour. A duration is refused if its days do not fit.
-/

namespace Parley.Time

/-- The nearest integer to a finite binary64 number, ties to the even one. -/
def nearest (negative : Bool) (significand : Nat) (exponent : Int) : Int :=
  let (num, den) := Binary64.quotient significand exponent
  let magnitude : Int := Binary64.roundQuotient num den
  if negative then -magnitude else magnitude

/-- The microseconds of a number of seconds, before the limits are checked. -/
def microsOf : Number → Except Fault Int
  | .int n => .ok (n * 1000000)
  | .truth b => .ok (Number.ofTruth b * 1000000)
  | .float .nan => .error .notANumber
  | .float (.infinite _) => .error .infinite
  | .float (.finite s m e) =>
    let whole := Binary64.truncate s m e * 1000000
    match Binary64.mul (Binary64.ofNat 1000000) (Binary64.fraction s m e) with
    | .finite s' m' e' => .ok (whole + nearest s' m' e')
    | _ => .ok whole

/-- The duration of a number of seconds, in microseconds. -/
def duration (seconds : Number) : Except Fault Int := do
  let micros ← microsOf seconds
  let days := micros.fdiv 86400000000
  if days < -2147483648 ∨ 2147483647 < days then throw .dayWidth
  if days < -999999999 ∨ 999999999 < days then throw (.dayCount days)
  return micros

/-- The moment a number of seconds later. -/
def Moment.after (moment : Moment) (seconds : Number) : Except Fault Moment := do
  let micros ← duration seconds
  match moment.addMicros? micros with
  | some later => return later
  | none => throw .range

end Parley.Time
