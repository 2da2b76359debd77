/-!
# Binary64 numbers

A binary64 number is held exactly, as a sign, a natural significand and a power of two, so
every operation is arithmetic on natural numbers. A result that is no binary64 number is
rounded to the nearest one, and a tie goes to the even significand; past the largest number it
becomes an infinity. Numbers built here have the significand of the interchange format: below
two to the 53rd, and at least half of that unless the exponent is the least one.
-/

namespace Parley

/-- A binary64 number: no number at all, an infinity, or a sign with
`significand * 2 ^ exponent`. -/
inductive Binary64 where
  | nan
  | infinite (negative : Bool)
  | finite (negative : Bool) (significand : Nat) (exponent : Int)
deriving DecidableEq, Repr, Inhabited

namespace Binary64

/-- The quotient of two naturals rounded to the nearest natural, ties to the even one. -/
def roundQuotient (num den : Nat) : Nat :=
  let quotient := num / den
  let twice := 2 * (num % den)
  if twice < den then quotient
  else if den < twice then quotient + 1
  else if quotient % 2 = 0 then quotient
  else quotient + 1

/-- A positive quotient scaled by a power of two, as numerator and denominator. -/
def scaled (num den : Nat) (power : Int) : Nat × Nat :=
  match power with
  | .ofNat p => (num * Nat.pow 2 p, den)
  | .negSucc p => (num, den * Nat.pow 2 (p + 1))

/-- The least exponent of a binary64 number. -/
def leastExponent : Int := -1074

/-- The greatest exponent of a full significand. -/
def greatestExponent : Int := 971

/-- The power of two at or below a positive quotient. -/
def floorLog (num den : Nat) : Int :=
  let guess : Int := (num.log2 : Int) - den.log2
  let (n, d) := scaled num den (-guess)
  if n < d then guess - 1 else guess

/-- The binary64 number nearest to a quotient of naturals. -/
def ofQuotient (negative : Bool) (num den : Nat) : Binary64 :=
  if num = 0 then .finite negative 0 leastExponent
  else
    let exponent := max (floorLog num den - 52) leastExponent
    let (n, d) := scaled num den (-exponent)
    let significand := roundQuotient n d
    let carried := if significand = Nat.pow 2 53 then Nat.pow 2 52 else significand
    let exponent := if significand = Nat.pow 2 53 then exponent + 1 else exponent
    if greatestExponent < exponent then .infinite negative
    else .finite negative carried exponent

/-- The number nearest to an integer. -/
def ofInt (n : Int) : Binary64 := ofQuotient (n < 0) n.natAbs 1

/-- The number nearest to a natural. -/
def ofNat (n : Nat) : Binary64 := ofQuotient false n 1

/-- Positive zero. -/
def zero : Binary64 := .finite false 0 leastExponent

/-- The number nearest to `digits * 10 ^ exponent`. A magnitude far beyond the format is
recognised by its count of digits. -/
def ofDecimal (negative : Bool) (digits : Nat) (exponent : Int) : Binary64 :=
  let magnitude : Int := (Nat.toDigits 10 digits).length + exponent
  if digits = 0 then .finite negative 0 leastExponent
  else if 400 < magnitude then .infinite negative
  else if magnitude < -400 then .finite negative 0 leastExponent
  else
    match exponent with
    | .ofNat e => ofQuotient negative (digits * Nat.pow 10 e) 1
    | .negSucc e => ofQuotient negative digits (Nat.pow 10 (e + 1))

/-- A finite magnitude as a quotient of naturals. -/
def quotient (significand : Nat) (exponent : Int) : Nat × Nat := scaled significand 1 exponent

/-- A finite number as an integer over a natural. -/
def signedQuotient (negative : Bool) (significand : Nat) (exponent : Int) : Int × Nat :=
  let (num, den) := quotient significand exponent
  (if negative then -(num : Int) else num, den)

/-- The order of two integer quotients with positive denominators. -/
def compareQuotients (a b : Int × Nat) : Ordering := compare (a.1 * b.2) (b.1 * a.2)

/-- The order of two numbers by value; what is no number has no place in it. -/
def order : Binary64 → Binary64 → Option Ordering
  | .nan, _ => none
  | _, .nan => none
  | .infinite a, .infinite b =>
    some (if a == b then .eq else if a then .lt else .gt)
  | .infinite a, .finite .. => some (if a then .lt else .gt)
  | .finite .., .infinite b => some (if b then .gt else .lt)
  | .finite s m e, .finite s' m' e' =>
    some (compareQuotients (signedQuotient s m e) (signedQuotient s' m' e'))

/-- Whether a number is a zero of either sign. -/
def isZero : Binary64 → Bool
  | .finite _ significand _ => significand == 0
  | _ => false

/-- The product of two numbers, rounded. -/
def mul : Binary64 → Binary64 → Binary64
  | .nan, _ => .nan
  | _, .nan => .nan
  | .infinite a, .infinite b => .infinite (a != b)
  | .infinite a, .finite b m _ => if m = 0 then .nan else .infinite (a != b)
  | .finite a m _, .infinite b => if m = 0 then .nan else .infinite (a != b)
  | .finite a m e, .finite b m' e' =>
    let (num, den) := scaled (m * m') 1 (e + e')
    ofQuotient (a != b) num den

/-- A finite number as a multiple of a power of two at or below its own. -/
def multipleOf (least : Int) (negative : Bool) (significand : Nat) (exponent : Int) : Int :=
  let magnitude : Int := significand * Nat.pow 2 (exponent - least).toNat
  if negative then -magnitude else magnitude

/-- The sum of two numbers, rounded. A sum that cancels is positive zero; two negative zeros add
up to a negative one. -/
def add : Binary64 → Binary64 → Binary64
  | .nan, _ => .nan
  | _, .nan => .nan
  | .infinite a, .infinite b => if a = b then .infinite a else .nan
  | .infinite a, .finite .. => .infinite a
  | .finite .., .infinite b => .infinite b
  | .finite a m e, .finite b m' e' =>
    let least := min e e'
    let sum := multipleOf least a m e + multipleOf least b m' e'
    if sum = 0 then .finite (a && b) 0 leastExponent
    else
      let (num, den) := scaled sum.natAbs 1 least
      ofQuotient (sum < 0) num den

/-- The number with the other sign. -/
def neg : Binary64 → Binary64
  | .nan => .nan
  | .infinite negative => .infinite !negative
  | .finite negative significand exponent => .finite (!negative) significand exponent

/-- Twice a number. -/
def double (x : Binary64) : Binary64 := mul x (ofNat 2)

/-- The magnitude of a finite number cut to a natural. -/
def floorMagnitude (significand : Nat) (exponent : Int) : Nat :=
  let (num, den) := quotient significand exponent
  num / den

/-- A finite number cut toward zero. -/
def truncate (negative : Bool) (significand : Nat) (exponent : Int) : Int :=
  let whole := floorMagnitude significand exponent
  if negative then -(whole : Int) else whole

/-- What remains of a finite number when it is cut toward zero; this is always exact. -/
def fraction (negative : Bool) (significand : Nat) (exponent : Int) : Binary64 :=
  let (num, den) := quotient significand exponent
  ofQuotient negative (num % den) den

/-- The least natural at or above a number; zero for what is negative or no number. -/
def ceiling? : Binary64 → Option Nat
  | .nan => none
  | .infinite negative => if negative then some 0 else none
  | .finite true _ _ => some 0
  | .finite false significand exponent =>
    let (num, den) := quotient significand exponent
    some ((num + den - 1) / den)

end Binary64

end Parley
