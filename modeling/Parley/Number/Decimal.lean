import Parley.Number.Binary64
import Parley.Text.Search

/-!
# Decimal text of numbers

A number is written with the fewest digits that read back as the same number, and among those
with the digits nearest to it. The search goes through the counts of digits from one upward
and asks of the two neighbours on each decimal grid whether they round to the number; seventeen
digits always suffice.
-/

namespace Parley.Decimal

/-- Digits without a point, and the place of the first one: a value `d.ddd * 10 ^ place`. -/
structure Digits where
  /-- The digits as one natural number. -/
  digits : Nat
  /-- The power of ten of the first digit. -/
  place : Int
deriving DecidableEq, Repr

/-- The count of decimal digits of a natural. -/
def width (n : Nat) : Nat := (Nat.toDigits 10 n).length

/-- The decimal exponent of a quotient below one: the steps to bring it to at least one. -/
def placeBelowOne (den : Nat) : (fuel num : Nat) → Int
  | 0, _ => 0
  | fuel + 1, num => if den ≤ num then 0 else placeBelowOne den fuel (num * 10) - 1

/-- The power of ten at or below a positive quotient. -/
def floorLogTen (num den : Nat) : Int :=
  if den ≤ num then (width (num / den) : Int) - 1
  else placeBelowOne den (width den + 1) num

/-- `digits * 10 ^ power` as a quotient of naturals. -/
def gridPoint (digits : Nat) (power : Int) : Nat × Nat :=
  match power with
  | .ofNat p => (digits * Nat.pow 10 p, 1)
  | .negSucc p => (digits, Nat.pow 10 (p + 1))

/-- The neighbours of a quotient on the grid of multiples of a power of ten that round to the
same magnitude, the nearer one first and of two equally near ones the even. -/
def candidates (target : Binary64) (num den : Nat) (power : Int) : List Nat :=
  let (n, d) := match power with
    | .ofNat p => (num, den * Nat.pow 10 p)
    | .negSucc p => (num * Nat.pow 10 (p + 1), den)
  let below := n / d
  let twice := 2 * (n % d)
  let upFirst := d < twice || (twice == d && below % 2 == 1)
  let both := if upFirst then [below + 1, below] else [below, below + 1]
  both.filter fun digits =>
    let (gn, gd) := gridPoint digits power
    decide (Binary64.ofQuotient false gn gd = target)

/-- The shortest digits that read back, with counts of digits from `count` upward. -/
def search (target : Binary64) (num den : Nat) (place : Int) : (fuel count : Nat) → Nat × Int
  | 0, _ => (0, 0)
  | fuel + 1, count =>
    let power := place - (count : Int) + 1
    match candidates target num den power with
    | digits :: _ => (digits, power)
    | [] => search target num den place fuel (count + 1)

/-- A natural without its final zeros, and how many they were. -/
def dropZeros : (fuel n : Nat) → Nat × Nat
  | 0, n => (n, 0)
  | fuel + 1, n =>
    if n ≠ 0 ∧ n % 10 = 0 then
      let (rest, count) := dropZeros fuel (n / 10)
      (rest, count + 1)
    else (n, 0)

/-- The shortest digits of a positive finite magnitude. -/
def shortest (significand : Nat) (exponent : Int) : Digits :=
  let (num, den) := Binary64.quotient significand exponent
  let target := Binary64.ofQuotient false num den
  let (found, power) := search target num den (floorLogTen num den) 18 1
  let (digits, zeros) := dropZeros 20 found
  ⟨digits, (width digits : Int) - 1 + power + zeros⟩

/-- How a number is laid out: where positional notation begins and ends, the least width of an
exponent, and whether a point comes before every exponent. -/
structure Layout where
  /-- The least place that is written positionally. -/
  leastPlace : Int
  /-- The first place that is written with an exponent. -/
  exponentFrom : Int
  /-- The least count of digits of an exponent. -/
  exponentWidth : Nat
  /-- Whether a single digit before an exponent is followed by a point and a zero. -/
  pointed : Bool

/-- Numbers from a ten-thousandth up to ten to the sixteenth are positional and always have a
fractional part; an exponent has a sign and at least two digits. -/
def plainLayout : Layout := ⟨-4, 16, 2, false⟩

/-- The digits laid out with a point or with an exponent. -/
def layOut (layout : Layout) (value : Digits) : String :=
  let text := toString value.digits
  let count := text.length
  if layout.leastPlace ≤ value.place ∧ value.place < layout.exponentFrom then
    match value.place with
    | .ofNat p =>
      if count ≤ p + 1 then
        text ++ String.ofList (List.replicate (p + 1 - count) '0') ++ ".0"
      else
        String.ofList (text.toList.take (p + 1)) ++ "." ++ String.ofList (text.toList.drop (p + 1))
    | .negSucc p => "0." ++ String.ofList (List.replicate p '0') ++ text
  else
    let head := String.ofList (text.toList.take 1)
    let tail := text.toList.drop 1
    let mantissa :=
      if !tail.isEmpty then head ++ "." ++ String.ofList tail
      else if layout.pointed then head ++ ".0"
      else head
    let sign := if value.place < 0 then "-" else "+"
    mantissa ++ "e" ++ sign ++ Text.padZeros layout.exponentWidth (toString value.place.natAbs)

/-- The text of a binary64 number. -/
def text : Binary64 → String
  | .nan => "nan"
  | .infinite negative => if negative then "-inf" else "inf"
  | .finite negative significand exponent =>
    let sign := if negative then "-" else ""
    if significand = 0 then sign ++ "0.0"
    else sign ++ layOut plainLayout (shortest significand exponent)

/-- The first digits of a positive finite magnitude, so many of them, a half going up. -/
def leading (count significand : Nat) (exponent : Int) : Digits :=
  let (num, den) := Binary64.quotient significand exponent
  let power := floorLogTen num den - (count : Int) + 1
  let (n, d) := match power with
    | .ofNat p => (num, den * Nat.pow 10 p)
    | .negSucc p => (num * Nat.pow 10 (p + 1), den)
  let (digits, zeros) := dropZeros (count + 1) ((2 * n + d) / (2 * d))
  ⟨digits, (width digits : Int) - 1 + power + zeros⟩

/-- A quotient with one place after the point, a half going to the even digit. -/
def tenths (negative : Bool) (num den : Nat) : String :=
  let rounded := Binary64.roundQuotient (num * 10) den
  (if negative then "-" else "") ++ toString (rounded / 10) ++ "." ++ toString (rounded % 10)

/-- A binary64 number with one place after the point. -/
def oneDecimal : Binary64 → String
  | .nan => "nan"
  | .infinite negative => if negative then "-inf" else "inf"
  | .finite negative significand exponent =>
    let (num, den) := Binary64.quotient significand exponent
    tenths negative num den

end Parley.Decimal
