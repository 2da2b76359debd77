import Parley.Number.Limit
import Parley.Text.Blank
import Parley.Text.Digit

/-!
# Reading numbers

The text of an integer or of a binary64 number, with blanks around it and one sign before it.
Any decimal digits count, and single underscores may stand between two of them. The four
separators U+001C to U+001F, which are blank elsewhere, are not taken for blanks here.
-/

namespace Parley.Number

/-- Whether a character may surround the text of a number. -/
def isMargin (c : Char) : Bool := Text.isBlank c && !(28 ≤ c.toNat && c.toNat ≤ 31)

/-- The characters inside the margins. -/
def trimmed (cs : List Char) : List Char :=
  ((cs.dropWhile isMargin).reverse.dropWhile isMargin).reverse

/-- An optional sign before the rest; true stands for minus. -/
def readSign : List Char → Bool × List Char
  | '-' :: rest => (true, rest)
  | '+' :: rest => (false, rest)
  | cs => (false, cs)

/-- A run of digits as its value, the count of digits, and the rest. An underscore is passed
over if a digit stands on both sides of it; `inside` says that a digit came just before. -/
def readDigits (inside : Bool) (value count : Nat) : List Char → Nat × Nat × List Char
  | [] => (value, count, [])
  | c :: rest =>
    match Text.digit? c with
    | some d => readDigits true (value * 10 + d) (count + 1) rest
    | none =>
      if c == '_' && inside && (rest.head?.any Text.isDigit) then
        readDigits false value count rest
      else (value, count, c :: rest)

/-- Why a text is not read as an integer. -/
inductive Misreading where
  /-- It does not have the form of one. -/
  | malformed
  /-- It has so many digits, which are too many. -/
  | tooLong (digits : Nat)
deriving DecidableEq, Repr

/-- A magnitude with so many digits under a sign. Too many digits are refused. -/
def signed (negative : Bool) (value count : Nat) : Except Misreading Int :=
  if digitLimit < count then .error (.tooLong count)
  else .ok (if negative then -(value : Int) else value)

/-- The integer that a text denotes. The digits are counted before what follows them is looked at,
unless it is an underscore out of place. -/
def readInt (text : String) : Except Misreading Int :=
  let (negative, rest) := readSign (trimmed text.toList)
  match readDigits false 0 0 rest with
  | (_, 0, _) => .error .malformed
  | (_, _, '_' :: _) => .error .malformed
  | (value, count, rest) => do
    let number ← signed negative value count
    if rest.isEmpty then return number else throw .malformed

/-- The exponent after the digits of a number, if the rest of the text is one; no rest at all
is the exponent zero. -/
def readExponent? : List Char → Option Int
  | [] => some 0
  | c :: rest =>
    if c == 'e' || c == 'E' then
      let (negative, rest) := readSign rest
      match readDigits false 0 0 rest with
      | (value, count, []) =>
        if count = 0 then none else some (if negative then -(value : Int) else value)
      | _ => none
    else none

/-- The magnitude that digits with an optional point and exponent denote. -/
def readMagnitude? (negative : Bool) (cs : List Char) : Option Binary64 := do
  let (whole, wholeCount, rest) := readDigits false 0 0 cs
  let (digits, places, rest) := match rest with
    | '.' :: after => readDigits false whole 0 after
    | rest => (whole, 0, rest)
  if wholeCount + places = 0 then none
  let exponent ← readExponent? rest
  return Binary64.ofDecimal negative digits (exponent - places)

/-- The binary64 number that a text denotes. -/
def readFloat? (text : String) : Option Binary64 :=
  let (negative, rest) := readSign (trimmed text.toList)
  let word := String.ofList (rest.map Char.toLower)
  if word = "inf" || word = "infinity" then some (.infinite negative)
  else if word = "nan" then some .nan
  else readMagnitude? negative rest

end Parley.Number
