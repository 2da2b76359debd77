import Parley.Number.Limit
import Parley.Value.Conversion

/-!
# Scalars

What a plain scalar of a YAML document stands for: null, a truth value, an integer in one of
several bases, a number, a date or a moment, by the rules of version 1.1, and otherwise a text.
-/

namespace Parley.Yaml

/-- The words for the truth values. -/
def truthWords : List (String × Bool) := [
  ("yes", true), ("Yes", true), ("YES", true), ("no", false), ("No", false), ("NO", false),
  ("true", true), ("True", true), ("TRUE", true), ("false", false), ("False", false),
  ("FALSE", false), ("on", true), ("On", true), ("ON", true), ("off", false), ("Off", false),
  ("OFF", false)]

/-- The words for null. -/
def nullWords : List String := ["", "~", "null", "Null", "NULL"]

/-- Whether a character is a digit or an underscore. -/
def isPlace (c : Char) : Bool := c.isDigit || c == '_'

/-- An optional sign before the rest; true stands for minus. -/
def takeSign : List Char → Bool × Bool × List Char
  | '-' :: rest => (true, true, rest)
  | '+' :: rest => (true, false, rest)
  | cs => (false, false, cs)

/-- The value of a digit to a base up to sixteen. -/
def digitValue (c : Char) : Nat :=
  if c.isDigit then c.toNat - 48 else if 'a' ≤ c && c ≤ 'f' then c.toNat - 87 else c.toNat - 55

/-- The value of digits to a base; underscores do not count. -/
def valueIn (base : Nat) (cs : List Char) : Nat :=
  (cs.filter (· != '_')).foldl (fun value c => value * base + digitValue c) 0

/-- Whether a character is a digit to the base sixteen. -/
def isHex (c : Char) : Bool := c.isDigit || ('a' ≤ c && c ≤ 'f') || ('A' ≤ c && c ≤ 'F')

/-- Whether a character is a digit to the base eight. -/
def isOctal (c : Char) : Bool := '0' ≤ c && c ≤ '7'

/-- The parts between colons. -/
def colonParts (cs : List Char) : List (List Char) := Text.piecesFrom ':' [] cs

/-- Whether characters are one digit, or two of which the first is below six. -/
def isSixtieth : List Char → Bool
  | [a] => a.isDigit
  | [a, b] => '0' ≤ a && a ≤ '5' && b.isDigit
  | _ => false

/-- The natural that decimal digits denote, if there are not too many of them. -/
def decimal (cs : List Char) : Except Failure Nat :=
  let count := (cs.filter (· != '_')).length
  if Number.digitLimit < count then .error (.tooManyDigits (some count))
  else .ok (valueIn 10 cs)

/-- The natural that digits after the letter of a base denote; underscores alone are none. -/
def lettered (base : Nat) (cs : List Char) : Except Failure Nat :=
  if cs.all (· == '_') then .error (.notInteger base (Text.quoted ""))
  else .ok (valueIn base cs)

/-- The value of parts to the base sixty. -/
def sixtyValue (parts : List (List Char)) : Except Failure Nat :=
  parts.foldlM (fun value part => return value * 60 + (← decimal part)) 0

/-- Whether parts between colons are digits to the base sixty; the first has no bound. -/
def areSixtieths : List (List Char) → Bool
  | whole :: parts =>
    (whole.head?.any Char.isDigit) && whole.all isPlace && parts.all isSixtieth
  | [] => false

/-- The magnitude of an integer without its sign, if it has the form of one. -/
def natural? (cs : List Char) : Option (Except Failure Nat) :=
  match cs with
  | ['0'] => some (.ok 0)
  | '0' :: 'b' :: rest =>
    if !rest.isEmpty && rest.all fun c => c == '0' || c == '1' || c == '_' then
      some (lettered 2 rest)
    else none
  | '0' :: 'x' :: rest =>
    if !rest.isEmpty && rest.all fun c => isHex c || c == '_' then some (lettered 16 rest)
    else none
  | '0' :: rest =>
    if rest.all fun c => isOctal c || c == '_' then some (.ok (valueIn 8 rest)) else none
  | cs =>
    let parts := colonParts cs
    if areSixtieths parts then some (sixtyValue parts) else none

/-- The integer that a plain scalar stands for, if it has the form of one. -/
def integer? (cs : List Char) : Option (Except Failure Int) :=
  let (_, negative, rest) := takeSign cs
  (natural? rest).map fun magnitude =>
    magnitude.map fun n => if negative then -(n : Int) else (n : Int)

/-- An exponent with its sign at the end of a number; no exponent is zero. -/
def exponent? : List Char → Option Int
  | [] => some 0
  | mark :: sign :: digits =>
    if (mark == 'e' || mark == 'E') && (sign == '+' || sign == '-') && !digits.isEmpty
        && digits.all Char.isDigit then
      let magnitude : Int := valueIn 10 digits
      some (if sign == '-' then -magnitude else magnitude)
    else none
  | _ => none

/-- The number of whole digits, digits after the point, and an exponent. -/
def pointed (negative : Bool) (whole places : List Char) (exponent : Int) : Binary64 :=
  let count := (places.filter (· != '_')).length
  Binary64.ofDecimal negative (valueIn 10 (whole ++ places)) (exponent - count)

/-- The sum of parts to the base sixty, last part first, each of them and each power of sixty
rounded before they are multiplied and added. -/
def sixtySum (power : Nat) (sum : Binary64) : List Binary64 → Except Failure Binary64
  | [] => .ok sum
  | part :: rest => do
    let factor ← Value.floatOfInt power
    sixtySum (power * 60) (sum.add (part.mul factor)) rest

/-- The number of parts between colons, with digits after the point of the last one. -/
def sixtyPointed (negative : Bool) (parts : List (List Char)) (places : List Char) :
    Except Failure Binary64 := do
  let numbers := match parts.reverse with
    | [] => []
    | last :: before =>
      pointed false last places 0 :: before.map fun part => pointed false part [] 0
  let sum ← sixtySum 1 .zero numbers
  return if negative then sum.neg else sum

/-- The number that a plain scalar with a point stands for, if it has the form of one. -/
def float? (cs : List Char) : Option (Except Failure Binary64) :=
  let (signed, negative, rest) := takeSign cs
  let word := String.ofList rest
  if word = ".inf" || word = ".Inf" || word = ".INF" then
    some (.ok (.infinite negative))
  else if !signed && (word = ".nan" || word = ".NaN" || word = ".NAN") then some (.ok .nan)
  else
    let whole := rest.takeWhile fun c => isPlace c || c == ':'
    match rest.dropWhile fun c => isPlace c || c == ':' with
    | '.' :: after =>
      let places := after.takeWhile isPlace
      let tail := after.dropWhile isPlace
      match colonParts whole with
      | [[]] =>
        if !signed && (places.head?.any Char.isDigit) then
          (exponent? tail).map fun exponent => .ok (pointed negative [] places exponent)
        else none
      | [whole] =>
        if whole.head?.any Char.isDigit then
          (exponent? tail).map fun exponent => .ok (pointed negative whole places exponent)
        else none
      | parts =>
        if areSixtieths parts && tail.isEmpty then some (sixtyPointed negative parts places)
        else none
    | _ => none

/-- One or two digits at the start, with the rest. -/
def oneOrTwo? : List Char → Option (Nat × List Char)
  | a :: b :: rest =>
    if a.isDigit then
      if b.isDigit then some (valueIn 10 [a, b], rest) else some (valueIn 10 [a], b :: rest)
    else none
  | [a] => if a.isDigit then some (valueIn 10 [a], []) else none
  | [] => none

/-- Exactly two digits at the start, with the rest. -/
def two? : List Char → Option (Nat × List Char)
  | a :: b :: rest => if a.isDigit && b.isDigit then some (valueIn 10 [a, b], rest) else none
  | _ => none

/-- What follows a character that must come next. -/
def expect? (mark : Char) : List Char → Option (List Char)
  | [] => none
  | c :: rest => if c == mark then some rest else none

/-- The day at the start of a scalar, and whether month and day have two digits each. -/
def readDay? (cs : List Char) : Option (Nat × Nat × Nat × Bool × List Char) := do
  let (century, rest) ← two? cs
  let (years, rest) ← two? rest
  let (month, after) ← oneOrTwo? (← expect? '-' rest)
  let (day, tail) ← oneOrTwo? (← expect? '-' after)
  let full := cs.length - tail.length == 10
  return (century * 100 + years, month, day, full, tail)

/-- What separates a day from a time. -/
def skipSeparator? : List Char → Option (List Char)
  | 'T' :: rest | 't' :: rest => some rest
  | c :: rest =>
    if c == ' ' || c == '\t' then some (rest.dropWhile fun c => c == ' ' || c == '\t') else none
  | [] => none

/-- The microseconds that the digits after a point stand for. -/
def fraction (digits : List Char) : Nat :=
  valueIn 10 ((digits ++ List.replicate 6 '0').take 6)

/-- The offset at the end of a moment in microseconds, if there is one. -/
def readOffset? (cs : List Char) : Option (Option Int) :=
  match cs.dropWhile fun c => c == ' ' || c == '\t' with
  | [] => if cs.isEmpty then some none else none
  | ['Z'] => some (some 0)
  | sign :: rest =>
    if sign == '+' || sign == '-' then do
      let (hours, rest) ← oneOrTwo? rest
      let minutes ← match rest with
        | [] => some 0
        | ':' :: rest => do
          let (minutes, rest) ← two? rest
          if rest.isEmpty then some minutes else none
        | _ => none
      let micros : Int := ((hours * 60 + minutes) * 60 * 1000000 : Nat)
      return some (if sign == '-' then -micros else micros)
    else none

/-- The time at the end of a moment, with the microseconds of its offset. -/
def readTime? (cs : List Char) : Option (Time.RawTime × Option Int) := do
  let (hour, rest) ← oneOrTwo? cs
  let (minute, rest) ← two? (← expect? ':' rest)
  let (second, rest) ← two? (← expect? ':' rest)
  let (digits, rest) := match rest with
    | '.' :: rest => (rest.takeWhile Char.isDigit, rest.dropWhile Char.isDigit)
    | rest => ([], rest)
  let offset ← readOffset? rest
  return (⟨hour, minute, second, fraction digits⟩, offset)

/-- The date or moment that a plain scalar stands for, if it has the form of one. One that lies
outside the calendar is a failure. -/
def moment? (cs : List Char) : Option (Except Failure Value) := do
  let (year, month, day, full, rest) ← readDay? cs
  let date : Time.RawDate := ⟨year, month, day⟩
  match rest with
  | [] =>
    if full then
      match Time.checkFields date ⟨0, 0, 0, 0⟩ none with
      | .ok moment => some (.ok (.date moment.date))
      | .error fault => some (.error (.time fault))
    else none
  | rest =>
    let (time, offset) ← readTime? (← skipSeparator? rest)
    match Time.checkFields date time offset with
    | .ok moment => some (.ok (.moment moment))
    | .error fault => some (.error (.time fault))

/-- The value of a plain scalar. Two of its words stand for nothing that can be read. -/
def plainValue (text : String) : Except Failure Value :=
  let cs := text.toList
  if nullWords.contains text then .ok .null
  else
    match truthWords.lookup text with
    | some truth => .ok (.bool truth)
    | none =>
      match float? cs, integer? cs, moment? cs with
      | some x, _, _ => return .float (← x)
      | none, some n, _ => return .int (← n)
      | none, none, some moment => moment
      | none, none, none =>
        if text = "=" || text = "<<" then .error .notYaml else .ok (.text text)

end Parley.Yaml
