import Parley.Failure
import Parley.Number.Limit
import Parley.Value.Equality

/-!
# Reading JSON

A JSON document is read into a value. Integers keep their size, a number with a fraction or an
exponent is binary64, and the three words for what is no number or infinite are taken. Of two
entries with one key the later value stays in the place of the earlier. What is wrong is told of
the first place at which something is wrong.
-/

namespace Parley.Json

/-- Whether a character may stand between tokens. -/
def isSpace (c : Char) : Bool := c == ' ' || c == '\t' || c == '\n' || c == '\r'

/-- The characters after the spaces. -/
def skipSpace (cs : List Char) : List Char := cs.dropWhile isSpace

/-- The rest after the characters of a word, if they come first. -/
def skipWord? : List Char → List Char → Option (List Char)
  | [], cs => some cs
  | _ :: _, [] => none
  | w :: word, c :: cs => if w == c then skipWord? word cs else none

/-- The value of a digit to the base sixteen. -/
def hexDigit? (c : Char) : Option Nat :=
  if '0' ≤ c && c ≤ '9' then some (c.toNat - 48)
  else if 'a' ≤ c && c ≤ 'f' then some (c.toNat - 87)
  else if 'A' ≤ c && c ≤ 'F' then some (c.toNat - 55)
  else none

/-- The number that four digits to the base sixteen spell. -/
def hexFour? (a b c d : Char) : Option Nat := do
  return (((← hexDigit? a) * 16 + (← hexDigit? b)) * 16 + (← hexDigit? c)) * 16 + (← hexDigit? d)

/-- The character that a letter after a backslash stands for. -/
def escaped? : Char → Option Char
  | '"' => some '"'
  | '\\' => some '\\'
  | '/' => some '/'
  | 'b' => some '\x08'
  | 'f' => some '\x0c'
  | 'n' => some '\n'
  | 'r' => some '\r'
  | 't' => some '\t'
  | _ => none

/-- The codes of a text up to its closing quote, with the rest after the quote. -/
def readCodes (codes : List Nat) : List Char → Option (List Nat × List Char)
  | [] => none
  | '"' :: rest => some (codes.reverse, rest)
  | '\\' :: 'u' :: a :: b :: c :: d :: rest => do
    let code ← hexFour? a b c d
    readCodes (code :: codes) rest
  | '\\' :: letter :: rest => do
    let c ← escaped? letter
    readCodes (c.toNat :: codes) rest
  | c :: rest => if c.toNat < 32 || c == '\\' then none else readCodes (c.toNat :: codes) rest

/-- Characters from their codes. The two halves of a character beyond the sixteen-bit range are
joined, and a half on its own becomes the replacement character. -/
def ofCodes : List Nat → List Char
  | [] => []
  | high :: low :: rest =>
    if 0xD800 ≤ high && high < 0xDC00 && 0xDC00 ≤ low && low < 0xE000 then
      Char.ofNat (0x10000 + (high - 0xD800) * 0x400 + (low - 0xDC00)) :: ofCodes rest
    else ofCode high :: ofCodes (low :: rest)
  | [code] => [ofCode code]
where
  /-- The character of a code. -/
  ofCode (code : Nat) : Char :=
    if 0xD800 ≤ code && code < 0xE000 then Char.ofNat 0xFFFD else Char.ofNat code

/-- The text after an opening quote, with the rest after the closing one. -/
def readText (cs : List Char) : Option (String × List Char) := do
  let (codes, rest) ← readCodes [] cs
  return (String.ofList (ofCodes codes), rest)

/-- The value of a run of ASCII digits. -/
def digitsValue (cs : List Char) : Nat := cs.foldl (fun value c => value * 10 + (c.toNat - 48)) 0

/-- The digits of a whole part: a zero alone, or a run that starts with another digit. -/
def takeWhole? : List Char → Option (List Char × List Char)
  | '0' :: rest => some (['0'], rest)
  | cs => if (cs.head?.any Char.isDigit) then some (cs.span Char.isDigit) else none

/-- The digits after a point, if there are any. -/
def takePlaces : List Char → List Char × List Char
  | '.' :: rest =>
    if rest.head?.any Char.isDigit then rest.span Char.isDigit else ([], '.' :: rest)
  | cs => ([], cs)

/-- The exponent at the start of some characters, if they spell one. -/
def takeExponent (cs : List Char) : Option Int × List Char :=
  match cs with
  | mark :: rest =>
    if mark == 'e' || mark == 'E' then
      let (negative, digits) := match rest with
        | '-' :: rest => (true, rest)
        | '+' :: rest => (false, rest)
        | rest => (false, rest)
      if digits.head?.any Char.isDigit then
        let (run, rest) := digits.span Char.isDigit
        let magnitude : Int := digitsValue run
        (some (if negative then -magnitude else magnitude), rest)
      else (none, cs)
    else (none, cs)
  | [] => (none, [])

/-- A value that was read, and the characters after it. -/
abbrev Reading := Except Failure (Value × List Char)

/-- The integer that digits denote under a sign. -/
def integer (negative : Bool) (digits : List Char) : Except Failure Value :=
  if Number.digitLimit < digits.length then .error (.tooManyDigits (some digits.length))
  else
    let magnitude : Int := digitsValue digits
    .ok (.int (if negative then -magnitude else magnitude))

/-- The number at the start of some characters. -/
def readNumber (cs : List Char) : Reading := do
  let (negative, cs) := match cs with
    | '-' :: rest => (true, rest)
    | cs => (false, cs)
  match takeWhole? cs with
  | none => throw .notJson
  | some (whole, rest) =>
    let (places, rest) := takePlaces rest
    let (exponent, rest) := takeExponent rest
    if places.isEmpty && exponent.isNone then return (← integer negative whole, rest)
    else
      let digits := digitsValue (whole ++ places)
      return (.float (Binary64.ofDecimal negative digits (exponent.getD 0 - places.length)), rest)

/-- The words that stand for values. -/
def words : List (String × Value) := [
  ("null", .null), ("true", .bool true), ("false", .bool false), ("NaN", .float .nan),
  ("Infinity", .float (.infinite false)), ("-Infinity", .float (.infinite true))]

/-- The value that a word at the start stands for. -/
def readWord (cs : List Char) : Option (Value × List Char) :=
  words.findSome? fun (word, value) => (skipWord? word.toList cs).map fun rest => (value, rest)

/-- How deeply lists and dictionaries may lie within each other. -/
def depthLimit : Nat := 985

mutual

/-- The value at the start of some characters, inside so many lists and dictionaries. -/
def readValue : (fuel depth : Nat) → List Char → Reading
  | 0, _, _ => .error .notJson
  | fuel + 1, depth, cs =>
    match cs with
    | '"' :: rest =>
      match readText rest with
      | some (text, rest) => .ok (.text text, rest)
      | none => .error .notJson
    | '[' :: rest =>
      if depthLimit ≤ depth then .error .tooDeep
      else
        match skipSpace rest with
        | ']' :: rest => .ok (.list [], rest)
        | rest => readItems fuel (depth + 1) [] rest
    | '\x7b' :: rest =>
      if depthLimit ≤ depth then .error .tooDeep
      else
        match skipSpace rest with
        | '\x7d' :: rest => .ok (.dict [], rest)
        | rest => readEntries fuel (depth + 1) [] rest
    | cs =>
      match readWord cs with
      | some found => .ok found
      | none => readNumber cs

/-- The items of a list up to its closing bracket; `items` holds those before, in reverse. -/
def readItems : (fuel depth : Nat) → List Value → List Char → Reading
  | 0, _, _, _ => .error .notJson
  | fuel + 1, depth, items, cs => do
    let (item, rest) ← readValue fuel depth cs
    match skipSpace rest with
    | ',' :: rest => readItems fuel depth (item :: items) (skipSpace rest)
    | ']' :: rest => return (.list (item :: items).reverse, rest)
    | _ => throw .notJson

/-- The entries of a dictionary up to its closing brace; `entries` holds those before, in
reverse. -/
def readEntries : (fuel depth : Nat) → List (Value × Value) → List Char → Reading
  | 0, _, _, _ => .error .notJson
  | fuel + 1, depth, entries, '"' :: cs =>
    match readText cs with
    | none => .error .notJson
    | some (key, rest) =>
      match skipSpace rest with
      | ':' :: rest => do
        let (value, rest) ← readValue fuel depth (skipSpace rest)
        match skipSpace rest with
        | ',' :: rest => readEntries fuel depth ((.text key, value) :: entries) (skipSpace rest)
        | '\x7d' :: rest =>
          return (.dict (Entries.ofList ((.text key, value) :: entries).reverse), rest)
        | _ => throw .notJson
      | _ => .error .notJson
  | _ + 1, _, _, _ => .error .notJson

end

/-- The value of a document. -/
def read (text : String) : Except Failure Value := do
  let cs := text.toList
  let (value, rest) ← readValue (cs.length + 1) 0 (skipSpace cs)
  if (skipSpace rest).isEmpty then return value else throw .notJson

end Parley.Json
