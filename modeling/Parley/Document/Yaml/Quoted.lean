import Parley.Document.Json.Reader
import Parley.Document.Yaml.Cursor
import Parley.Document.Yaml.Token

/-!
# Quoted YAML scalars

The text of a scalar in quotes. Blanks around the end of a line do not count, a single end of a
line is a space, and between double quotes a backslash introduces a character that stands for
another.
-/

namespace Parley.Yaml.Quoted

/-- The character that a letter after a backslash stands for. -/
def escape? : Char → Option Nat
  | '0' => some 0
  | 'a' => some 7
  | 'b' => some 8
  | 't' => some 9
  | '\t' => some 9
  | 'n' => some 10
  | 'v' => some 11
  | 'f' => some 12
  | 'r' => some 13
  | 'e' => some 27
  | ' ' => some 32
  | '"' => some 34
  | '\\' => some 92
  | '/' => some 47
  | 'N' => some 0x85
  | '_' => some 0xA0
  | 'L' => some 0x2028
  | 'P' => some 0x2029
  | _ => none

/-- The count of digits after a letter that introduces a code. -/
def codeLength? : Char → Option Nat
  | 'x' => some 2
  | 'u' => some 4
  | 'U' => some 8
  | _ => none

/-- The number that digits to the base sixteen spell. -/
def codeOf? (digits : List Char) : Option Nat :=
  digits.foldlM (fun code digit => (Json.hexDigit? digit).map (code * 16 + ·)) 0

/-- Whether a blank may stand before a line of a quoted scalar. -/
def isIndentBlank (c : Char) : Bool := c == ' ' || c == '\t'

/-- The character of a code, if there is one. -/
def charOf (code : Nat) : Except Fault Char :=
  if code ≤ 0x10FFFF then
    .ok (if 0xD800 ≤ code && code ≤ 0xDFFF then '\uFFFD' else Char.ofNat code)
  else if code ≤ 0x7FFFFFFF then .error .noCharacter
  else .error .hugeCode

/-- Empty lines, as the breaks between them. A line that marks the bounds of a document may not
come inside a quoted scalar. -/
def takeBreaks : (fuel : Nat) → Cursor → List Char → Except Fault (List Char × Cursor)
  | 0, _, _ => .error .malformed
  | fuel + 1, cursor, breaks =>
    if cursor.atMarker then .error .malformed
    else
      let cursor := cursor.skipWhile isIndentBlank
      if isBreak cursor.next then
        let (found, cursor) := cursor.takeBreak
        takeBreaks fuel cursor (breaks ++ found)
      else .ok (breaks, cursor)

/-- The character that a backslash introduces, or the breaks that it hides, with the place after
them. The place given is that of the backslash. -/
def takeEscape (fuel : Nat) (cursor : Cursor) : Except Fault (List Char × Cursor) :=
  let letter := cursor.peek 1
  match escape? letter, codeLength? letter with
  | some code, _ => .ok ([Char.ofNat code], cursor.forwardBy 2)
  | none, some count => do
    let digits := (cursor.rest.drop 2).take count
    match if digits.length = count then codeOf? digits else none with
    | some code => return ([← charOf code], cursor.forwardBy (2 + count))
    | none => throw .malformed
  | none, none =>
    if isBreak letter then takeBreaks fuel cursor.forward.takeBreak.2 []
    else .error .malformed

/-- The blanks at a place, as what they count for, with the place after them. -/
def takeBlanks (fuel : Nat) (cursor : Cursor) : Except Fault (List Char × Cursor) :=
  let (blanks, after) := cursor.takeWhile isIndentBlank
  if isBreak after.next then do
    let (found, after) := after.takeBreak
    let (breaks, cursor) ← takeBreaks fuel after []
    return (foldBreaks found breaks, cursor)
  else .ok (blanks, after)

/-- The rest of a quoted scalar; `text` is the part before, in reverse. -/
def takeFrom (mark : Char) : (fuel : Nat) → Cursor → (text : List Char) →
    Except Fault (List Char × Cursor)
  | 0, _, _ => .error .malformed
  | fuel + 1, cursor, text =>
    match cursor.rest with
    | [] => .error .malformed
    | c :: rest =>
      if c == mark then
        if mark == '\'' && rest.head? == some '\'' then
          takeFrom mark fuel (cursor.forwardBy 2) ('\'' :: text)
        else .ok (text.reverse, cursor.forward)
      else if c == '\\' && mark == '"' then do
        let (found, cursor) ← takeEscape (rest.length + 1) cursor
        takeFrom mark fuel cursor (found.reverse ++ text)
      else if isIndentBlank c || isBreak c then do
        let (found, cursor) ← takeBlanks (rest.length + 1) cursor
        takeFrom mark fuel cursor (found.reverse ++ text)
      else takeFrom mark fuel cursor.forward (c :: text)

/-- The text of a quoted scalar whose opening quote is the next character, with the place after
its closing quote. -/
def take (mark : Char) (cursor : Cursor) : Except Fault (String × Cursor) := do
  let cursor := cursor.forward
  let (text, cursor) ← takeFrom mark (cursor.rest.length + 1) cursor []
  return (String.ofList text, cursor)

end Parley.Yaml.Quoted
