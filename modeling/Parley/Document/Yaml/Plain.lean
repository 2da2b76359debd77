import Parley.Document.Yaml.Cursor

/-!
# Plain YAML scalars

The text of a scalar without quotes. It goes on over several lines as long as they are indented
far enough; a single end of a line is a space.
-/

namespace Parley.Yaml.Plain

/-- Whether a character is an indicator inside brackets and braces. -/
def isFlowMark (c : Char) : Bool :=
  c == ',' || c == '[' || c == ']' || c == '\x7b' || c == '\x7d'

/-- Whether a plain scalar may start at some characters. -/
def startsAt (inFlow : Bool) (c d : Char) : Bool :=
  !(isWordEnd c || "-?:,[]\x7b\x7d#&*!|>'\"%@\x60".toList.contains c)
    || (!isWordEnd d && (c == '-' || (!inFlow && (c == '?' || c == ':'))))

/-- Whether a plain scalar ends at some characters. -/
def endsAt (inFlow : Bool) : List Char → Bool
  | [] => true
  | c :: rest =>
    isWordEnd c
      || (c == ':' &&
        (match rest with
          | [] => true
          | d :: _ => isWordEnd d || (inFlow && isFlowMark d)))
      || (inFlow && (c == '?' || isFlowMark c))

/-- The length of the word of a plain scalar at some characters. -/
def wordLength (inFlow : Bool) : List Char → Nat
  | [] => 0
  | c :: rest => if endsAt inFlow (c :: rest) then 0 else wordLength inFlow rest + 1

/-- What the lines from a place on that are empty count for after the break before them; nothing
if a line that marks the bounds of a document comes. -/
def takeLines (found : List Char) : (fuel : Nat) → Cursor → List Char →
    Cursor × Option (List Char)
  | 0, cursor, _ => (cursor, none)
  | fuel + 1, cursor, breaks =>
    if cursor.atMarker then (cursor, none)
    else
      let cursor := cursor.skipWhile (· == ' ')
      if isBreak cursor.next then
        let (more, cursor) := cursor.takeBreak
        takeLines found fuel cursor (breaks ++ more)
      else (cursor, some (foldBreaks found breaks))

/-- The blanks inside a plain scalar, what they count for, and whether a line ended; nothing if a
marker ends the scalar there. -/
def takeSpaces (cursor : Cursor) : Cursor × Bool × Option (List Char) :=
  let (blanks, cursor) := cursor.takeWhile (· == ' ')
  if isBreak cursor.next then
    let (found, cursor) := cursor.takeBreak
    let (cursor, spaces) := takeLines found (cursor.rest.length + 1) cursor []
    (cursor, true, spaces)
  else (cursor, false, some blanks)

/-- What was taken of a plain scalar. -/
structure Taken where
  /-- The text so far. -/
  text : List Char
  /-- The place after it. -/
  cursor : Cursor
  /-- Whether a line ended just before the place. -/
  ended : Bool

/-- The rest of a plain scalar, whose lines start at the column `least` or after it; `spaces` is
what separates it from the part that was taken before. -/
def takeFrom (inFlow : Bool) (least : Int) : (fuel : Nat) → Taken → (spaces : List Char) → Taken
  | 0, taken, _ => taken
  | fuel + 1, taken, spaces =>
    let cursor := taken.cursor
    let length := wordLength inFlow cursor.rest
    if cursor.next == '#' || length == 0 then taken
    else
      let text := taken.text ++ spaces ++ cursor.rest.take length
      let (cursor, ended, spaces) := takeSpaces (cursor.forwardBy length)
      let taken : Taken := ⟨text, cursor, ended⟩
      match spaces with
      | none | some [] => taken
      | some spaces =>
        if !inFlow && (cursor.column : Int) < least then taken
        else takeFrom inFlow least fuel taken spaces

/-- The plain scalar at a place, inside brackets or in a collection of a column. -/
def take (inFlow : Bool) (indent : Int) (cursor : Cursor) : Taken :=
  takeFrom inFlow (indent + 1) (cursor.rest.length + 1) ⟨[], cursor, false⟩ []

end Parley.Yaml.Plain
