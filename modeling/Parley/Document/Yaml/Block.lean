import Parley.Document.Yaml.Cursor
import Parley.Document.Yaml.Token

/-!
# Block YAML scalars

The text of a scalar that is set apart by its indentation, line by line or with its lines folded
into one. A sign and a digit after the mark say what becomes of the breaks at its end and how far
it is indented.
-/

namespace Parley.Yaml.Block

/-- How the last breaks of a block scalar are treated. -/
inductive Chomping where
  /-- One stays. -/
  | clip
  /-- None stays. -/
  | strip
  /-- All stay. -/
  | keep
deriving DecidableEq

/-- The treatment that a sign stands for. -/
def chomping? (c : Char) : Option Chomping :=
  if c == '+' then some .keep else if c == '-' then some .strip else none

/-- The indentation that a digit stands for. -/
def increment? (c : Char) : Option Nat := if c.isDigit then some (c.toNat - 48) else none

/-- The sign and the digit after the mark of a block scalar, in either order, with the place after
that line. -/
def takeHead (cursor : Cursor) : Option (Chomping × Option Nat × Cursor) := do
  let (chomping, cursor) := match chomping? cursor.next with
    | some chomping => (some chomping, cursor.forward)
    | none => (none, cursor)
  let (increment, cursor) := match increment? cursor.next with
    | some increment => (some increment, cursor.forward)
    | none => (none, cursor)
  let (chomping, cursor) := match chomping, increment, chomping? cursor.next with
    | none, some _, some chomping => (some chomping, cursor.forward)
    | chomping, _, _ => (chomping, cursor)
  if increment == some 0 then none
  if !(cursor.next == ' ' || isLineEnd cursor.next) then none
  let cursor := cursor.skipWhile (· == ' ')
  let cursor := if cursor.next == '#' then cursor.skipWhile (!isBreak ·) else cursor
  if !isLineEnd cursor.next then none
  return (chomping.getD .clip, increment, cursor.takeBreak.2)

/-- The empty lines before a block scalar and the widest indentation among them and its first
line. -/
def takeIndent : (fuel : Nat) → Cursor → List Char → Nat → List Char × Nat × Cursor
  | 0, cursor, breaks, widest => (breaks, widest, cursor)
  | fuel + 1, cursor, breaks, widest =>
    if cursor.next == ' ' then
      let cursor := cursor.forward
      takeIndent fuel cursor breaks (max widest cursor.column)
    else if isBreak cursor.next then
      let (found, cursor) := cursor.takeBreak
      takeIndent fuel cursor (breaks ++ found) widest
    else (breaks, widest, cursor)

/-- The place after the spaces of a line up to a column. -/
def skipIndent (column : Nat) : (fuel : Nat) → Cursor → Cursor
  | 0, cursor => cursor
  | fuel + 1, cursor =>
    if cursor.column < column && cursor.next == ' ' then skipIndent column fuel cursor.forward
    else cursor

/-- The empty lines of a block scalar, and the place after the indentation of the next line. -/
def takeBreaks (column : Nat) : (fuel : Nat) → Cursor → List Char → List Char × Cursor
  | 0, cursor, breaks => (breaks, cursor)
  | fuel + 1, cursor, breaks =>
    let cursor := skipIndent column column cursor
    if isBreak cursor.next then
      let (found, cursor) := cursor.takeBreak
      takeBreaks column fuel cursor (breaks ++ found)
    else (breaks, cursor)

/-- Whether a line of a folded scalar is to be joined to others. -/
def joins (c : Char) : Bool := !(c == ' ' || c == '\t')

/-- The lines of a block scalar; `breaks` are the empty lines before the next one. The text, the
break after its last line, and the empty lines after that are told apart. -/
def takeLines (folded : Bool) (column : Nat) : (fuel : Nat) → Cursor →
    (text found breaks : List Char) → List Char × List Char × List Char × Cursor
  | 0, cursor, text, found, breaks => (text, found, breaks, cursor)
  | fuel + 1, cursor, text, found, breaks =>
    if cursor.column != column || cursor.next == endMark then (text, found, breaks, cursor)
    else
      let text := text ++ breaks
      let leading := joins cursor.next
      let (content, cursor) := cursor.takeWhile (!isBreak ·)
      let (found, cursor) := cursor.takeBreak
      let (breaks, cursor) := takeBreaks column (cursor.rest.length + 1) cursor []
      let text := text ++ content
      if cursor.column == column && cursor.next != endMark then
        let between :=
          if folded && found == ['\n'] && leading && joins cursor.next then
            if breaks.isEmpty then [' '] else []
          else found
        takeLines folded column fuel cursor (text ++ between) found breaks
      else (text, found, breaks, cursor)

/-- The text of a block scalar whose mark is the next character, in a collection of a column, with
the place after it. -/
def take (folded : Bool) (indent : Int) (cursor : Cursor) : Option (String × Cursor) := do
  let (chomping, increment, cursor) ← takeHead cursor.forward
  let least := max (indent + 1) 1
  let fuel := cursor.rest.length + 1
  let (breaks, column, cursor) := match increment with
    | none =>
      let (breaks, widest, cursor) := takeIndent fuel cursor [] 0
      (breaks, max least.toNat widest, cursor)
    | some increment =>
      let column := least.toNat + increment - 1
      let (breaks, cursor) := takeBreaks column fuel cursor []
      (breaks, column, cursor)
  let (text, found, breaks, cursor) := takeLines folded column fuel cursor [] [] breaks
  let text := match chomping with
    | .strip => text
    | .clip => text ++ found
    | .keep => text ++ found ++ breaks
  return (String.ofList text, cursor)

end Parley.Yaml.Block
