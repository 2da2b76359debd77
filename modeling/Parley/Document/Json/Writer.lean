import Parley.Value.Plain

/-!
# Writing JSON

A plain value is written as a JSON document, on one line or with one item a line. Characters
beyond ASCII stand for themselves. What is not plain is written as null.
-/

namespace Parley.Json

/-- A character inside quotes. -/
def writeChar (c : Char) : List Char :=
  if c == '"' then ['\\', '"']
  else if c == '\\' then ['\\', '\\']
  else if c == '\n' then ['\\', 'n']
  else if c == '\r' then ['\\', 'r']
  else if c == '\t' then ['\\', 't']
  else if c == '\x08' then ['\\', 'b']
  else if c == '\x0c' then ['\\', 'f']
  else if c.toNat < 32 then '\\' :: 'u' :: (Text.padZeros 4 (Text.hex c.toNat)).toList
  else [c]

/-- A text in quotes. -/
def writeText (text : String) : String :=
  String.ofList ('"' :: text.toList.flatMap writeChar ++ ['"'])

/-- How the items of a list or dictionary are set apart. -/
inductive Layout where
  /-- All on one line. -/
  | line
  /-- Each on a line of its own, at a depth of indentation. -/
  | block (depth : Nat)

/-- The layout inside a list or dictionary. -/
def Layout.inner : Layout → Layout
  | .line => .line
  | .block depth => .block (depth + 2)

/-- The start of a line at a depth of indentation. -/
def lineStart (depth : Nat) : String := "\n" ++ String.ofList (List.replicate depth ' ')

/-- Written items between brackets. -/
def enclose (layout : Layout) (opening closing : String) (items : List String) : String :=
  if items.isEmpty then opening ++ closing
  else
    match layout with
    | .line => opening ++ Text.join ", " items ++ closing
    | .block depth =>
      opening ++ lineStart (depth + 2) ++ Text.join ("," ++ lineStart (depth + 2)) items
        ++ lineStart depth ++ closing

/-- The text of a key; one that is not plain has none. -/
def keyText (key : Value) : String :=
  match key.plainKey with
  | .ok text => text
  | .error _ => ""

mutual

/-- A value written in a layout. -/
def writeIn (layout : Layout) : Value → String
  | .bool b => if b then "true" else "false"
  | .int n => toString n
  | .float x => Value.plainFloat x
  | .text s => writeText s
  | .list items => enclose layout "[" "]" (writeItems layout.inner items)
  | .tuple items => enclose layout "[" "]" (writeItems layout.inner items)
  | .dict entries => enclose layout "\x7b" "\x7d" (writeEntries layout.inner entries)
  | _ => "null"

/-- Items written in a layout. -/
def writeItems (layout : Layout) : List Value → List String
  | [] => []
  | item :: rest => writeIn layout item :: writeItems layout rest

/-- Entries written in a layout. -/
def writeEntries (layout : Layout) : List (Value × Value) → List String
  | [] => []
  | (key, value) :: rest =>
    (writeText (keyText key) ++ ": " ++ writeIn layout value) :: writeEntries layout rest

end

/-- A value as a document on one line. -/
def write (value : Value) : String := writeIn .line value

/-- A value as a document with one item a line. -/
def writeBlock (value : Value) : String := writeIn (.block 0) value

end Parley.Json
