/-!
# Places in a YAML text

A cursor holds the characters ahead, and the line and column of the first of them. The end of
the text reads as the character NUL, which no text may contain.
-/

namespace Parley.Yaml

/-- A place in a text. -/
structure Cursor where
  /-- The characters ahead. -/
  rest : List Char
  /-- The count of characters passed. -/
  index : Nat
  /-- The line of the next character. -/
  line : Nat
  /-- The column of the next character. -/
  column : Nat

/-- The character that stands for the end of the text. -/
def endMark : Char := '\x00'

/-- Whether a character ends a line. -/
def isBreak (c : Char) : Bool :=
  c == '\n' || c == '\r' || c.toNat == 0x85 || c.toNat == 0x2028 || c.toNat == 0x2029

/-- Whether a character ends a line or the text. -/
def isLineEnd (c : Char) : Bool := c == endMark || isBreak c

/-- Whether a character ends a word: a blank, the end of a line or of the text. -/
def isWordEnd (c : Char) : Bool := c == ' ' || c == '\t' || isLineEnd c

/-- What a break and the empty lines after it count as: a single line feed is a space. -/
def foldBreaks (found breaks : List Char) : List Char :=
  if found != ['\n'] then found ++ breaks else if breaks.isEmpty then [' '] else breaks

namespace Cursor

/-- The start of a text. -/
def start (text : List Char) : Cursor := ⟨text, 0, 0, 0⟩

/-- The character so many places ahead. -/
def peek (cursor : Cursor) (ahead : Nat) : Char := cursor.rest.getD ahead endMark

/-- The next character. -/
def next (cursor : Cursor) : Char := cursor.peek 0

/-- The place one character further. A return before a line feed does not end the line. -/
def forward (cursor : Cursor) : Cursor :=
  match cursor.rest with
  | [] => cursor
  | c :: rest =>
    let ends := isBreak c && !(c == '\r' && rest.head? == some '\n')
    { rest
      index := cursor.index + 1
      line := if ends then cursor.line + 1 else cursor.line
      column := if ends then 0 else if c.toNat == 0xFEFF then cursor.column else cursor.column + 1 }

/-- The place so many characters further. -/
def forwardBy (cursor : Cursor) : Nat → Cursor
  | 0 => cursor
  | n + 1 => cursor.forward.forwardBy n

/-- The run of characters that satisfy a test, and the place after it. -/
def takeWhile (test : Char → Bool) (cursor : Cursor) : List Char × Cursor :=
  let run := cursor.rest.takeWhile test
  (run, cursor.forwardBy run.length)

/-- The place after the characters that satisfy a test. -/
def skipWhile (test : Char → Bool) (cursor : Cursor) : Cursor := (cursor.takeWhile test).2

/-- The break at the end of a line as it counts, and the place after it. -/
def takeBreak (cursor : Cursor) : List Char × Cursor :=
  match cursor.rest with
  | '\r' :: '\n' :: _ => (['\n'], cursor.forwardBy 2)
  | c :: _ =>
    if c.toNat == 0x2028 || c.toNat == 0x2029 then ([c], cursor.forward)
    else if isBreak c then (['\n'], cursor.forward)
    else ([], cursor)
  | [] => ([], cursor)

/-- Whether a line that marks the bounds of a document starts at the place. -/
def atMarker (cursor : Cursor) : Bool :=
  (cursor.rest.take 3 == ['-', '-', '-'] || cursor.rest.take 3 == ['.', '.', '.'])
    && isWordEnd (cursor.peek 3)

end Cursor

end Parley.Yaml
