import Parley.Document.Yaml.Block
import Parley.Document.Yaml.Plain
import Parley.Document.Yaml.Quoted

/-!
# Cutting YAML into tokens

A text becomes tokens from left to right. Where a key starts is only known once the colon after it
is found, so a place where a key may have started is kept as long as the key could still end, and
the tokens of the key are put in there afterwards.
-/

namespace Parley.Yaml

/-- A place where a key may have started. -/
structure KeyPlace where
  /-- The count of tokens before it. -/
  token : Nat
  /-- Whether there must be a key. -/
  required : Bool
  /-- Where the key starts in the text. -/
  index : Nat
  /-- Its line. -/
  line : Nat
  /-- Its column. -/
  column : Nat

/-- The state of cutting a text into tokens. -/
structure Lexer where
  /-- The place in the text. -/
  cursor : Cursor
  /-- The tokens so far, in reverse. -/
  tokens : List Token
  /-- How many brackets and braces are open. -/
  depth : Nat
  /-- The column of the innermost open collection. -/
  indent : Int
  /-- The columns of the collections around it. -/
  indents : List Int
  /-- Whether a key may start at the place. -/
  keyAllowed : Bool
  /-- The places where keys may have started, by depth. -/
  keys : List (Nat × KeyPlace)

namespace Lexer

/-- The start of a text. -/
def start (text : List Char) : Lexer := ⟨.start text, [], 0, -1, [], true, []⟩

/-- Adds a token. -/
def push (lexer : Lexer) (token : Token) : Lexer := { lexer with tokens := token :: lexer.tokens }

/-- Adds tokens before the last ones: `count` tokens stay before them. -/
def insertAt (lexer : Lexer) (count : Nat) (tokens : List Token) : Lexer :=
  let later := lexer.tokens.length - count
  { lexer with
    tokens := lexer.tokens.take later ++ tokens.reverse ++ lexer.tokens.drop later }

/-- Closes the collections that are indented further than a column. -/
def unwind (column : Int) (lexer : Lexer) : Lexer :=
  if lexer.depth != 0 then lexer
  else
    let rec close (indent : Int) (tokens : List Token) : List Int → Int × List Token × List Int
      | [] => (indent, tokens, [])
      | outer :: outers =>
        if column < indent then close outer (.blockEnd :: tokens) outers
        else (indent, tokens, outer :: outers)
    let (indent, tokens, indents) := close lexer.indent lexer.tokens lexer.indents
    { lexer with indent, tokens, indents }

/-- Opens a collection at a column if it is indented further than the innermost one. -/
def opens (column : Nat) (lexer : Lexer) : Bool × Lexer :=
  if lexer.indent < column then
    (true, { lexer with indent := column, indents := lexer.indent :: lexer.indents })
  else (false, lexer)

/-- Forgets the place where a key may have started; there must not be one that is required. -/
def dropKey (lexer : Lexer) : Except Fault Lexer :=
  match lexer.keys.lookup lexer.depth with
  | none => .ok lexer
  | some place =>
    if place.required then .error .malformed
    else .ok { lexer with keys := lexer.keys.filter fun entry => entry.1 != lexer.depth }

/-- Notes that a key may start at the place. -/
def noteKey (lexer : Lexer) : Except Fault Lexer := do
  let required := lexer.depth == 0 && lexer.indent == lexer.cursor.column
  if lexer.keyAllowed then
    let lexer ← lexer.dropKey
    let cursor := lexer.cursor
    let place : KeyPlace :=
      ⟨lexer.tokens.length, required, cursor.index, cursor.line, cursor.column⟩
    return { lexer with keys := (lexer.depth, place) :: lexer.keys }
  else return lexer

/-- Whether a place is on another line than the lexer or too far back for a key to end here. -/
def isStale (lexer : Lexer) (place : KeyPlace) : Bool :=
  place.line != lexer.cursor.line || 1024 < lexer.cursor.index - place.index

/-- Forgets the places at which no key can start any more. -/
def dropStaleKeys (lexer : Lexer) : Except Fault Lexer :=
  if lexer.keys.any fun entry => lexer.isStale entry.2 && entry.2.required then
    .error .malformed
  else .ok { lexer with keys := lexer.keys.filter fun entry => !lexer.isStale entry.2 }

/-- The tokens before which nothing can be put in any more. -/
def settled (lexer : Lexer) : List Token :=
  let places := (lexer.keys.filter fun entry => !lexer.isStale entry.2).map (·.2.token)
  lexer.tokens.reverse.take (places.foldl min lexer.tokens.length)

/-- Passes over blanks, comments and empty lines. -/
def skipSpace : (fuel : Nat) → Lexer → Lexer
  | 0, lexer => lexer
  | fuel + 1, lexer =>
    let cursor := lexer.cursor.skipWhile (· == ' ')
    let cursor := if cursor.next == '#' then cursor.skipWhile (!isBreak ·) else cursor
    if isBreak cursor.next then
      skipSpace fuel { lexer with
        cursor := cursor.takeBreak.2
        keyAllowed := lexer.keyAllowed || lexer.depth == 0 }
    else { lexer with cursor }


/-- Passes over the next characters with a token for them. -/
def takeMark (count : Nat) (token : Token) (lexer : Lexer) : Lexer :=
  { lexer with cursor := lexer.cursor.forwardBy count }.push token

/-- The line that marks the bounds of a document. -/
def takeMarker (token : Token) (lexer : Lexer) : Except Fault Lexer := do
  let lexer ← (lexer.unwind (-1)).dropKey
  return { lexer with keyAllowed := false }.takeMark 3 token

/-- An opening bracket or brace. -/
def takeOpen (token : Token) (lexer : Lexer) : Except Fault Lexer := do
  let lexer ← lexer.noteKey
  return { lexer with depth := lexer.depth + 1, keyAllowed := true }.takeMark 1 token

/-- A closing bracket or brace. -/
def takeClose (token : Token) (lexer : Lexer) : Except Fault Lexer := do
  let lexer ← lexer.dropKey
  if lexer.depth == 0 then throw .malformed
  return { lexer with depth := lexer.depth - 1, keyAllowed := false }.takeMark 1 token

/-- Opens a collection at the place if needed, where a key or an item may start. -/
def openHere (token : Token) (lexer : Lexer) : Except Fault Lexer :=
  if lexer.depth != 0 then .ok lexer
  else if !lexer.keyAllowed then .error .malformed
  else
    let (isNew, lexer) := lexer.opens lexer.cursor.column
    .ok (if isNew then lexer.push token else lexer)

/-- The dash before an item. -/
def takeEntry (lexer : Lexer) : Except Fault Lexer := do
  let lexer ← lexer.openHere .sequenceStart
  let lexer ← { lexer with keyAllowed := true }.dropKey
  return lexer.takeMark 1 .entry

/-- The question mark before a key. -/
def takeKey (lexer : Lexer) : Except Fault Lexer := do
  let lexer ← lexer.openHere .mappingStart
  let lexer ← { lexer with keyAllowed := lexer.depth == 0 }.dropKey
  return lexer.takeMark 1 .key

/-- The colon before a value. What may have been a key before it was one. -/
def takeValue (lexer : Lexer) : Except Fault Lexer := do
  match lexer.keys.lookup lexer.depth with
  | some place =>
    let lexer := { lexer with keys := lexer.keys.filter fun entry => entry.1 != lexer.depth }
    let (isNew, lexer) :=
      if lexer.depth == 0 then lexer.opens place.column else (false, lexer)
    let lexer := lexer.insertAt place.token (if isNew then [.mappingStart, .key] else [.key])
    return { lexer with keyAllowed := false }.takeMark 1 .value
  | none =>
    let lexer ← lexer.openHere .mappingStart
    let lexer ← { lexer with keyAllowed := lexer.depth == 0 }.dropKey
    return lexer.takeMark 1 .value

/-- The comma between items. -/
def takeComma (lexer : Lexer) : Except Fault Lexer := do
  let lexer ← { lexer with keyAllowed := true }.dropKey
  return lexer.takeMark 1 .comma

/-- A scalar in quotes. -/
def takeQuoted (mark : Char) (lexer : Lexer) : Except Fault Lexer := do
  let lexer ← lexer.noteKey
  let (text, cursor) ← Quoted.take mark lexer.cursor
  return { lexer with cursor, keyAllowed := false }.push (.scalar text false)

/-- A scalar that is set apart by its indentation. -/
def takeBlock (folded : Bool) (lexer : Lexer) : Except Fault Lexer := do
  let lexer ← { lexer with keyAllowed := true }.dropKey
  match Block.take folded lexer.indent lexer.cursor with
  | some (text, cursor) => return { lexer with cursor }.push (.scalar text false)
  | none => throw .malformed

/-- A scalar without quotes. A key may start after it only at the start of a line. -/
def takePlain (lexer : Lexer) : Except Fault Lexer := do
  let lexer ← lexer.noteKey
  let taken := Plain.take (lexer.depth != 0) lexer.indent lexer.cursor
  return { lexer with cursor := taken.cursor, keyAllowed := taken.ended }.push
    (.scalar (String.ofList taken.text) true)

/-- The next token. -/
def takeToken (lexer : Lexer) : Except Fault Lexer :=
  let cursor := lexer.cursor
  let c := cursor.next
  let d := cursor.peek 1
  let inFlow := lexer.depth != 0
  if cursor.column == 0 && c == '%' then .error .malformed
  else if cursor.column == 0 && cursor.atMarker then
    lexer.takeMarker (if c == '-' then .documentStart else .documentEnd)
  else if c == '[' then lexer.takeOpen .listOpen
  else if c == '\x7b' then lexer.takeOpen .mapOpen
  else if c == ']' then lexer.takeClose .listClose
  else if c == '\x7d' then lexer.takeClose .mapClose
  else if c == ',' then lexer.takeComma
  else if c == '-' && isWordEnd d then lexer.takeEntry
  else if c == '?' && (inFlow || isWordEnd d) then lexer.takeKey
  else if c == ':' && (inFlow || isWordEnd d) then lexer.takeValue
  else if (c == '|' || c == '>') && !inFlow then lexer.takeBlock (c == '>')
  else if c == '\'' || c == '"' then lexer.takeQuoted c
  else if Plain.startsAt inFlow c d then lexer.takePlain
  else .error .malformed

/-- Takes the next token, after what separates it from the last one; nothing at the end. -/
def step (lexer : Lexer) : Except Fault (Option Lexer) := do
  let lexer := lexer.skipSpace (lexer.cursor.rest.length + 1)
  let lexer ← lexer.dropStaleKeys
  let lexer := lexer.unwind lexer.cursor.column
  if lexer.cursor.rest.isEmpty then return none else return some (← lexer.takeToken)

/-- The tokens at the end of a text, which closes all collections. -/
def finish (lexer : Lexer) : Except Fault (List Token) := do
  let lexer ← (← (lexer.skipSpace (lexer.cursor.rest.length + 1)).dropStaleKeys).unwind (-1)
    |>.dropKey
  return lexer.tokens.reverse

/-- All tokens, in order. Where the text cannot be cut further, only the tokens that are settled
come before the one that tells why. -/
def run : (fuel : Nat) → Lexer → List Token
  | 0, lexer => lexer.settled ++ [.broken .malformed]
  | fuel + 1, lexer =>
    match lexer.step with
    | .ok (some next) => run fuel next
    | .ok none =>
      match lexer.finish with
      | .ok tokens => tokens
      | .error fault => lexer.settled ++ [.broken fault]
    | .error fault => lexer.settled ++ [.broken fault]

end Lexer

/-- Whether a character may occur in a text. -/
def isTextChar (c : Char) : Bool :=
  let n := c.toNat
  n == 9 || n == 10 || n == 13 || (32 ≤ n && n ≤ 126) || n == 0x85
    || (0xA0 ≤ n && n ≤ 0xFFFD) || 0x10000 ≤ n

/-- The tokens of a text. A mark of the byte order before it does not count. -/
def tokens (text : String) : List Token :=
  let cs := text.toList
  let cs := if cs.head? == some '\uFEFF' then cs.drop 1 else cs
  if cs.all isTextChar then (Lexer.start cs).run (cs.length + 1) else [.broken .malformed]

end Parley.Yaml
