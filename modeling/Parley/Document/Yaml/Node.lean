import Parley.Document.Yaml.Lexer

/-!
# The tree of a YAML document

The tokens of a text form a tree of scalars, sequences and mappings. Collections may be written by
indentation or in brackets; a key or a value that is left out is an empty scalar.
-/

namespace Parley.Yaml

/-- A node of a document. -/
inductive Node where
  /-- A scalar; a plain one may stand for something else than its text. -/
  | scalar (text : String) (plain : Bool)
  /-- The items of a sequence in order. -/
  | sequence (items : List Node)
  /-- The keys and values of a mapping in order. -/
  | mapping (entries : List (Node × Node))
deriving Inhabited

namespace Node

/-- What stands where a key or a value is left out. -/
def empty : Node := .scalar "" true

/-- A node that was read, and the tokens after it. -/
abbrev Reading := Except Fault (Node × List Token)

/-- Why tokens that cannot go on like this are refused: where the text was cut short, for the
reason of that. -/
def unexpected : List Token → Fault
  | .broken fault :: _ => fault
  | _ => .malformed

/-- How deeply collections may lie within each other. -/
def depthLimit : Nat := 485

/-- Whether the tokens show that a value inside a block is left out. -/
def emptyInBlock : List Token → Bool
  | .key :: _ | .value :: _ | .blockEnd :: _ => true
  | _ => false

/-- Whether the tokens show that an item is left out; `bare` items have no indentation of their
own, so that keys end them too. -/
def emptyItem (bare : Bool) : List Token → Bool
  | .entry :: _ | .blockEnd :: _ => true
  | .key :: _ | .value :: _ => bare
  | _ => false

/-- Whether the tokens show that a value inside brackets is left out. -/
def emptyInFlow : List Token → Bool
  | .value :: _ | .comma :: _ | .listClose :: _ | .mapClose :: _ => true
  | _ => false

/-- The tokens after the comma that comes before any item in brackets but the first. -/
def skipComma (first : Bool) : List Token → Except Fault (List Token)
  | .comma :: rest => .ok (if first then .comma :: rest else rest)
  | tokens => if first then .ok tokens else .error (unexpected tokens)

mutual

/-- The node at the start of tokens, inside so many collections. By indentation a sequence may
begin without a token of its own where `bare` allows it; collections by indentation are allowed if
`block` is set. -/
def readNode : (fuel depth : Nat) → (block bare : Bool) → List Token → Reading
  | 0, _, _, _, _ => .error .malformed
  | _ + 1, _, _, _, .scalar text plain :: rest => .ok (.scalar text plain, rest)
  | fuel + 1, depth, block, bare, tokens =>
    let shallow (reading : Reading) : Reading :=
      if depthLimit ≤ depth then .error .tooDeep else reading
    match tokens with
    | .listOpen :: rest => shallow (readFlowItems fuel (depth + 1) true [] rest)
    | .mapOpen :: rest => shallow (readFlowEntries fuel (depth + 1) true [] rest)
    | .entry :: _ =>
      if bare then shallow (readItems fuel (depth + 1) true [] tokens) else .error .malformed
    | .sequenceStart :: rest =>
      if block then shallow (readItems fuel (depth + 1) false [] rest) else .error .malformed
    | .mappingStart :: rest =>
      if block then shallow (readEntries fuel (depth + 1) [] rest) else .error .malformed
    | tokens => .error (unexpected tokens)

/-- The items of a sequence by indentation; `items` holds those before, in reverse. -/
def readItems : (fuel depth : Nat) → (bare : Bool) → List Node → List Token → Reading
  | 0, _, _, _, _ => .error .malformed
  | fuel + 1, depth, bare, items, tokens =>
    match tokens with
    | .entry :: rest =>
      if emptyItem bare rest then readItems fuel depth bare (empty :: items) rest
      else do
        let (item, rest) ← readNode fuel depth true false rest
        readItems fuel depth bare (item :: items) rest
    | .blockEnd :: rest => .ok (.sequence items.reverse, if bare then tokens else rest)
    | .broken fault :: _ => .error fault
    | tokens => if bare then .ok (.sequence items.reverse, tokens) else .error .malformed

/-- The entries of a mapping by indentation; `entries` holds those before, in reverse. -/
def readEntries : (fuel depth : Nat) → List (Node × Node) → List Token → Reading
  | 0, _, _, _ => .error .malformed
  | fuel + 1, depth, entries, tokens =>
    match tokens with
    | .key :: rest => do
      let (key, rest) ← if emptyInBlock rest then pure (empty, rest)
        else readNode fuel depth true true rest
      let (value, rest) ← readBlockValue fuel depth rest
      readEntries fuel depth ((key, value) :: entries) rest
    | .blockEnd :: rest => .ok (.mapping entries.reverse, rest)
    | tokens => .error (unexpected tokens)

/-- The value after a key by indentation; it may be left out. -/
def readBlockValue : (fuel depth : Nat) → List Token → Reading
  | 0, _, _ => .error .malformed
  | fuel + 1, depth, tokens =>
    match tokens with
    | .value :: rest =>
      if emptyInBlock rest then .ok (empty, rest) else readNode fuel depth true true rest
    | tokens => .ok (empty, tokens)

/-- The items of a sequence in brackets; `items` holds those before, in reverse. -/
def readFlowItems : (fuel depth : Nat) → (first : Bool) → List Node → List Token → Reading
  | 0, _, _, _, _ => .error .malformed
  | fuel + 1, depth, first, items, tokens =>
    match tokens with
    | .listClose :: rest => .ok (.sequence items.reverse, rest)
    | tokens => do
      match ← skipComma first tokens with
      | .listClose :: rest => return (.sequence items.reverse, rest)
      | .key :: rest =>
        if depthLimit ≤ depth then throw .tooDeep
        let (key, rest) ← if emptyInFlow rest then pure (empty, rest)
          else readNode fuel (depth + 1) false false rest
        let (value, rest) ← readFlowValue fuel (depth + 1) rest
        readFlowItems fuel depth false (.mapping [(key, value)] :: items) rest
      | tokens =>
        let (item, rest) ← readNode fuel depth false false tokens
        readFlowItems fuel depth false (item :: items) rest

/-- The entries of a mapping in braces; `entries` holds those before, in reverse. -/
def readFlowEntries : (fuel depth : Nat) → (first : Bool) → List (Node × Node) → List Token →
    Reading
  | 0, _, _, _, _ => .error .malformed
  | fuel + 1, depth, first, entries, tokens =>
    match tokens with
    | .mapClose :: rest => .ok (.mapping entries.reverse, rest)
    | tokens => do
      match ← skipComma first tokens with
      | .mapClose :: rest => return (.mapping entries.reverse, rest)
      | .key :: rest =>
        let (key, rest) ← if emptyInFlow rest then pure (empty, rest)
          else readNode fuel depth false false rest
        let (value, rest) ← readFlowValue fuel depth rest
        readFlowEntries fuel depth false ((key, value) :: entries) rest
      | tokens =>
        let (key, rest) ← readNode fuel depth false false tokens
        readFlowEntries fuel depth false ((key, empty) :: entries) rest

/-- The value after a key in brackets; it may be left out. -/
def readFlowValue : (fuel depth : Nat) → List Token → Reading
  | 0, _, _ => .error .malformed
  | fuel + 1, depth, tokens =>
    match tokens with
    | .value :: rest =>
      if emptyInFlow rest then .ok (empty, rest) else readNode fuel depth false false rest
    | tokens => .ok (empty, tokens)

end

/-- The tokens after those that end a document. -/
def skipEnds : List Token → List Token
  | .documentEnd :: rest => skipEnds rest
  | tokens => tokens

/-- The node after the line that starts a document; it may be left out. -/
def readBody (fuel : Nat) : List Token → Reading
  | [] => .ok (empty, [])
  | .documentStart :: rest => .ok (empty, .documentStart :: rest)
  | .documentEnd :: rest => .ok (empty, .documentEnd :: rest)
  | tokens => readNode fuel 0 true false tokens

/-- The node of the one document that tokens make up, if there is a document. -/
def ofTokens : List Token → Except Fault (Option Node)
  | [] => .ok none
  | tokens => do
    let fuel := 2 * tokens.length + 2
    let (node, rest) ← match tokens with
      | .documentStart :: rest => readBody fuel rest
      | tokens => readNode fuel 0 true false tokens
    match skipEnds rest with
    | [] => return some node
    | rest => throw (unexpected rest)

/-- The node of the one document of a text, if there is a document. -/
def ofText (text : String) : Except Fault (Option Node) := ofTokens (tokens text)

end Node

end Parley.Yaml
