import Parley.Flow.Graph
import Parley.Keyword

/-!
# Flow definitions

How a definition, a value that was read from a document, becomes a graph. A key may have several
spellings, of which the first that is set counts; types and branches have aliases; what should
be text is taken by its text.
-/

namespace Parley.Flow

/-- The types of nodes that were registered besides the built-in ones. -/
abbrev Extensions := List String

/-- Whether there is a type of nodes of a name. -/
def knownType (extensions : Extensions) (type : String) : Bool :=
  builtinTypes.contains type || extensions.contains type

/-- Other names of types. -/
def typeAliases : List (String × String) := [
  ("startNode", "start"), ("messageNode", "message"), ("waitNode", "wait"),
  ("wait_response", "wait"), ("aiNode", "aiKnowledge"), ("aiKbNode", "aiKnowledge"),
  ("gptNode", "aiKnowledge"), ("goToNode", "goTo"), ("gotoNode", "goTo"), ("endNode", "end")]

/-- Other names of branches. -/
def labelAliases : List (String × String) := [("true", yes), ("false", no)]

/-- The first of several keys that is set. -/
def pick (entries : Entries) : List String → Option Value
  | [] => none
  | key :: rest =>
    match entries.text? key with
    | none | some .null => pick entries rest
    | some value => some value

/-- The text under the first of several keys that is set. -/
def pickText (entries : Entries) (keys : List String) (usual : String) :
    Except Failure String :=
  match pick entries keys with
  | some value => value.asText
  | none => .ok usual

/-- The truth value under the first of several keys that is set. -/
def pickTruth (entries : Entries) (keys : List String) (usual : Bool) : Bool :=
  match pick entries keys with
  | some value => value.truthy
  | none => usual

/-- Whether a failure says that a value is no number. -/
def isNoNumber (failure : Failure) : Bool :=
  match failure with
  | .notNumber _ | .wrongType _ => true
  | _ => false

/-- The timeout that a value stands for: a number that is not below zero. -/
def readTimeout (node : String) (value : Value) : Except Failure Binary64 :=
  match value.toFloat with
  | .ok seconds =>
    if seconds.order Binary64.zero == some .lt then .error (.graph (.timeoutNegative node))
    else .ok seconds
  | .error failure =>
    if isNoNumber failure then do throw (.graph (.timeoutNotNumber node (← value.asShown)))
    else .error failure

/-- The keywords that a value stands for. -/
def readKeywords (value : Value) : Except Failure (List String) := do
  return Keyword.clean (← (← Keyword.authored value).mapM Keyword.wordOf)

/-- What a message node holds. -/
def readMessage (entries : Entries) : Except Failure Content := do
  return .message (← pickText entries ["text", "message"] "")

/-- What a condition node holds. -/
def readCondition (node : String) (entries : Entries) : Except Failure Content :=
  match pick entries ["expression", "condition"] with
  | none => .error (.graph (.noExpression node))
  | some source => do return .condition (← Condition.ofValue source (some node))

/-- What a wait node holds. -/
def readWait (node : String) (entries : Entries) : Except Failure Content := do
  let timeout ← match pick entries ["timeout", "timeoutSeconds", "timeout_seconds"] with
    | some value => some <$> readTimeout node value
    | none => pure none
  let keywords ← match pick entries ["keywords", "expectedKeywords", "expected_keywords"] with
    | some value => readKeywords value
    | none => pure []
  return .wait timeout keywords (pickTruth entries ["holdOnMismatch", "hold_on_mismatch"] false)

/-- What a node that asks a generator holds. -/
def readGenerate (entries : Entries) : Except Failure Content := do
  let template ← pickText entries ["prompt", "systemPrompt"] ""
  let output ← pickText entries ["outputVariable", "output_variable"] "ai_response"
  return .generate template output (pickTruth entries ["useKnowledge", "use_knowledge"] true)

/-- What a jump holds. -/
def readGoTo (node : String) (entries : Entries) : Except Failure Content := do
  match pick entries ["targetNodeId", "targetId", "target_node_id"] with
  | some target =>
    if target.truthy then return .goTo (← target.asText) else throw (.graph (.noTarget node))
  | none => throw (.graph (.noTarget node))

/-- What a node of a registered type holds. -/
def readTag (entries : Entries) : Except Failure Content := do
  return .tag (← ((entries.text? "tag").getD (.text "")).asText)

/-- What a node of a type holds, if there is such a type; a registered type comes before a
built-in one of its name. -/
def readContent? (extensions : Extensions) (type node : String) (entries : Entries) :
    Option (Except Failure Content) :=
  if extensions.contains type then some (readTag entries)
  else
    match type with
    | "start" => some (.ok .start)
    | "end" => some (.ok .finish)
    | "message" => some (readMessage entries)
    | "condition" => some (readCondition node entries)
    | "wait" => some (readWait node entries)
    | "aiKnowledge" => some (readGenerate entries)
    | "goTo" => some (readGoTo node entries)
    | _ => none

/-- The entries of a value that may be absent: what counts as false has none. -/
def dataEntries (data : Value) : Except Failure Entries :=
  if data.truthy then data.entries else .ok []

/-- The type that a name stands for. -/
def typeOf (type : Value) : Value :=
  match type with
  | .text name => .text ((typeAliases.lookup name).getD name)
  | value => value

/-- The node that a value defines. -/
def readNode (extensions : Extensions) (raw : Value) : Except Failure (Node Value) :=
  match raw with
  | .dict entries =>
    match Entries.text? entries "id" with
    | none => badShape
    | some id => do
      let id ← id.asText
      let named := (Entries.text? entries "type").getD .null
      named.requireFixed
      match typeOf named with
      | .text type =>
        if !knownType extensions type then throw (.graph (.nodeType id (← named.asText)))
        let data ← dataEntries ((Entries.text? entries "data").getD .null)
        match readContent? extensions type id data with
        | none => throw (.graph (.nodeType id (← named.asText)))
        | some content =>
          return ⟨id, type, ← content, pick data ["onError", "on_error"]⟩
      | _ => throw (.graph (.nodeType id (← named.asText)))
  | _ => badShape
where
  /-- The refusal of what is no mapping with an id. -/
  badShape : Except Failure (Node Value) := do throw (.graph (.nodeShape (← raw.asShown)))

/-- The branch that the value of a label stands for, if it stands for one. -/
def branchOf (label : Value) : Except Failure (Option String) :=
  match label with
  | .null => .ok none
  | value => do
    let word := Keyword.tidy (← Keyword.wordOf value)
    let branch := (labelAliases.lookup word).getD word
    return if branch = "" then none else some branch

/-- The value under a key, or null. -/
def valueAt (entries : Entries) (key : String) : Value := (entries.text? key).getD .null

/-- The value of an edge's label: the handle of its source stands in for a label that is null or
empty. -/
def labelValue (entries : Entries) : Value :=
  match valueAt entries "label" with
  | .null | .text "" =>
    let handle := valueAt entries "sourceHandle"
    if handle.truthy then handle else .null
  | label => label

/-- The edge that a value defines; `index` is its place among the edges. -/
def readEdge (index : Nat) (raw : Value) : Except Failure Edge :=
  match raw with
  | .dict entries =>
    match Entries.text? entries "source", Entries.text? entries "target" with
    | some source, some target => do
      let source ← source.asText
      let target ← target.asText
      let label ← branchOf (labelValue entries)
      let id := valueAt entries "id"
      let id ← if id.truthy then id.asText
        else pure ("e" ++ toString index ++ "-" ++ source ++ "-" ++ target)
      return { id, source, target, label }
    | _, _ => badShape
  | _ => badShape
where
  /-- The refusal of what is no mapping with two ends. -/
  badShape : Except Failure Edge := do throw (.graph (.edgeShape (← raw.asShown)))

/-- The nodes that values define, in order. -/
def readNodes (extensions : Extensions) : List Value → Except Failure (List (Node Value))
  | [] => .ok []
  | raw :: rest => do
    return (← readNode extensions raw) :: (← readNodes extensions rest)

/-- The edges that values define, in order; `index` is the place of the first. -/
def readEdges (index : Nat) : List Value → Except Failure (List Edge)
  | [] => .ok []
  | raw :: rest => do return (← readEdge index raw) :: (← readEdges (index + 1) rest)

/-- The parts under a key; what counts as false has none. -/
def partsAt (entries : Entries) (key : String) : Except Failure (List Value) :=
  let parts := valueAt entries key
  if parts.truthy then parts.elements else .ok []

/-- The text under a key; what counts as false is empty. -/
def textAt (entries : Entries) (key : String) : Except Failure String :=
  let value := valueAt entries key
  if value.truthy then value.asText else .ok ""

/-- The graph that a definition describes. -/
def load (extensions : Extensions) (raw : Value) : Except Failure Graph :=
  match raw with
  | .dict entries => do
    let nodes ← readNodes extensions (← partsAt entries "nodes")
    let edges ← readEdges 0 (← partsAt entries "edges")
    Graph.assemble (knownType extensions) (← textAt entries "id") (← textAt entries "name") nodes
      edges
  | value => .error (.graph (.notMapping value.typeName))

end Parley.Flow
