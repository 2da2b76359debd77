import Parley.Flow.Graph

/-!
# Diagrams

A flow drawn as a Mermaid flowchart: its nodes with labels and colours, its edges, and then
dotted lines for jumps and fallbacks.
-/

namespace Parley.Flow.Diagram

/-- The colour of nodes that have none of their own. -/
def plainColour : String := "#f0f0f0"

/-- The colours of the types. -/
def colours : List (String × String) := [
  ("start", "#c8e6c9"), ("end", "#ffcdd2"), ("message", "#e1f5fe"), ("condition", "#fff3e0"),
  ("wait", "#f3e5f5"), ("aiKnowledge", "#ede7f6"), ("goTo", "#f0f0f0")]

/-- Whether a character may stand in the name of a drawn node. -/
def isNameChar (c : Char) : Bool := c.isAlphanum || c == '_'

/-- The name of a drawn node. -/
def drawnName (id : String) : String :=
  "n_" ++ String.ofList (id.toList.map fun c => if isNameChar c then c else '_')

/-- The longest detail that is drawn whole. -/
def detailLimit : Nat := 40

/-- A detail that is cut if it is too long. -/
def clipDetail (detail : String) : String :=
  if detailLimit < detail.length then
    String.ofList (detail.toList.take (detailLimit - 3)) ++ "..."
  else detail

/-- The detail of what a node holds; it may be empty. -/
def detail : Content → String
  | .message template => template
  | .generate template _ _ => template
  | .condition asked => asked.text
  | .wait _ keywords _ =>
    if keywords.isEmpty then "" else "keywords: " ++ Text.join ", " keywords
  | _ => ""

/-- The label of a drawn node. -/
def label (details : Bool) (node : Node String) : String :=
  let head := node.id ++ ": " ++ node.type
  let text := if details && detail node.content != "" then
      head ++ "\\n" ++ clipDetail (detail node.content)
    else head
  String.ofList (text.toList.map fun c => if c == '"' then '\'' else c)

/-- A label in the shape of a node's type. -/
def shape (type label : String) : String :=
  if type = "condition" then "\x7b\x7b\"" ++ label ++ "\"\x7d\x7d" else "[\"" ++ label ++ "\"]"

/-- The lines that draw a node. -/
def nodeLines (details : Bool) (node : Node String) : List String := [
  "    " ++ drawnName node.id ++ shape node.type (label details node),
  "    style " ++ drawnName node.id ++ " fill:" ++ (colours.lookup node.type).getD plainColour]

/-- The line that draws an edge. -/
def edgeLine (edge : Edge) : String :=
  let arrow := match edge.label with
    | some label => if label = "" then " --> " else " -->|" ++ label ++ "| "
    | none => " --> "
  "    " ++ drawnName edge.source ++ arrow ++ drawnName edge.target

/-- A dotted line from a node. -/
def dotted (id mark target : String) : String :=
  "    " ++ drawnName id ++ " -.->|" ++ mark ++ "| " ++ drawnName target

/-- The dotted lines of a node's jump and fallback. -/
def dottedLines (node : Node String) : List String :=
  (match node.content with
    | .goTo target => [dotted node.id "goTo" target]
    | _ => [])
  ++ (match node.onError with
    | some fallback => if fallback = "" then [] else [dotted node.id "error" fallback]
    | none => [])

/-- The diagram of a graph in a direction, with or without the details of its nodes. -/
def draw (direction : String) (details : Bool) (graph : Graph) : String :=
  Text.join "\n" (["flowchart " ++ direction]
    ++ graph.nodes.flatMap (nodeLines details)
    ++ graph.edges.map edgeLine
    ++ graph.nodes.flatMap dottedLines)

end Parley.Flow.Diagram
