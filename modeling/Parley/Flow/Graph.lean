import Parley.Flow.Node
import Parley.Name

/-!
# Flow graphs

A flow is a graph of nodes and labelled edges that keeps these rules: it has an id, the ids of
its nodes are distinct and their types known, every edge joins two of its nodes under a label
that is yes, no or absent, no two edges share source and label, exactly one node is a start, and
every jump and every fallback leads to a node. The rules are checked when a graph is assembled,
in this order, and the first that is broken is reported.
-/

namespace Parley.Flow

/-- The edges of each node in the order in which they were authored. -/
abbrev Index := List (String × List Edge)

/-- The edges that leave a node. -/
def Index.outgoing (index : Index) (node : String) : List Edge := (index.lookup node).getD []

/-- The edge that leaves a node under a label. -/
def Index.find? (index : Index) (node : String) (label : Option String) : Option Edge :=
  (index.outgoing node).find? fun edge => edge.label == label

/-- The index with one more edge at the end of those of its source. -/
def Index.add : Index → Edge → Index
  | [], _ => []
  | (node, edges) :: rest, edge =>
    if node == edge.source then (node, edges ++ [edge]) :: rest
    else (node, edges) :: Index.add rest edge

/-- A flow whose rules were checked. -/
structure Graph where
  /-- The id. -/
  id : String
  /-- The name under which the flow is shown. -/
  name : String
  /-- The nodes in the order in which they were authored. -/
  nodes : List (Node String)
  /-- The edges in the order in which they were authored. -/
  edges : List Edge
  /-- The edges by their source. -/
  index : Index
  /-- The id of the start. -/
  start : String
deriving DecidableEq, Repr, Inhabited

/-- The labels that an edge may have. -/
def validLabel (label : Option String) : Bool :=
  match label with
  | none => true
  | some label => label == yes || label == no

/-- Checks that the ids of nodes are distinct and their types known; `seen` holds the ids before. -/
def checkNodes {ν : Type} (known : String → Bool) (flow : String) (seen : List String) :
    List (Node ν) → Except Failure Unit
  | [] => .ok ()
  | node :: rest =>
    if node.id ∈ seen then .error (.graph (.duplicateNode flow node.id))
    else if !known node.type then .error (.graph (.unknownType flow node.id node.type))
    else checkNodes known flow (seen ++ [node.id]) rest

/-- Checks an edge against the nodes and the edges before it, and adds it to the index. -/
def indexEdge (flow : String) (ids : List String) (index : Index) (edge : Edge) :
    Except Failure Index :=
  if edge.source ∉ ids then .error (.graph (.edgeEnd flow edge.id edge.source))
  else if edge.target ∉ ids then .error (.graph (.edgeEnd flow edge.id edge.target))
  else if !validLabel edge.label then
    .error (.graph (.edgeLabel flow edge.id (edge.label.getD "")))
  else if (index.find? edge.source edge.label).isSome then
    .error (.graph (.crowded flow edge.source edge.label))
  else .ok (index.add edge)

/-- Checks edges in order and adds them to the index. -/
def indexEdges (flow : String) (ids : List String) (index : Index) :
    List Edge → Except Failure Index
  | [] => .ok index
  | edge :: rest => do indexEdges flow ids (← indexEdge flow ids index edge) rest

/-- Checks that the jump of a node leads to one of the nodes. -/
def checkTarget {ν : Type} (flow : String) (ids : List String) (node : Node ν) :
    Except Failure Unit :=
  match node.content with
  | .goTo target =>
    if target ∈ ids then .ok () else .error (.graph (.strayTarget flow node.id target))
  | _ => .ok ()

/-- The node's fallback among the nodes, if it has one. -/
def fallback {ν : Type} [Name ν] (flow : String) (ids : List String) (node : Node ν) :
    Except Failure (Option String) :=
  match node.onError with
  | none => .ok none
  | some name => do
    match ← Name.find? ids name with
    | some id => return some id
    | none => throw (.graph (.strayFallback flow node.id (← (Name.value name).asText)))

/-- The nodes with their fallbacks found, if every jump and fallback leads to a node. -/
def settleNodes {ν : Type} [Name ν] (flow : String) (ids : List String) :
    List (Node ν) → Except Failure (List (Node String))
  | [] => .ok []
  | node :: rest => do
    checkTarget flow ids node
    let onError ← fallback flow ids node
    return ⟨node.id, node.type, node.content, onError⟩ :: (← settleNodes flow ids rest)

/-- The graph of an id, a name, nodes and edges, if they keep the rules; `known` tells which
types of nodes there are. A flow without a name is shown by its id. -/
def Graph.assemble {ν : Type} [Name ν] (known : String → Bool) (id name : String)
    (nodes : List (Node ν)) (edges : List Edge) : Except Failure Graph := do
  if id = "" then throw (.graph .noId)
  checkNodes known id [] nodes
  let ids := nodes.map Node.id
  let index ← indexEdges id ids (ids.map fun node => (node, [])) edges
  match (nodes.filter fun node => node.type == "start").map Node.id with
  | [start] =>
    let nodes ← settleNodes id ids nodes
    return { id, name := if name = "" then id else name, nodes, edges, index, start }
  | starts => throw (.graph (.startCount id starts.length))

namespace Graph

/-- The ids of the nodes. -/
def ids (graph : Graph) : List String := graph.nodes.map Node.id

/-- Whether a graph has a node of an id. -/
def contains (graph : Graph) (id : String) : Bool := id ∈ graph.ids

/-- The node of an id. -/
def node? (graph : Graph) (id : String) : Option (Node String) :=
  graph.nodes.find? fun node => node.id == id

/-- The edges that leave a node. -/
def outgoing (graph : Graph) (node : String) : List Edge := graph.index.outgoing node

/-- The node to which the edge of a node and a label leads. -/
def successor (graph : Graph) (node : String) (label : Option String) : Option String :=
  (graph.index.find? node label).map Edge.target

/-- A graph as it is written. -/
def toValue (graph : Graph) : Value :=
  .dict [(.text "id", .text graph.id), (.text "name", .text graph.name),
    (.text "nodes", .list (graph.nodes.map Node.toValue)),
    (.text "edges", .list (graph.edges.map Edge.toValue))]

/-- A graph by its id and size. -/
def shown (graph : Graph) : String :=
  "FlowGraph(id=" ++ Text.quoted graph.id ++ ", nodes=" ++ toString graph.nodes.length
    ++ ", edges=" ++ toString graph.edges.length ++ ")"

end Graph

end Parley.Flow
