import Parley.Condition

/-!
# Nodes and edges

The nodes of a flow, with what each kind of node holds, and the edges between them.
-/

namespace Parley.Flow

/-- What a node holds, by its kind. -/
inductive Content where
  /-- The entry of a flow. -/
  | start
  /-- The end of a flow. -/
  | finish
  /-- A template of a message to be sent. -/
  | message (template : String)
  /-- A question that chooses between two edges. -/
  | condition (asked : Condition)
  /-- A pause until a reply with one of the keywords comes, or the seconds have passed. -/
  | wait (timeout : Option Binary64) (keywords : List String) (hold : Bool)
  /-- A template of a prompt whose reply is put into a variable. -/
  | generate (template output : String) (useKnowledge : Bool)
  /-- A jump to another node. -/
  | goTo (target : String)
  /-- The tag of a node of a registered type. -/
  | tag (text : String)
deriving DecidableEq, Repr, Inhabited

/-- A node of a flow. The reference to its fallback is a name of the type `ν`. -/
structure Node (ν : Type) where
  /-- The id. -/
  id : String
  /-- The name of the node's type. -/
  type : String
  /-- What the node holds. -/
  content : Content
  /-- Where the flow goes on if the node fails. -/
  onError : Option ν
deriving DecidableEq, Repr, Inhabited

/-- An edge of a flow. -/
structure Edge where
  /-- The id. -/
  id : String
  /-- The node from which the edge leads. -/
  source : String
  /-- The node to which the edge leads. -/
  target : String
  /-- The branch of the source that the edge continues. -/
  label : Option String
deriving DecidableEq, Repr, Inhabited

/-- The label of the branch for what is so. -/
def yes : String := "yes"

/-- The label of the branch for what is not so. -/
def no : String := "no"

/-- Whether a content holds on to a wait when a reply does not match. -/
def Content.holds : Content → Bool
  | .wait _ _ hold => hold
  | _ => false

/-- The names of the types that every flow can use. -/
def builtinTypes : List String :=
  ["start", "end", "message", "condition", "wait", "aiKnowledge", "goTo"]

/-- The entries under which a content is written. -/
def Content.toEntries : Content → Entries
  | .start | .finish => []
  | .message template => [(.text "text", .text template)]
  | .condition asked => [(.text "expression", .text asked.text)]
  | .wait timeout keywords hold =>
    (match timeout with
      | some seconds => [(.text "timeout", .float seconds)]
      | none => [])
    ++ [(.text "keywords", .list (keywords.map .text)), (.text "hold_on_mismatch", .bool hold)]
  | .generate template output useKnowledge =>
    [(.text "prompt", .text template), (.text "output_variable", .text output),
      (.text "use_knowledge", .bool useKnowledge)]
  | .goTo target => [(.text "target_node_id", .text target)]
  | .tag text => [(.text "tag", .text text)]

/-- The entries under which the content and the fallback of a node are written. -/
def Node.data (node : Node String) : Entries :=
  (match node.onError with
    | some fallback => [(.text "onError", .text fallback)]
    | none => [])
  ++ node.content.toEntries

/-- A node as it is written. -/
def Node.toValue (node : Node String) : Value :=
  .dict [(.text "id", .text node.id), (.text "type", .text node.type),
    (.text "data", .dict node.data)]

/-- An edge as it is written. -/
def Edge.toValue (edge : Edge) : Value :=
  .dict ([(.text "id", .text edge.id), (.text "source", .text edge.source),
      (.text "target", .text edge.target)]
    ++ (match edge.label with
      | some label => [(.text "label", .text label)]
      | none => []))

end Parley.Flow
