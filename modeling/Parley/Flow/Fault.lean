/-!
# Faults of flow definitions

Why a definition is no flow: its shape is wrong, a node or an edge cannot be read, or the graph
breaks one of the rules that every flow keeps.
-/

namespace Parley.Flow

/-- A reason why a definition is rejected. Values that could not be read are given as text. -/
inductive Fault where
  /-- The definition is not a mapping but a value of the named type. -/
  | notMapping (type : String)
  /-- The flow has no id. -/
  | noId
  /-- A node is no mapping with an id. -/
  | nodeShape (shown : String)
  /-- An edge is no mapping with both ends. -/
  | edgeShape (shown : String)
  /-- A node's type is not known when it is read. -/
  | nodeType (node type : String)
  /-- A condition has no expression. -/
  | noExpression (node : String)
  /-- The timeout of a wait is no number. -/
  | timeoutNotNumber (node shown : String)
  /-- The timeout of a wait is below zero. -/
  | timeoutNegative (node : String)
  /-- A jump has no target. -/
  | noTarget (node : String)
  /-- Two nodes have one id. -/
  | duplicateNode (flow node : String)
  /-- A node of a flow has a type that is not known. -/
  | unknownType (flow node type : String)
  /-- An edge ends at no node. -/
  | edgeEnd (flow edge node : String)
  /-- The label of an edge is neither yes nor no. -/
  | edgeLabel (flow edge label : String)
  /-- A node has two edges with one label. -/
  | crowded (flow node : String) (label : Option String)
  /-- There is not exactly one start. -/
  | startCount (flow : String) (count : Nat)
  /-- A jump leads to no node. -/
  | strayTarget (flow node target : String)
  /-- The fallback of a node is no node. -/
  | strayFallback (flow node shown : String)
deriving DecidableEq, Repr

/-- The wording of a fault. -/
def Fault.message : Fault → String
  | .notMapping type => "Flow definition must be a mapping, got " ++ type
  | .noId => "Flow has no id"
  | .nodeShape shown => "Node definition must be a mapping with an id: " ++ shown
  | .edgeShape shown => "Edge definition must have source and target: " ++ shown
  | .nodeType node type => "Node '" ++ node ++ "' has unknown type '" ++ type ++ "'"
  | .noExpression node => "Condition node '" ++ node ++ "' has no expression"
  | .timeoutNotNumber node shown =>
    "Wait node '" ++ node ++ "' has a non-numeric timeout: " ++ shown
  | .timeoutNegative node => "Wait node '" ++ node ++ "' has a negative timeout"
  | .noTarget node => "goTo node '" ++ node ++ "' has no targetNodeId"
  | .duplicateNode flow node => "Flow '" ++ flow ++ "': duplicate node id '" ++ node ++ "'"
  | .unknownType flow node type =>
    "Flow '" ++ flow ++ "': node '" ++ node ++ "' has unknown type '" ++ type ++ "'"
  | .edgeEnd flow edge node =>
    "Flow '" ++ flow ++ "': edge '" ++ edge ++ "' references unknown node '" ++ node ++ "'"
  | .edgeLabel flow edge label =>
    "Flow '" ++ flow ++ "': edge '" ++ edge ++ "' has invalid label '" ++ label ++ "'"
  | .crowded flow node label =>
    "Flow '" ++ flow ++ "': node '" ++ node ++ "' has more than one "
      ++ (match label with | some label => "'" ++ label ++ "'" | none => "unlabeled") ++ " edge"
  | .startCount flow count =>
    "Flow '" ++ flow ++ "' must have exactly one start node, found " ++ toString count
  | .strayTarget flow node target =>
    "Flow '" ++ flow ++ "': goTo node '" ++ node ++ "' targets unknown node '" ++ target ++ "'"
  | .strayFallback flow node shown =>
    "Flow '" ++ flow ++ "': node '" ++ node ++ "' onError targets unknown node '" ++ shown ++ "'"

end Parley.Flow
