import Parley.Execution
import Parley.Number.Basic

/-!
# Actions and effects

What a node tells the engine to do next, what observers are told of a run, and the effects that
a run has outside itself.
-/

namespace Parley

/-- What happens after a node. -/
inductive Action where
  /-- The edge of a label is followed; the usual edge has none. -/
  | follow (label : Option String)
  /-- The run goes on at a node without an edge. -/
  | jump (target : String)
  /-- The run waits. -/
  | suspend
  /-- The run is complete. -/
  | finish
deriving DecidableEq, Repr, Inhabited

namespace Action

/-- The action that a word stands for: a word without a meaning of its own is a label. -/
def ofText (word : String) : Action :=
  if word = "default" then .follow none
  else if word = "suspend" then .suspend
  else if word = "end" then .finish
  else .follow (some word)

/-- An action as observers are told of it. -/
def toValue : Action → Value
  | .follow none => .text "default"
  | .follow (some label) => .text label
  | .jump target => .dict [(.text "jump", .text target)]
  | .suspend => .text "suspend"
  | .finish => .text "end"

end Action

/-- What the observers of a run are told. -/
inductive Notice where
  /-- A visit begins. -/
  | nodeStart (execution node : String)
  /-- A visit ended well. -/
  | nodeEnd (execution node : String) (action : Action)
  /-- A visit failed with a kind of failure. -/
  | nodeError (execution node kind : String)
  /-- The run moved between statuses. -/
  | status (execution : String) (old new : Status)
deriving DecidableEq, Repr

namespace Notice

/-- The names of the events of which observers are told. -/
def events : List String := ["node_start", "node_end", "node_error", "status"]

/-- The name of the event. -/
def event : Notice → String
  | .nodeStart .. => "node_start"
  | .nodeEnd .. => "node_end"
  | .nodeError .. => "node_error"
  | .status .. => "status"

/-- The run that the notice is about. -/
def execution : Notice → String
  | .nodeStart id _ => id
  | .nodeEnd id _ _ => id
  | .nodeError id _ _ => id
  | .status id _ _ => id

/-- The node that the notice is about, if it is about one. -/
def node? : Notice → Option String
  | .nodeStart _ node => some node
  | .nodeEnd _ node _ => some node
  | .nodeError _ node _ => some node
  | .status .. => none

end Notice

/-- What a run did outside itself. -/
inductive Effect where
  /-- A message was sent. -/
  | sent (subject text : String)
  /-- A generator was asked. -/
  | generated (prompt : String) (context : Value)
  /-- Knowledge was asked for. -/
  | queried (subject query : String)
  /-- The run paused for seconds before it tried again. -/
  | slept (seconds : Number)
  /-- Observers were told. -/
  | told (notice : Notice)
  /-- The run was handed over to be kept, with its status, node and count of entries. -/
  | kept (status : Status) (node : Option String) (entries : Nat)

end Parley
