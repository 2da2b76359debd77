/-!
# Statuses and events

The statuses of an execution with the moves between them, and the events of its log. A finished
execution never moves again.
-/

namespace Parley

/-- What an execution is doing. -/
inductive Status where
  /-- Its nodes are being visited. -/
  | running
  /-- It waits for a reply or a deadline. -/
  | waiting
  /-- It came to an end. -/
  | completed
  /-- A node failed. -/
  | failed
  /-- It was cancelled. -/
  | cancelled
deriving DecidableEq, Repr, Inhabited

namespace Status

/-- All statuses. -/
def all : List Status := [.running, .waiting, .completed, .failed, .cancelled]

/-- The word for a status. -/
def text : Status → String
  | .running => "RUNNING"
  | .waiting => "WAITING_INPUT"
  | .completed => "COMPLETED"
  | .failed => "FAILED"
  | .cancelled => "CANCELLED"

/-- The status of a word. -/
def ofText? (word : String) : Option Status := all.find? fun status => status.text == word

/-- Whether a status is final. -/
def isFinal : Status → Bool
  | .completed | .failed | .cancelled => true
  | .running | .waiting => false

/-- The statuses to which an execution may move. -/
def next : Status → List Status
  | .running => [.waiting, .completed, .failed, .cancelled]
  | .waiting => [.running, .cancelled]
  | .completed | .failed | .cancelled => []

end Status

/-- What an entry of a log tells. -/
inductive Event where
  /-- A visit of a node began. -/
  | nodeStart
  /-- A visit ended well. -/
  | nodeEnd
  /-- A visit failed, or could not begin. -/
  | nodeError
  /-- The execution began to wait. -/
  | suspended
  /-- The wait ended. -/
  | resumed
deriving DecidableEq, Repr, Inhabited

namespace Event

/-- All events. -/
def all : List Event := [.nodeStart, .nodeEnd, .nodeError, .suspended, .resumed]

/-- The word for an event. -/
def text : Event → String
  | .nodeStart => "node_start"
  | .nodeEnd => "node_end"
  | .nodeError => "node_error"
  | .suspended => "suspended"
  | .resumed => "resumed"

/-- The event of a word. -/
def ofText? (word : String) : Option Event := all.find? fun event => event.text == word

end Event

end Parley
