import Parley.Execution.Status
import Parley.Name
import Parley.Variables

/-!
# Executions

An execution is one run of a flow for one subject: where it stands, its variables and its log.
Moves between statuses keep to the rules; a move away from waiting clears what was waited for,
and a move to a final status clears the node.
-/

namespace Parley

/-- An entry of a log. -/
structure Entry (ν : Type) where
  /-- The node that the entry is about. -/
  node : Option ν
  /-- What the entry tells. -/
  event : Event
  /-- When it was written, as text. -/
  timestamp : Option ν
  /-- What there is to tell besides. -/
  payload : Option Value

/-- The durable state of a run of a flow, whose names are of the type `ν`. -/
structure Execution (ν : Type) where
  /-- The id. -/
  id : ν
  /-- The flow. -/
  flow : ν
  /-- The version of the flow. -/
  version : Int
  /-- The subject that the run talks to. -/
  subject : ν
  /-- What the run is doing. -/
  status : Status
  /-- The node that is visited next, or at which the run waits. -/
  node : Option ν
  /-- The variables. -/
  vars : Variables
  /-- When the wait ends by itself. -/
  deadline : Option Time.Moment
  /-- The keywords that the wait accepts; any reply if there are none. -/
  keywords : List ν
  /-- The log, oldest entry first. -/
  log : List (Entry ν)
  /-- Why the run failed. -/
  error : Option ν
  /-- When the run began. -/
  createdAt : Time.Moment
  /-- When the run was last written. -/
  updatedAt : Time.Moment

namespace Execution

/-- A run of a flow that has not visited a node yet. -/
def new (id flow : String) (version : Int) (subject : String) (vars : Variables)
    (now : Time.Moment) : Execution String where
  id := id
  flow := flow
  version := version
  subject := subject
  status := .running
  node := none
  vars := vars
  deadline := none
  keywords := []
  log := []
  error := none
  createdAt := now
  updatedAt := now

/-- Moves to a status that may follow the present one. -/
def transition {ν : Type} (execution : Execution ν) (status : Status) (now : Time.Moment) :
    Except Failure (Execution ν) :=
  if status ∈ execution.status.next then
    .ok { execution with
      status
      updatedAt := now
      deadline := if status = .waiting then execution.deadline else none
      keywords := if status = .waiting then execution.keywords else []
      node := if status.isFinal then none else execution.node }
  else .error (.transition execution.status.text status.text)

/-- Adds an entry at the end of the log. -/
def append {ν : Type} (execution : Execution ν) (entry : Entry ν) : Execution ν :=
  { execution with log := execution.log ++ [entry] }

end Execution

end Parley
