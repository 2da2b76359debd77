import Parley.Engine.Handler
import Parley.Execution.Record

/-!
# Ticks

A tick visits nodes one after another until the execution waits or ends. Every visit is logged
when it begins and when it ends, and the execution is kept after each. A request to cancel is
looked for between visits only, and the budget bounds their number.
-/

namespace Parley.Tick

/-- The payload that tells of a failure. -/
def failurePayload (failure : Failure) : Entries :=
  [(.text "error", .text failure.kind), (.text "message", .text failure.message)]
    ++ (match failure.attempts? with
      | some attempts => [(.text "attempts", .ofNumber attempts)]
      | none => [])

/-- What follows a visit that failed: the fallback of the node, or the end of the execution. Tells
whether the tick goes on. -/
def afterFailure (engine : Engine) (node : Flow.Node String) (failure : Failure) : Run Bool := do
  Run.log (some node.id) .nodeError (failurePayload failure)
  Run.tell engine (.nodeError (← Run.execution).id node.id failure.kind)
  match node.onError with
  | some fallback =>
    Run.moveTo engine fallback
    return true
  | none =>
    Run.fail engine (failure.kind ++ " at node '" ++ node.id ++ "': " ++ failure.message)
    return false

/-- Parks the execution at a node. -/
def suspend (engine : Engine) (node : String) : Run Unit := do
  Run.setStatus engine .waiting
  let execution ← Run.execution
  Run.log (some node) .suspended [
    (.text "wait_deadline", match execution.deadline with
      | some deadline => .text deadline.text
      | none => .null),
    (.text "expected_keywords", .list (execution.keywords.map .text))]
  Run.persist engine

/-- What follows a visit that ended well. Tells whether the tick goes on. -/
def afterAction (engine : Engine) (graph : Flow.Graph) (node : String) (action : Action) :
    Run Bool := do
  let goOn (target : Option String) : Run Bool := do
    match target with
    | some target =>
      Run.moveTo engine target
      return true
    | none =>
      Run.complete engine
      return false
  match action with
  | .suspend =>
    suspend engine node
    return false
  | .finish =>
    Run.complete engine
    return false
  | .jump target => goOn (some target)
  | .follow label => goOn (graph.successor node label)

/-- A visit of a node. Tells whether the tick goes on. -/
def visit (engine : Engine) (graph : Flow.Graph) (node : Flow.Node String) : Run Bool := do
  Run.log (some node.id) .nodeStart [(.text "type", .text node.type)]
  Run.tell engine (.nodeStart (← Run.execution).id node.id)
  match ← Run.attempt (Handler.perform engine node) with
  | .error failure => afterFailure engine node failure
  | .ok (action, payload) =>
    Run.log (some node.id) .nodeEnd (payload ++ [(.text "elapsed_ms", .float .zero)])
    Run.tell engine (.nodeEnd (← Run.execution).id node.id action)
    afterAction engine graph node.id action

/-- Ends an execution that visited as many nodes as it may. -/
def exhaust (engine : Engine) (node : Option String) : Run Unit := do
  let failure := Failure.budgetExceeded engine.settings.budget node
  Run.log node .nodeError (failurePayload failure
    ++ [(.text "budget", .ofNumber engine.settings.budget)])
  Run.fail engine (failure.kind ++ ": " ++ failure.message)

/-- Whether the execution was asked to stop; only one that is watched can be. -/
def isInterrupted (watched : Bool) : Run Bool := do
  return watched && (← get).world.stepping.any Stepping.interrupted

/-- Visits nodes until the tick is over; `steps` counts the visits so far. -/
def visits (engine : Engine) (graph : Flow.Graph) (watched : Bool) :
    (fuel steps : Nat) → Run Unit
  | 0, _ => pure ()
  | fuel + 1, steps => do
    if ← isInterrupted watched then
      Run.setStatus engine .cancelled
      Run.persist engine
    else
      let id := (← Run.execution).node
      if engine.settings.budget.le (.int steps) then exhaust engine id
      else
        match id.bind graph.node? with
        | none => throw (.missingNode graph.id id)
        | some node =>
          if ← visit engine graph node then visits engine graph watched fuel (steps + 1)

/-- The number of visits after which a tick is surely over. A budget without an end is taken as
a large number. -/
def fuelOf (budget : Number) : Nat := (budget.ceiling?.getD 1000000) + 1

/-- Runs an execution until it waits or ends. One that is not running stays as it is. -/
def tick (engine : Engine) (graph : Flow.Graph) (watched : Bool) : Run Status := do
  if (← Run.execution).status = .running then
    visits engine graph watched (fuelOf engine.settings.budget) 0
  return (← Run.execution).status

/-- Puts an execution at the start of its flow and runs it. -/
def start (engine : Engine) (graph : Flow.Graph) (watched : Bool) : Run Status := do
  Run.moveTo engine graph.start
  tick engine graph watched

/-- The target of the edge of a node under a label, which is null for the edge without one. -/
def successor (graph : Flow.Graph) (node : Option String) (label : Value) :
    Except Failure (Option String) := do
  label.requireFixed
  match node, label with
  | some node, .null => return graph.successor node none
  | some node, .text label => return graph.successor node (some label)
  | _, _ => return none

/-- Where a wait goes on: along the edge of a label, or else along the edge without one. -/
def resumeTarget (graph : Flow.Graph) (node : Option String) (label : Value) :
    Except Failure (Option String) := do
  match (← successor graph node label).filter (· != "") with
  | some target => return some target
  | none => return node.bind fun node => graph.successor node none

/-- Takes up an execution that waits, for a reason and with the reply if there is one. -/
def resume (engine : Engine) (graph : Flow.Graph) (label reason reply : Value) (watched : Bool) :
    Run Status := do
  let node := (← Run.execution).node
  Run.log node .resumed ([(.text "reason", reason), (.text "edge", label)]
    ++ (match reply with
      | .null => []
      | reply => [(.text "message", reply)]))
  Run.setStatus engine .running
  match ← Run.ofExcept (resumeTarget graph node label) with
  | none => Run.complete engine
  | some target =>
    Run.moveTo engine target
    let _ ← tick engine graph watched
  return (← Run.execution).status

end Parley.Tick
