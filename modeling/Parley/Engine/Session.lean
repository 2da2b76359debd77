import Parley.Engine.World
import Parley.Flow.Graph

/-!
# Sessions

A session is an execution in the hands of the engine together with the world. Here are the small
steps of which visits are made: reading the clock, writing the log, moving between statuses,
telling observers, and handing the execution over to be kept.
-/

namespace Parley

/-- An execution that is being worked on, and the world. -/
structure Session where
  /-- The execution. -/
  execution : Execution String
  /-- The world. -/
  world : World

/-- A computation on a session that may fail. -/
abbrev Run := EStateM Failure Session

namespace Run

/-- The outcome of a computation, with its failure as a value. -/
def attempt {α : Type} (action : Run α) : Run (Except Failure α) := fun session =>
  match action session with
  | .ok value session => .ok (.ok value) session
  | .error failure session => .ok (.error failure) session

/-- The value of a result, or its failure. -/
def ofExcept {α : Type} : Except Failure α → Run α
  | .ok value => pure value
  | .error failure => throw failure

/-- A computation on the world alone. -/
def onWorld {α : Type} (action : Desk α) : Run α := fun session =>
  match action session.world with
  | .ok value world => .ok value { session with world }
  | .error failure world => .error failure { session with world }

/-- The time. -/
def now : Run Time.Moment := do return (← get).world.clock

/-- The execution. -/
def execution : Run (Execution String) := do return (← get).execution

/-- Changes the execution. -/
def change (f : Execution String → Execution String) : Run Unit :=
  modify fun session => { session with execution := f session.execution }

/-- Adds an effect to the journal. -/
def note (effect : Effect) : Run Unit :=
  modify fun session => { session with world := session.world.note effect }

/-- Adds an entry to the log of the execution. -/
def log (node : Option String) (event : Event) (payload : Entries) : Run Unit := do
  let timestamp := (← now).text
  change fun execution => execution.append ⟨node, event, some timestamp, some (.dict payload)⟩

/-- Cancels executions that an outside part asks to cancel, in order. Without a store the one
execution is asked to stop. -/
def cancelAll (engine : Engine) : List String → Run Unit
  | [] => pure ()
  | id :: rest => do
    if engine.keeping = .stored then
      let _ ← onWorld (Desk.cancel engine id)
    else
      modify fun session => { session with
        world := { session.world with
          stepping := session.world.stepping.map fun stepping =>
            { stepping with interrupted := true } } }
    cancelAll engine rest

/-- Lets a reaction take place: its requests to cancel, and then its failure. -/
def react (engine : Engine) (reaction : Reaction) : Run Unit := do
  cancelAll engine reaction.cancels
  match reaction.failure with
  | some failure => throw failure
  | none => pure ()

/-- Tells the observers. What they do wrong does not matter. -/
def tell (engine : Engine) (notice : Notice) : Run Unit := do
  note (.told notice)
  let _ ← attempt (react engine (engine.capabilities.watch notice))

/-- Hands the execution over to be kept. -/
def persist (engine : Engine) : Run Unit := do
  let time ← now
  change fun execution => { execution with updatedAt := time }
  let execution ← execution
  match engine.keeping with
  | .nowhere => pure ()
  | .noted => note (.kept execution.status execution.node execution.log.length)
  | .stored => onWorld (Desk.save engine execution)

/-- Moves the execution to a status and tells the observers. -/
def setStatus (engine : Engine) (status : Status) : Run Unit := do
  let old ← execution
  let moved ← ofExcept (old.transition status (← now))
  change fun _ => moved
  tell engine (.status old.id old.status status)

/-- Ends the execution for a reason. -/
def fail (engine : Engine) (reason : String) : Run Unit := do
  change fun execution => { execution with error := some reason }
  setStatus engine .failed
  persist engine

/-- Ends the execution well. -/
def complete (engine : Engine) : Run Unit := do
  setStatus engine .completed
  persist engine

/-- Moves the execution to a node. -/
def moveTo (engine : Engine) (node : String) : Run Unit := do
  change fun execution => { execution with node := some node }
  persist engine

end Run

end Parley
