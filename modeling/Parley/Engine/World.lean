import Parley.Engine.Capability
import Parley.Flow.Registry
import Parley.Locks
import Parley.Store

/-!
# The world of the engine

All that calls to the engine change: the clock, the store, the registered flows, the requests to
cancel, the locks, the counts of calls, and the journal of effects. A failure does not undo what
was changed before it.
-/

namespace Parley

/-- The execution whose nodes are being visited. -/
structure Stepping where
  /-- Its id. -/
  id : String
  /-- Whether it was asked to stop. -/
  interrupted : Bool
deriving DecidableEq, Repr

/-- A request to save an execution. -/
structure Save where
  /-- The execution as it was handed over. -/
  execution : Execution String
  /-- Whether the store took it. -/
  taken : Bool

/-- A call of the sender. -/
structure Sending where
  /-- The id of the execution that sends. -/
  execution : String
  /-- The subject to whom it sends. -/
  subject : String
  /-- The text. -/
  text : String
  /-- Whether the sender returned, and did not fail. -/
  returned : Bool
deriving DecidableEq, Repr

/-- The state of the world. -/
structure World where
  /-- The time. -/
  clock : Time.Moment
  /-- The store of executions. -/
  store : Store String
  /-- The flows that can be run. -/
  flows : Flow.Registry
  /-- How many executions were made. -/
  created : Nat
  /-- The requests to cancel by execution; a request may be open without being made. -/
  signals : List (String × Bool)
  /-- The execution that is being stepped. -/
  stepping : Option Stepping
  /-- The subjects that are being dealt with. -/
  subjects : Locks String
  /-- The executions that are being dealt with. -/
  executions : Locks String
  /-- Whether generators can no longer be asked. -/
  closed : Bool
  /-- The calls of the sender in order. -/
  sends : List Sending
  /-- The count of calls of the generator. -/
  generations : Nat
  /-- The count of calls for knowledge. -/
  retrievals : Nat
  /-- The counts of calls of the registered types. -/
  calls : List (String × Nat)
  /-- The requests to save in order. -/
  saves : List Save
  /-- The effects in order. -/
  journal : List Effect

namespace World

/-- A world in which nothing has happened. -/
def start (clock : Time.Moment) (store : Store String) : World where
  clock := clock
  store := store
  flows := .empty
  created := 0
  signals := []
  stepping := none
  subjects := .empty
  executions := .empty
  closed := false
  sends := []
  generations := 0
  retrievals := 0
  calls := []
  saves := []
  journal := []

/-- Adds an effect to the journal. -/
def note (world : World) (effect : Effect) : World :=
  { world with journal := world.journal ++ [effect] }

/-- Adds a call of the sender. -/
def sent (world : World) (sending : Sending) : World :=
  { world with sends := world.sends ++ [sending] }

/-- The requests with one for an execution put in the place of an earlier one. -/
def putSignal (signals : List (String × Bool)) (id : String) (set : Bool) :
    List (String × Bool) :=
  match signals with
  | [] => [(id, set)]
  | (other, old) :: rest =>
    if other = id then (id, set) :: rest else (other, old) :: putSignal rest id set

/-- Opens the request to cancel an execution, if it is not open yet. -/
def openSignal (world : World) (id : String) : World :=
  { world with
    signals := putSignal world.signals id ((world.signals.lookup id).getD false) }

/-- Makes the request to cancel an execution; if it is being stepped, it is asked to stop. -/
def raiseSignal (world : World) (id : String) : World :=
  { world with
    signals := putSignal world.signals id true
    stepping := world.stepping.map fun stepping =>
      if stepping.id = id then { stepping with interrupted := true } else stepping }

/-- Closes the request to cancel an execution. -/
def dropSignal (world : World) (id : String) : World :=
  { world with signals := world.signals.filter fun signal => signal.1 != id }

/-- The count of calls of a registered type, with the next call counted. -/
def countCall (calls : List (String × Nat)) (type : String) : Nat × List (String × Nat) :=
  match calls with
  | [] => (1, [(type, 1)])
  | (other, count) :: rest =>
    if other = type then (count + 1, (other, count + 1) :: rest)
    else
      let (n, rest) := countCall rest type
      (n, (other, count) :: rest)

end World

/-- A computation on the world that may fail. -/
abbrev Desk := EStateM Failure World

namespace Desk

/-- The outcome of a computation, with its failure as a value. -/
def attempt {α : Type} (action : Desk α) : Desk (Except Failure α) := fun world =>
  match action world with
  | .ok value world => .ok (.ok value) world
  | .error failure world => .ok (.error failure) world

/-- The value of a result, or its failure. -/
def ofExcept {α : Type} : Except Failure α → Desk α
  | .ok value => pure value
  | .error failure => throw failure

/-- A computation while a subject is held. The hold is given back however it ends. -/
def holdingSubject {α : Type} (subject : String) (action : Desk α) : Desk α := do
  modify fun world => { world with subjects := world.subjects.enter subject }
  let outcome ← attempt action
  modify fun world => { world with subjects := world.subjects.leave subject }
  ofExcept outcome

/-- A computation while an execution is held. The hold is given back however it ends. -/
def holdingExecution {α : Type} (id : String) (action : Desk α) : Desk α := do
  modify fun world => { world with executions := world.executions.enter id }
  let outcome ← attempt action
  modify fun world => { world with executions := world.executions.leave id }
  ofExcept outcome

/-- Reads an execution. -/
def read (id : String) : Desk (Execution String) := do ofExcept ((← get).store.get id)

/-- The store after an execution is saved. What the engine refuses does not reach the store. -/
def saved (engine : Engine) (execution : Execution String) (world : World) :
    Except Failure (Store String) :=
  let before := world.saves.map fun save => save.execution.status
  match engine.refusal before execution.status with
  | some failure => .error failure
  | none => world.store.save execution

/-- Saves an execution. -/
def save (engine : Engine) (execution : Execution String) : Desk Unit := do
  let outcome := saved engine execution (← get)
  modify fun world => { world with saves := world.saves ++ [⟨execution, outcome.isOk⟩] }
  let store ← ofExcept outcome
  modify fun world => { world with store }

/-- Cancels an execution, and tells whether it ended by that. An execution that is being stepped
is also asked to stop before its next node. -/
def cancel (engine : Engine) (id : String) : Desk Bool := do
  if (← read id).status.isFinal then return false
  modify fun world => world.raiseSignal id
  holdingExecution id do
    let execution ← read id
    let cancelled ← if execution.status.isFinal then pure execution
      else
        let cancelled ← ofExcept (execution.transition .cancelled (← get).clock)
        save engine cancelled
        pure cancelled
    modify fun world => world.dropSignal id
    return cancelled.status == .cancelled

end Desk

end Parley
