import Parley.Engine.Tick
import Parley.Execution.Record
import Parley.Flow.Definition
import Parley.Keyword
import Parley.Subject

/-!
# The desk

The entry points of the engine: flows are registered, executions are started, replies are routed
to the execution that waits for them, waits that are over are ended, and executions are
cancelled and looked up. A subject is held while its executions are started or resumed, and an
execution while it is changed.
-/

namespace Parley.Desk

/-- Registers a flow and tells its version. -/
def register (engine : Engine) (definition : Value) : Desk Nat := do
  let extensions := engine.capabilities.extensions.map Prod.fst
  let graph ← ofExcept (Flow.load extensions definition)
  let (version, flows) := (← get).flows.register graph
  modify fun world => { world with flows }
  return version

/-- Records on the stored execution that working on it failed. Only an execution that is running
there is ended; if that fails too, nothing more can be done. -/
def failStored (engine : Engine) (id : String) (failure : Failure) : Desk Unit := do
  let _ ← attempt do
    let stored ← read id
    if stored.status = .running then
      let now := (← get).clock
      let logged := match stored.node with
        | some node => stored.append ⟨some node, .nodeError, some now.text, some (.dict [
            (.text "error", .text failure.kind), (.text "message", .text failure.message)])⟩
        | none => stored
      let reason := failure.kind ++ ": " ++ failure.message
      let ended ← ofExcept ({ logged with error := some reason }.transition .failed now)
      save engine ended

/-- Closes the request to cancel an execution that has ended. -/
def releaseIfFinal (id : String) : Desk Unit := do
  match ← attempt (read id) with
  | .ok execution =>
    if execution.status.isFinal then modify fun world => world.dropSignal id
  | .error _ => pure ()

/-- Lets the engine work on an execution. A failure that leaves it ends the execution instead of
reaching the caller. -/
def guarded (engine : Engine) (execution : Execution String) (work : Run Status) :
    Desk Unit := do
  modify fun world => world.openSignal execution.id
  modify fun world => { world with
    stepping := some ⟨execution.id, (world.signals.lookup execution.id).getD false⟩ }
  let world ← get
  match work ⟨execution, world⟩ with
  | .ok _ session => set { session.world with stepping := none }
  | .error failure session =>
    set { session.world with stepping := none }
    failStored engine execution.id failure
  releaseIfFinal execution.id

/-- The id of the execution that is made next. -/
def nextId : Desk String := do
  let number := (← get).created + 1
  modify fun world => { world with created := number }
  return "ex" ++ Text.padZeros 4 (toString number)

/-- Starts an execution of the newest version of a flow for a subject and runs it, and tells its
id. A subject that has an execution waiting for input gets no other. -/
def start (engine : Engine) (flow : String) (subject : Value) (vars : Value) :
    Desk String := do
  let (graph, version) ← ofExcept ((← get).flows.latest flow)
  let subject := Subject.ofValue subject
  holdingSubject subject do
    match ← ofExcept ((← get).store.findWaiting subject) with
    | some active => throw (.alreadyActive subject active.id)
    | none =>
      let now := (← get).clock
      let id ← nextId
      let vars ← ofExcept (Variables.ofValue (.text id) vars)
      let execution := Execution.new id graph.id version subject vars now
      let store ← ofExcept ((← get).store.create execution)
      modify fun world => { world with store }
      holdingExecution id (guarded engine execution (Tick.start engine graph true))
      return id

/-- Where a reply leads. -/
inductive Route where
  /-- On along an edge, for a reason. -/
  | resume (label reason : String)
  /-- Nowhere: the wait goes on. -/
  | hold

/-- The route of a reply to a wait with the given keywords. -/
def route (keywords : List String) (hold : Bool) (reply : Value) : Except Failure Route := do
  if keywords.isEmpty then return .resume Flow.yes "reply"
  match ← Keyword.findIn keywords reply with
  | some _ => return .resume Flow.yes "keyword"
  | none => return if hold then .hold else .resume Flow.no "mismatch"

/-- Delivers a reply to the execution of a subject that waits for it, and tells its id if it was
resumed. -/
def deliver (engine : Engine) (subject : String) (reply : Value) : Desk (Option String) := do
  match ← ofExcept ((← get).store.findWaiting subject) with
  | none => throw (.nobodyWaiting subject)
  | some waiting =>
    holdingExecution waiting.id do
      let execution ← read waiting.id
      if execution.status != .waiting then throw (.nobodyWaiting subject)
      let graph ← ofExcept ((← get).flows.get execution.flow execution.version)
      match execution.node.bind graph.node? with
      | none => throw (.missingNode graph.id execution.node)
      | some node =>
        let vars := execution.vars.set Handler.lastMessage reply
        let execution := { execution with vars }
        match ← ofExcept (route execution.keywords node.content.holds reply) with
        | .hold =>
          let now := (← get).clock
          save engine { execution with updatedAt := now }
          return none
        | .resume label reason =>
          guarded engine execution
            (Tick.resume engine graph (.text label) (.text reason) reply true)
          return some execution.id

/-- Routes a reply to the execution of a subject that waits for it, and tells its id if it was
resumed. Whatever goes wrong stays here. -/
def inbound (engine : Engine) (subject reply : Value) : Desk (Option String) := do
  let subject := Subject.ofValue subject
  holdingSubject subject do
    match ← attempt (deliver engine subject reply) with
    | .ok resumed => return resumed
    | .error _ => return none

/-- Ends the wait of an execution if its deadline has passed, and tells whether it had. -/
def expireOne (engine : Engine) (id : String) (now : Time.Moment) : Desk Bool :=
  holdingExecution id do
    let execution ← read id
    match execution.status, execution.deadline with
    | .waiting, some deadline =>
      if ← ofExcept (Store.notAfter deadline now) then
        let graph ← ofExcept ((← get).flows.get execution.flow execution.version)
        let vars := execution.vars.set Handler.timeoutTriggered (.bool true)
        guarded engine { execution with vars }
          (Tick.resume engine graph (.text Flow.no) (.text "timeout") .null true)
        return true
      else return false
    | _, _ => return false

/-- Ends the waits of executions whose deadlines have passed, one after another, and tells the
ids of those that were resumed. -/
def expireEach (engine : Engine) (now : Time.Moment) : List String → Desk (List String)
  | [] => return []
  | id :: rest => do
    let resumed ← attempt (expireOne engine id now)
    let others ← expireEach engine now rest
    match resumed with
    | .ok true => return id :: others
    | _ => return others

/-- Ends every wait whose deadline lies at or before a moment, and tells the ids of the executions
that were resumed. -/
def expire (engine : Engine) (now : Time.Moment) : Desk (List String) := do
  expireEach engine now (← ofExcept ((← get).store.listDue now))

/-- The id that a value is. -/
def idOf (id : Value) : Desk String := do ofExcept ((← get).store.idOf id)

/-- An execution as it is written. -/
def view (id : String) : Desk Value := do return (← read id).toValue

/-- The ids of executions, most recently updated first, of a status if one is given. -/
def list (status limit : Value) : Desk (List (Execution String)) := do
  let wanted ← match status with
    | .null => pure none
    | status => some <$> ofExcept (Record.statusOf status)
  ofExcept ((← get).store.list wanted limit)

/-- Stops asking generators. -/
def close : Desk Unit := modify fun world => { world with closed := true }

/-- The flows that definitions describe. -/
def flowsOf (engine : Engine) (definitions : List Value) : Except Failure Flow.Registry :=
  let extensions := engine.capabilities.extensions.map Prod.fst
  definitions.foldlM (fun flows definition => do
    return flows.add (← Flow.load extensions definition)) .empty

/-- Opens the desk anew over the same store, with the given flows. If one of them is no flow, the
desk stays closed. -/
def reopen (engine : Engine) (definitions : List Value) : Desk Unit := do
  close
  let flows ← ofExcept (flowsOf engine definitions)
  modify fun world => { world with
    flows
    signals := []
    subjects := .empty
    executions := .empty
    closed := false }

end Parley.Desk
