import Parley.Engine.Session
import Parley.Template
import Parley.Time.Duration

/-!
# Handlers

What each kind of node does when it is visited. The effect of a node is tried again when it
fails, with a delay that doubles, as long as attempts and time are left. What a node has to tell
goes into the payload of the entry that ends its visit.
-/

namespace Parley.Handler

/-- The variable that holds the latest reply. -/
def lastMessage : String := "last_message"

/-- The variable that is set when a wait ends by its deadline. -/
def timeoutTriggered : String := "timeout_triggered"

/-- How often an effect is tried. -/
def attemptCount : Number → Except Failure Nat
  | .int n => .ok n.toNat
  | .truth b => .ok (Number.ofTruth b).toNat
  | .float _ => .error (.wrongType "'float' object cannot be interpreted as an integer")

/-- Seconds as they are measured. -/
def measured (seconds : Number) : Except Failure Binary64 := (Value.ofNumber seconds).toFloat

/-- Whether a delay takes as long as the time that there is, or longer. -/
def outlasts (delay : Number) : Option Binary64 → Except Failure Bool
  | none => .ok false
  | some timeout => do
    return Number.le (.float timeout) (.float (← measured delay))

/-- Tries an effect until it succeeds; `count` is the number of the attempt, `delay` the seconds
before the next one. An effect that does not come back is given up at once, and so is one for
which the time would run out before the next attempt. -/
def retryFrom {α : Type} (node : String) (attempts : Number) (timeout : Option Binary64)
    (effect : Run (Option α)) :
    (left count : Nat) → (delay : Number) → (last : Option Failure) → Run α
  | 0, _, _, last => throw (.capability node attempts last)
  | left + 1, count, delay, _ => do
    match ← Run.attempt effect with
    | .ok (some value) => return value
    | .ok none =>
      let seconds := (timeout.map Decimal.oneDecimal).getD ""
      throw (.capability node (.int count)
        (some (.tooSlow ("no result within " ++ seconds ++ "s"))))
    | .error failure =>
      if left = 0 then throw (.capability node attempts (some failure))
      else if ← Run.ofExcept (outlasts delay timeout) then
        throw (.capability node (.int count) (some failure))
      else
        if Number.lt (.int 0) delay then Run.note (.slept delay)
        retryFrom node attempts timeout effect left (count + 1) delay.double (some failure)

/-- Tries an effect as often as allowed. -/
def retry {α : Type} (node : String) (attempts delay : Number) (timeout : Option Number)
    (effect : Run (Option α)) : Run α := do
  let timeout ← Run.ofExcept (timeout.mapM measured)
  let count ← Run.ofExcept (attemptCount attempts)
  retryFrom node attempts timeout effect count 1 delay none

/-- Sends a text to the subject of the execution. -/
def send (engine : Engine) (text : String) : Run (Option Unit) := do
  let execution ← Run.execution
  let count := (← get).world.sends.length + 1
  let reaction := engine.capabilities.send count execution.subject text
  if reaction.failure.isNone then Run.note (.sent execution.subject text)
  let outcome ← Run.attempt (Run.react engine reaction)
  let sending := ⟨execution.id, execution.subject, text, outcome.isOk⟩
  modify fun session => { session with world := session.world.sent sending }
  Run.ofExcept outcome
  return some ()

/-- A visit of a message node: the rendered text is sent. -/
def message (engine : Engine) (node template : String) : Run (Action × Entries) := do
  let text := Template.render (← Run.execution).vars template
  retry node (.int 1) (.float .zero) none (send engine text)
  return (.follow none, [(.text "text", .text text)])

/-- A visit of a condition node: its answer chooses the edge. -/
def condition (asked : Condition) : Run (Action × Entries) := do
  let holds := asked.holds (← Run.execution).vars
  return (.follow (some (if holds then Flow.yes else Flow.no)),
    [(.text "expression", .text asked.text), (.text "result", .bool holds)])

/-- The moment that a number of seconds, given as a value, is after another. -/
def deadline (moment : Time.Moment) (seconds : Value) : Except Failure Time.Moment :=
  match seconds.number? with
  | none => .error (.time (.notSeconds seconds.typeName))
  | some seconds =>
    match moment.after seconds with
    | .ok later => .ok later
    | .error fault => .error (.time fault)

/-- A visit of a wait node: the deadline and the keywords are set. -/
def wait (engine : Engine) (timeout : Option Binary64) (keywords : List String) :
    Run (Action × Entries) := do
  let seconds := match timeout with
    | some seconds => .float seconds
    | none => engine.settings.waitTimeout
  let ends ← Run.ofExcept (deadline (← Run.now) seconds)
  Run.change fun execution => { execution with deadline := some ends, keywords }
  return (.suspend, [(.text "timeout", seconds)])

/-- The knowledge for the latest reply; none if it cannot be had. -/
def context (engine : Engine) (useKnowledge : Bool) : Run Value := do
  match useKnowledge, engine.capabilities.retrieve with
  | true, some retrieve =>
    let execution ← Run.execution
    let query := (execution.vars.read lastMessage).toText
    let count := (← get).world.retrievals + 1
    modify fun session => { session with world := { session.world with retrievals := count } }
    Run.note (.queried execution.subject query)
    match retrieve count execution.subject query with
    | .ok found => return if found.truthy then found else .text ""
    | .error _ => return .text ""
  | _, _ => return .text ""

/-- Asks the generator once. A closed engine asks no more. -/
def ask (generate : Nat → String → Value → Generation) (prompt : String) (context : Value) :
    Run (Option Value) := do
  if (← get).world.closed then
    throw (.badState "cannot schedule new futures after shutdown")
  let count := (← get).world.generations + 1
  modify fun session => { session with world := { session.world with generations := count } }
  Run.note (.generated prompt context)
  match generate count prompt context with
  | .reply value => return some value
  | .failure cause => throw cause
  | .hang => return none

/-- A visit of a node that asks a generator: the reply is put into a variable. -/
def generate (engine : Engine) (node template output : String) (useKnowledge : Bool) :
    Run (Action × Entries) := do
  match engine.capabilities.generate with
  | none =>
    throw (.capability node (.int 0) (some (.badState "no generator capability configured")))
  | some generator =>
    let prompt := Template.render (← Run.execution).vars template
    let context ← context engine useKnowledge
    let settings := engine.settings
    let reply ← retry node settings.attempts settings.delay (some settings.timeout)
      (ask generator prompt context)
    let text := match reply with
      | .null => ""
      | reply => reply.toText
    Run.change fun execution =>
      { execution with vars := execution.vars.set output (.text text) }
    return (.follow none,
      [(.text "output_variable", .text output), (.text "context_used", .bool context.truthy)])

/-- Calls a registered type once, and tells the number of the call. -/
def call (type : String) (extension : Extension) : Run (Option Nat) := do
  let (count, calls) := World.countCall (← get).world.calls type
  modify fun session => { session with world := { session.world with calls } }
  match extension.outcome count with
  | some failure => throw failure
  | none => return some count

/-- A visit of a node of a registered type. -/
def extended (extension : Extension) (node type tag : String) : Run (Action × Entries) := do
  let count ← retry node extension.attempts extension.delay none (call type extension)
  match extension.refusal with
  | some failure => throw failure
  | none =>
    Run.change fun execution =>
      { execution with vars := execution.vars.set "tag" (.text tag) }
    return (extension.action, [(.text "calls", .int count)])

/-- A visit of a node: what happens next, and what there is to tell. -/
def perform (engine : Engine) (node : Flow.Node String) : Run (Action × Entries) :=
  match node.content with
  | .start => return (.follow none, [])
  | .finish => return (.finish, [])
  | .message template => message engine node.id template
  | .condition asked => condition asked
  | .wait timeout keywords _ => wait engine timeout keywords
  | .generate template output useKnowledge =>
    generate engine node.id template output useKnowledge
  | .goTo target => return (.jump target, [])
  | .tag text =>
    match engine.capabilities.extensions.lookup node.type with
    | some (some extension) => extended extension node.id node.type text
    | _ => throw (.missingHandler node.type)

end Parley.Handler
