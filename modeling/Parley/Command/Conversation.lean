import Parley.Command.Drawing
import Parley.Command.Storage
import Parley.Desk
import Parley.Knowledge
import Parley.Prompt

/-!
# Conversations on the command line

The command that tries a flow out. What the flow sends is printed, and each line of the input is
what the subject says, unless it is one of the words that let the wait time out, cancel the
execution, print its variables, or leave.
-/

namespace Parley.Command

/-- The variables that words of the form `name=value` set. -/
def readVariables (words : List String) : Action Entries :=
  words.foldlM (fun entries word =>
    match splitEquals word.toList with
    | (name, some value) => pure (Entries.put entries
        (.text (String.ofList (Text.stripChars name))) (.text (String.ofList value)))
    | (_, none) => throw .misused) []

/-- What the hosted model does when it is asked in a conversation: it cannot be reached. -/
def hosted (environment : List (String × String)) (model : Prompt.Model) (_ : Nat)
    (prompt : String) (context : Value) : Generation :=
  match model.request (.text prompt) context with
  | .error failure => .failure failure
  | .ok _ =>
    match model.key environment with
    | .error failure => .failure failure
    | .ok _ => .failure (.raised "ConnectionError" "no connection to the provider")

/-- The snippets of a knowledge file, which empty lines separate. -/
def snippets (text : String) : List Value :=
  (((Text.paragraphs text).map Text.strip).filter (· != "")).map .text

/-- The engine of a conversation. -/
def engine (settings : Settings) (knowledge : Option Knowledge)
    (generate : Option (Nat → String → Value → Generation)) : Engine where
  settings := settings
  capabilities := {
    send := fun _ _ _ => .none
    generate
    retrieve := knowledge.map fun knowledge _ _ query => do
      return .text (← knowledge.retrieve (.text query))
    watch := fun _ => .none
    extensions := [] }
  keeping := .stored
  refusal := fun _ _ => none

/-- A conversation: the world of its desk, and the file in which it is kept. -/
structure Chat where
  /-- The engine. -/
  engine : Engine
  /-- The file of the store, unless the store is in memory. -/
  path : Option String
  /-- The world. -/
  world : World

namespace Chat

/-- What was sent among effects, as printed lines. -/
def spoken (journal : List Effect) : List String :=
  journal.filterMap fun effect =>
    match effect with
    | .sent _ text => some ("bot> " ++ text)
    | _ => none

/-- Works at the desk of a conversation. What is sent is printed, and the store is written. -/
def atDesk {α : Type} (chat : Chat) (work : Desk α) : Action (Except Failure α × Chat) := do
  let (outcome, world) := match work { chat.world with journal := [] } with
    | .ok value world => (Except.ok value, world)
    | .error failure world => (Except.error failure, world)
  for line in spoken world.journal do print line
  modify fun console => { console with created := world.created }
  match chat.path with
  | some path => keepTable path world.store
  | none => pure ()
  return (outcome, { chat with world })

/-- Works at the desk of a conversation, where nothing may fail. -/
def settle {α : Type} (chat : Chat) (work : Desk α) : Action Chat := do
  let (outcome, chat) ← chat.atDesk work
  let _ ← orCrash outcome
  return chat

/-- The execution of a conversation. -/
def execution (chat : Chat) (id : String) : Action (Execution String) :=
  orCrash (chat.world.store.get id)

/-- What a line of the input does; nothing if it ends the conversation. -/
def obey (chat : Chat) (subject : String) (execution : Execution String) (line : String) :
    Action (Option Chat) := do
  if line = "/quit" then return none
  else if line = "/cancel" then
    return some (← chat.settle (Desk.cancel chat.engine execution.id))
  else if line = "/timeout" then
    match execution.deadline with
    | none =>
      print "[no pending wait]"
      return some chat
    | some deadline => return some (← chat.settle (Desk.expire chat.engine deadline))
  else if line = "/vars" then
    print (Json.writeBlock (.dict execution.vars.snapshot))
    return some chat
  else
    return some (← chat.settle (Desk.inbound chat.engine (.text subject) (.text line)))

/-- The execution of a conversation, and a line that tells where it stands; nothing if it has
ended. -/
def standing (chat : Chat) (id : String) : Action (Option (Execution String)) := do
  let execution ← chat.execution id
  if execution.status.isFinal then return none
  print ("[" ++ execution.status.text ++ " at '" ++ nameText execution.node ++ "']")
  return some execution

/-- Talks line by line until the execution ends or nothing more is said. -/
def converse (id subject : String) : List String → Chat → Action Chat
  | [], chat => do
    let _ ← chat.standing id
    return chat
  | line :: rest, chat => do
    match ← chat.standing id with
    | none => return chat
    | some execution =>
      match ← chat.obey subject execution line with
      | none => return chat
      | some next => converse id subject rest next

/-- Starts a flow for a subject, talks, and tells how it ended. -/
def hold (chat : Chat) (flow subject : String) (vars : Entries) (lines : List String) :
    Action Unit := do
  let (outcome, chat) ← chat.atDesk
    (Desk.start chat.engine flow (.text subject) (.dict vars))
  let id ← orRefuse outcome
  print ("[execution " ++ id ++ "]")
  let chat ← converse id subject lines chat
  let execution ← chat.execution id
  let suffix := String.join (unlessEmpty "  error=" (execution.error.getD ""))
  print ("[execution " ++ id ++ " " ++ execution.status.text ++ suffix ++ "]")

end Chat

/-- The lines of an input. The last one need not be ended. -/
def inputLines (input : String) : List String :=
  let lines := Text.pieces '\n' (String.ofList (lineFeeds input.toList))
  if lines.getLast? == some "" then lines.dropLast else lines

/-- The knowledge in the file that an option names. -/
def readKnowledge (given : Arguments) : Action (Option Knowledge) :=
  match given.value? "--knowledge" with
  | some path => do return some ⟨snippets (← orCrash (← fileText path)), .int 3⟩
  | none => return none

/-- The hosted model, if an option asks for it. -/
def readGenerator (setting : Setting) (given : Arguments) :
    Action (Option (Nat → String → Value → Generation)) := do
  if given.has "--llm" then
    let model ← orCrash (Prompt.Model.ofEntries setting.environment [])
    return some (hosted setting.environment model)
  else return none

/-- The file in which executions are kept: that of an option, or else that of the settings. -/
def storePath (settings : Settings) (given : Arguments) : Option String :=
  match (given.value? "--db").filter (· != "") with
  | some path => some path
  | none =>
    match settings.store with
    | .text path => some path
    | _ => none

/-- The store of a conversation. -/
def openStore : Option String → Action (Store String)
  | some path => do return .table (← openTable path)
  | none => return .memory .empty

/-- Tries a flow out in a conversation. -/
def chat (settings : Settings) (setting : Setting) (words : List String) : Action Unit := do
  let given ← readOperands ⟨["--llm"], ["--subject", "--var", "--db", "--knowledge"]⟩ words
  let path ← operand given
  requireFile path
  let here ← disk
  require ((given.value? "--db").all fun path => !here.isDirectory path)
  require ((given.value? "--knowledge").all here.isFile)
  let graph ← loadFlow path
  let knowledge ← readKnowledge given
  let generate ← readGenerator setting given
  let kept := storePath settings given
  let store ← openStore kept
  let world := { World.start setting.clock store with
    created := (← get).created
    flows := Flow.Registry.empty.add graph }
  let vars ← readVariables (given.all "--var")
  let subject := (given.value? "--subject").getD "5500000000000"
  Chat.hold ⟨engine settings knowledge generate, kept, world⟩ graph.id subject vars
    (inputLines setting.input)

end Parley.Command
