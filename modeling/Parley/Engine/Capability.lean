import Parley.Engine.Effect
import Parley.Settings

/-!
# Capabilities

The parts outside the engine that it calls: the sender of messages, the generator of texts, the
knowledge, the observers, and the node types that were registered. Each is a function of the
count of its calls so far and of what it is given, and may fail; a sender or observer may also
ask for executions to be cancelled while it is called.
-/

namespace Parley

/-- What an outside part does when it is called. -/
structure Reaction where
  /-- The executions that it asks to cancel. -/
  cancels : List String
  /-- The failure with which it ends, if it does. -/
  failure : Option Failure

/-- The reaction that does nothing. -/
def Reaction.none : Reaction := ⟨[], .none⟩

/-- What a generator does when it is asked. -/
inductive Generation where
  /-- It replies with a value. -/
  | reply (value : Value)
  /-- It fails. -/
  | failure (cause : Failure)
  /-- It does not come back. -/
  | hang

/-- A registered type of nodes: how often and with which delay its effect is tried, which calls
of it fail, whether the conclusion fails, and what comes next. -/
structure Extension where
  /-- How often the effect is tried. -/
  attempts : Number
  /-- The seconds before it is tried again. -/
  delay : Number
  /-- The failure of a call by its number. -/
  outcome : Nat → Option Failure
  /-- The failure of the conclusion. -/
  refusal : Option Failure
  /-- What comes next. -/
  action : Action

/-- The outside parts of the engine. -/
structure Capabilities where
  /-- How the sender reacts to a call, by its number, the subject and the text. -/
  send : Nat → String → String → Reaction
  /-- How the generator reacts to a call, by its number, the prompt and the context. -/
  generate : Option (Nat → String → Value → Generation)
  /-- What knowledge there is for a call, by its number, the subject and the query. -/
  retrieve : Option (Nat → String → String → Except Failure Value)
  /-- How the observers react to a notice. -/
  watch : Notice → Reaction
  /-- The registered types of nodes; one may lack the means to run. -/
  extensions : List (String × Option Extension)

/-- Where an execution goes after each step. -/
inductive Keeping where
  /-- Nowhere. -/
  | nowhere
  /-- To the journal of effects. -/
  | noted
  /-- To the store. -/
  | stored
deriving DecidableEq, Repr

/-- The engine: its limits, its outside parts and where it keeps executions. -/
structure Engine where
  /-- The limits. -/
  settings : Settings
  /-- The outside parts. -/
  capabilities : Capabilities
  /-- Where executions are kept. -/
  keeping : Keeping
  /-- The failure of the store to save an execution of a status, after attempts to save
  executions of the statuses before. -/
  refusal : List Status → Status → Option Failure

end Parley
