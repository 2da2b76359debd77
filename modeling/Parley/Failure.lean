import Parley.Flow.Fault
import Parley.Value

/-!
# Failures

Everything that can go wrong, as causes. A failure has a kind, the name under which it is
reported and recorded, and a message. A failure that a capability raises carries its own kind
and words.
-/

namespace Parley

/-- A cause of failure. -/
inductive Failure where
  /-- A definition is no flow. -/
  | graph (fault : Flow.Fault)
  /-- The condition of a node cannot be read. -/
  | expression (source : String) (node : Option String)
  /-- No flow is registered under a name. -/
  | flowNotFound (name : String)
  /-- No execution has an id. -/
  | executionNotFound (id : String)
  /-- A subject already has an execution that waits for input. -/
  | alreadyActive (subject id : String)
  /-- A tick visited as many nodes as it may. -/
  | budgetExceeded (budget : Number) (node : Option String)
  /-- The effect of a node kept failing. -/
  | capability (node : String) (attempts : Number) (cause : Option Failure)
  /-- A message came for a subject that waits for none. -/
  | nobodyWaiting (subject : String)
  /-- A status may not follow another. -/
  | transition (current requested : String)
  /-- There is nothing under a key. -/
  | missingKey (key : Value)
  /-- A flow has no such node. -/
  | missingNode (flow : String) (node : Option String)
  /-- No handler runs a type of node. -/
  | missingHandler (type : String)
  /-- A text is no integer to a base. -/
  | notInteger (base : Nat) (shown : String)
  /-- An integer has too many digits to be read, as many as are given, or to be written. -/
  | tooManyDigits (count : Option Nat)
  /-- A text is no number. -/
  | notNumber (shown : String)
  /-- A value is no status. -/
  | notStatus (shown : String)
  /-- A value is no event of a log. -/
  | notEvent (shown : String)
  /-- An item that should be a pair has another length. -/
  | pairLength (index length : Nat)
  /-- A setting is out of its bounds. -/
  | settings (message : String)
  /-- An execution with the id exists. -/
  | duplicateExecution (id : String)
  /-- There is no such event to hook. -/
  | unknownHook (event : String)
  /-- There is no such provider of generated text. -/
  | unknownProvider (name : String)
  /-- The key of a provider is not set. -/
  | keyNotSet (name : String)
  /-- A value has the wrong type for what is done with it. -/
  | wrongType (message : String)
  /-- A value lacks a part that is asked of it. -/
  | lacksPart (message : String)
  /-- A number is too large. -/
  | tooLarge (message : String)
  /-- A time cannot be read or computed. -/
  | time (fault : Time.Fault)
  /-- Something took longer than it may. -/
  | tooSlow (message : String)
  /-- A thing is asked for in a state that forbids it. -/
  | badState (message : String)
  /-- A table refuses a row. -/
  | integrity (message : String)
  /-- A value of a type cannot be given to a table in the place of a parameter. -/
  | notStorable (place : Nat) (type : String)
  /-- A file does not hold tables. -/
  | notTables
  /-- A file does not exist. -/
  | fileNotFound (path : String)
  /-- A file that should hold text does not. -/
  | notText
  /-- A document cannot be read as JSON. -/
  | notJson
  /-- A document cannot be read as YAML. -/
  | notYaml
  /-- A code is that of no character. -/
  | notCharacter
  /-- A document holds collections within collections too deeply. -/
  | tooDeep
  /-- A capability failed with a kind and words of its own. -/
  | raised (kind message : String)
deriving Inhabited

namespace Failure

/-- The name under which a failure is reported. -/
def kind : Failure → String
  | .graph _ => "InvalidGraph"
  | .expression .. => "InvalidExpression"
  | .flowNotFound _ => "FlowNotFound"
  | .executionNotFound _ => "ExecutionNotFound"
  | .alreadyActive .. => "ExecutionAlreadyActive"
  | .budgetExceeded .. => "StepBudgetExceeded"
  | .capability .. => "NodeCapabilityFailure"
  | .nobodyWaiting _ => "ResumeMismatch"
  | .transition .. => "InvalidTransition"
  | .missingKey _ | .missingNode .. | .missingHandler _ => "KeyError"
  | .notInteger .. | .tooManyDigits _ | .notCharacter | .notNumber _ | .notStatus _ | .notEvent _
  | .pairLength .. | .settings _ | .duplicateExecution _ | .unknownHook _ | .unknownProvider _
  | .keyNotSet _ => "ValueError"
  | .wrongType _ => "TypeError"
  | .lacksPart _ => "AttributeError"
  | .tooLarge _ => "OverflowError"
  | .time fault => fault.kind
  | .tooSlow _ => "TimeoutError"
  | .badState _ => "RuntimeError"
  | .integrity _ => "IntegrityError"
  | .notStorable .. => "ProgrammingError"
  | .notTables => "DatabaseError"
  | .fileNotFound _ => "FileNotFoundError"
  | .notText => "UnicodeDecodeError"
  | .notJson => "JSONDecodeError"
  | .notYaml => "YAMLError"
  | .tooDeep => "RecursionError"
  | .raised kind _ => kind

/-- The text of an optional name. -/
def nameText : Option String → String
  | some name => name
  | none => "None"

/-- The words of a failure. What is said of a key is quoted. -/
def message : Failure → String
  | .graph fault => fault.message
  | .expression source node =>
    let place := match node with
      | some name => if name = "" then "" else " in node '" ++ name ++ "'"
      | none => ""
    "Unrecognised expression" ++ place ++ ": " ++ Text.quoted source
  | .flowNotFound name => "Flow '" ++ name ++ "' is not registered"
  | .executionNotFound id => "Execution '" ++ id ++ "' does not exist"
  | .alreadyActive subject id =>
    "Subject '" ++ subject ++ "' already has execution '" ++ id
      ++ "' waiting for input; cancel it or let it finish first"
  | .budgetExceeded budget node =>
    "Step budget of " ++ budget.text ++ " node visits exceeded at node '" ++ nameText node ++ "'"
  | .capability node attempts cause =>
    "Node '" ++ node ++ "' capability failed after " ++ attempts.text ++ " attempt(s): "
      ++ (match cause with | some failure => failure.message | none => "None")
  | .nobodyWaiting subject => "No execution waiting for input from '" ++ subject ++ "'"
  | .transition current requested =>
    "Illegal status transition " ++ current ++ " → " ++ requested
  | .missingKey key => key.shown
  | .missingNode flow node =>
    Text.quoted ("Flow '" ++ flow ++ "' has no node '" ++ nameText node ++ "'")
  | .missingHandler type =>
    Text.quoted ("No handler registered for node type '" ++ type ++ "'")
  | .notInteger base shown =>
    "invalid literal for int() with base " ++ toString base ++ ": " ++ shown
  | .tooManyDigits count =>
    "Exceeds the limit (4300 digits) for integer string conversion"
      ++ (match count with
        | some count => ": value has " ++ toString count ++ " digits"
        | none => "")
      ++ "; use sys.set_int_max_str_digits() to increase the limit"
  | .notNumber shown => "could not convert string to float: " ++ shown
  | .notStatus shown => shown ++ " is not a valid ExecutionStatus"
  | .notEvent shown => shown ++ " is not a valid LogEvent"
  | .pairLength index length =>
    "dictionary update sequence element #" ++ toString index ++ " has length "
      ++ toString length ++ "; 2 is required"
  | .settings message => message
  | .duplicateExecution id => "Execution '" ++ id ++ "' already exists"
  | .unknownHook event => "Unknown hook event '" ++ event ++ "'"
  | .unknownProvider name => "Unknown LLM provider: " ++ name
  | .keyNotSet name => name ++ " not set"
  | .wrongType message => message
  | .lacksPart message => message
  | .tooLarge message => message
  | .time fault => fault.message
  | .tooSlow message => message
  | .badState message => message
  | .integrity message => message
  | .notStorable place type =>
    "Error binding parameter " ++ toString place ++ ": type '" ++ type ++ "' is not supported"
  | .notTables => "file is not a database"
  | .fileNotFound path => "No such file or directory: " ++ Text.quoted path
  | .notText => "the file does not hold text"
  | .notJson => "not a JSON document"
  | .notYaml => "not a YAML document"
  | .notCharacter => "chr() arg not in range(0x110000)"
  | .tooDeep => "maximum recursion depth exceeded"
  | .raised kind message => if kind == "KeyError" then Text.quoted message else message

/-- How many attempts a failure reports, if it is of the kind that does. -/
def attempts? : Failure → Option Number
  | .capability _ attempts _ => some attempts
  | _ => none

/-- Whether a failure is one of the engine's own. -/
def isEngine : Failure → Bool
  | .graph _ | .expression .. | .flowNotFound _ | .executionNotFound _ | .alreadyActive ..
  | .budgetExceeded .. | .capability .. | .nobodyWaiting _ | .transition .. => true
  | _ => false

/-- Whether a failure says that a value is unfit, which includes documents that are no text or no
JSON. -/
def isUnfitValue : Failure → Bool
  | .notText | .notJson => true
  | failure => failure.kind == "ValueError"

end Failure

end Parley
