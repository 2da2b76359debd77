import Parley.Command.Conversation

/-!
# Commands

The command line: a flow is checked, drawn, or tried out in a conversation, and stored executions
are listed and shown. The first word that is no option names the command.
-/

namespace Parley.Command

/-- The options before the name of a command. -/
def outerOptions : Options := ⟨["--no-log", "-v", "--verbose"], ["--log-level", "--log-dir"]⟩

/-- The command of a name. -/
def named? (name : String) :
    Option (Settings → Setting → List String → Action Unit) :=
  match name with
  | "validate" => some fun _ _ => validate
  | "graph" => some fun _ _ => draw
  | "chat" => some chat
  | "show" => some fun _ _ => inspect
  | "list" => some fun _ _ => list
  | _ => none

/-- Runs the command that words name. The environment is looked at before the words of the
command itself. -/
def dispatch (setting : Setting) (words : List String) : Action Unit := do
  match readWords outerOptions true .none words with
  | some (given, name :: rest) =>
    let here ← disk
    require ((given.value? "--log-level").all ["debug", "info", "warning", "error"].contains)
    require ((given.value? "--log-dir").all fun path => !here.isFile path)
    match named? name with
    | some command =>
      let settings ← orCrash (Settings.ofEnvironment setting.environment)
      command settings setting rest
    | none => throw .misused
  | _ => throw .misused

/-- What a run of a command leaves: its exit code, what it printed, and the failure that nothing
took care of. -/
structure Outcome where
  /-- The exit code. -/
  code : Nat
  /-- What was printed. -/
  output : String
  /-- The failure. -/
  failure : Option Failure

/-- A text in which a return and a line feed are a line feed. -/
def joinLineEnds : List Char → List Char
  | '\r' :: '\n' :: rest => '\n' :: joinLineEnds rest
  | c :: rest => c :: joinLineEnds rest
  | [] => []

/-- What is left of a run that ended with a code after it printed something. -/
def leave (code : Nat) (failure : Option Failure) (output : String) : Outcome :=
  ⟨code, String.ofList (joinLineEnds output.toList), failure⟩

/-- Runs the command that words name on a disk, and tells what is left. -/
def run (setting : Setting) (disk : Disk) (created : Nat) (words : List String) :
    Outcome × Console :=
  match dispatch setting words ⟨disk, created, ""⟩ with
  | .ok () console => (leave 0 none console.output, console)
  | .error (.refused message) console =>
    (leave 1 none (console.output ++ printed ("Error: " ++ message)), console)
  | .error .misused console => (leave 2 none console.output, console)
  | .error (.crashed failure) console => (leave 1 (some failure) console.output, console)

end Parley.Command
