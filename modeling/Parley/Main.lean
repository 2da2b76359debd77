import Parley.Command
import Parley.Store.File
import Std.Time.DateTime.Timestamp

/-!
# The program

Gathers what a command works with, runs the command, and puts down what it left: the files that it
wrote, the text that it printed, and its exit code. Executions are numbered from the time at which
the program starts, so that those of two runs differ.
-/

namespace Parley.Command

/-- The variables of the environment that commands look at. -/
def variableNames : List String :=
  ["CONVOFLOW_STEP_BUDGET", "CONVOFLOW_AI_MAX_ATTEMPTS", "CONVOFLOW_AI_BASE_DELAY",
    "CONVOFLOW_AI_TIMEOUT", "CONVOFLOW_DEFAULT_WAIT_TIMEOUT", "CONVOFLOW_POLL_INTERVAL",
    "CONVOFLOW_DB_PATH", "CONVOFLOW_LOG_LEVEL", "LLM_PROVIDER", "LLM_MODEL", "LLM_MODEL_OPENAI",
    "LLM_MODEL_ANTHROPIC", "OPENAI_API_KEY", "ANTHROPIC_API_KEY"]

/-- The variables of the environment that are set. -/
def gatherEnvironment : IO (List (String × String)) :=
  variableNames.filterMapM fun name => do return (← IO.getEnv name).map fun value => (name, value)

/-- What a file with a text holds; `clock` stands for times that are not given. -/
def fileOf (clock : Time.Moment) (text : String) : File :=
  match Store.Table.read? clock text with
  | some table => .tables table
  | none => .text text

/-- The disk with what stands at a path. -/
def gatherPath (clock : Time.Moment) (disk : Disk) (path : String) : IO Disk := do
  match ← (IO.FS.readFile path).toBaseIO with
  | .ok text => return disk.put path (fileOf clock text)
  | .error (.inappropriateType ..) => return { disk with directories := path :: disk.directories }
  | .error _ => return disk

/-- The paths that words and the environment may name. -/
def mentioned (environment : List (String × String)) (words : List String) : List String :=
  words ++ words.filterMap (fun word => (splitEquals word.toList).2.map String.ofList)
    ++ (environment.lookup "CONVOFLOW_DB_PATH").toList

/-- The time. -/
def gatherClock : IO Time.Moment := do
  let now ← Std.Time.Timestamp.now
  let micros := now.toNanosecondsSinceUnixEpoch.val / 1000
  match Time.Moment.read "1970-01-01T00:00:00+00:00" with
  | .ok epoch => return (epoch.addMicros? micros).getD epoch
  | .error fault => throw (IO.userError fault.message)

/-- Writes the stores that a command used. -/
def putDown (disk : Disk) : IO Unit :=
  for (path, file) in disk.files do
    match file with
    | .tables table => IO.FS.writeFile path table.write
    | .text _ => pure ()

end Parley.Command

open Parley Command in
/-- Runs the command that the words name. -/
def main (words : List String) : IO UInt32 := do
  let environment ← gatherEnvironment
  let clock ← gatherClock
  let disk ← (mentioned environment words).foldlM (gatherPath clock) ⟨[], []⟩
  let input ← if words.contains "chat" then (← IO.getStdin).readToEnd else pure ""
  let (outcome, console) := run ⟨environment, clock, input⟩ disk (clock.clock / 1000000) words
  putDown console.disk
  IO.print outcome.output
  match outcome.failure with
  | some failure => IO.eprintln (failure.kind ++ ": " ++ failure.message)
  | none => pure ()
  return UInt32.ofNat outcome.code
