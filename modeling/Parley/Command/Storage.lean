import Parley.Command.Console
import Parley.Document.Json.Writer
import Parley.Execution.Record
import Parley.Store

/-!
# Stored executions on the command line

The file of a store, and the commands that show one of its executions or list them.
-/

namespace Parley.Command

/-- Writes the store of tables to its file. -/
def keepTable (path : String) (store : Store String) : Action Unit :=
  match store with
  | .table table => putFile path (.tables table)
  | .memory _ => pure ()

/-- The store of tables that a file holds, if it holds one: a file that does not exist or takes no
more than one octet holds an empty one. -/
def tablesIn? : Option File → Option (Store.Table String)
  | none => some .empty
  | some (.tables table) => some table
  | some (.text content) => if content.utf8ByteSize ≤ 1 then some .empty else none

/-- Opens the store of tables in a file, which is a file of tables from then on. -/
def openTable (path : String) : Action (Store.Table String) := do
  match tablesIn? ((← disk).file? path) with
  | some table =>
    keepTable path (.table table)
    return table
  | none => throw (.crashed .notTables)

/-- Opens the store of tables in the file that an option names, which has to exist. -/
def openNamed (given : Arguments) : Action (Store.Table String) :=
  match given.value? "--db" with
  | some path => do
    requireFile path
    openTable path
  | none => throw .misused

/-- The text of an optional name. -/
def nameText (name : Option String) : String := name.getD "None"

/-- The payload of an entry as it is shown. -/
def payloadText : Option Value → String
  | some payload => if payload.truthy then Json.write payload else ""
  | none => ""

/-- The line that shows an entry of a log. -/
def entryLine (entry : Entry String) : String :=
  "  " ++ nameText entry.timestamp ++ "  " ++ Text.padRight 10 entry.event.text ++ "  "
    ++ nameText entry.node ++ "  " ++ payloadText entry.payload

/-- A line for a text, unless there is none. -/
def unlessEmpty (label text : String) : List String :=
  if text = "" then [] else [label ++ text]

/-- The lines that show an execution. -/
def executionLines (execution : Execution String) : List String :=
  ["id       : " ++ execution.id,
    "flow     : " ++ execution.flow ++ "@v" ++ toString execution.version,
    "subject  : " ++ execution.subject,
    "status   : " ++ execution.status.text]
  ++ unlessEmpty "node     : " (execution.node.getD "")
  ++ unlessEmpty "deadline : " ((execution.deadline.map Time.Moment.text).getD "")
  ++ unlessEmpty "error    : " (execution.error.getD "")
  ++ ["variables:"]
  ++ execution.vars.entries.map (fun entry =>
    "  " ++ entry.1.toText ++ " = " ++ entry.2.shown)
  ++ ["log:"]
  ++ execution.log.map entryLine

/-- Shows a stored execution. -/
def inspect (words : List String) : Action Unit := do
  let given ← readOperands ⟨["--json"], ["--db"]⟩ words
  let id ← operand given
  let table ← openNamed given
  let execution ← orRefuse (table.get id)
  if given.has "--json" then print (Json.writeBlock execution.toValue)
  else
    for line in executionLines execution do print line

/-- The line that lists an execution. -/
def listLine (execution : Execution String) : String :=
  execution.id ++ "  " ++ Text.padRight 13 execution.status.text ++ "  "
    ++ Text.padRight 20 execution.flow ++ "  " ++ Text.padRight 16 execution.subject ++ "  "
    ++ execution.updatedAt.text

/-- Lists stored executions. -/
def list (words : List String) : Action Unit := do
  let given ← readOperands ⟨[], ["--db", "--status", "--limit"]⟩ words
  require given.operands.isEmpty
  let status := (given.value? "--status").map Status.ofText?
  require (status != some none)
  match Number.readInt ((given.value? "--limit").getD "50") with
  | .error _ => throw .misused
  | .ok limit =>
    let table ← openNamed given
    let executions ← orCrash ((Store.table table).list status.join (.int limit))
    if executions.isEmpty then print "No executions."
    for execution in executions do print (listLine execution)

end Parley.Command
