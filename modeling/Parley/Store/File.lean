import Parley.Document.Json.Reader
import Parley.Document.Json.Writer
import Parley.Execution.Record
import Parley.Store.Table

/-!
# Store files

A store of tables as the text of a file: a heading by which such files are known, and a list of the
rows, as executions are written.
-/

namespace Parley

namespace Entry

/-- An entry whose names are texts. -/
def named? (entry : Entry Value) : Option (Entry String) :=
  match entry.node, entry.timestamp with
  | some (.text node), some (.text timestamp) =>
    some ⟨some node, entry.event, some timestamp, entry.payload⟩
  | _, _ => none

end Entry

namespace Execution

/-- The text that a value is. -/
def textOf? : Value → Option String
  | .text s => some s
  | _ => none

/-- An optional text; the failure is that a value is no text. -/
def optionalText? : Option Value → Option (Option String)
  | none => some none
  | some value => (textOf? value).map some

/-- An execution whose names are texts. -/
def named? (execution : Execution Value) : Option (Execution String) := do
  return { execution with
    id := ← textOf? execution.id
    flow := ← textOf? execution.flow
    subject := ← textOf? execution.subject
    node := ← optionalText? execution.node
    keywords := ← execution.keywords.mapM textOf?
    log := ← execution.log.mapM Entry.named?
    error := ← optionalText? execution.error }

end Execution

namespace Store.Table

/-- The line that opens the file of a store. -/
def heading : String := "tables of executions\n"

/-- A store as the text of a file. -/
def write (store : Table String) : String :=
  heading ++ Json.write (.list (store.rows.map Execution.toValue))

/-- The store whose text a file holds; `now` stands for times that are not given. -/
def read? (now : Time.Moment) (text : String) : Option (Table String) :=
  if heading.toList.isPrefixOf text.toList then
    match Json.read (String.ofList (text.toList.drop heading.length)) with
    | .ok (.list rows) => do
      let rows ← rows.mapM fun raw => (Execution.ofValue now raw).toOption.bind Execution.named?
      return ⟨rows⟩
    | _ => none
  else none

end Store.Table

end Parley
