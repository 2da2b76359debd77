import Parley.Execution
import Parley.Value.Plain

/-!
# Stores in tables

A store of two tables: one has a row for each execution, with its deadline in universal time,
and the other the entries of the logs. Writing an execution adds those entries of its log that
go beyond the stored ones and never changes an entry. A row that a table must refuse is an
error, and then nothing of the call is written.
-/

namespace Parley.Store

/-- The rows in the order in which they were inserted; each holds its stored log. -/
structure Table (ν : Type) where
  /-- The rows. -/
  rows : List (Execution ν)

namespace Table

/-- The store without rows. -/
def empty {ν : Type} : Table ν := ⟨[]⟩

/-- A moment in universal time. -/
def toUtc (moment : Time.Moment) : Except Failure Time.Moment :=
  match moment.toUtc? with
  | some moment => .ok moment
  | none => .error (.time .range)

/-- An optional moment in universal time. -/
def deadlineColumn : Option Time.Moment → Except Failure (Option Time.Moment)
  | none => .ok none
  | some moment => do return some (← toUtc moment)

/-- An optional name as a column keeps it. -/
def optionalColumn {ν : Type} [Name ν] (place : Nat) : Option ν → Except Failure (Option ν)
  | none => .ok none
  | some name => do
    let kept ← Name.column place name
    return if Name.isNull kept then none else some kept

/-- The refusal of a null in a column that needs a value. -/
def notNull (table column : String) : Failure :=
  .integrity ("NOT NULL constraint failed: " ++ table ++ "." ++ column)

/-- A name in a column that needs a value. -/
def requireName {ν : Type} [Name ν] (table column : String) (name : ν) : Except Failure Unit :=
  if Name.isNull name then .error (notNull table column) else .ok ()

/-- A name as it comes back from a document that was written of it. -/
class Written (ν : Type) extends Name ν where
  /-- The name after it was written and read. -/
  plain : ν → Except Failure ν

instance : Written String := ⟨.ok⟩

instance : Written Value := ⟨Value.plain⟩

/-- The keywords as they come back from the document that the row holds. -/
def keywordsColumn {ν : Type} [Written ν] : List ν → Except Failure (List ν)
  | [] => .ok []
  | keyword :: rest => do return (← Written.plain keyword) :: (← keywordsColumn rest)

/-- The payload as it comes back from the document that the row holds. -/
def payloadColumn : Option Value → Except Failure (Option Value)
  | none => .ok none
  | some payload => do
    match ← payload.plain with
    | .null => return none
    | value => return some value

/-- Entries with their payloads as documents. -/
def payloads {ν : Type} : List (Entry ν) → Except Failure (List (Entry ν))
  | [] => .ok []
  | entry :: rest => do
    return { entry with payload := ← payloadColumn entry.payload } :: (← payloads rest)

/-- An entry of the execution of an id as a row of the table of logs. -/
def entryRow {ν : Type} [Name ν] (id : ν) (entry : Entry ν) : Except Failure (Entry ν) := do
  let node ← optionalColumn 3 entry.node
  let timestamp ← optionalColumn 5 entry.timestamp
  requireName "cf_log_entries" "execution_id" id
  if node.isNone then throw (notNull "cf_log_entries" "node_id")
  if timestamp.isNone then throw (notNull "cf_log_entries" "ts")
  return { entry with node, timestamp }

/-- Entries as rows of the table of logs, in order. -/
def entryRows {ν : Type} [Name ν] (id : ν) : List (Entry ν) → Except Failure (List (Entry ν))
  | [] => .ok []
  | entry :: rest => do return (← entryRow id entry) :: (← entryRows id rest)

/-- Entries to be added to the log of an id, as rows. All payloads are written before the first row
is added. -/
def logRows {ν : Type} [Name ν] (id : ν) (log : List (Entry ν)) :
    Except Failure (List (Entry ν)) := do
  entryRows id (← payloads log)

/-- The variables as they come back from the document that the row holds. -/
def variablesColumn (vars : Variables) : Except Failure Variables := do
  return { vars with entries := ← (← (Value.dict vars.snapshot).plain).entries }

/-- An execution whose documents and times are as the row keeps them; its names are still as they
were given. -/
def documents {ν : Type} [Written ν] (execution : Execution ν) :
    Except Failure (Execution ν) := do
  let vars ← variablesColumn execution.vars
  let deadline ← deadlineColumn execution.deadline
  let keywords ← keywordsColumn execution.keywords
  return { execution with vars, deadline, keywords }

/-- An execution whose names but the id are as the row keeps them, without its log. The places of
the columns are counted from `shift` on. -/
def columns {ν : Type} [Name ν] (shift : Nat) (execution : Execution ν) :
    Except Failure (Execution ν) := do
  let flow ← Name.column (shift + 1) execution.flow
  let version ← Name.integerColumn execution.version
  let subject ← Name.column (shift + 3) execution.subject
  let node ← optionalColumn (shift + 5) execution.node
  let error ← optionalColumn (shift + 9) execution.error
  return { execution with flow, version, subject, node, error, log := [] }

/-- Refuses a row that lacks a name that it needs. -/
def checkRow {ν : Type} [Name ν] (row : Execution ν) : Except Failure Unit := do
  requireName "cf_executions" "flow_id" row.flow
  requireName "cf_executions" "subject_key" row.subject

/-- The row of an id; a null is the id of none. -/
def find? {ν : Type} [Name ν] (store : Table ν) (id : ν) : Option (Execution ν) :=
  if Name.isNull id then none else store.rows.find? fun row => Name.same row.id id

/-- Inserts an execution, whose id must be new. -/
def create {ν : Type} [Written ν] (store : Table ν) (execution : Execution ν) :
    Except Failure (Table ν) := do
  let execution ← documents execution
  let id ← Name.column 1 execution.id
  let row := { ← columns 1 execution with id }
  checkRow row
  if (store.find? row.id).isSome then
    throw (.integrity "UNIQUE constraint failed: cf_executions.id")
  let log ← logRows id execution.log
  return ⟨store.rows ++ [{ row with log }]⟩

/-- Updates the row of an execution, and adds the entries of its log beyond the stored ones. -/
def save {ν : Type} [Written ν] (store : Table ν) (execution : Execution ν) :
    Except Failure (Table ν) := do
  let row ← columns 0 (← documents execution)
  let id ← Name.column 12 execution.id
  let row := { row with id }
  match store.find? id with
  | none => throw (.executionNotFound (Name.text execution.id))
  | some stored =>
    checkRow row
    let added ← logRows id (execution.log.drop stored.log.length)
    let updated := { row with log := stored.log ++ added }
    return ⟨store.rows.map fun other => if Name.same other.id id then updated else other⟩

/-- A row as it is read: a version that counts as none is the first. -/
def fresh {ν : Type} (row : Execution ν) : Execution ν :=
  { row with version := if row.version = 0 then 1 else row.version }

/-- Reads the execution of an id. -/
def get {ν : Type} [Name ν] (store : Table ν) (id : ν) : Except Failure (Execution ν) := do
  match store.find? (← Name.column 1 id) with
  | some row => return fresh row
  | none => throw (.executionNotFound (Name.text id))

/-- Rows with the most recently updated first, by the texts of the times. -/
def byUpdate {ν : Type} (rows : List (Execution ν)) : List (Execution ν) :=
  rows.mergeSort fun a b => decide (b.updatedAt.text ≤ a.updatedAt.text)

/-- The execution of a subject that waits for input, the most recently updated if there are
several. -/
def findWaiting {ν : Type} [Name ν] (store : Table ν) (subject : ν) :
    Except Failure (Option (Execution ν)) := do
  let subject ← Name.column 1 subject
  let waiting := store.rows.filter fun row =>
    !Name.isNull subject && Name.same row.subject subject && row.status == .waiting
  return (byUpdate waiting).head?.map fresh

/-- The text of a deadline: of fixed width, so that texts are ordered as the times are. -/
def deadlineText {ν : Type} (row : Execution ν) : String :=
  match row.deadline with
  | some deadline => deadline.fullText
  | none => ""

/-- Rows with the earliest deadline first, and before them those without one. -/
def byDeadline {ν : Type} (rows : List (Execution ν)) : List (Execution ν) :=
  rows.mergeSort fun a b => decide (deadlineText a ≤ deadlineText b)

/-- The ids of the executions whose deadline has passed. -/
def listDue {ν : Type} (store : Table ν) (now : Time.Moment) : Except Failure (List ν) := do
  let now ← toUtc now
  let due := store.rows.filter fun row =>
    row.status == .waiting && row.deadline.isSome && decide (deadlineText row ≤ now.fullText)
  return (byDeadline due).map Execution.id

/-- The first rows up to a bound; below zero there is none. -/
def bounded {α : Type} (limit : Int) (rows : List α) : List α :=
  match limit with
  | .ofNat n => rows.take n
  | .negSucc _ => rows

/-- The integer that a number is, if it is whole and lies within the integers of a table. -/
def whole? (x : Binary64) : Option Int :=
  match (Value.float x).toInt with
  | .ok n =>
    if (Value.int n).same (.float x) ∧ -9223372036854775808 < n ∧ n < 9223372036854775807 then
      some n
    else none
  | .error _ => none

/-- Whether a character may surround a number in a text. -/
def isNumberBlank (c : Char) : Bool := c == ' ' || (9 ≤ c.toNat && c.toNat ≤ 13)

/-- Whether a text is a number of ASCII digits: with an optional sign, an optional point, an
optional exponent, and blanks around it. -/
def isNumeral (text : String) : Bool :=
  text.toList.all fun c => c.isDigit || isNumberBlank c || "+-.eE".toList.contains c

/-- The integer that a text stands for in a table: that of an integer, or of a whole number. -/
def wholeText? (text : String) : Option Int :=
  if !isNumeral text then none
  else
    match Number.readInt text with
    | .ok n => if (Name.integerColumn n).isOk then some n else none
    | .error _ => (Number.readFloat? text).bind whole?

/-- The bound that a value stands for as the parameter in a place: an integer, a number that is
whole, or the text of one. -/
def limitColumn (place : Nat) (limit : Value) : Except Failure Int :=
  let mismatch := Failure.integrity "datatype mismatch"
  match limit with
  | .int n => Name.integerColumn n
  | .bool b => .ok (Number.ofTruth b)
  | .float x => (whole? x).elim (.error mismatch) .ok
  | .text text => (wholeText? text).elim (.error mismatch) .ok
  | .null | .octets _ => .error mismatch
  | value => .error (.notStorable place value.typeName)

/-- The executions of a status, or all, most recently updated first, up to a bound. The rows of
one status are found by their deadlines. -/
def list {ν : Type} (store : Table ν) (status : Option Status) (limit : Int) :
    List (Execution ν) :=
  let wanted := match status with
    | none => store.rows
    | some status => byDeadline (store.rows.filter fun row => row.status == status)
  (bounded limit (byUpdate wanted)).map fresh

end Table

end Parley.Store
