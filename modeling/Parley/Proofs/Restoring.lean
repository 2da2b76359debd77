import Parley.Execution.Record
import Parley.Proofs.Moments
import Parley.Proofs.Native
import Parley.Proofs.Rereading

/-!
# Executions that are read again

The record of an execution is read as the execution, in every field: what a record may leave out is
either written, or has as its usual value what is read where nothing was written. Only the times
may change, where the clock is less than a second off universal time.
-/

namespace Parley

open Time

namespace Name

/-- The value of a text is the text. -/
theorem value_text : (Name.value : String → Value) = .text := rfl

/-- A value is its own value. -/
theorem value_self : (Name.value : Value → Value) = id := rfl

end Name

namespace Record

/-- Null is read as nothing. -/
theorem nonNull_null : nonNull .null = none := rfl

/-- What is not null is read. -/
theorem nonNull_of_ne {value : Value} (told : value ≠ .null) : nonNull value = some value := by
  cases value with
  | null => exact absurd rfl told
  | _ => rfl

/-- A name that was written is read as its text. -/
theorem nonNull_nameValue (name : Option String) : nonNull (nameValue name) = name.map .text := by
  cases name <;> rfl

/-- A name is written as its text is. -/
theorem nameValue_map (name : Option String) :
    nameValue (name.map Value.text) = nameValue name := by
  cases name <;> rfl

/-- A moment that was written is read again. -/
theorem momentOf_text (moment : Moment) :
    momentOf (.text moment.text) = .ok (some moment.reread) := by
  have truthy : (Value.text moment.text).truthy = true := by
    simp [Value.truthy, moment.text_ne_empty]
  rw [momentOf, if_pos truthy]
  simp only [moment.read_text]

/-- A moment that may be missing is read again. -/
theorem momentOf_momentValue (moment : Option Moment) :
    momentOf (momentValue moment) = .ok (moment.map Moment.reread) := by
  cases moment with
  | none => rfl
  | some moment => exact momentOf_text moment

/-- A status is read from its word. -/
theorem statusOf_text (status : Status) : statusOf (.text status.text) = .ok status := by
  cases status <;> rfl

/-- An event is read from its word. -/
theorem eventOf_text (event : Event) : eventOf (.text event.text) = .ok event := by
  cases event <;> rfl

/-- The elements of a list are its items, also if there are none. -/
theorem elementsOf_list (items : List Value) : elementsOf (.list items) = .ok items := by
  cases items <;> rfl

/-- A version that is not zero is read. -/
theorem versionOf_int {version : Int} (versioned : version ≠ 0) :
    versionOf (.int version) = .ok version := by
  have truthy : (Value.int version).truthy = true := by simp [Value.truthy, versioned]
  rw [versionOf, if_pos truthy]
  rfl

end Record

open Record

/-- The variables of a dictionary are its entries, also if there are none. -/
theorem Variables.ofValue_dict (name : Value) (entries : Entries) :
    Variables.ofValue name (.dict entries) = .ok ⟨name, entries⟩ := by
  cases entries <;> rfl

namespace Entry

/-- An entry of a log with its names as they stand in a document. -/
def valued (entry : Entry String) : Entry Value where
  node := entry.node.map .text
  event := entry.event
  timestamp := entry.timestamp.map .text
  payload := entry.payload

/-- An entry is read from what is written of it, if its payload is not null. -/
theorem ofValue_entry {entry : Entry String} (told : entry.payload ≠ some .null) :
    ofValue entry.toValue = .ok entry.valued := by
  obtain ⟨node, event, timestamp, payload⟩ := entry
  cases payload with
  | none => simp [toValue, ofValue, entriesOf, required, Record.optional, eventOf_text,
      nonNull_nameValue, nonNull_null, Computation.ok_bind, valued]
  | some content =>
    have kept : nonNull content = some content :=
      nonNull_of_ne fun null => told (congrArg some null)
    simp [toValue, ofValue, entriesOf, required, Record.optional, eventOf_text,
      nonNull_nameValue, kept, Computation.ok_bind, valued]

/-- Entries are read from what is written of them, in order. -/
theorem ofValues_log {log : List (Entry String)}
    (payloads : ∀ entry ∈ log, entry.payload ≠ some .null) :
    ofValues (log.map toValue) = .ok (log.map valued) := by
  induction log with
  | nil => rfl
  | cons entry rest ih =>
    obtain ⟨first, others⟩ := List.forall_mem_cons.mp payloads
    rw [List.map_cons, ofValues, ofValue_entry first, Computation.ok_bind, ih others]
    rfl

/-- Names that stand in a document are written as they are. -/
theorem valued_toValue (entry : Entry String) : entry.valued.toValue = entry.toValue := by
  obtain ⟨node, event, timestamp, payload⟩ := entry
  cases node <;> cases timestamp <;> rfl

end Entry

namespace Execution

/-- The times of an execution: its deadline, if it has one, and when it began and was written. -/
def moments (execution : Execution String) : List Moment :=
  execution.deadline.toList ++ [execution.createdAt, execution.updatedAt]

/-- An execution with its names as they stand in a document, and its variables under its id. -/
def valued (execution : Execution String) : Execution Value where
  id := .text execution.id
  flow := .text execution.flow
  version := execution.version
  subject := .text execution.subject
  status := execution.status
  node := execution.node.map .text
  vars := ⟨.text execution.id, execution.vars.entries⟩
  deadline := execution.deadline
  keywords := execution.keywords.map .text
  log := execution.log.map Entry.valued
  error := execution.error.map .text
  createdAt := execution.createdAt
  updatedAt := execution.updatedAt

/-- The execution that is read from the record of an execution. -/
def reread (execution : Execution String) : Execution Value :=
  { execution.valued with
    deadline := execution.deadline.map Moment.reread
    createdAt := execution.createdAt.reread
    updatedAt := execution.updatedAt.reread }

variable {execution : Execution String}

/-- If every time is told, what is read is the execution. -/
theorem reread_eq (told : ∀ moment ∈ execution.moments, moment.Told) :
    execution.reread = execution.valued := by
  have same : ∀ moment ∈ execution.moments, moment.reread = moment :=
    fun moment member => Moment.reread_eq_iff.mpr (told moment member)
  have deadline : execution.deadline.map Moment.reread = execution.deadline := by
    cases found : execution.deadline with
    | none => rfl
    | some moment => rw [Option.map_some, same moment (by simp [moments, found])]
  rw [reread, deadline, same execution.createdAt (by simp [moments]),
    same execution.updatedAt (by simp [moments])]
  rfl

/-- Names that stand in a document are written as they are. -/
theorem valued_toValue (execution : Execution String) :
    execution.valued.toValue = execution.toValue := by
  simp [toValue, valued, nameValue_map, Name.value_text, Name.value_self, Variables.snapshot,
    Entry.valued_toValue]

/-- The record of an execution is read, with no time standing in for one that was given. -/
theorem ofValue_record (now : Moment) (versioned : execution.version ≠ 0)
    (vars : (Value.dict execution.vars.entries).Native)
    (payloads : ∀ entry ∈ execution.log, entry.payload ≠ some .null) :
    ofValue now execution.toValue = .ok execution.reread := by
  -- Each field is found under its own key, and its reader gives back what was written.
  have log := Entry.ofValues_log payloads
  simp [toValue, ofValue, entriesOf, required, Record.optional, Computation.ok_bind,
    statusOf_text, versionOf_int versioned, Variables.snapshot_eq vars, Variables.ofValue_dict,
    momentOf_momentValue, momentOf_text, elementsOf_list, nonNull_nameValue, log, reread, valued,
    Name.value_text]

/-- Noon of a day on a clock with an offset, and a fraction of a second later. -/
def noon (offset : Option Offset) (micros : Fin 1000000) : Moment :=
  ⟨63902865600000000 + micros, by unfold clockLimit; omega, offset⟩

/-- A run that waits with nothing set but a variable, at noon on different clocks, and whose log
has payloads of each kind. -/
def traveller (began : Option Offset) : Execution String where
  id := ""
  flow := "tour"
  version := -3
  subject := ""
  status := .waiting
  node := some ""
  vars := ⟨.text "guide", [(.text "stops", .list []), (.text "", .dict [])]⟩
  deadline := some (noon (some ⟨20700000000, by decide, by decide⟩) 250000)
  keywords := ["yes", ""]
  log := [⟨some "in", .nodeStart, some "", none⟩, ⟨none, .nodeEnd, none, some (.dict [])⟩,
    ⟨some "ask", .suspended, some "12:00", some (.dict [(.text "left", .null)])⟩]
  error := some ""
  createdAt := noon began 0
  updatedAt := noon none 999999

/-- What is set for the traveller is as in a document. -/
theorem traveller_native (began : Option Offset) :
    (Value.dict (traveller began).vars.entries).Native := by
  refine .dict ⟨["stops", ""], rfl, by decide⟩ ?_
  simp only [traveller, List.forall_mem_cons]
  exact ⟨.list (List.forall_mem_nil _), .dict ⟨[], rfl, List.nodup_nil⟩ (List.forall_mem_nil _),
    List.forall_mem_nil _⟩

end Execution

end Parley
