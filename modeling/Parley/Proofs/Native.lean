import Parley.Proofs.Payloads
import Parley.Proofs.Timestamps

/-!
# Records that stores keep as they are

Values that documents hold as they are: a dictionary of them has distinct texts as its keys.
Executions of which variables and payloads are such values, whose logs tell of nodes and times,
whose version fits a column and whose deadline is in universal time are kept as they are by stores
of either kind.
-/

namespace Parley

namespace Value

/-- A value that a document holds as it is. -/
inductive Native : Value → Prop where
  /-- Null. -/
  | null : Native .null
  /-- A truth value. -/
  | bool (b : Bool) : Native (.bool b)
  /-- An integer. -/
  | int (n : Int) : Native (.int n)
  /-- A number. -/
  | float (x : Binary64) : Native (.float x)
  /-- A text. -/
  | text (s : String) : Native (.text s)
  /-- A list. -/
  | list {items : List Value} (all : ∀ item ∈ items, Native item) : Native (.list items)
  /-- A dictionary whose keys are texts. -/
  | dict {entries : Entries} (named : entries.Named) (all : ∀ entry ∈ entries, Native entry.2) :
    Native (.dict entries)

/-- Plain values make a plain list. -/
theorem plainAll_eq {items : List Value} (all : ∀ item ∈ items, item.plain = .ok item) :
    plainAll items = .ok items := by
  induction items with
  | nil => rfl
  | cons item rest ih =>
    obtain ⟨first, others⟩ := List.forall_mem_cons.mp all
    rw [plainAll, first, ih others]
    rfl

/-- Plain values under texts make plain entries. -/
theorem plainEntries_eq {entries : Entries} {names : List String}
    (keys : entries.map Prod.fst = names.map .text)
    (all : ∀ entry ∈ entries, entry.2.plain = .ok entry.2) :
    plainEntries entries = .ok entries := by
  induction entries generalizing names with
  | nil => rfl
  | cons entry rest ih =>
    obtain ⟨key, value⟩ := entry
    obtain ⟨first, others⟩ := List.forall_mem_cons.mp all
    obtain ⟨name, more, rfl, rfl, otherKeys⟩ := List.map_eq_cons_iff.mp keys.symm
    rw [plainEntries, first, ih otherKeys.symm others]
    rfl

/-- A value that a document holds as it is, is plain. -/
theorem Native.plain {value : Value} (native : Native value) : value.plain = .ok value := by
  induction native with
  | null | bool | int | float | text => rfl
  | list _ all =>
    rw [Value.plain, plainAll_eq all]
    rfl
  | dict named _ all =>
    obtain ⟨names, keys, -⟩ := id named
    rw [Value.plain, plainEntries_eq keys all, Computation.ok_bind, Entries.ofList_named named]
    rfl

/-- A value that a document holds as it is, is settled. -/
theorem Native.settled {value : Value} (native : Native value) : value.settled = value := by
  rw [Value.settled, native.plain]

end Value

/-- Variables whose values are held by documents as they are are their snapshot. -/
theorem Variables.snapshot_of_native {vars : Variables}
    (native : ∀ entry ∈ vars.entries, entry.2.Native) : vars.snapshot = vars.entries := by
  refine (List.map_congr_left fun entry member => ?_).trans (List.map_id vars.entries)
  rw [(native entry member).settled]
  rfl

/-- Variables that are kept as they are are their snapshot. -/
theorem Variables.snapshot_eq {vars : Variables} (native : (Value.dict vars.entries).Native) :
    vars.snapshot = vars.entries := by
  cases native with
  | dict _ all => exact snapshot_of_native all

/-- An entry of a log that stores keep as it is. -/
structure Entry.WellTyped (entry : Entry String) : Prop where
  /-- It tells of a node. -/
  node : entry.node.isSome = true
  /-- It tells a time. -/
  timestamp : entry.timestamp.isSome = true
  /-- Its payload is a dictionary, if it has one. -/
  payload : ∀ payload, entry.payload = some payload →
    payload.Native ∧ ∃ entries, payload = .dict entries

/-- An execution that stores keep as it is. -/
structure Execution.WellTyped (execution : Execution String) : Prop where
  /-- The version fits a column. -/
  version : -9223372036854775808 ≤ execution.version ∧ execution.version ≤ 9223372036854775807
  /-- The variables are those of a document. -/
  vars : (Value.dict execution.vars.entries).Native
  /-- So are the entries of the log. -/
  log : ∀ entry ∈ execution.log, entry.WellTyped
  /-- The deadline is in universal time. -/
  deadline : ∀ deadline, execution.deadline = some deadline → deadline.IsUtc
  /-- So is the time when it was last written. -/
  updatedAt : execution.updatedAt.IsUtc

namespace Store

variable {execution : Execution String}

/-- A store in memory keeps an execution as it is. -/
theorem Memory.kept_eq (typed : execution.WellTyped) : Memory.kept execution = execution := by
  rw [Memory.kept, Variables.kept, Variables.snapshot_eq typed.vars]

namespace Table

/-- A deadline in universal time is kept as it is. -/
theorem deadlineColumn_eq {deadline : Option Time.Moment}
    (utc : ∀ moment, deadline = some moment → moment.IsUtc) :
    deadlineColumn deadline = .ok deadline := by
  cases deadline with
  | none => rfl
  | some moment =>
    rw [deadlineColumn, toUtc, (utc moment rfl).toUtc]
    rfl

/-- Documents of an execution hold it as it is. -/
theorem documents_eq (typed : execution.WellTyped) : documents execution = .ok execution := by
  have vars : variablesColumn execution.vars = .ok execution.vars := by
    rw [variablesColumn, Variables.snapshot_eq typed.vars, typed.vars.plain]
    rfl
  have deadline := deadlineColumn_eq typed.deadline
  rw [documents, vars, Computation.ok_bind, deadline, Computation.ok_bind, keywordsColumn_texts]
  rfl

/-- Columns hold an execution as it is, but for its log. -/
theorem columns_eq (typed : execution.WellTyped) (shift : Nat) :
    columns shift execution = .ok { execution with log := [] } := by
  have version : Name.integerColumn execution.version = .ok execution.version :=
    if_pos typed.version
  simp only [columns, Name.column, optionalColumn_text, Computation.ok_bind, version]
  rfl

/-- A row of texts lacks nothing. -/
theorem checkRow_eq (row : Execution String) : checkRow row = .ok () := rfl

/-- Rows of the table of logs hold entries as they are. -/
theorem logRows_eq {log : List (Entry String)} (typed : ∀ entry ∈ log, entry.WellTyped)
    (id : String) : logRows id log = .ok log := by
  have documents : payloads log = .ok log := by
    induction log with
    | nil => rfl
    | cons entry rest ih =>
      obtain ⟨first, others⟩ := List.forall_mem_cons.mp typed
      have payload : payloadColumn entry.payload = .ok entry.payload := by
        cases found : entry.payload with
        | none => rfl
        | some payload =>
          obtain ⟨native, entries, rfl⟩ := first.payload payload found
          rw [payloadColumn, native.plain]
          rfl
      rw [payloads, payload, Computation.ok_bind, ih others]
      rfl
  have rows : entryRows id log = .ok log := by
    clear documents
    induction log with
    | nil => rfl
    | cons entry rest ih =>
      obtain ⟨first, others⟩ := List.forall_mem_cons.mp typed
      have row : entryRow id entry = .ok entry := by
        obtain ⟨node, named⟩ := Option.isSome_iff_exists.mp first.node
        obtain ⟨time, timed⟩ := Option.isSome_iff_exists.mp first.timestamp
        simp only [entryRow, optionalColumn_text, Computation.ok_bind, named, timed]
        obtain ⟨_, _, _, _⟩ := entry
        cases named
        cases timed
        rfl
      rw [entryRows, row, Computation.ok_bind, ih others]
      rfl
  rw [logRows, documents, Computation.ok_bind, rows]

end Table

end Store

end Parley
