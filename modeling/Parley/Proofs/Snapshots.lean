import Parley.Proofs.Lasting
import Parley.Proofs.Restoring

/-!
# Snapshots

A snapshot of variables has their names in order, and under each a value that documents hold as it
is: the value of the variable if it is such a value already, its plain counterpart if it has one,
and otherwise a note of its type in place of the whole value. A snapshot is its own snapshot, so
once variables were kept, in a record or in a store, they stay as they are however often they are
kept and read again.
-/

namespace Parley

open Parley.Computation

namespace Value

/-- A value that may be a key in a document, where it becomes a text. -/
def Lettered : Value → Prop
  | .null | .bool _ | .int _ | .float _ | .text _ => True
  | _ => False

/-- A value that can be written as a document. -/
inductive Writable : Value → Prop where
  /-- Null. -/
  | null : Writable .null
  /-- A truth value. -/
  | bool (b : Bool) : Writable (.bool b)
  /-- An integer. -/
  | int (n : Int) : Writable (.int n)
  /-- A number. -/
  | float (x : Binary64) : Writable (.float x)
  /-- A text. -/
  | text (s : String) : Writable (.text s)
  /-- A list. -/
  | list {items : List Value} (all : ∀ item ∈ items, Writable item) : Writable (.list items)
  /-- A tuple, which becomes a list. -/
  | tuple {items : List Value} (all : ∀ item ∈ items, Writable item) : Writable (.tuple items)
  /-- A dictionary whose keys become texts. -/
  | dict {entries : Entries} (keys : ∀ entry ∈ entries, Lettered entry.1)
    (all : ∀ entry ∈ entries, Writable entry.2) : Writable (.dict entries)

/-- A key becomes a text exactly if it may be one. -/
theorem plainKey_isOk (key : Value) : (∃ name, key.plainKey = .ok name) ↔ key.Lettered := by
  cases key <;> simp [plainKey, Lettered]

/-- Writable values are made plain one after another. -/
theorem plainAll_of_each {items : List Value}
    (each : ∀ item ∈ items, ∃ made, item.plain = .ok made) : ∃ made, plainAll items = .ok made := by
  induction items with
  | nil => exact ⟨[], rfl⟩
  | cons item rest ih =>
    obtain ⟨⟨first, own⟩, others⟩ := List.forall_mem_cons.mp each
    obtain ⟨more, all⟩ := ih others
    exact ⟨first :: more, by rw [plainAll, own, all]; rfl⟩

/-- Entries with proper keys and writable values are made plain one after another. -/
theorem plainEntries_of_each {entries : Entries} (keys : ∀ entry ∈ entries, Lettered entry.1)
    (each : ∀ entry ∈ entries, ∃ made, entry.2.plain = .ok made) :
    ∃ made, plainEntries entries = .ok made := by
  induction entries with
  | nil => exact ⟨[], rfl⟩
  | cons entry rest ih =>
    obtain ⟨key, value⟩ := entry
    obtain ⟨proper, properRest⟩ := List.forall_mem_cons.mp keys
    obtain ⟨⟨first, own⟩, others⟩ := List.forall_mem_cons.mp each
    obtain ⟨name, named⟩ := (plainKey_isOk key).mpr proper
    obtain ⟨more, all⟩ := ih properRest others
    exact ⟨(.text name, first) :: more, by rw [plainEntries, named, own, all]; rfl⟩

/-- A writable value has a plain counterpart. -/
theorem Writable.plain {value : Value} (writable : Writable value) :
    ∃ made, value.plain = .ok made := by
  induction writable with
  | null | bool | int | float | text => exact ⟨_, rfl⟩
  | list _ each =>
    obtain ⟨made, all⟩ := plainAll_of_each each
    exact ⟨.list made, by rw [Value.plain, all]; rfl⟩
  | tuple _ each =>
    obtain ⟨made, all⟩ := plainAll_of_each each
    exact ⟨.list made, by rw [Value.plain, all]; rfl⟩
  | dict keys _ each =>
    obtain ⟨made, all⟩ := plainEntries_of_each keys each
    exact ⟨.dict (Entries.ofList made), by rw [Value.plain, all]; rfl⟩

mutual

/-- A value that has a plain counterpart is writable. -/
theorem writable_of_plain : (value : Value) → {made : Value} → value.plain = .ok made →
    value.Writable
  | .null, _, _ => .null
  | .bool b, _, _ => .bool b
  | .int n, _, _ => .int n
  | .float x, _, _ => .float x
  | .text s, _, _ => .text s
  | .list items, _, done => by
    simp only [plain, bind_eq_ok, pure_eq_ok] at done
    obtain ⟨kept, all, -⟩ := done
    exact .list (writable_of_plainAll items all)
  | .tuple items, _, done => by
    simp only [plain, bind_eq_ok, pure_eq_ok] at done
    obtain ⟨kept, all, -⟩ := done
    exact .tuple (writable_of_plainAll items all)
  | .dict entries, _, done => by
    simp only [plain, bind_eq_ok, pure_eq_ok] at done
    obtain ⟨kept, all, -⟩ := done
    have each := writable_of_plainEntries entries all
    exact .dict (fun entry member => (each entry member).1)
      fun entry member => (each entry member).2
  | .octets _, _, done | .set _, _, done | .date _, _, done | .moment _, _, done
  | .foreign, _, done => by cases done

/-- Values that have plain counterparts are writable. -/
theorem writable_of_plainAll : (items : List Value) → {made : List Value} →
    plainAll items = .ok made → ∀ item ∈ items, item.Writable
  | [], _, _ => nofun
  | item :: rest, _, done => by
    simp only [plainAll, bind_eq_ok, pure_eq_ok] at done
    obtain ⟨first, own, others, all, -⟩ := done
    exact List.forall_mem_cons.mpr ⟨writable_of_plain item own, writable_of_plainAll rest all⟩

/-- Entries that have plain counterparts have proper keys and writable values. -/
theorem writable_of_plainEntries : (entries : List (Value × Value)) →
    {made : List (Value × Value)} → plainEntries entries = .ok made →
      ∀ entry ∈ entries, entry.1.Lettered ∧ entry.2.Writable
  | [], _, _ => nofun
  | (key, value) :: rest, _, done => by
    simp only [plainEntries, bind_eq_ok, pure_eq_ok] at done
    obtain ⟨name, named, first, own, others, all, -⟩ := done
    exact List.forall_mem_cons.mpr ⟨⟨(plainKey_isOk key).mp ⟨name, named⟩,
      writable_of_plain value own⟩, writable_of_plainEntries rest all⟩

end

mutual

/-- A value without a plain counterpart is refused for its type, and for nothing else. -/
theorem plain_failsAs : (value : Value) →
    FailsAs (fun failure => failure.kind = "TypeError") value.plain
  | .null | .bool _ | .int _ | .float _ | .text _ => failsAs_ok _
  | .list items => failsAs_bind (plainAll_failsAs items) fun _ _ => failsAs_ok _
  | .tuple items => failsAs_bind (plainAll_failsAs items) fun _ _ => failsAs_ok _
  | .dict entries => failsAs_bind (plainEntries_failsAs entries) fun _ _ => failsAs_ok _
  | .octets _ | .set _ | .date _ | .moment _ | .foreign => failsAs_error rfl

/-- So are values, one after another. -/
theorem plainAll_failsAs : (items : List Value) →
    FailsAs (fun failure => failure.kind = "TypeError") (plainAll items)
  | [] => failsAs_ok _
  | item :: rest => failsAs_bind (plain_failsAs item) fun _ _ =>
      failsAs_bind (plainAll_failsAs rest) fun _ _ => failsAs_ok _

/-- So are entries, for the types of keys and values. -/
theorem plainEntries_failsAs : (entries : List (Value × Value)) →
    FailsAs (fun failure => failure.kind = "TypeError") (plainEntries entries)
  | [] => failsAs_ok _
  | (key, value) :: rest => by
    have named : FailsAs (fun failure => failure.kind = "TypeError") key.plainKey := by
      cases key <;> first | exact failsAs_ok _ | exact failsAs_error rfl
    exact failsAs_bind named fun _ _ => failsAs_bind (plain_failsAs value) fun _ _ =>
      failsAs_bind (plainEntries_failsAs rest) fun _ _ => failsAs_ok _

end

/-- A writable value is settled as its plain counterpart. -/
theorem Writable.plain_eq_settled {value : Value} (writable : value.Writable) :
    value.plain = .ok value.settled := by
  obtain ⟨made, own⟩ := writable.plain
  rw [settled, own]

/-- A value that is not writable is settled as a note of its type. -/
theorem settled_of_not_writable {value : Value} (unwritable : ¬value.Writable) :
    value.settled = value.placeholder := by
  cases own : value.plain with
  | ok made => exact absurd (writable_of_plain value own) unwritable
  | error failure => rw [settled, own]

end Value

/-- An entry of a log is read from what is written of it. -/
theorem Entry.ofValue_readable {ν : Type} [Name ν] (entry : Entry ν) :
    ∃ read, Entry.ofValue entry.toValue = .ok read := by
  obtain ⟨node, event, timestamp, payload⟩ := entry
  cases payload with
  | none => simp [toValue, ofValue, Record.entriesOf, Record.required, Record.optional,
      Record.eventOf_text, ok_bind]
  | some content => simp [toValue, ofValue, Record.entriesOf, Record.required, Record.optional,
      Record.eventOf_text, ok_bind]

/-- A log is read from what is written of it. -/
theorem Entry.ofValues_readable {ν : Type} [Name ν] (log : List (Entry ν)) :
    ∃ read, Entry.ofValues (log.map Entry.toValue) = .ok read := by
  induction log with
  | nil => exact ⟨[], rfl⟩
  | cons entry rest ih =>
    obtain ⟨first, own⟩ := entry.ofValue_readable
    obtain ⟨more, all⟩ := ih
    exact ⟨first :: more, by rw [List.map_cons, Entry.ofValues, own, all]; rfl⟩

/-- A version is read from its number, and zero as the first. -/
theorem Record.versionOf_readable (version : Int) :
    ∃ read, versionOf (.int version) = .ok read := by
  by_cases none : version = 0
  · exact ⟨1, by rw [none]; rfl⟩
  · exact ⟨version, versionOf_int none⟩

/-- The record of an execution is read, and the variables that are read are the snapshot of those
that it had. -/
theorem Execution.ofValue_readable {ν : Type} [Name ν] (execution : Execution ν)
    (now : Time.Moment) : ∃ read, ofValue now execution.toValue = .ok read ∧
      read.vars.entries = execution.vars.snapshot := by
  obtain ⟨version, counted⟩ := Record.versionOf_readable execution.version
  obtain ⟨log, logged⟩ := Entry.ofValues_readable execution.log
  simp [toValue, ofValue, Record.entriesOf, Record.required, Record.optional, ok_bind,
    Record.statusOf_text, counted, Variables.ofValue_dict, Record.momentOf_momentValue,
    Record.momentOf_text, Record.elementsOf_list, logged]

namespace Variables

/-- What a snapshot has in the place of an entry. -/
structure Settles (entry kept : Value × Value) : Prop where
  /-- The name is the same. -/
  name : kept.1 = entry.1
  /-- Documents hold the value as it is. -/
  native : kept.2.Native
  /-- A value that documents hold as it is stays. -/
  same : entry.2.Native → kept.2 = entry.2
  /-- A value that can be written has its plain counterpart. -/
  plain : entry.2.Writable → entry.2.plain = .ok kept.2
  /-- Any other value is refused for a type in it, and a note of its own type is in its place. -/
  note : ¬entry.2.Writable →
    (∃ failure, entry.2.plain = .error failure ∧ failure.kind = "TypeError") ∧
      kept.2 = .text ("<non-serialisable: " ++ entry.2.typeName ++ ">")

/-- What is settled of a value is what a snapshot has in its place. -/
theorem settles (entry : Value × Value) : Settles entry (entry.1, entry.2.settled) where
  name := rfl
  native := entry.2.settled_native
  same native := native.settled
  plain writable := writable.plain_eq_settled
  note unwritable := by
    refine ⟨?_, Value.settled_of_not_writable unwritable⟩
    cases own : entry.2.plain with
    | ok made => exact absurd (Value.writable_of_plain entry.2 own) unwritable
    | error failure => exact ⟨failure, rfl, Value.plain_failsAs entry.2 failure own⟩

/-- A snapshot has something in the place of every entry. -/
theorem snapshot_settles (vars : Variables) :
    List.Forall₂ Settles vars.entries vars.snapshot := by
  rw [snapshot, List.forall₂_map_right_iff, List.forall₂_same]
  exact fun entry _ => settles entry

/-- A snapshot is its own snapshot. -/
theorem snapshot_snapshot (vars : Variables) {restored : Variables}
    (same : restored.entries = vars.snapshot) : restored.snapshot = vars.snapshot := by
  rw [snapshot_of_native, same]
  rw [same]
  exact vars.kept_lasting.values

/-- The names of a snapshot are those of the variables. -/
theorem snapshot_named {vars : Variables} (named : vars.entries.Named) : vars.snapshot.Named := by
  obtain ⟨names, keys, distinct⟩ := named
  refine ⟨names, ?_, distinct⟩
  rw [snapshot, List.map_map]
  exact keys

/-- A table gives variables under distinct texts back as they are kept. -/
theorem variablesColumn_of_named {vars : Variables} (named : vars.entries.Named) :
    Store.Table.variablesColumn vars = .ok vars.kept := by
  have native : (Value.dict vars.snapshot).Native :=
    .dict (snapshot_named named) vars.kept_lasting.values
  rw [Store.Table.variablesColumn, native.plain]
  rfl

/-- An execution with some variables is saved in a store of a kind, and the record that is read then
has others. -/
def Returns (tables : Bool) (vars later : Variables) : Prop :=
  ∃ (store left : Store String) (execution record : Execution String), store.inTables = tables ∧
    execution.vars = vars ∧ store.save execution = .ok left ∧
    left.get execution.id = .ok record ∧ record.vars = later

section Returns

variable {tables : Bool} {vars later : Variables}

/-- What is read is a copy of what was saved. -/
theorem Returns.copies (returns : Returns tables vars later) :
    ∃ execution record : Execution String, execution.vars = vars ∧ record.vars = later ∧
      Store.Copies tables execution record := by
  obtain ⟨store, left, execution, record, rfl, rfl, saved, read, rfl⟩ := returns
  obtain ⟨new, named, copies, records⟩ := Store.save_copies saved
  obtain ⟨member, id⟩ := Store.mem_of_get read
  rw [records] at member
  rcases Store.mem_rewritten member with rfl | ⟨-, apart⟩
  · exact ⟨execution, record, rfl, rfl, copies⟩
  · exact absurd (id.trans named.symm) apart

/-- What is read is lasting. -/
theorem Returns.lasting (returns : Returns tables vars later) : later.Lasting tables := by
  obtain ⟨execution, record, -, rfl, copies⟩ := returns.copies
  exact copies.lasting

/-- Lasting variables are read as they were saved. -/
theorem Returns.eq_of_lasting (returns : Returns tables vars later)
    (lasting : vars.Lasting tables) : later = vars := by
  obtain ⟨execution, record, rfl, rfl, copies⟩ := returns.copies
  cases tables with
  | false => rw [copies.vars rfl, lasting.kept]
  | true =>
    have written := copies.documented rfl
    rw [lasting.column] at written
    exact (Except.ok.inj written).symm

/-- What is read first is the snapshot of what was saved, if the names are distinct texts. -/
theorem Returns.snapshot (returns : Returns tables vars later) (named : vars.entries.Named) :
    later.entries = vars.snapshot := by
  obtain ⟨execution, record, rfl, rfl, copies⟩ := returns.copies
  cases tables with
  | false => rw [copies.vars rfl, kept]
  | true =>
    have written := copies.documented rfl
    rw [variablesColumn_of_named named] at written
    rw [← Except.ok.inj written, kept]

/-- After the first time, variables are read as they were saved, however often. -/
theorem Returns.again {once : Variables} (returns : Returns tables vars once)
    (more : Relation.ReflTransGen (Returns tables) once later) : later = once := by
  induction more with
  | refl => rfl
  | tail _ last ih =>
    subst ih
    exact last.eq_of_lasting returns.lasting

end Returns

/-- An execution that has the variables and did nothing yet. -/
def carrier (vars : Variables) : Execution String := .new "ex" "flow" 1 "subject" vars default

/-- Variables under distinct texts can be saved in a store of either kind, and are read as they are
kept. -/
theorem returns_kept {vars : Variables} (named : vars.entries.Named) (tables : Bool) :
    Returns tables vars vars.kept := by
  cases tables with
  | false =>
    have read : Store.get (.memory ⟨[vars.kept.carrier]⟩) "ex" = .ok vars.kept.carrier := by
      rw [Store.get_eq]
      simp [Store.records, Store.Memory.fresh, carrier, Execution.new]
    refine ⟨.memory ⟨[vars.carrier]⟩, .memory ⟨[vars.kept.carrier]⟩, vars.carrier, _, rfl, rfl, ?_,
      read, rfl⟩
    simp [Store.save, Store.Memory.save, Store.Memory.find?, Name.same_text, carrier, Execution.new,
      Store.Memory.kept]
    rfl
  | true =>
    have read : Store.get (.table ⟨[vars.kept.carrier]⟩) "ex" = .ok vars.kept.carrier := by
      rw [Store.get_eq]
      simp [Store.records, Store.Table.fresh, carrier, Execution.new]
    refine ⟨.table ⟨[vars.carrier]⟩, .table ⟨[vars.kept.carrier]⟩, vars.carrier, _, rfl, rfl, ?_,
      read, rfl⟩
    simp [Store.save, Store.Table.save, Store.Table.find?, Store.Table.documents,
      Store.Table.columns, variablesColumn_of_named named, Name.same_text, carrier, Execution.new,
      ok_bind]
    rfl

/-- Records of an execution that are written and read one after another, at some times, have the
variables of the first one. -/
theorem reread_again (times : List Time.Moment) (execution : Execution Value)
    (lasting : execution.vars.snapshot = execution.vars.entries) :
    ∃ later, times.foldlM (fun execution now => Execution.ofValue now execution.toValue) execution =
      .ok later ∧ later.vars.entries = execution.vars.entries := by
  induction times generalizing execution with
  | nil => exact ⟨execution, rfl, rfl⟩
  | cons now rest ih =>
    obtain ⟨read, done, entries⟩ := execution.ofValue_readable now
    have still : read.vars.snapshot = read.vars.entries := by
      rw [execution.vars.snapshot_snapshot entries, entries]
    obtain ⟨later, all, same⟩ := ih read still
    refine ⟨later, ?_, by rw [same, entries, lasting]⟩
    rw [List.foldlM_cons, done, ok_bind, all]

/-- Variables of several kinds: a tuple, octets, a dictionary of which two keys become one text, a
number that is none, and an object deep in a list. -/
def sundry : Variables where
  name := .text "vars"
  entries := [(.text "pair", .tuple [.int 1, .null]), (.text "octets", .octets [0]),
    (.text "twins", .dict [(.int 1, .text "first"), (.text "1", .text "second")]),
    (.text "none", .float .nan), (.text "deep", .list [.foreign])]

/-- A value that no document can hold becomes a placeholder as a whole, and of two keys that become
one text the last one counts. -/
example : sundry.snapshot = [(.text "pair", .list [.int 1, .null]),
    (.text "octets", .text "<non-serialisable: bytes>"),
    (.text "twins", .dict [(.text "1", .text "second")]),
    (.text "none", .float .nan), (.text "deep", .text "<non-serialisable: list>")] := by
  cbv

end Variables

end Parley
