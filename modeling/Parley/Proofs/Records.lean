import Mathlib.Data.List.Forall2
import Mathlib.Data.List.Nodup
import Parley.Proofs.Computation
import Parley.Store

/-!
# What stores do to their records

The contract of the two kinds of stores, in terms of the records that they hold. Creating an
execution adds a record for it, and saving it rewrites the record of its id; all other records stay.
A record tells what was handed over, but for its log: a store in memory keeps the log that it is
given, and tables add to the stored log what goes beyond it, with payloads as documents.
-/

namespace Parley

namespace Name

/-- Two texts name the same thing if they are the same text. -/
theorem same_text (a b : String) : same a b = (a == b) := by
  simp [same, value, Value.same, Value.sameAtom]

/-- No text is null. -/
theorem isNull_text (a : String) : isNull a = false := rfl

end Name

/-- A kept entry tells what an entry that was handed over tells; its payload may have been made
plain. -/
structure Entry.Echoes (kept handed : Entry String) : Prop where
  /-- It is about the same node. -/
  node : kept.node = handed.node
  /-- It tells the same event. -/
  event : kept.event = handed.event
  /-- It was written at the same time. -/
  timestamp : kept.timestamp = handed.timestamp
  /-- It has the same payload, or the document of it. -/
  payload : kept.payload = handed.payload ∨
    Store.Table.payloadColumn handed.payload = .ok kept.payload

/-- Every entry echoes itself. -/
theorem Entry.Echoes.refl (entry : Entry String) : entry.Echoes entry :=
  ⟨rfl, rfl, rfl, .inl rfl⟩

/-- Every log echoes itself. -/
theorem Entry.echoes_same (log : List (Entry String)) : List.Forall₂ Entry.Echoes log log :=
  List.forall₂_same.mpr fun entry _ => Entry.Echoes.refl entry

/-- What echoes two logs, one after the other, is what echoes each. -/
theorem Entry.echoes_append {kept before more : List (Entry String)}
    (echoes : List.Forall₂ Entry.Echoes kept (before ++ more)) :
    ∃ early late, kept = early ++ late ∧ List.Forall₂ Entry.Echoes early before ∧
      List.Forall₂ Entry.Echoes late more :=
  ⟨_, _, (List.take_append_drop before.length kept).symm,
    List.forall₂_take_append kept before more echoes,
    List.forall₂_drop_append kept before more echoes⟩

/-- What echoes a log that ends with an entry ends with an echo of the entry. -/
theorem Entry.echoes_concat {kept before : List (Entry String)} {last : Entry String}
    (echoes : List.Forall₂ Entry.Echoes kept (before ++ [last])) :
    ∃ early entry, kept = early ++ [entry] ∧ List.Forall₂ Entry.Echoes early before ∧
      entry.Echoes last := by
  obtain ⟨early, late, split, first, ends⟩ := echoes_append echoes
  obtain ⟨entry, others, echo, rest, rfl⟩ := List.forall₂_cons_right_iff.mp ends
  rw [List.forall₂_nil_right_iff] at rest
  subst rest
  exact ⟨early, entry, split, first, echo⟩

namespace Store

/-- Whether a store holds its records in tables. -/
def inTables {ν : Type} : Store ν → Bool
  | .memory _ => false
  | .table _ => true

/-- The entries that a store keeps for entries that were handed over. -/
def Keeps (store : Store String) (kept handed : List (Entry String)) : Prop :=
  if store.inTables then List.Forall₂ Entry.Echoes kept handed else kept = handed

/-- What is read from a store is kept as it is. -/
theorem Keeps.refl (store : Store String) (log : List (Entry String)) : store.Keeps log log := by
  unfold Keeps
  split
  · exact Entry.echoes_same log
  · rfl

/-- Logs are kept piece by piece. -/
theorem Keeps.append {store : Store String} {kept handed more others : List (Entry String)}
    (first : store.Keeps kept handed) (second : store.Keeps more others) :
    store.Keeps (kept ++ more) (handed ++ others) := by
  unfold Keeps at *
  by_cases tables : store.inTables
  · rw [if_pos tables] at *
    exact List.rel_append first second
  · rw [if_neg tables] at *
    rw [first, second]

/-- Kept entries echo those that were handed over. -/
theorem Keeps.echoes {store : Store String} {kept handed : List (Entry String)}
    (keeps : store.Keeps kept handed) : List.Forall₂ Entry.Echoes kept handed := by
  unfold Keeps at keeps
  split at keeps
  · exact keeps
  · rw [keeps]
    exact Entry.echoes_same handed

/-- Stores of one kind keep the same entries. -/
theorem Keeps.congr {store other : Store String} {kept handed : List (Entry String)}
    (kind : other.inTables = store.inTables) (keeps : store.Keeps kept handed) :
    other.Keeps kept handed := by
  unfold Keeps at *
  rwa [kind]

/-- A record tells what the execution that was handed over for it tells, but for log and
variables. -/
structure Recorded (handed kept : Execution String) : Prop where
  /-- It has the id. -/
  id : kept.id = handed.id
  /-- It is of the flow. -/
  flow : kept.flow = handed.flow
  /-- It is of the version, which counts from one. -/
  version : handed.version ≠ 0 → kept.version = handed.version
  /-- It has the subject. -/
  subject : kept.subject = handed.subject
  /-- It has the status. -/
  status : kept.status = handed.status
  /-- It stands at the node. -/
  node : kept.node = handed.node
  /-- It waits until the same instant. -/
  deadline : kept.deadline.map Time.Moment.instant = handed.deadline.map Time.Moment.instant
  /-- It waits for the keywords. -/
  keywords : kept.keywords = handed.keywords
  /-- It failed for the reason. -/
  error : kept.error = handed.error
  /-- It began at the time. -/
  createdAt : kept.createdAt = handed.createdAt

/-- The records after the one of an id was rerecorded. -/
def rewritten (records : List (Execution String)) (record : Execution String) :
    List (Execution String) :=
  records.map fun other => if other.id = record.id then record else other

/-- Records that were rewritten are the new record and those of other ids. -/
theorem mem_rewritten {records : List (Execution String)} {record other : Execution String}
    (member : other ∈ rewritten records record) :
    other = record ∨ other ∈ records ∧ other.id ≠ record.id := by
  obtain ⟨old, listed, changed⟩ := List.mem_map.mp member
  split at changed
  · exact .inl changed.symm
  · rename_i differs
    subst changed
    exact .inr ⟨listed, differs⟩

/-- A record of another id is still there after records were rewritten. -/
theorem mem_rewritten_of_ne {records : List (Execution String)} {record other : Execution String}
    (member : other ∈ records) (differs : other.id ≠ record.id) :
    other ∈ rewritten records record :=
  List.mem_map.mpr ⟨other, member, if_neg differs⟩

/-- The new record is there after records were rewritten, if there was one of its id. -/
theorem mem_rewritten_self {records : List (Execution String)} {record old : Execution String}
    (member : old ∈ records) (named : old.id = record.id) : record ∈ rewritten records record :=
  List.mem_map.mpr ⟨old, member, if_pos named⟩

/-- Rewriting keeps the ids. -/
theorem rewritten_ids (records : List (Execution String)) (record : Execution String) :
    (rewritten records record).map Execution.id = records.map Execution.id := by
  rw [rewritten, List.map_map]
  apply List.map_congr_left
  intro other _
  simp only [Function.comp_apply]
  split
  · rename_i same
    exact same.symm
  · rfl

/-- Rewriting the record of an id before records are read rewrites it as it is read. -/
theorem map_rewritten (read : Execution String → Execution String)
    (ids : ∀ record, (read record).id = record.id) (records : List (Execution String))
    {updated : Execution String} {id : String} (named : updated.id = id) :
    (records.map fun other => if Name.same other.id id then updated else other).map read =
      rewritten (records.map read) (read updated) := by
  simp only [rewritten, List.map_map]
  apply List.map_congr_left
  intro other _
  simp only [Function.comp_apply, Name.same_text, beq_iff_eq, ids, named]
  split <;> rfl

/-- A column of texts keeps an optional text. -/
theorem Table.optionalColumn_text (place : Nat) (name : Option String) :
    optionalColumn place name = .ok name := by
  cases name <;> rfl

/-- Keywords that are texts come back as they were. -/
theorem Table.keywordsColumn_texts (keywords : List String) :
    keywordsColumn keywords = .ok keywords := by
  induction keywords with
  | nil => rfl
  | cons keyword rest ih =>
    rw [keywordsColumn, ih]
    rfl

/-- A moment in universal time is the same instant. -/
theorem Table.toUtc_instant {moment utc : Time.Moment} (kept : toUtc moment = .ok utc) :
    utc.instant = moment.instant := by
  unfold toUtc at kept
  split at kept
  · rename_i found
    cases kept
    simp only [Time.Moment.toUtc?, Time.Moment.ofClock?] at found
    split at found
    · rename_i within
      cases found
      simp only [Time.Moment.instant, Time.Offset.utc] at within ⊢
      omega
    · cases found
  · cases kept

/-- A deadline in universal time is the same instant. -/
theorem Table.deadlineColumn_instant {deadline kept : Option Time.Moment}
    (written : deadlineColumn deadline = .ok kept) :
    kept.map Time.Moment.instant = deadline.map Time.Moment.instant := by
  cases deadline with
  | none =>
    cases written
    rfl
  | some moment =>
    simp only [deadlineColumn, Computation.bind_eq_ok, Computation.pure_eq_ok] at written
    obtain ⟨utc, found, rfl⟩ := written
    simp only [Option.map_some, toUtc_instant found]

/-- Payloads that are kept as documents echo those that were handed over. -/
theorem Table.payloads_echo {log documents : List (Entry String)}
    (kept : payloads log = .ok documents) : List.Forall₂ Entry.Echoes documents log := by
  induction log generalizing documents with
  | nil =>
    cases kept
    exact .nil
  | cons entry rest ih =>
    simp only [payloads, Computation.bind_eq_ok, Computation.pure_eq_ok] at kept
    obtain ⟨payload, read, others, more, rfl⟩ := kept
    exact .cons ⟨rfl, rfl, rfl, .inr read⟩ (ih more)

/-- A row of the table of logs holds the entry that it is made of. -/
theorem Table.entryRow_eq {id : String} {entry row : Entry String}
    (kept : entryRow id entry = .ok row) : row = entry := by
  simp only [entryRow, optionalColumn_text, Computation.bind_eq_ok, Except.ok.injEq,
    exists_eq_left', requireName, Name.isNull_text] at kept
  obtain ⟨-, -, made⟩ := kept
  cases node : entry.node with
  | none => simp [node, bind, Except.bind, throw, throwThe, MonadExceptOf.throw] at made
  | some name =>
    cases timestamp : entry.timestamp with
    | none =>
      simp [node, timestamp, bind, Except.bind, throw, throwThe, MonadExceptOf.throw] at made
    | some text =>
      simp [node, timestamp, pure, Except.pure] at made
      rw [← made, ← node, ← timestamp]

/-- Rows of the table of logs hold the entries that they are made of. -/
theorem Table.entryRows_eq {id : String} {log rows : List (Entry String)}
    (kept : entryRows id log = .ok rows) : rows = log := by
  induction log generalizing rows with
  | nil =>
    cases kept
    rfl
  | cons entry rest ih =>
    simp only [entryRows, Computation.bind_eq_ok, Computation.pure_eq_ok] at kept
    obtain ⟨row, made, others, more, rfl⟩ := kept
    rw [entryRow_eq made, ih more]

/-- Rows of the table of logs echo the entries that were handed over. -/
theorem Table.logRows_echo {id : String} {log rows : List (Entry String)}
    (kept : logRows id log = .ok rows) : List.Forall₂ Entry.Echoes rows log := by
  simp only [logRows, Computation.bind_eq_ok] at kept
  obtain ⟨documents, made, rowed⟩ := kept
  rw [entryRows_eq rowed]
  exact payloads_echo made

/-- What tables keep of an execution before they look for its row. -/
theorem Table.columns_recorded {shift : Nat} {execution prepared row : Execution String}
    (made : documents execution = .ok prepared) (kept : columns shift prepared = .ok row) :
    Recorded execution (fresh row) := by
  simp only [documents, keywordsColumn_texts, Computation.bind_eq_ok, Computation.pure_eq_ok,
    Except.ok.injEq, exists_eq_left'] at made
  obtain ⟨vars, -, deadline, moved, rfl⟩ := made
  simp only [columns, optionalColumn_text, Name.column, Computation.bind_eq_ok,
    Computation.pure_eq_ok, Except.ok.injEq, exists_eq_left'] at kept
  obtain ⟨version, counted, rfl⟩ := kept
  have same : version = execution.version := by
    unfold Name.integerColumn at counted
    split at counted
    · exact (Except.ok.inj counted).symm
    · cases counted
  have instants := deadlineColumn_instant moved
  refine ⟨rfl, rfl, ?_, rfl, rfl, rfl, instants, rfl, rfl, rfl⟩
  intro counts
  rw [← same] at counts ⊢
  exact if_neg counts

/-- Saving in memory rewrites the record of the id and keeps the log as it is given. -/
theorem Memory.save_records {store left : Memory String} {execution : Execution String}
    (saved : store.save execution = .ok left) :
    ∃ old ∈ store.records.map fresh, old.id = execution.id ∧
      Recorded execution (fresh (kept execution)) ∧
      left.records.map fresh = rewritten (store.records.map fresh) (fresh (kept execution)) := by
  simp only [save, Computation.bind_eq_ok] at saved
  obtain ⟨-, -, saved⟩ := saved
  split at saved
  · simp only [Computation.throw_eq_ok] at saved
  · rename_i record found
    simp only [Computation.pure_eq_ok] at saved
    subst saved
    have named := List.find?_some found
    simp only [Name.same_text, beq_iff_eq] at named
    refine ⟨fresh record, List.mem_map_of_mem (List.mem_of_find?_eq_some found), named, ?_,
      map_rewritten fresh (fun _ => rfl) store.records rfl⟩
    refine ⟨rfl, rfl, ?_, rfl, rfl, rfl, rfl, rfl, rfl, rfl⟩
    exact fun counts => if_neg counts

/-- Saving in tables rewrites the row of the id and adds to its log what goes beyond it. -/
theorem Table.save_records {store left : Table String} {execution : Execution String}
    (saved : store.save execution = .ok left) :
    ∃ old ∈ store.rows.map fresh, ∃ new, old.id = execution.id ∧ Recorded execution new ∧
      (∃ rows, List.Forall₂ Entry.Echoes rows (execution.log.drop old.log.length) ∧
        new.log = old.log ++ rows) ∧
      left.rows.map fresh = rewritten (store.rows.map fresh) new := by
  simp only [save, Name.column, Computation.bind_eq_ok, Except.ok.injEq, exists_eq_left'] at saved
  obtain ⟨prepared, made, row, counted, saved⟩ := saved
  have recorded := columns_recorded made counted
  split at saved
  · simp only [Computation.throw_eq_ok] at saved
  · rename_i stored found
    simp only [Computation.bind_eq_ok, Computation.pure_eq_ok] at saved
    obtain ⟨-, -, rows, added, rfl⟩ := saved
    simp only [find?, Name.isNull_text, Bool.false_eq_true, if_false] at found
    have named := List.find?_some found
    simp only [Name.same_text, beq_iff_eq] at named
    refine ⟨fresh stored, List.mem_map_of_mem (List.mem_of_find?_eq_some found),
      fresh { row with id := execution.id, log := stored.log ++ rows }, named, ?_,
      ⟨rows, logRows_echo added, rfl⟩, map_rewritten fresh (fun _ => rfl) store.rows rfl⟩
    exact ⟨rfl, recorded.flow, recorded.version, recorded.subject, recorded.status, recorded.node,
      recorded.deadline, recorded.keywords, recorded.error, recorded.createdAt⟩

/-- Saving rewrites the record of the id: the new record tells what was handed over, and its log is
the old one with what the store keeps of the entries that were added to it. -/
theorem save_records {store left : Store String} {execution : Execution String}
    (saved : store.save execution = .ok left) :
    left.inTables = store.inTables ∧
    ∃ old ∈ store.records, ∃ new, old.id = execution.id ∧ Recorded execution new ∧
      (∀ handed tail, store.Keeps old.log handed → execution.log = handed ++ tail →
        ∃ rows, store.Keeps rows tail ∧ new.log = old.log ++ rows) ∧
      left.records = rewritten store.records new := by
  cases store with
  | memory store =>
    simp only [save, Computation.map_eq_ok] at saved
    obtain ⟨left, saved, rfl⟩ := saved
    obtain ⟨old, member, named, recorded, others⟩ := Memory.save_records saved
    refine ⟨rfl, old, member, _, named, recorded, ?_, others⟩
    intro handed tail keeps log
    simp only [Keeps, inTables, Bool.false_eq_true, if_false] at keeps ⊢
    exact ⟨tail, rfl, by rw [keeps]; exact log⟩
  | table store =>
    simp only [save, Computation.map_eq_ok] at saved
    obtain ⟨left, saved, rfl⟩ := saved
    obtain ⟨old, member, new, named, recorded, ⟨rows, echo, grown⟩, others⟩ :=
      Table.save_records saved
    refine ⟨rfl, old, member, new, named, recorded, ?_, others⟩
    intro handed tail keeps log
    simp only [Keeps, inTables, if_true] at keeps ⊢
    rw [log, keeps.length_eq, List.drop_left] at echo
    exact ⟨rows, echo, grown⟩

/-- What creating adds in memory. -/
theorem Memory.create_records {store left : Memory String} {execution : Execution String}
    (created : store.create execution = .ok left) :
    execution.id ∉ (store.records.map fresh).map Execution.id ∧
      Recorded execution (fresh (kept execution)) ∧
      left.records.map fresh = store.records.map fresh ++ [fresh (kept execution)] := by
  simp only [create, Computation.bind_eq_ok] at created
  obtain ⟨-, -, created⟩ := created
  split at created
  · simp only [Computation.throw_eq_ok] at created
  · rename_i found
    simp only [Computation.pure_eq_ok] at created
    subst created
    refine ⟨?_, ⟨rfl, rfl, fun counts => if_neg counts, rfl, rfl, rfl, rfl, rfl, rfl, rfl⟩, ?_⟩
    · intro taken
      obtain ⟨_, member, named⟩ := List.mem_map.mp taken
      obtain ⟨record, stored, rfl⟩ := List.mem_map.mp member
      have differs := List.find?_eq_none.mp found record stored
      simp only [Name.same_text, beq_iff_eq] at differs
      exact differs named
    · simp only [List.map_append, List.map_cons, List.map_nil]

/-- What creating adds in tables. -/
theorem Table.create_records {store left : Table String} {execution : Execution String}
    (created : store.create execution = .ok left) :
    execution.id ∉ (store.rows.map fresh).map Execution.id ∧
      ∃ new, Recorded execution new ∧ List.Forall₂ Entry.Echoes new.log execution.log ∧
        left.rows.map fresh = store.rows.map fresh ++ [new] := by
  simp only [create, Name.column, Computation.bind_eq_ok, Except.ok.injEq,
    exists_eq_left'] at created
  obtain ⟨prepared, made, row, counted, -, -, created⟩ := created
  have recorded := columns_recorded made counted
  have same : prepared.id = execution.id ∧ prepared.log = execution.log := by
    simp only [documents, keywordsColumn_texts, Computation.bind_eq_ok, Computation.pure_eq_ok,
      Except.ok.injEq, exists_eq_left'] at made
    obtain ⟨_, -, _, -, rfl⟩ := made
    exact ⟨rfl, rfl⟩
  split at created
  · simp [bind, Except.bind, throw, throwThe, MonadExceptOf.throw] at created
  · rename_i found
    simp only [Computation.bind_eq_ok, Computation.pure_eq_ok] at created
    obtain ⟨log, logged, rfl⟩ := created
    rw [same.1, same.2] at *
    refine ⟨?_, fresh { row with id := execution.id, log }, ?_, logRows_echo logged, ?_⟩
    · intro taken
      obtain ⟨_, member, named⟩ := List.mem_map.mp taken
      obtain ⟨record, stored, rfl⟩ := List.mem_map.mp member
      apply found
      simp only [find?, Name.isNull_text, Bool.false_eq_true, if_false, List.find?_isSome,
        Name.same_text, beq_iff_eq]
      exact ⟨record, stored, named⟩
    · exact ⟨rfl, recorded.flow, recorded.version, recorded.subject, recorded.status,
        recorded.node, recorded.deadline, recorded.keywords, recorded.error, recorded.createdAt⟩
    · simp only [List.map_append, List.map_cons, List.map_nil]

/-- Creating adds a record under a new id, which tells what was handed over. -/
theorem create_records {store left : Store String} {execution : Execution String}
    (created : store.create execution = .ok left) :
    left.inTables = store.inTables ∧ execution.id ∉ store.records.map Execution.id ∧
    ∃ new, Recorded execution new ∧ store.Keeps new.log execution.log ∧
      left.records = store.records ++ [new] := by
  cases store with
  | memory store =>
    simp only [create, Computation.map_eq_ok] at created
    obtain ⟨left, created, rfl⟩ := created
    obtain ⟨unused, recorded, added⟩ := Memory.create_records created
    exact ⟨rfl, unused, _, recorded, rfl, added⟩
  | table store =>
    simp only [create, Computation.map_eq_ok] at created
    obtain ⟨left, created, rfl⟩ := created
    obtain ⟨unused, new, recorded, echo, added⟩ := Table.create_records created
    exact ⟨rfl, unused, new, recorded, echo, added⟩

/-- The records of a store have distinct ids. -/
def Distinct (store : Store String) : Prop := (store.records.map Execution.id).Nodup

/-- Saving keeps the ids distinct. -/
theorem Distinct.save {store left : Store String} {execution : Execution String}
    (distinct : store.Distinct) (saved : store.save execution = .ok left) : left.Distinct := by
  obtain ⟨-, old, listed, new, named, recorded, -, records⟩ := save_records saved
  unfold Distinct at distinct ⊢
  rwa [records, rewritten_ids]

/-- Creating keeps the ids distinct. -/
theorem Distinct.create {store left : Store String} {execution : Execution String}
    (distinct : store.Distinct) (created : store.create execution = .ok left) :
    left.Distinct := by
  obtain ⟨-, unused, new, recorded, -, records⟩ := create_records created
  unfold Distinct at distinct ⊢
  rw [records, List.map_append, List.map_cons, List.map_nil, recorded.id]
  exact List.nodup_append_comm.mp (List.nodup_cons.mpr ⟨unused, distinct⟩)

/-- Records of distinct ids that have one id are one record. -/
theorem Distinct.unique {store : Store String} (distinct : store.Distinct)
    {record other : Execution String} (member : record ∈ store.records)
    (otherMember : other ∈ store.records) (same : record.id = other.id) : record = other :=
  List.inj_on_of_nodup_map distinct member otherMember same

/-- What is read under an id is the first record of that id. -/
theorem get_eq (store : Store String) (id : String) :
    store.get id = match store.records.find? fun record => record.id == id with
      | some record => .ok record
      | none => .error (.executionNotFound id) := by
  cases store with
  | memory store =>
    simp only [get, Memory.get, records, List.find?_map]
    have same : (fun record : Execution String => record.id == id) ∘ Memory.fresh =
        fun record => Name.same record.id id := by
      funext record
      simp only [Function.comp_apply, Name.same_text]
      rfl
    rw [same]
    unfold Memory.find?
    cases store.records.find? fun record => Name.same record.id id <;> rfl
  | table store =>
    simp only [get, Table.get, Name.column, Computation.ok_bind, records, List.find?_map]
    have same : (fun record : Execution String => record.id == id) ∘ Table.fresh =
        fun record => Name.same record.id id := by
      funext record
      simp only [Function.comp_apply, Name.same_text]
      rfl
    rw [same]
    simp only [Table.find?, Name.isNull_text, Bool.false_eq_true, if_false]
    cases store.rows.find? fun record => Name.same record.id id <;> rfl

/-- What is read under an id is a record of that id. -/
theorem mem_of_get {store : Store String} {id : String} {record : Execution String}
    (read : store.get id = .ok record) : record ∈ store.records ∧ record.id = id := by
  rw [get_eq] at read
  split at read
  · rename_i found
    cases read
    exact ⟨List.mem_of_find?_eq_some found, by simpa using List.find?_some found⟩
  · cases read

/-- Under the id of a record the record is read. -/
theorem Distinct.get {store : Store String} (distinct : store.Distinct)
    {record : Execution String} (member : record ∈ store.records) :
    store.get record.id = .ok record := by
  rw [get_eq]
  cases found : store.records.find? fun other => other.id == record.id with
  | some other =>
    have same : other.id = record.id := by simpa using List.find?_some found
    rw [distinct.unique (List.mem_of_find?_eq_some found) member same]
  | none => simpa using List.find?_eq_none.mp found record member

/-- The execution that is found to wait is a record of the subject that waits. -/
theorem findWaiting_spec (store : Store String) (subject : String) :
    ∃ found, store.findWaiting subject = .ok found ∧
      (∀ record, found = some record →
        record ∈ store.records ∧ record.subject = subject ∧ record.status = .waiting) ∧
      (found = none → ∀ record ∈ store.records, record.subject = subject →
        record.status ≠ .waiting) := by
  cases store with
  | memory store =>
    refine ⟨store.findWaiting subject, rfl, ?_, ?_⟩
    · intro record found
      simp only [Memory.findWaiting, Option.map_eq_some_iff] at found
      obtain ⟨stored, search, rfl⟩ := found
      have holds := List.find?_some search
      simp only [Name.same_text, Bool.and_eq_true, beq_iff_eq] at holds
      exact ⟨List.mem_map_of_mem (List.mem_of_find?_eq_some search), holds⟩
    · intro found record member subjects waits
      obtain ⟨stored, storedMember, rfl⟩ := List.mem_map.mp member
      simp only [Memory.findWaiting, Option.map_eq_none_iff] at found
      have fails := List.find?_eq_none.mp found stored storedMember
      simp only [Name.same_text, Bool.and_eq_true, beq_iff_eq] at fails
      exact fails ⟨subjects, waits⟩
  | table store =>
    refine ⟨_, rfl, ?_, ?_⟩
    · intro record found
      obtain ⟨stored, search, rfl⟩ := Option.map_eq_some_iff.mp found
      have sorted := List.mem_of_mem_head? search
      rw [Table.byUpdate, List.mem_mergeSort, List.mem_filter] at sorted
      simp only [Name.isNull_text, Name.same_text, Bool.not_false, Bool.true_and,
        Bool.and_eq_true, beq_iff_eq] at sorted
      exact ⟨List.mem_map_of_mem sorted.1, sorted.2⟩
    · intro found record member subjects waits
      obtain ⟨stored, storedMember, rfl⟩ := List.mem_map.mp member
      rw [Option.map_eq_none_iff, List.head?_eq_none_iff, Table.byUpdate] at found
      have listed : stored ∈ (store.rows.filter fun row =>
          !Name.isNull subject && Name.same row.subject subject
            && row.status == .waiting).mergeSort
              fun a b => decide (b.updatedAt.text ≤ a.updatedAt.text) := by
        rw [List.mem_mergeSort, List.mem_filter]
        simp only [Name.isNull_text, Name.same_text, Bool.not_false, Bool.true_and,
          Bool.and_eq_true, beq_iff_eq]
        exact ⟨storedMember, subjects, waits⟩
      rw [found] at listed
      cases listed

/-- Rewriting the record of an id leaves what is found under other ids. -/
theorem find_rewritten_of_ne {records : List (Execution String)} {record : Execution String}
    {id : String} (apart : record.id ≠ id) :
    (rewritten records record).find? (fun other => other.id == id) =
      records.find? fun other => other.id == id := by
  induction records with
  | nil => rfl
  | cons first rest ih =>
    rw [rewritten, List.map_cons, List.find?_cons, List.find?_cons, ← rewritten, ih]
    by_cases same : first.id = record.id
    · have differs : (first.id == id) = false := by simp [same, apart]
      have newDiffers : (record.id == id) = false := by simp [apart]
      simp only [if_pos same, differs, newDiffers]
    · simp only [if_neg same]

/-- Under the id of a record that was rewritten the new record is found. -/
theorem find_rewritten_self {records : List (Execution String)} {record old : Execution String}
    (member : old ∈ records) (named : old.id = record.id) :
    (rewritten records record).find? (fun other => other.id == record.id) = some record := by
  induction records with
  | nil => cases member
  | cons first rest ih =>
    rw [rewritten, List.map_cons, List.find?_cons]
    by_cases same : first.id = record.id
    · simp only [if_pos same, beq_self_eq_true]
    · have later : old ∈ rest := by
        rcases List.mem_cons.mp member with rfl | later
        · exact absurd named same
        · exact later
      have differs : (first.id == record.id) = false := by simp [same]
      simp only [if_neg same, differs]
      exact ih later

variable {store left : Store String} {execution record : Execution String} {id : String}

/-- Saving an execution leaves what is read under other ids. -/
theorem get_save_of_ne (saved : store.save execution = .ok left) (apart : execution.id ≠ id) :
    left.get id = store.get id := by
  obtain ⟨-, -, -, new, -, recorded, -, records⟩ := save_records saved
  rw [← recorded.id] at apart
  rw [get_eq, get_eq, records, find_rewritten_of_ne apart]

/-- Under the id of an execution that was saved its record is read. -/
theorem get_save_self (saved : store.save execution = .ok left) :
    ∃ new, left.get execution.id = .ok new ∧ Recorded execution new := by
  obtain ⟨-, old, member, new, named, recorded, -, records⟩ := save_records saved
  refine ⟨new, ?_, recorded⟩
  rw [get_eq, records, ← recorded.id, find_rewritten_self member (named.trans recorded.id.symm)]

/-- What could be read can be read after an execution was saved. -/
theorem readable_save (saved : store.save execution = .ok left)
    (readable : ∃ record, store.get id = .ok record) : ∃ record, left.get id = .ok record := by
  by_cases same : execution.id = id
  · obtain ⟨new, read, -⟩ := get_save_self saved
    exact ⟨new, same ▸ read⟩
  · rwa [get_save_of_ne saved same]

/-- Creating an execution leaves what is read. -/
theorem get_create (created : store.create execution = .ok left)
    (read : store.get id = .ok record) : left.get id = .ok record := by
  obtain ⟨-, -, new, -, -, records⟩ := create_records created
  rw [get_eq] at read ⊢
  rw [records, List.find?_append]
  cases found : store.records.find? fun record => record.id == id with
  | some other =>
    rw [found] at read
    exact read
  | none =>
    rw [found] at read
    cases read

/-- Under the id of an execution that was created its record is read. -/
theorem get_create_self (created : store.create execution = .ok left) :
    ∃ new, left.get execution.id = .ok new ∧ Recorded execution new := by
  obtain ⟨-, unused, new, recorded, -, records⟩ := create_records created
  have none : store.records.find? (fun record => record.id == execution.id) = none := by
    rw [List.find?_eq_none]
    intro record member
    have apart : record.id ≠ execution.id := fun same =>
      unused (List.mem_map.mpr ⟨record, member, same⟩)
    simpa using apart
  refine ⟨new, ?_, recorded⟩
  rw [get_eq, records, List.find?_append, none]
  simp [recorded.id]

end Store

end Parley
