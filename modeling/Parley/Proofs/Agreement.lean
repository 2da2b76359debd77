import Parley.Command.Storage
import Parley.Proofs.Due
import Parley.Proofs.Native

/-!
# One contract for both stores

A store in memory and a store in tables that are asked the same give the same answers. Both hold the
same records after each request, if what is written is what both keep as it is, if logs only grow,
and if no two records share a time by which a store sorts them. The order in which a store lists
records is then the only one there is, however it sorts them.
-/

namespace Parley.Store

open Parley.Computation Time

/-- What a store can be asked. -/
inductive Request where
  /-- To add an execution. -/
  | create (execution : Execution String)
  /-- To write an execution in the place of the one with its id. -/
  | save (execution : Execution String)
  /-- For the execution of an id. -/
  | get (id : String)
  /-- For the execution of a subject that waits. -/
  | findWaiting (subject : String)
  /-- For the executions of a status, or all, up to a bound. -/
  | list (status : Option Status) (limit : Nat)
  /-- For the ids of the executions that are due. -/
  | listDue (now : Moment)
  /-- To be closed, and to be opened again. -/
  | reopen

/-- What a store answers. -/
inductive Answer where
  /-- That something was done. -/
  | done
  /-- An execution. -/
  | record (execution : Execution String)
  /-- An execution, if one was found. -/
  | found (execution : Option (Execution String))
  /-- Executions. -/
  | records (executions : List (Execution String))
  /-- Ids. -/
  | ids (ids : List String)
  /-- That a request is refused. -/
  | refused (failure : Failure)

/-- The answer to a request that writes to a store, and the store that it leaves. -/
def written (store : Store String) : Except Failure (Store String) → Answer × Store String
  | .ok left => (.done, left)
  | .error failure => (.refused failure, store)

/-- The answer to a request that reads. -/
def told {α : Type} (answer : α → Answer) : Except Failure α → Answer
  | .ok value => answer value
  | .error failure => .refused failure

/-- A store after it was closed and opened again: tables are what their file holds. -/
def reopened : Store String → Store String
  | .memory store => .memory store
  | .table store => .table ((Command.tablesIn? (some (.tables store))).getD .empty)

/-- A store that answers a request, and what it is after that. -/
def perform (store : Store String) : Request → Answer × Store String
  | .create execution => written store (store.create execution)
  | .save execution => written store (store.save execution)
  | .get id => (told .record (store.get id), store)
  | .findWaiting subject => (told .found (store.findWaiting subject), store)
  | .list status limit => (told .records (store.list status (.int limit)), store)
  | .listDue now => (told .ids (store.listDue now), store)
  | .reopen => (.done, reopened store)

/-- The answers of a store to requests, one after the other. -/
def answers (store : Store String) : List Request → List Answer
  | [] => []
  | request :: rest => (store.perform request).1 :: answers (store.perform request).2 rest

/-- Among records, at most one waits for each subject, and none share a time by which they are
sorted. -/
structure Tidy (records : List (Execution String)) : Prop where
  /-- Those that wait have distinct subjects. -/
  waiting : ((records.filter fun record => record.status == .waiting).map
    Execution.subject).Nodup
  /-- They were last written at distinct times. -/
  updatedAt : (records.map Execution.updatedAt).Nodup
  /-- Their deadlines are distinct. -/
  deadline : (records.filterMap Execution.deadline).Nodup

/-- A request that keeps to the contract of stores: an execution is created once, its log only
grows, and all that is written is kept as it is. -/
def Request.Proper (store : Store String) : Request → Prop
  | .create execution => execution.WellTyped ∧ execution.id ∉ store.records.map Execution.id
  | .save execution => execution.WellTyped ∧
    ∀ record ∈ store.records, record.id = execution.id → record.log <+: execution.log
  | .listDue now => now.offset.isSome = true ∧ now.toUtc?.isSome = true
  | _ => True

/-- Requests that keep to the contract, each asked of what the ones before it left; records stay
tidy all the time. -/
def Orderly (store : Store String) : List Request → Prop
  | [] => True
  | request :: rest => request.Proper store ∧ Tidy (store.perform request).2.records ∧
    Orderly (store.perform request).2 rest

/-- A request whose bound, if it has one, fits the integers of a table. -/
def Request.Bounded : Request → Prop
  | .list _ limit => limit < 9223372036854775808
  | _ => True

/-- Records that stores of both kinds keep as they are. -/
structure Sound (records : List (Execution String)) : Prop where
  /-- Each is kept as it is. -/
  typed : ∀ record ∈ records, record.WellTyped
  /-- They are tidy. -/
  tidy : Tidy records

/-- Records are tidy as they are if they are tidy as they are read. -/
theorem Tidy.of_fresh {records : List (Execution String)}
    (tidy : Tidy (records.map Memory.fresh)) : Tidy records := by
  obtain ⟨waiting, updatedAt, deadline⟩ := tidy
  rw [List.filter_map, List.map_map] at waiting
  rw [List.map_map] at updatedAt
  rw [List.filterMap_map] at deadline
  exact ⟨waiting, updatedAt, deadline⟩

section

variable {records : List (Execution String)}

/-- No record is found under an id that is not taken. -/
theorem find_unused {id : String} (unused : id ∉ records.map Execution.id) :
    (records.find? fun record => Name.same record.id id) = none := by
  rw [List.find?_eq_none]
  intro record member same
  rw [Name.same_text, beq_iff_eq] at same
  exact unused (List.mem_map.mpr ⟨record, member, same⟩)

/-- Stores of both kinds add a new execution as it is. -/
theorem create_agrees {execution : Execution String} (typed : execution.WellTyped)
    (unused : execution.id ∉ records.map Execution.id) :
    (Store.memory ⟨records⟩).create execution = .ok (.memory ⟨records ++ [execution]⟩) ∧
      (Store.table ⟨records⟩).create execution = .ok (.table ⟨records ++ [execution]⟩) := by
  constructor
  · simp only [create, Memory.create, Memory.find?, find_unused unused, Memory.kept_eq typed]
    rfl
  · simp only [create, Table.create, Table.documents_eq typed, ok_bind, Name.column,
      Table.columns_eq typed, Table.checkRow_eq, Table.find?, Name.isNull_text,
      Bool.false_eq_true, if_false, find_unused unused, Option.isSome_none,
      Table.logRows_eq typed.log execution.id]
    rfl

/-- Stores of both kinds refuse to write an execution that they do not hold. -/
theorem save_unknown {execution : Execution String} (typed : execution.WellTyped)
    (unused : execution.id ∉ records.map Execution.id) :
    (Store.memory ⟨records⟩).save execution = .error (.executionNotFound execution.id) ∧
      (Store.table ⟨records⟩).save execution = .error (.executionNotFound execution.id) := by
  constructor
  · simp only [save, Memory.save, Memory.find?, find_unused unused]
    rfl
  · simp only [save, Table.save, Table.documents_eq typed, ok_bind, Name.column,
      Table.columns_eq typed, Table.find?, Name.isNull_text, Bool.false_eq_true, if_false,
      find_unused unused]
    rfl

/-- Stores of both kinds write an execution as it is in the place of the one with its id, if its
log goes on from there: tables hold the start of it, and add the rest. -/
theorem save_agrees {execution : Execution String} (typed : execution.WellTyped)
    (taken : execution.id ∈ records.map Execution.id)
    (grows : ∀ record ∈ records, record.id = execution.id → record.log <+: execution.log) :
    (Store.memory ⟨records⟩).save execution = .ok (.memory ⟨rewritten records execution⟩) ∧
      (Store.table ⟨records⟩).save execution = .ok (.table ⟨rewritten records execution⟩) := by
  have rewrites : (records.map fun record =>
      if Name.same record.id execution.id then execution else record) =
        rewritten records execution := by
    simp only [rewritten, Name.same_text, beq_iff_eq]
  obtain ⟨stored, found⟩ : ∃ stored, (records.find? fun record =>
      Name.same record.id execution.id) = some stored := by
    obtain ⟨record, member, named⟩ := List.mem_map.mp taken
    rw [← Option.isSome_iff_exists, List.find?_isSome]
    exact ⟨record, member, by rw [Name.same_text, beq_iff_eq, named]⟩
  have named := List.find?_some found
  rw [Name.same_text, beq_iff_eq] at named
  constructor
  · simp only [save, Memory.save, Memory.find?, found, Memory.kept_eq typed, rewrites]
    rfl
  · have whole : stored.log ++ execution.log.drop stored.log.length = execution.log := by
      obtain ⟨added, log⟩ := grows stored (List.mem_of_find?_eq_some found) named
      rw [← log]
      exact congrArg (stored.log ++ ·) List.drop_left
    have fits : ∀ entry ∈ execution.log.drop stored.log.length, entry.WellTyped :=
      fun entry listed => typed.log entry (List.mem_of_mem_drop listed)
    simp only [save, Table.save, Table.documents_eq typed, ok_bind, Name.column,
      Table.columns_eq typed, Table.find?, Name.isNull_text, Bool.false_eq_true, if_false,
      found, Table.checkRow_eq, Table.logRows_eq fits execution.id, whole]
    rw [← rewrites]
    rfl

/-- If those that wait have distinct subjects, stores of both kinds find the same one. -/
theorem findWaiting_agrees (tidy : Tidy records) (subject : String) :
    (Store.memory ⟨records⟩).findWaiting subject =
      (Store.table ⟨records⟩).findWaiting subject := by
  have few (waiting : List (Execution String)) (all : ∀ record ∈ waiting, record.subject = subject)
      (distinct : (waiting.map Execution.subject).Nodup) : Table.byUpdate waiting = waiting := by
    match waiting with
    | [] => exact List.mergeSort_nil
    | [record] => exact List.mergeSort_singleton record
    | record :: other :: rest =>
      obtain ⟨apart, -⟩ := List.nodup_cons.mp distinct
      refine absurd ?_ apart
      rw [all record (by simp), ← all other (by simp)]
      exact List.mem_cons_self
  have same : (fun row : Execution String =>
      !Name.isNull subject && Name.same row.subject subject && row.status == .waiting) =
      fun row => Name.same row.subject subject && row.status == .waiting := by
    funext row
    rfl
  have sub : (records.filter fun row =>
      Name.same row.subject subject && row.status == .waiting).Sublist
        (records.filter fun row => row.status == .waiting) := by
    rw [← List.filter_filter]
    exact List.filter_sublist
  have alone := few (records.filter fun row =>
      Name.same row.subject subject && row.status == .waiting) (fun record listed => ?_)
    (tidy.waiting.sublist (sub.map _))
  · simp only [findWaiting, Memory.findWaiting, Table.findWaiting, Name.column, ok_bind, same,
      alone, List.head?_filter]
    rfl
  · have holds := (List.mem_filter.mp listed).2
    simp only [Name.same_text, Bool.and_eq_true, beq_iff_eq] at holds
    exact holds.1

/-- The time when an execution was last written tells it from others, and so does its text. -/
theorem Sound.updateText_inj (sound : Sound records) {record other : Execution String}
    (member : record ∈ records) (otherMember : other ∈ records)
    (same : record.updatedAt.text = other.updatedAt.text) : record = other :=
  List.inj_on_of_nodup_map sound.tidy.updatedAt member otherMember
    ((sound.typed record member).updatedAt.eq_of_textWith (sound.typed other otherMember).updatedAt
      same)

/-- However rows are listed that were last written at distinct times, they are sorted into one
order. -/
theorem Sound.byUpdate_perm (sound : Sound records) {rows others : List (Execution String)}
    (sub : rows ⊆ records) (perm : rows.Perm others) :
    Table.byUpdate rows = Table.byUpdate others := by
  refine List.Perm.eq_of_pairwise (fun a b first second later earlier => ?_)
    (Table.byUpdate_sorts rows) (Table.byUpdate_sorts others) ?_
  · have member := sub ((List.mergeSort_perm _ _).subset first)
    have otherMember := sub (perm.symm.subset ((List.mergeSort_perm _ _).subset second))
    exact sound.updateText_inj member otherMember (le_antisymm earlier later)
  · exact (List.mergeSort_perm _ _).trans (perm.trans (List.mergeSort_perm _ _).symm)

/-- Up to a bound that fits a table, stores of both kinds list the same. -/
theorem Sound.list_agrees (sound : Sound records) (status : Option Status) {limit : Nat}
    (bounded : limit < 9223372036854775808) :
    (Store.memory ⟨records⟩).list status (.int limit) =
      (Store.table ⟨records⟩).list status (.int limit) := by
  have column (place : Nat) : Table.limitColumn place (.int limit) = .ok limit :=
    if_pos (by omega)
  have sorted : ((Store.table ⟨records⟩).list status (.int limit)) =
      .ok ((Table.bounded limit (Table.byUpdate (records.filter fun record =>
        status.all (· == record.status)))).map Table.fresh) := by
    cases status with
    | none =>
      simp only [list, column, ok_bind, Table.list, Option.all_none, List.filter_true]
      rfl
    | some status =>
      have same : (fun record : Execution String => (some status).all (· == record.status)) =
          fun record => record.status == status := by
        funext record
        rw [Option.all_some]
        exact Bool.eq_iff_iff.mpr (by rw [beq_iff_eq, beq_iff_eq, eq_comm])
      have reordered : Table.byUpdate (Table.byDeadline (records.filter fun record =>
          record.status == status)) =
          Table.byUpdate (records.filter fun record => record.status == status) :=
        sound.byUpdate_perm (fun record listed =>
          List.mem_of_mem_filter ((List.mergeSort_perm _ _).subset listed))
          (List.mergeSort_perm _ _)
      simp only [list, column, ok_bind, Table.list, same, reordered]
      rfl
  rw [sorted]
  rfl

/-- What is due has a deadline in universal time. -/
theorem Sound.due (sound : Sound records) {now : Moment} {row : Execution String}
    (listed : row ∈ records.filter (Execution.isDue now)) :
    ∃ deadline, row.deadline = some deadline ∧ deadline.IsUtc := by
  obtain ⟨member, holds⟩ := List.mem_filter.mp listed
  obtain ⟨-, deadline, until?, -⟩ := Execution.isDue_iff.mp holds
  exact ⟨deadline, until?, (sound.typed row member).deadline deadline until?⟩

/-- The texts of the deadlines of what is due are distinct. -/
theorem Sound.dueTexts_nodup (sound : Sound records) (now : Moment) :
    (((records.filter (Execution.isDue now)).map Execution.dueEntry).map Prod.fst).Nodup := by
  rw [List.map_map, List.Nodup, List.pairwise_map]
  have apart := List.pairwise_filterMap.mp sound.tidy.deadline
  refine (apart.sublist List.filter_sublist).imp_of_mem fun {row other} first second differ => ?_
  obtain ⟨deadline, until?, universal⟩ := sound.due first
  obtain ⟨later, otherUntil, otherUniversal⟩ := sound.due second
  intro same
  simp only [Function.comp_apply, Execution.dueEntry, until?, otherUntil, Option.map_some,
    Option.getD_some] at same
  exact differ deadline until? later otherUntil (universal.eq_of_textWith otherUniversal same)

/-- Sorted by the texts of fixed width, what is due is sorted by the texts of the deadlines. -/
theorem Sound.byDeadline_sorts (sound : Sound records) (now : Moment) :
    ((Table.byDeadline (records.filter (Execution.isDue now))).map Execution.dueEntry).Pairwise
      fun a b => a.1 ≤ b.1 := by
  rw [List.pairwise_map]
  refine (Table.byDeadline_sorts _).imp_of_mem fun {row other} first second order => ?_
  obtain ⟨deadline, until?, universal⟩ := sound.due ((List.mergeSort_perm _ _).subset first)
  obtain ⟨later, otherUntil, otherUniversal⟩ :=
    sound.due ((List.mergeSort_perm _ _).subset second)
  simp only [Table.deadlineText, until?, otherUntil] at order
  simp only [Execution.dueEntry, until?, otherUntil, Option.map_some, Option.getD_some]
  have instants := (universal.textWith_le_iff otherUniversal "T" true).mp order
  exact (universal.textWith_le_iff otherUniversal "T" false).mpr instants

/-- If deadlines are distinct and in universal time, stores of both kinds list what is due in the
same order. -/
theorem Sound.listDue_agrees (sound : Sound records) {now utc : Moment}
    (known : now.offset.isSome = true) (brought : now.toUtc? = some utc) :
    (Store.memory ⟨records⟩).listDue now = (Store.table ⟨records⟩).listDue now := by
  have comparable : ∀ record ∈ records, record.Comparable now := by
    intro record member _ deadline until?
    have universal := (sound.typed record member).deadline deadline until?
    rw [Moment.comparable, known, universal]
    rfl
  obtain ⟨sorted, listed, perm, order⟩ :=
    (@Memory.listDue_spec ⟨records⟩ now).2 comparable
  have same : sorted = (Table.byDeadline (records.filter (Execution.isDue now))).map
      Execution.dueEntry := by
    have perms := (List.mergeSort_perm (records.filter (Execution.isDue now)) fun a b =>
      decide (Table.deadlineText a ≤ Table.deadlineText b)).map Execution.dueEntry
    refine List.Perm.eq_of_pairwise (fun a b first second earlier later => ?_) order
      (sound.byDeadline_sorts now) (perm.trans perms.symm)
    exact List.inj_on_of_nodup_map (sound.dueTexts_nodup now) (perm.subset first)
      (perms.subset second) (le_antisymm earlier later)
  have tables := @Table.listDue_eq ⟨records⟩ now utc brought
    fun row member => (sound.typed row member).deadline
  calc (Store.memory ⟨records⟩).listDue now
      = .ok (sorted.map Prod.snd) := listed
    _ = .ok ((Table.byDeadline (records.filter (Execution.isDue now))).map Execution.id) := by
        rw [same, List.map_map]
        rfl
    _ = (Store.table ⟨records⟩).listDue now := tables.symm

/-- Stores of both kinds that hold the same records give the same answer, and hold the same records
after it. -/
theorem Sound.perform_agrees (sound : Sound records) {request : Request}
    (proper : request.Proper (.memory ⟨records⟩)) (bounded : request.Bounded)
    (tidy : Tidy ((Store.memory ⟨records⟩).perform request).2.records) :
    ∃ answer left, (Store.memory ⟨records⟩).perform request = (answer, .memory ⟨left⟩) ∧
      (Store.table ⟨records⟩).perform request = (answer, .table ⟨left⟩) ∧ Sound left := by
  have ids : (Store.memory ⟨records⟩).records.map Execution.id = records.map Execution.id := by
    rw [Store.records, List.map_map]
    rfl
  cases request with
  | create execution =>
    obtain ⟨typed, unused⟩ := proper
    rw [ids] at unused
    obtain ⟨memory, table⟩ := create_agrees typed unused
    rw [perform, memory] at tidy
    refine ⟨.done, records ++ [execution], by rw [perform, memory, written],
      by rw [perform, table, written], ?_, tidy.of_fresh⟩
    intro record listed
    rcases List.mem_append.mp listed with member | new
    · exact sound.typed record member
    · rwa [List.mem_singleton.mp new]
  | save execution =>
    obtain ⟨typed, grows⟩ := proper
    by_cases taken : execution.id ∈ records.map Execution.id
    · obtain ⟨memory, table⟩ := save_agrees typed taken
        fun record member => grows (Memory.fresh record) (List.mem_map_of_mem member)
      rw [perform, memory] at tidy
      refine ⟨.done, rewritten records execution, by rw [perform, memory, written],
        by rw [perform, table, written], ?_, tidy.of_fresh⟩
      intro record listed
      rcases mem_rewritten listed with new | ⟨member, -⟩
      · rwa [new]
      · exact sound.typed record member
    · obtain ⟨memory, table⟩ := save_unknown typed taken
      exact ⟨.refused (.executionNotFound execution.id), records,
        by rw [perform, memory, written], by rw [perform, table, written], sound⟩
  | get id =>
    refine ⟨_, records, rfl, ?_, sound⟩
    rw [perform, get_eq, get_eq]
    rfl
  | findWaiting subject =>
    refine ⟨_, records, rfl, ?_, sound⟩
    rw [perform, ← findWaiting_agrees sound.tidy]
  | list status limit =>
    refine ⟨_, records, rfl, ?_, sound⟩
    rw [perform, ← sound.list_agrees status bounded]
  | listDue now =>
    obtain ⟨known, universal⟩ := proper
    obtain ⟨utc, brought⟩ := Option.isSome_iff_exists.mp universal
    refine ⟨_, records, rfl, ?_, sound⟩
    rw [perform, ← sound.listDue_agrees known brought]
  | reopen => exact ⟨.done, records, rfl, rfl, sound⟩

/-- Stores of both kinds that hold the same records give the same answers to requests that keep to
the contract. -/
theorem Sound.answers_agree (sound : Sound records) {requests : List Request}
    (orderly : Orderly (.memory ⟨records⟩) requests)
    (bounded : ∀ request ∈ requests, request.Bounded) :
    (Store.memory ⟨records⟩).answers requests = (Store.table ⟨records⟩).answers requests := by
  induction requests generalizing records with
  | nil => rfl
  | cons request rest ih =>
    obtain ⟨proper, tidy, later⟩ := orderly
    obtain ⟨fits, others⟩ := List.forall_mem_cons.mp bounded
    obtain ⟨answer, left, memory, table, kept⟩ := sound.perform_agrees proper fits tidy
    rw [memory] at later
    rw [answers, answers, memory, table, ih kept later others]

end

/-- An execution that waits for an answer. -/
def waitingRun : Execution String where
  id := "first"
  flow := "greeting"
  version := 1
  subject := "5511"
  status := .waiting
  node := some "ask"
  vars := .empty (.text "first")
  deadline := some ⟨90000000, by decide, some .utc⟩
  keywords := ["yes"]
  log := [⟨some "ask", .suspended, some "12:00", none⟩]
  error := none
  createdAt := { (default : Moment) with offset := some .utc }
  updatedAt := ⟨30500000, by decide, some .utc⟩

/-- The execution after the answer came. -/
def answeredRun : Execution String :=
  { waitingRun with
    status := .completed
    node := none
    deadline := none
    keywords := []
    log := waitingRun.log ++ [⟨some "ask", .resumed, some "12:01",
      some (.dict [(.text "edge", .text "yes")])⟩]
    updatedAt := ⟨60000000, by decide, some .utc⟩ }

/-- The execution is added, found and listed as due, and then written with a longer log. -/
def greetingRequests : List Request :=
  [.create waitingRun, .findWaiting "5511", .listDue ⟨90000000, by decide, some .utc⟩, .reopen,
    .save answeredRun, .get "first", .list (some .completed) 10]

end Parley.Store
