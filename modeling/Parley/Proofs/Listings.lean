import Parley.Proofs.Agreement
import Parley.Proofs.Clocks

/-!
# The order of what is due

A store lists each execution that is due once, and no other. Tables keep deadlines in universal
time, and so they list the earliest first. A store in memory keeps deadlines as they were given and
sorts their texts. Those begin with what the clocks show, so the order is that of the readings, and
it is the order of the instants only as long as all the clocks have one offset.
-/

namespace Parley

open Parley.Computation Time

namespace Execution

/-- If two executions have deadlines, the time of the first deadline is not after that of the
second. -/
def Precedes (time : Moment → Int) (a b : Execution String) : Prop :=
  ∀ first, a.deadline = some first → ∀ second, b.deadline = some second → time first ≤ time second

/-- The deadlines of executions are told on clocks of one offset. -/
def Synchronous (executions : List (Execution String)) : Prop :=
  ∀ a ∈ executions, ∀ b ∈ executions, ∀ first, a.deadline = some first →
    ∀ second, b.deadline = some second → first.offset = second.offset

/-- On clocks of one offset the order of the readings is that of the instants. -/
theorem Synchronous.precedes {executions : List (Execution String)}
    (synchronous : Synchronous executions)
    (readings : executions.Pairwise (Precedes fun moment => moment.clock)) :
    executions.Pairwise (Precedes Moment.instant) := by
  refine readings.imp_of_mem fun {a b} member otherMember order first until? second otherUntil => ?_
  have offsets := synchronous a member b otherMember first until? second otherUntil
  have clocks := order first until? second otherUntil
  rw [Moment.instant, Moment.instant, offsets]
  exact Int.sub_le_sub_right clocks _

end Execution

namespace Store

open Execution

/-- What requests leave of a store, one after the other. -/
def performAll (store : Store String) : List Request → Store String
  | [] => store
  | request :: rest => performAll (store.perform request).2 rest

/-- A store that was new and then got requests. -/
def Filled (store : Store String) : Prop :=
  ∃ base : Store String, base.Unused ∧ ∃ requests, store = base.performAll requests

/-- Records have distinct ids, and tables hold deadlines in universal time. -/
structure Regular (store : Store String) : Prop where
  /-- No two records have one id. -/
  distinct : store.Distinct
  /-- Deadlines in tables are in universal time. -/
  universal : store.Universal

/-- An unused store is regular. -/
theorem Unused.regular {store : Store String} (unused : store.Unused) : store.Regular where
  distinct := by
    rw [Distinct, unused.records]
    exact .nil
  universal _ := unused.dated _

variable {store : Store String}

/-- A store that is opened again is what it was. -/
theorem reopened_eq (store : Store String) : reopened store = store := by
  cases store <;> rfl

/-- What a write leaves is regular if every store that it may leave is. -/
theorem Regular.written (regular : store.Regular) {outcome : Except Failure (Store String)}
    (kept : ∀ left, outcome = .ok left → left.Regular) : (written store outcome).2.Regular := by
  cases outcome with
  | ok left => exact kept left rfl
  | error => exact regular

/-- A request leaves a regular store. -/
theorem Regular.perform (regular : store.Regular) (request : Request) :
    (store.perform request).2.Regular := by
  cases request with
  | create execution =>
    exact regular.written fun left created =>
      ⟨regular.distinct.create created, regular.universal.create created⟩
  | save execution =>
    exact regular.written fun left saved =>
      ⟨regular.distinct.save saved, regular.universal.save saved⟩
  | reopen =>
    rw [Store.perform, reopened_eq]
    exact regular
  | get | findWaiting | list | listDue => exact regular

/-- Requests leave a regular store. -/
theorem Regular.performAll (regular : store.Regular) (requests : List Request) :
    (store.performAll requests).Regular := by
  induction requests generalizing store with
  | nil => exact regular
  | cons request rest ih => exact ih (regular.perform request)

/-- A store that was new is regular after all requests. -/
theorem Filled.regular (filled : store.Filled) : store.Regular := by
  obtain ⟨base, unused, requests, rfl⟩ := filled
  exact unused.regular.performAll requests

/-- A list sorted like the entries of records is a list of those records. -/
theorem records_of_entries {records : List (Execution String)} {sorted : List (String × String)}
    (perm : sorted.Perm (records.map dueEntry)) :
    ∃ due : List (Execution String), due.Perm records ∧ sorted = due.map dueEntry := by
  have entries : List.Forall₂ (fun entry record => entry = dueEntry record)
      (records.map dueEntry) records :=
    List.forall₂_map_left_iff.mpr (List.forall₂_same.mpr fun _ _ => rfl)
  obtain ⟨due, told, listed⟩ := List.perm_comp_forall₂ perm entries
  exact ⟨due, listed, (List.forall₂_eq_eq_eq ▸ List.forall₂_map_right_iff.mpr told)⟩

/-- In the order of their entries, executions are in the order of the readings of the clocks. -/
theorem precedes_of_entries {a b : Execution String} (ordered : a.dueEntry.1 ≤ b.dueEntry.1) :
    a.Precedes (fun moment => moment.clock) b := by
  intro first until? second otherUntil
  simp only [dueEntry, until?, otherUntil, Option.map_some, Option.getD_some] at ordered
  exact Int.ofNat_le.mpr (Moment.clock_le_of_textWith ordered)

/-- In the order of the texts of fixed width, rows are in the order of the readings. -/
theorem precedes_of_columns {a b : Execution String}
    (ordered : Table.deadlineText a ≤ Table.deadlineText b) :
    a.Precedes (fun moment => moment.clock) b := by
  intro first until? second otherUntil
  simp only [Table.deadlineText, until?, otherUntil] at ordered
  exact Int.ofNat_le.mpr (Moment.clock_le_of_textWith ordered)

/-- A store that can tell what is due lists that by the readings of the clocks. -/
theorem Regular.lists (regular : store.Regular) {now : Moment} (compares : store.Compares now) :
    ∃ due : List (Execution String), store.listDue now = .ok (due.map Execution.id) ∧
      due.Perm (store.records.filter (isDue now)) ∧
      due.Pairwise (Precedes fun moment => moment.clock) := by
  cases store with
  | memory store =>
    have comparable : ∀ record ∈ store.records, record.Comparable now :=
      fun record member => compares.comparable (Memory.fresh record) (List.mem_map_of_mem member)
    obtain ⟨sorted, listed, perm, order⟩ := Memory.listDue_spec.2 comparable
    have entries : (store.records.filter (isDue now)).map dueEntry =
        ((Store.memory store).records.filter (isDue now)).map dueEntry := by
      rw [records, List.filter_map, List.map_map]
      rfl
    rw [entries] at perm
    obtain ⟨due, found, rfl⟩ := records_of_entries perm
    refine ⟨due, ?_, found, (List.pairwise_map.mp order).imp precedes_of_entries⟩
    rw [Store.listDue, listed, List.map_map]
    rfl
  | table store =>
    obtain ⟨utc, brought⟩ := Option.isSome_iff_exists.mp (compares.universal rfl)
    have deadlines : ∀ row ∈ store.rows, ∀ deadline, row.deadline = some deadline →
        deadline.IsUtc :=
      fun row member => regular.universal rfl (Table.fresh row) (List.mem_map_of_mem member)
    have sorted := Table.byDeadline_sorts (store.rows.filter (isDue now))
    refine ⟨(Table.byDeadline (store.rows.filter (isDue now))).map Table.fresh, ?_, ?_, ?_⟩
    · rw [Store.listDue, Table.listDue_eq brought deadlines, List.map_map]
      rfl
    · rw [records, List.filter_map]
      exact (List.mergeSort_perm _ _).map _
    · exact List.pairwise_map.mpr (sorted.imp precedes_of_columns)

/-- All that is due by tables is on clocks of universal time. -/
theorem Universal.synchronous (universal : store.Universal) (tables : store.inTables = true)
    {due : List (Execution String)} (listed : due ⊆ store.records) : Synchronous due := by
  intro a member b otherMember first until? second otherUntil
  have utc := universal tables a (listed member) first until?
  have otherUtc := universal tables b (listed otherMember) second otherUntil
  exact utc.trans otherUtc.symm

/-- One in the afternoon of a day in universal time. -/
def afternoon : Moment := ⟨739616 * 86400000000 + 13 * 3600000000, by decide, some .utc⟩

/-- Two in the afternoon of that day on a clock that is five hours ahead. -/
def easternAfternoon : Moment :=
  ⟨739616 * 86400000000 + 14 * 3600000000, by decide, some ⟨5 * 3600000000, by decide, by decide⟩⟩

/-- The midnight after that day in universal time. -/
def midnight : Moment := ⟨739617 * 86400000000, by decide, some .utc⟩

/-- The first moment of the calendar on a clock that is two hours ahead. -/
def beginning : Moment :=
  { (default : Moment) with offset := some ⟨2 * 3600000000, by decide, by decide⟩ }

/-- A run that waits until the afternoon in universal time. -/
def afternoonRun : Execution String :=
  { waitingRun with id := "late", deadline := some afternoon }

/-- A run that waits until the afternoon in the east, which comes before. -/
def easternRun : Execution String :=
  { waitingRun with id := "early", deadline := some easternAfternoon }

/-- Both runs are added. -/
def afternoonRequests : List Request := [.create afternoonRun, .create easternRun]

end Store

end Parley
