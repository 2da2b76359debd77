import Parley.Proofs.Listings

/-!
# The order of what was updated

A store lists executions by the texts of the times at which they were last updated, in the opposite
order. The texts are of different widths, since only a fraction that is not zero is written; but on
clocks of universal time they are in the order of the instants. So what is listed is what was
updated most recently, and what lies beyond the bound was not updated later.
-/

namespace Parley

open Parley.Computation Time

namespace Store

open Execution

/-- The first execution was updated no earlier than the second. -/
def Newer (a b : Execution String) : Prop := b.updatedAt.instant ≤ a.updatedAt.instant

/-- The records of a status, or all. -/
def ofStatus (store : Store String) (status : Option Status) : List (Execution String) :=
  store.records.filter fun record => status.all (· == record.status)

/-- Rows are the records that are read of them, with the most recently updated first. -/
theorem byUpdate_fresh (rows : List (Execution String)) :
    (Table.byUpdate rows).map Table.fresh = Table.byUpdate (rows.map Table.fresh) :=
  List.map_mergeSort fun _ _ _ _ => rfl

variable {store : Store String} {status : Option Status} {limit : Nat}

/-- Tables refuse a bound that is none of their integers. -/
theorem list_refuses (tables : store.inTables = true) (beyond : 9223372036854775808 ≤ limit) :
    ∃ message, store.list status (.int limit) = .error (.tooLarge message) := by
  cases store with
  | memory => cases tables
  | table store =>
    have column (place : Nat) : ∃ message,
        Table.limitColumn place (.int limit) = .error (.tooLarge message) :=
      ⟨_, if_neg (by omega)⟩
    obtain ⟨message, refused⟩ := column (if status.isSome then 2 else 1)
    exact ⟨message, by rw [Store.list, refused]; rfl⟩

/-- A store lists the start of the records of a status, in the order of their last updates. -/
theorem list_eq (fits : store.inTables = true → limit < 9223372036854775808) :
    ∃ rows : List (Execution String), rows.Perm (store.ofStatus status) ∧
      store.list status (.int limit) = .ok ((Table.byUpdate rows).take limit) := by
  have read (rows : List (Execution String)) :
      (rows.map Table.fresh).filter (fun record => status.all (· == record.status)) =
        (rows.filter fun record => status.all (· == record.status)).map Table.fresh :=
    List.filter_map
  cases store with
  | memory store =>
    refine ⟨_, .rfl, ?_⟩
    change _ = Except.ok ((Table.byUpdate ((store.records.map Table.fresh).filter _)).take limit)
    rw [read, ← byUpdate_fresh, ← List.map_take]
    rfl
  | table store =>
    have column (place : Nat) : Table.limitColumn place (.int limit) = .ok limit :=
      if_pos ⟨by omega, by have bound := fits rfl; omega⟩
    refine ⟨(status.elim store.rows fun wanted => Table.byDeadline
      (store.rows.filter fun row => row.status == wanted)).map Table.fresh, ?_, ?_⟩
    · change (List.map _ _).Perm ((store.rows.map Table.fresh).filter _)
      rw [read]
      refine List.Perm.map _ ?_
      cases status with
      | none => rw [Option.elim_none]; simp
      | some wanted =>
        have same : (fun record : Execution String => (some wanted).all (· == record.status)) =
            fun record => record.status == wanted := by
          funext record
          rw [Option.all_some, BEq.comm]
        rw [same]
        exact List.mergeSort_perm _ _
    · rw [← byUpdate_fresh, ← List.map_take]
      cases status <;> (simp only [Store.list, column, ok_bind]; rfl)

/-- The start of records in the order of their last updates holds the newest of them. -/
theorem newest_taken {records : List (Execution String)}
    (universal : ∀ record ∈ records, record.updatedAt.IsUtc) (limit : Nat) :
    let listed := (Table.byUpdate records).take limit
    listed.Subperm records ∧ listed.length = min limit records.length ∧ listed.Pairwise Newer ∧
      ∀ record ∈ records, record ∉ listed → ∀ other ∈ listed, Newer other record := by
  intro listed
  have perm : (Table.byUpdate records).Perm records := List.mergeSort_perm _ _
  have sorted : (Table.byUpdate records).Pairwise Newer := by
    refine (Table.byUpdate_sorts records).imp_of_mem fun {a b} member otherMember order => ?_
    have utc := universal a (perm.subset member)
    have otherUtc := universal b (perm.subset otherMember)
    exact (otherUtc.textWith_le_iff utc "T" false).mp order
  refine ⟨(List.take_sublist limit _).subperm.trans perm.subperm, ?_, sorted.take, ?_⟩
  · rw [List.length_take, perm.length_eq]
  · intro record member absent other early
    exact Slice.before_of_left_out sorted early (perm.symm.subset member) absent

/-- A store that was new lists the newest records of a status, or of all, if its records were
updated on clocks of universal time: as many as there are, up to the bound, with distinct ids, the
most recently updated first, and none that is left out was updated later. Only a bound that is none
of the integers of a table is refused by tables. -/
theorem Filled.lists_newest (filled : store.Filled)
    (universal : ∀ record ∈ store.records, record.updatedAt.IsUtc) (status : Option Status)
    (limit : Nat) :
    (store.inTables = true → 9223372036854775808 ≤ limit →
      ∃ message, store.list status (.int limit) = .error (.tooLarge message)) ∧
    ((store.inTables = true → limit < 9223372036854775808) →
      ∃ listed, store.list status (.int limit) = .ok listed ∧
        listed.length = min limit (store.ofStatus status).length ∧
        (listed.map Execution.id).Nodup ∧ listed ⊆ store.ofStatus status ∧
        listed.Pairwise Newer ∧
        ∀ record ∈ store.ofStatus status, record ∉ listed →
          ∀ other ∈ listed, Newer other record) := by
  refine ⟨list_refuses, fun fits => ?_⟩
  obtain ⟨rows, perm, listed⟩ := list_eq fits
  have utc : ∀ record ∈ rows, record.updatedAt.IsUtc := fun record member =>
    universal record (List.mem_of_mem_filter (perm.subset member))
  obtain ⟨within, count, sorted, newest⟩ := newest_taken utc limit
  have sub := within.trans perm.subperm
  refine ⟨_, listed, by rw [count, perm.length_eq], ?_, sub.subset, sorted,
    fun record member => newest record (perm.symm.subset member)⟩
  obtain ⟨kept, same, among⟩ := sub.trans List.filter_sublist.subperm
  exact (same.map Execution.id).nodup_iff.mp (filled.regular.distinct.sublist (among.map _))

/-- Half a second past one in the afternoon. -/
def afternoonPast : Moment :=
  ⟨739616 * 86400000000 + 13 * 3600000000 + 500000, by decide, some .utc⟩

/-- A run that was updated in the afternoon, one that was half a second later, and one at midnight
that is completed. -/
def updateRequests : List Request := [
  .create { waitingRun with id := "whole", updatedAt := afternoon },
  .create { waitingRun with id := "half", updatedAt := afternoonPast },
  .create { waitingRun with id := "done", status := .completed, updatedAt := midnight }]

/-- Of the two runs that wait, a table that is to list one lists the one of the half second. -/
theorem fraction_listed_first :
    let store := (Store.table .empty).performAll updateRequests
    store.Filled ∧ (∀ record ∈ store.records, record.updatedAt.IsUtc) ∧
      ((store.ofStatus (some .waiting)).map fun record => (record.id, record.updatedAt)) =
        [("whole", afternoon), ("half", afternoonPast)] ∧
      ∃ listed, store.list (some .waiting) (.int 1) = .ok listed ∧
        listed.map Execution.id = ["half"] := by
  intro store
  have filled : store.Filled := ⟨.table .empty, .table, updateRequests, rfl⟩
  have universal : ∀ record ∈ store.records, record.updatedAt.offset = some .utc := by
    decide +kernel
  have waiting : ((store.ofStatus (some .waiting)).map fun record =>
      (record.id, record.updatedAt)) = [("whole", afternoon), ("half", afternoonPast)] := by
    decide +kernel
  refine ⟨filled, universal, waiting, ?_⟩
  obtain ⟨listed, told, count, -, sub, -, newest⟩ :=
    (filled.lists_newest universal (some .waiting) 1).2 fun _ => by decide
  refine ⟨listed, told, ?_⟩
  have two : (store.ofStatus (some .waiting)).length = 2 := by
    rw [← List.length_map, waiting]
    rfl
  rw [two] at count
  obtain ⟨record, rfl⟩ := List.length_eq_one_iff.mp count
  have among : (record.id, record.updatedAt) ∈ [("whole", afternoon), ("half", afternoonPast)] :=
    waiting ▸ List.mem_map_of_mem (sub List.mem_cons_self)
  have later : ("half", afternoonPast) ∈
      (store.ofStatus (some .waiting)).map fun record => (record.id, record.updatedAt) := by
    rw [waiting]
    decide
  obtain ⟨half, member, told⟩ := List.mem_map.mp later
  obtain ⟨named, updated⟩ := Prod.mk.inj told
  rw [List.map_singleton, List.singleton_inj]
  by_contra differ
  have absent : half ∉ [record] := by
    rw [List.mem_singleton]
    rintro rfl
    exact differ named
  have order := newest half member absent record List.mem_cons_self
  have whole : record.id = "whole" ∧ record.updatedAt = afternoon := by
    simpa [differ] using among
  rw [Newer, updated, whole.2] at order
  exact absurd order (by decide)

/-- Tables without rows do not answer for a bound that is none of their integers. -/
theorem longest_list_refused :
    (Store.table .empty : Store String).Filled ∧
      (∀ record ∈ (Store.table .empty : Store String).records, record.updatedAt.IsUtc) ∧
      ∀ listed, (Store.table .empty : Store String).list none (.int 9223372036854775808) ≠
        .ok listed := by
  refine ⟨⟨.table .empty, .table, [], rfl⟩, by simp [records, Table.empty], fun listed told => ?_⟩
  cases told

end Store

end Parley
