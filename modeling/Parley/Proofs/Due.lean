import Parley.Proofs.Records
import Parley.Proofs.Timestamps

/-!
# Waits that are over

What a store lists when it is asked for the waits whose deadlines lie at or before a moment. A store
in memory compares the moments themselves, and sorts the ids by the texts of the deadlines. A store
in tables brings all moments to universal time and compares their texts, which comes to the same.
-/

namespace Parley

open Parley.Computation Time

namespace Execution

/-- Whether an execution waits for no longer than until a moment. -/
def isDue {ν : Type} (now : Moment) (execution : Execution ν) : Bool :=
  execution.status == .waiting &&
    execution.deadline.any fun deadline => decide (deadline.instant ≤ now.instant)

/-- An execution is due if it waits until a deadline at or before the moment. -/
theorem isDue_iff {ν : Type} {now : Moment} {execution : Execution ν} :
    execution.isDue now = true ↔ execution.status = .waiting ∧
      ∃ deadline, execution.deadline = some deadline ∧ deadline.instant ≤ now.instant := by
  simp only [isDue, Bool.and_eq_true, beq_iff_eq, Option.any_eq_true, decide_eq_true_eq]

/-- What is due at a moment is due at the same moment in universal time. -/
theorem isDue_toUtc {ν : Type} {now utc : Moment} (brought : now.toUtc? = some utc)
    (execution : Execution ν) : execution.isDue utc = execution.isDue now := by
  have instants : utc.instant = now.instant :=
    Store.Table.toUtc_instant (by rw [Store.Table.toUtc, brought])
  rw [isDue, isDue, instants]

/-- The text of the deadline of an execution, with its id. -/
def dueEntry (execution : Execution String) : String × String :=
  ((execution.deadline.map Moment.text).getD "", execution.id)

/-- If an execution waits with a deadline, the deadline can be compared with a moment. -/
def Comparable (now : Moment) (execution : Execution String) : Prop :=
  execution.status = .waiting → ∀ deadline, execution.deadline = some deadline →
    deadline.comparable now = true

end Execution

namespace Store

namespace Memory

/-- Texts as ids have an order, in which the earlier text of a deadline comes first. -/
theorem dueBefore_text (a b : String × String) : ∃ before, dueBefore a b = .ok before ∧
    (before = true → a.1 ≤ b.1) ∧ (before = false → b.1 ≤ a.1) := by
  unfold dueBefore
  split
  · rename_i same
    exact ⟨decide (a.2 < b.2), rfl, fun _ => same.le, fun _ => same.ge⟩
  · refine ⟨decide (a.1 < b.1), rfl, ?_, ?_⟩
    · exact fun less => (of_decide_eq_true less).le
    · exact fun least => not_lt.mp (of_decide_eq_false least)

/-- Inserting an entry adds it to its place. -/
theorem insertDue_sorts (entry : String × String) {sorted : List (String × String)}
    (order : sorted.Pairwise fun a b => a.1 ≤ b.1) :
    ∃ inserted, insertDue entry sorted = .ok inserted ∧ inserted.Perm (entry :: sorted) ∧
      inserted.Pairwise fun a b => a.1 ≤ b.1 := by
  induction sorted with
  | nil => exact ⟨[entry], rfl, .refl _, List.pairwise_singleton _ _⟩
  | cons other rest ih =>
    obtain ⟨first, others⟩ := List.pairwise_cons.mp order
    obtain ⟨before, found, earlier, later⟩ := dueBefore_text entry other
    obtain ⟨inserted, put, perm, ordered⟩ := ih others
    rw [insertDue, found, ok_bind]
    cases before with
    | true =>
      refine ⟨_, rfl, .refl _, List.pairwise_cons.mpr ⟨?_, order⟩⟩
      refine List.forall_mem_cons.mpr ⟨earlier rfl, fun item member => ?_⟩
      exact (earlier rfl).trans (first item member)
    | false =>
      rw [if_neg Bool.false_ne_true, put]
      refine ⟨_, rfl, (perm.cons other).trans (.swap entry other rest),
        List.pairwise_cons.mpr ⟨fun item member => ?_, ordered⟩⟩
      rcases List.mem_cons.mp (perm.subset member) with rfl | listed
      · exact later rfl
      · exact first item listed

/-- Entries are sorted by the texts of the deadlines. -/
theorem sortDue_sorts (entries : List (String × String)) :
    ∃ sorted, sortDue entries = .ok sorted ∧ sorted.Perm entries ∧
      sorted.Pairwise fun a b => a.1 ≤ b.1 := by
  have folds (before : List (String × String)) (order : before.Pairwise fun a b => a.1 ≤ b.1) :
      ∃ sorted, entries.foldlM (fun sorted entry => insertDue entry sorted) before = .ok sorted ∧
        sorted.Perm (before ++ entries) ∧ sorted.Pairwise fun a b => a.1 ≤ b.1 := by
    induction entries generalizing before with
    | nil => exact ⟨before, rfl, by simp, order⟩
    | cons entry rest ih =>
      obtain ⟨inserted, found, perm, ordered⟩ := insertDue_sorts entry order
      obtain ⟨sorted, later, whole, ends⟩ := ih inserted ordered
      refine ⟨sorted, by rw [List.foldlM_cons, found]; exact later, whole.trans ?_, ends⟩
      exact (perm.append_right rest).trans List.perm_middle.symm
  exact folds [] .nil

/-- The entries of those that are due can be had if the deadlines can be compared. -/
theorem dueEntries_iff {now : Moment} {records : List (Execution String)}
    {entries : List (String × String)} :
    dueEntries now records = .ok entries ↔ (∀ record ∈ records, record.Comparable now) ∧
      entries = (records.filter (Execution.isDue now)).map Execution.dueEntry := by
  induction records generalizing entries with
  | nil => simp [dueEntries, eq_comm]
  | cons record rest ih =>
    rw [List.filter_cons, List.forall_mem_cons]
    unfold dueEntries
    split
    · rename_i deadline waits until?
      have due : record.isDue now = decide (deadline.instant ≤ now.instant) := by
        simp [Execution.isDue, waits, until?]
      have compares : record.Comparable now ↔ deadline.comparable now = true := by
        simp [Execution.Comparable, waits, until?]
      rw [due, compares, notAfter]
      split
      · rename_i comparable
        rw [ok_bind]
        split
        · have entry : (deadline.text, record.id) = record.dueEntry := by
            simp [Execution.dueEntry, until?]
          simp only [bind_eq_ok, pure_eq_ok, ih, List.map_cons, entry]
          constructor
          · rintro ⟨others, ⟨compared, rfl⟩, rfl⟩
            exact ⟨⟨comparable, compared⟩, rfl⟩
          · rintro ⟨⟨-, compared⟩, rfl⟩
            exact ⟨_, ⟨compared, rfl⟩, rfl⟩
        · rw [ih]
          exact and_congr_left fun _ => (and_iff_right comparable).symm
      · rename_i apart
        simp [bind, Except.bind, apart]
    · rename_i resting
      have undue : ¬ record.isDue now = true := by
        intro due
        simp only [Execution.isDue, Bool.and_eq_true, beq_iff_eq, Option.any_eq_true] at due
        obtain ⟨waits, deadline, until?, -⟩ := due
        exact resting deadline waits until?
      have compares : record.Comparable now :=
        fun waits deadline until? => absurd until? (resting deadline waits)
      rw [if_neg undue, ih]
      exact and_congr_left fun _ => (and_iff_right compares).symm

/-- A store in memory lists the executions that are due, if their deadlines can be compared, by the
texts of their deadlines. -/
theorem listDue_spec {store : Memory String} {now : Moment} :
    (∀ ids, store.listDue now = .ok ids → ∀ record ∈ store.records, record.Comparable now) ∧
    ((∀ record ∈ store.records, record.Comparable now) →
      ∃ sorted : List (String × String), store.listDue now = .ok (sorted.map Prod.snd) ∧
        sorted.Perm ((store.records.filter (Execution.isDue now)).map Execution.dueEntry) ∧
        sorted.Pairwise fun a b => a.1 ≤ b.1) := by
  constructor
  · intro ids listed
    obtain ⟨entries, due, -⟩ := bind_eq_ok.mp listed
    exact (dueEntries_iff.mp due).1
  · intro comparable
    obtain ⟨sorted, sorts, perm, order⟩ :=
      sortDue_sorts ((store.records.filter (Execution.isDue now)).map Execution.dueEntry)
    refine ⟨sorted, ?_, perm, order⟩
    rw [listDue, dueEntries_iff.mpr ⟨comparable, rfl⟩, ok_bind, sorts, ok_bind]
    rfl

end Memory

namespace Table

/-- The rows that are due have their deadlines in universal time, and so by their texts. -/
theorem due_eq {row : Execution String} {now : Moment} (utc : now.IsUtc)
    (deadlines : ∀ deadline, row.deadline = some deadline → deadline.IsUtc) :
    (row.status == .waiting && row.deadline.isSome && decide (deadlineText row ≤ now.fullText)) =
      row.isDue now := by
  unfold Execution.isDue deadlineText
  cases found : row.deadline with
  | none => simp
  | some deadline =>
    have order : deadline.fullText ≤ now.fullText ↔ deadline.instant ≤ now.instant :=
      (deadlines deadline found).textWith_le_iff utc "T" true
    simp [order]

/-- A store in tables whose deadlines are in universal time lists the executions that are due by
their deadlines. -/
theorem listDue_eq {store : Table String} {now utc : Moment} (brought : now.toUtc? = some utc)
    (deadlines : ∀ row ∈ store.rows, ∀ deadline, row.deadline = some deadline → deadline.IsUtc) :
    store.listDue now =
      .ok ((byDeadline (store.rows.filter (Execution.isDue now))).map Execution.id) := by
  have filters := List.filter_congr fun row member =>
    (due_eq (Moment.isUtc_of_toUtc brought) (deadlines row member)).trans
      (Execution.isDue_toUtc brought row)
  rw [listDue, toUtc, brought, ok_bind, filters]
  rfl

/-- Rows with the earliest deadline first are in the order of the texts of fixed width. -/
theorem byDeadline_sorts (rows : List (Execution String)) :
    (byDeadline rows).Pairwise fun a b => deadlineText a ≤ deadlineText b := by
  refine (List.pairwise_mergeSort ?_ ?_ rows).imp of_decide_eq_true
  · intro a b c first second
    exact decide_eq_true ((of_decide_eq_true first).trans (of_decide_eq_true second))
  · intro a b
    simpa using le_total (deadlineText a) (deadlineText b)

/-- Rows with the most recently updated first are in the opposite order of the texts. -/
theorem byUpdate_sorts (rows : List (Execution String)) :
    (byUpdate rows).Pairwise fun a b => b.updatedAt.text ≤ a.updatedAt.text := by
  refine (List.pairwise_mergeSort ?_ ?_ rows).imp of_decide_eq_true
  · intro a b c first second
    exact decide_eq_true ((of_decide_eq_true second).trans (of_decide_eq_true first))
  · intro a b
    simpa using le_total b.updatedAt.text a.updatedAt.text

end Table

/-- The ids that a store lists are those of some of its records, each listed once. -/
theorem listDue_sublist {store : Store String} {now : Moment} {ids : List String}
    (listed : store.listDue now = .ok ids) :
    ∃ due : List (Execution String),
      due.Sublist store.records ∧ ids.Perm (due.map Execution.id) := by
  cases store with
  | memory store =>
    obtain ⟨compared, found⟩ := @Memory.listDue_spec store now
    obtain ⟨sorted, sorts, perm, -⟩ := found (compared ids listed)
    have same : store.listDue now = .ok ids := listed
    rw [sorts] at same
    refine ⟨(store.records.filter (Execution.isDue now)).map Memory.fresh, ?_, ?_⟩
    · exact List.filter_sublist.map _
    · rw [← Except.ok.inj same]
      refine (perm.map Prod.snd).trans (.of_eq ?_)
      rw [List.map_map, List.map_map]
      rfl
  | table store =>
    obtain ⟨utc, -, sorts⟩ := bind_eq_ok.mp listed
    rw [← pure_eq_ok.mp sorts]
    refine ⟨(store.rows.filter fun row => row.status == .waiting && row.deadline.isSome &&
      decide (Table.deadlineText row ≤ utc.fullText)).map Table.fresh, ?_, ?_⟩
    · exact List.filter_sublist.map _
    · rw [List.map_map]
      exact (List.mergeSort_perm _ _).map _

/-- A store whose records have distinct ids lists no id twice. -/
theorem Distinct.listDue {store : Store String} (distinct : store.Distinct) {now : Moment}
    {ids : List String} (listed : store.listDue now = .ok ids) : ids.Nodup := by
  obtain ⟨due, sub, perm⟩ := listDue_sublist listed
  exact perm.nodup_iff.mpr (distinct.sublist (sub.map _))

end Store

end Parley
