import Mathlib.Data.Finset.Card
import Parley.Locks

/-!
# Holds of a thread

A thread takes holds and gives the latest one back, whether it is done or fails. The slots of a
registry are the books of the holds that are open: each held key has one slot, which counts its
holds, and no other key has one.
-/

namespace Parley.Locks

variable {κ : Type} [DecidableEq κ]

/-- The slots of a key with so many holds: one that counts them, or none if there are none. -/
def slotsFor (key : κ) (holds : Nat) : List (κ × Nat) := if holds = 0 then [] else [(key, holds)]

variable {slots : List (κ × Nat)} {key other : κ} {holds : Nat}

/-- A hold that is taken is counted with the holds of its key. -/
theorem filter_enterSlots_self
    (booked : slots.filter (fun slot => slot.1 == key) = slotsFor key holds) :
    (enterSlots key slots).filter (fun slot => slot.1 == key) = slotsFor key (holds + 1) := by
  induction slots with
  | nil =>
    have none : holds = 0 := by
      by_contra some
      simp [slotsFor, some] at booked
    simp [enterSlots, slotsFor, none]
  | cons slot rest ih =>
    obtain ⟨held, users⟩ := slot
    rw [enterSlots]
    by_cases same : held = key
    · subst same
      have some : holds ≠ 0 := by
        rintro rfl
        simp [slotsFor] at booked
      simp only [slotsFor, some, List.filter_cons_of_pos, beq_self_eq_true, if_false,
        List.cons.injEq, Prod.mk.injEq, true_and] at booked
      simp [slotsFor, booked.1, booked.2]
    · simp only [same, beq_iff_eq, not_false_eq_true, List.filter_cons_of_neg, if_false] at booked ⊢
      exact ih booked

/-- A hold that is taken leaves the slots of other keys. -/
theorem filter_enterSlots_ne (differ : key ≠ other) (slots : List (κ × Nat)) :
    (enterSlots key slots).filter (fun slot => slot.1 == other) =
      slots.filter fun slot => slot.1 == other := by
  induction slots with
  | nil => simp [enterSlots, differ]
  | cons slot rest ih =>
    rw [enterSlots]
    split
    · rename_i same
      rw [beq_iff_eq] at same
      simp [same, differ]
    · rw [List.filter_cons, List.filter_cons, ih]

/-- A hold that is given back is no longer counted. -/
theorem filter_leaveSlots_self
    (booked : slots.filter (fun slot => slot.1 == key) = slotsFor key (holds + 1)) :
    (leaveSlots key slots).filter (fun slot => slot.1 == key) = slotsFor key holds := by
  induction slots with
  | nil => simp [slotsFor] at booked
  | cons slot rest ih =>
    obtain ⟨held, users⟩ := slot
    rw [leaveSlots]
    by_cases same : held = key
    · subst same
      simp only [slotsFor, Nat.add_one_ne_zero, List.filter_cons_of_pos, beq_self_eq_true, if_false,
        List.cons.injEq, Prod.mk.injEq, true_and] at booked
      obtain ⟨rfl, none⟩ := booked
      by_cases last : holds = 0
      · simp [slotsFor, last, none]
      · simp [slotsFor, last, none]
    · simp only [same, beq_iff_eq, not_false_eq_true, List.filter_cons_of_neg, if_false] at booked ⊢
      exact ih booked

/-- A hold that is given back leaves the slots of other keys. -/
theorem filter_leaveSlots_ne (differ : key ≠ other) (slots : List (κ × Nat)) :
    (leaveSlots key slots).filter (fun slot => slot.1 == other) =
      slots.filter fun slot => slot.1 == other := by
  induction slots with
  | nil => rfl
  | cons slot rest ih =>
    rw [leaveSlots]
    split
    · rename_i same
      rw [beq_iff_eq] at same
      split <;> simp [same, differ]
    · rw [List.filter_cons, List.filter_cons, ih]

/-- What a thread does with a registry. -/
inductive Turn (κ : Type) where
  /-- It takes a hold of a key. -/
  | enter (key : κ)
  /-- It gives the latest open hold back. -/
  | leave
  /-- It fails, which gives the latest open holds back one by one, until so many are open. -/
  | fail (kept : Nat)

/-- A thread with the registry that it alone uses. -/
structure Thread (κ : Type) where
  /-- The registry. -/
  locks : Locks κ
  /-- The keys of the open holds, the latest first. -/
  held : List κ

namespace Thread

/-- A thread that has taken no hold of a new registry. -/
def start : Thread κ := ⟨.empty, []⟩

/-- The thread after its latest open hold is given back. -/
def leave (thread : Thread κ) : Thread κ :=
  match thread.held with
  | [] => thread
  | key :: rest => ⟨thread.locks.leave key, rest⟩

/-- The thread after one turn. -/
def turn (thread : Thread κ) : Turn κ → Thread κ
  | .enter key => ⟨thread.locks.enter key, key :: thread.held⟩
  | .leave => thread.leave
  | .fail kept => leave^[thread.held.length - kept] thread

/-- The thread after turns, one after the other. -/
def run (turns : List (Turn κ)) : Thread κ := turns.foldl turn start

/-- Each key has the slots for its open holds. -/
def Booked (thread : Thread κ) : Prop := ∀ key,
  thread.locks.slots.filter (fun slot => slot.1 == key) = slotsFor key (thread.held.count key)

variable {thread : Thread κ}

/-- The books are right after a hold is taken. -/
theorem Booked.enter (booked : thread.Booked) (key : κ) :
    Booked ⟨thread.locks.enter key, key :: thread.held⟩ := by
  intro other
  by_cases same : key = other
  · subst same
    rw [List.count_cons_self]
    exact filter_enterSlots_self (booked key)
  · rw [List.count_cons_of_ne same]
    exact (filter_enterSlots_ne same _).trans (booked other)

/-- The books are right after the latest hold is given back. -/
theorem Booked.leave (booked : thread.Booked) : thread.leave.Booked := by
  obtain ⟨locks, held⟩ := thread
  cases held with
  | nil => exact booked
  | cons key rest =>
    intro other
    have books := booked other
    by_cases same : key = other
    · subst same
      rw [List.count_cons_self] at books
      exact filter_leaveSlots_self books
    · rw [List.count_cons_of_ne same] at books
      exact (filter_leaveSlots_ne same _).trans books

/-- The books are right after each turn. -/
theorem Booked.turn (booked : thread.Booked) (turn : Turn κ) : (thread.turn turn).Booked := by
  cases turn with
  | enter key => exact booked.enter key
  | leave => exact booked.leave
  | fail kept =>
    exact Function.Iterate.rec Booked booked (fun _ books => books.leave) _

/-- The books are right after all turns. -/
theorem booked_run (turns : List (Turn κ)) : (run turns).Booked := by
  have kept (thread : Thread κ) (booked : thread.Booked) :
      (turns.foldl Thread.turn thread).Booked := by
    induction turns generalizing thread with
    | nil => exact booked
    | cons turn rest ih => exact ih _ (booked.turn turn)
  exact kept start fun _ => rfl

/-- A key is held if and only if it has a slot. -/
theorem Booked.mem_held (booked : thread.Booked) (key : κ) :
    key ∈ thread.held ↔ key ∈ thread.locks.slots.map Prod.fst := by
  have unslotted : thread.locks.slots.filter (fun slot => slot.1 == key) = [] ↔
      thread.held.count key = 0 := by
    rw [booked key, slotsFor]
    split
    · rename_i none
      simp [none]
    · rename_i some
      simp [some]
  rw [← not_iff_not, ← List.count_eq_zero, ← unslotted, List.filter_eq_nil_iff]
  simp only [beq_iff_eq, List.mem_map, not_exists, not_and]

/-- No key has two slots. -/
theorem Booked.nodup (booked : thread.Booked) : (thread.locks.slots.map Prod.fst).Nodup := by
  rw [List.nodup_iff_count_le_one]
  intro key
  rw [List.count, List.countP_map, List.countP_eq_length_filter]
  change ((thread.locks.slots.filter fun slot => slot.1 == key).length ≤ 1)
  rw [booked key, slotsFor]
  split <;> simp

/-- Whatever holds a thread takes and gives back, in whatever order and however it fails between, a
key with open holds has one slot, which counts them, and no other key has a slot. So the registry is
as large as there are keys that are held, and it is empty if and only if no hold is open. -/
theorem run_books (turns : List (Turn κ)) :
    (∀ key ∈ (run turns).held, (run turns).locks.slots.filter (fun slot => slot.1 == key) =
      [(key, (run turns).held.count key)]) ∧
    (∀ slot ∈ (run turns).locks.slots, slot.1 ∈ (run turns).held) ∧
    (run turns).locks.size = (run turns).held.toFinset.card ∧
    ((run turns).locks = empty ↔ (run turns).held = []) := by
  have booked := booked_run turns
  generalize run turns = thread at booked ⊢
  have slots : ∀ slot ∈ thread.locks.slots, slot.1 ∈ thread.held := fun slot member =>
    (booked.mem_held slot.1).mpr (List.mem_map_of_mem member)
  refine ⟨fun key member => ?_, slots, ?_, ?_⟩
  · rw [booked key, slotsFor, if_neg (List.count_pos_iff.mpr member).ne']
  · rw [size, ← List.length_map Prod.fst, ← List.toFinset_card_of_nodup booked.nodup]
    congr 1
    ext key
    rw [List.mem_toFinset, List.mem_toFinset, booked.mem_held key]
  · obtain ⟨⟨all⟩, held⟩ := thread
    dsimp only at slots ⊢
    rw [empty, Locks.mk.injEq, List.eq_nil_iff_forall_not_mem, List.eq_nil_iff_forall_not_mem]
    constructor
    · intro none key member
      obtain ⟨slot, slotted, -⟩ := List.mem_map.mp ((booked.mem_held key).mp member)
      exact none slot slotted
    · exact fun none slot member => none slot.1 (slots slot member)

/-- A key that is held twice keeps its slot when one hold is given back, and a failure takes the
slots of the holds that it gives back. -/
example : (run [.enter "a", .enter "b", .enter "a", .leave, .enter "b", .fail 1]).locks.slots =
    [("a", 1)] := by
  decide

end Thread

end Parley.Locks
