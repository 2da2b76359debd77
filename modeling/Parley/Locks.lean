import Parley.Value.Key

/-!
# Locks

A registry of re-entrant locks by key. A key has a slot only while it is held, and the slot
counts its holds.
-/

namespace Parley

/-- The held keys with the counts of their holds, in the order in which they were first held. -/
structure Locks (κ : Type) where
  /-- The slots. -/
  slots : List (κ × Nat)
deriving DecidableEq, Repr, Inhabited

namespace Locks

/-- The registry in which nothing is held. -/
def empty {κ : Type} : Locks κ := ⟨[]⟩

/-- The slots with one more hold of a key. -/
def enterSlots {κ : Type} [BEq κ] (key : κ) : List (κ × Nat) → List (κ × Nat)
  | [] => [(key, 1)]
  | (held, users) :: rest =>
    if held == key then (held, users + 1) :: rest else (held, users) :: enterSlots key rest

/-- The slots with one hold of a key less; the last hold takes the slot away. -/
def leaveSlots {κ : Type} [BEq κ] (key : κ) : List (κ × Nat) → List (κ × Nat)
  | [] => []
  | (held, users) :: rest =>
    if held == key then (if users ≤ 1 then rest else (held, users - 1) :: rest)
    else (held, users) :: leaveSlots key rest

/-- Takes a hold of a key. -/
def enter {κ : Type} [BEq κ] (locks : Locks κ) (key : κ) : Locks κ := ⟨enterSlots key locks.slots⟩

/-- Gives a hold of a key back. -/
def leave {κ : Type} [BEq κ] (locks : Locks κ) (key : κ) : Locks κ := ⟨leaveSlots key locks.slots⟩

/-- The number of held keys. -/
def size {κ : Type} (locks : Locks κ) : Nat := locks.slots.length

/-- A registry under its name. -/
def shown {κ : Type} (name : Value) (locks : Locks κ) : String :=
  "KeyedLocks(" ++ name.shown ++ ", keys=" ++ toString locks.size ++ ")"

end Locks

end Parley
