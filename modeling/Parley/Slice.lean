/-!
# Slices

The start of a list up to a bound. A bound below zero counts from the end.
-/

namespace Parley.Slice

/-- The first items of a list up to a bound; below zero, all but so many at the end. -/
def first {α : Type} (bound : Option Int) (items : List α) : List α :=
  match bound with
  | none => items
  | some (.ofNat n) => items.take n
  | some (.negSucc n) => items.take (items.length - (n + 1))

/-- What stands at the start of an ordered list comes before what is left out. -/
theorem before_of_left_out {α : Type} {before : α → α → Prop} {items : List α}
    (ordered : items.Pairwise before) {bound : Nat} {early other : α}
    (kept : early ∈ items.take bound) (member : other ∈ items) (absent : other ∉ items.take bound) :
    before early other := by
  rw [← List.take_append_drop bound items] at ordered member
  have late := (List.mem_append.mp member).resolve_left absent
  exact (List.pairwise_append.mp ordered).2.2 early kept other late

end Parley.Slice
