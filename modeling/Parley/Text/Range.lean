/-!
# Ranges of code points

A character property is a table of ascending, disjoint ranges of code points, both ends
included. Membership is a search through the table, and the search stops at the first range
that begins after the code point.
-/

namespace Parley.Text

/-- Whether a code point lies in one of the ranges of an ascending table. -/
def inRanges : List (Nat × Nat) → Nat → Bool
  | [], _ => false
  | (first, last) :: rest, code =>
    if code < first then false
    else if code ≤ last then true
    else inRanges rest code

/-- Membership names a range of the table that holds the code point. -/
theorem exists_range_of_inRanges {table : List (Nat × Nat)} {code : Nat}
    (found : inRanges table code = true) :
    ∃ range ∈ table, range.1 ≤ code ∧ code ≤ range.2 := by
  induction table with
  | nil => simp [inRanges] at found
  | cons range rest ih =>
    obtain ⟨first, last⟩ := range
    simp only [inRanges] at found
    split at found
    · cases found
    · split at found
      · exact ⟨(first, last), by simp, by omega, by omega⟩
      · obtain ⟨range, member, bounds⟩ := ih found
        exact ⟨range, List.mem_cons_of_mem _ member, bounds⟩

end Parley.Text
