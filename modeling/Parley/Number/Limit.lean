import Parley.Number.Basic

/-!
# The length of integers

Integers may have any size, but their decimal text is bounded: one that is too long is neither
read nor written.
-/

namespace Parley.Number

/-- The most digits that the decimal text of an integer may have. -/
def digitLimit : Nat := 4300

/-- The least natural whose decimal text is too long. -/
def leastTooLong : Nat := Nat.pow 10 digitLimit

/-- Whether an integer is short enough to be written. -/
def isShort (n : Int) : Bool := n.natAbs < leastTooLong

end Parley.Number
