import Parley.Number.Decimal

/-!
# Numbers

A number of a document is an integer of any size or a binary64 number; a truth value counts as
one or zero wherever a number is asked for, and keeps its own text. Comparison is by exact
value, across the three kinds.
-/

namespace Parley

/-- A number: an integer, a binary64 number, or a truth value that counts as one or zero. -/
inductive Number where
  | int (value : Int)
  | float (value : Binary64)
  | truth (value : Bool)
deriving DecidableEq, Repr, Inhabited

namespace Number

/-- The integer that a truth value counts as. -/
def ofTruth (value : Bool) : Int := if value then 1 else 0

/-- The order of an integer and a binary64 number. -/
def orderInt (n : Int) : Binary64 → Option Ordering
  | .nan => none
  | .infinite negative => some (if negative then .gt else .lt)
  | .finite s m e => some (Binary64.compareQuotients (n, 1) (Binary64.signedQuotient s m e))

/-- A number with truth values counted, as an integer or a binary64 number. -/
def counted : Number → Int ⊕ Binary64
  | .int n => .inl n
  | .truth b => .inl (ofTruth b)
  | .float x => .inr x

/-- The order of two numbers by exact value; there is none if one is no number. -/
def order (a b : Number) : Option Ordering :=
  match a.counted, b.counted with
  | .inl m, .inl n => some (compare m n)
  | .inl m, .inr y => orderInt m y
  | .inr x, .inl n => (orderInt n x).map Ordering.swap
  | .inr x, .inr y => x.order y

/-- Whether the first number lies strictly below the second. -/
def lt (a b : Number) : Bool := order a b == some .lt

/-- Whether the first number is the second or lies below it. -/
def le (a b : Number) : Bool := order a b == some .lt || order a b == some .eq

/-- Whether two numbers have the same value. -/
def same (a b : Number) : Bool := order a b == some .eq

/-- Twice a number; a truth value becomes an integer. -/
def double : Number → Number
  | .int n => .int (2 * n)
  | .truth b => .int (2 * ofTruth b)
  | .float x => .float x.double

/-- The text of a number. -/
def text : Number → String
  | .int n => toString n
  | .float x => Decimal.text x
  | .truth b => if b then "True" else "False"

/-- The least natural at or above a number: nothing for what has none. -/
def ceiling? : Number → Option Nat
  | .int n => some n.toNat
  | .truth b => some (ofTruth b).toNat
  | .float x => x.ceiling?

end Number

end Parley
