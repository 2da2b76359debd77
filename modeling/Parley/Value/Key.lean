import Parley.Value.Conversion

/-!
# Keys

Values by which things are told apart: those in which nothing can change, compared by what they
mean.
-/

namespace Parley

/-- A value that can be a key. -/
structure Key where
  /-- The value. -/
  value : Value
  /-- Nothing in it can change. -/
  fixed : value.fixed = true

namespace Key

instance : BEq Key := ⟨fun a b => a.value.same b.value⟩

/-- The key that a value is. -/
def ofValue (value : Value) : Except Failure Key :=
  if fixed : value.fixed = true then .ok ⟨value, fixed⟩
  else .error (.wrongType ("unhashable type: '" ++ value.typeName ++ "'"))

end Key

end Parley
