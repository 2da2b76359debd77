import Parley.Value.Conversion

/-!
# Names

What nodes, flows, subjects and executions are called. Inside the engine a name is a text. In a
document that was just read it can be any value, so the definitions that deal with both take a
type of names.
-/

namespace Parley

/-- A type whose members name things, by the value that a document has for them. -/
class Name (ν : Type) where
  /-- The value of a name. -/
  value : ν → Value
  /-- The name as a column of texts keeps it; `place` is that of the column, from one. -/
  column : (place : Nat) → ν → Except Failure ν

namespace Name

/-- An integer as a column keeps it, if it fits. -/
def integerColumn (n : Int) : Except Failure Int :=
  if -9223372036854775808 ≤ n ∧ n ≤ 9223372036854775807 then .ok n
  else .error (.tooLarge "Python int too large to convert to SQLite INTEGER")

/-- A column of texts keeps fifteen digits of a number, with an exponent from ten to the fifteenth
on. -/
def columnLayout : Decimal.Layout := ⟨-4, 15, 2, true⟩

/-- The text of a number in a column of texts; what is no number has none. -/
def columnFloat : Binary64 → Option String
  | .nan => none
  | .infinite negative => some (if negative then "-Inf" else "Inf")
  | .finite negative significand exponent =>
    if significand = 0 then some "0.0"
    else
      let text := Decimal.layOut columnLayout (Decimal.leading 15 significand exponent)
      some (if negative then "-" ++ text else text)

/-- A value as a column of texts keeps it: a number becomes its text, and a collection is
refused. -/
def columnValue (place : Nat) : Value → Except Failure Value
  | .bool b => .ok (.text (if b then "1" else "0"))
  | .int n => do return .text (toString (← integerColumn n))
  | .float x => .ok ((columnFloat x).elim .null .text)
  | .null => .ok .null
  | .text s => .ok (.text s)
  | .octets bits => .ok (.octets bits)
  | value => .error (.notStorable place value.typeName)

instance : Name String := ⟨.text, fun _ name => .ok name⟩

instance : Name Value := ⟨id, columnValue⟩

/-- Whether a name is null, which a column may refuse. -/
def isNull {ν : Type} [Name ν] (name : ν) : Bool :=
  match value name with
  | .null => true
  | _ => false

/-- The text of a name. -/
def text {ν : Type} [Name ν] (name : ν) : String := (value name).toText

/-- Whether two names name the same thing. -/
def same {ν : Type} [Name ν] (a b : ν) : Bool := (value a).same (value b)

/-- The name among those of a list that a name refers to. What cannot be a key is refused, and
what is no text refers to nothing. -/
def find? {ν : Type} [Name ν] (names : List String) (name : ν) :
    Except Failure (Option String) := do
  (value name).requireFixed
  match value name with
  | .text s => return if s ∈ names then some s else none
  | _ => return none

end Name

end Parley
