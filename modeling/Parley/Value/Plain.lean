import Parley.Failure
import Parley.Value.Equality

/-!
# Plain values

A plain value is one that a document can hold: null, a truth value, a number, a text, a list
or a dictionary with text keys, of plain values. Other values are made plain where they have a
plain counterpart: a tuple becomes a list, and a key that is null, a truth value or a number
becomes its text, so that of two keys with one text the later value stays. The rest is refused.
-/

namespace Parley.Value

/-- The text of a number in a document. -/
def plainFloat : Binary64 → String
  | .nan => "NaN"
  | .infinite false => "Infinity"
  | .infinite true => "-Infinity"
  | x => Decimal.text x

/-- The text that a key becomes. -/
def plainKey : Value → Except Failure String
  | .text s => .ok s
  | .null => .ok "null"
  | .bool b => .ok (if b then "true" else "false")
  | .int n => .ok (toString n)
  | .float x => .ok (plainFloat x)
  | value => .error (.wrongType
      ("keys must be str, int, float, bool or None, not " ++ value.typeName))

mutual

/-- A value made plain. -/
def plain : Value → Except Failure Value
  | .null => .ok .null
  | .bool b => .ok (.bool b)
  | .int n => .ok (.int n)
  | .float x => .ok (.float x)
  | .text s => .ok (.text s)
  | .list items => do return .list (← plainAll items)
  | .tuple items => do return .list (← plainAll items)
  | .dict entries => do return .dict (Entries.ofList (← plainEntries entries))
  | .octets _ => notPlain "bytes"
  | .set _ => notPlain "set"
  | .date _ => notPlain "date"
  | .moment _ => notPlain "datetime"
  | .foreign => notPlain "object"
where
  /-- The refusal of a type that no document holds. -/
  notPlain (type : String) : Except Failure Value :=
    .error (.wrongType ("Object of type " ++ type ++ " is not JSON serializable"))

/-- Values made plain in order. -/
def plainAll : List Value → Except Failure (List Value)
  | [] => .ok []
  | item :: rest => do return (← plain item) :: (← plainAll rest)

/-- Entries made plain in order. -/
def plainEntries : List (Value × Value) → Except Failure (List (Value × Value))
  | [] => .ok []
  | (key, value) :: rest => do
    let name ← plainKey key
    let value ← plain value
    return (.text name, value) :: (← plainEntries rest)

end

/-- What stands for a value that cannot be made plain. -/
def placeholder (value : Value) : Value := .text ("<non-serialisable: " ++ value.typeName ++ ">")

/-- A value made plain, or what stands for it. -/
def settled (value : Value) : Value :=
  match value.plain with
  | .ok plain => plain
  | .error _ => value.placeholder

end Parley.Value
