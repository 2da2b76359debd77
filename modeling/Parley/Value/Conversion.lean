import Parley.Failure
import Parley.Number.Reading
import Parley.Value.Equality

/-!
# Conversions between values

A value taken for its elements, for the entries of a dictionary, for an integer or for a
number. What does not fit is refused with the reason.
-/

namespace Parley.Value

/-- Refuses a value that cannot be a key. -/
def requireFixed (value : Value) : Except Failure Unit :=
  if value.fixed then .ok ()
  else .error (.wrongType ("unhashable type: '" ++ value.typeName ++ "'"))

/-- The elements of a value: the characters of a text, the items of a sequence or set, the keys
of a dictionary. -/
def elements : Value → Except Failure (List Value)
  | .text s => .ok (s.toList.map fun c => .text (String.singleton c))
  | .list items => .ok items
  | .tuple items => .ok items
  | .set items => .ok items
  | .dict entries => .ok (entries.map Prod.fst)
  | .octets bits => .ok (bits.map fun octet => .int octet.toNat)
  | value => .error (.wrongType ("'" ++ value.typeName ++ "' object is not iterable"))

/-- The entries that pairs add to a dictionary, with the place of the first pair. -/
def addPairs (index : Nat) (entries : Entries) : List Value → Except Failure Entries
  | [] => .ok entries
  | pair :: rest => do
    let parts ← match pair.elements with
      | .ok parts => pure parts
      | .error _ => throw (.wrongType
          ("cannot convert dictionary update sequence element #" ++ toString index
            ++ " to a sequence"))
    match parts with
    | [key, value] =>
      requireFixed key
      addPairs (index + 1) (entries.put key value) rest
    | parts => throw (.pairLength index parts.length)

/-- The entries of a value: a dictionary has its own, and pairs make some. -/
def entries : Value → Except Failure Entries
  | .dict entries => .ok entries
  | value => do addPairs 0 [] (← value.elements)

mutual

/-- Whether every integer in a value is short enough to be written. -/
def isShort : Value → Bool
  | .int n => Number.isShort n
  | .list items => areShort items
  | .tuple items => areShort items
  | .set items => areShort items
  | .dict entries => areShortEntries entries
  | _ => true

/-- Whether every integer in some values is short enough to be written. -/
def areShort : List Value → Bool
  | [] => true
  | item :: rest => isShort item && areShort rest

/-- Whether every integer in some entries is short enough to be written. -/
def areShortEntries : List (Value × Value) → Bool
  | [] => true
  | (key, value) :: rest => isShort key && isShort value && areShortEntries rest

end

/-- The text of a value, unless an integer in it is too long. -/
def asText (value : Value) : Except Failure String :=
  if value.isShort then .ok value.toText else .error (.tooManyDigits none)

/-- A value shown, unless an integer in it is too long. -/
def asShown (value : Value) : Except Failure String :=
  if value.isShort then .ok value.shown else .error (.tooManyDigits none)

/-- The text that octets spell; those beyond ASCII spell nothing that a number contains. -/
def octetText (octets : List UInt8) : String :=
  String.ofList (octets.map fun octet => if octet < 128 then Char.ofNat octet.toNat else '?')

/-- A quoted value in an error about its form, which is cut if it is long. -/
def clipped (shown : String) : String := String.ofList (shown.toList.take 200)

/-- The integer that a text denotes; the text is shown in an error about its form. -/
def readInt (text shown : String) : Except Failure Int :=
  match Number.readInt text with
  | .ok n => .ok n
  | .error .malformed => .error (.notInteger 10 (clipped shown))
  | .error (.tooLong digits) => .error (.tooManyDigits (some digits))

/-- The integer that a value stands for; a fraction is cut off. -/
def toInt : Value → Except Failure Int
  | .int n => .ok n
  | .bool b => .ok (Number.ofTruth b)
  | .float .nan => .error (.time .notANumber)
  | .float (.infinite _) => .error (.time .infinite)
  | .float (.finite s m e) => .ok (Binary64.truncate s m e)
  | .text s => readInt s (Text.quoted s)
  | .octets bits => readInt (octetText bits) (Text.quotedOctets bits)
  | value => .error (.wrongType
      ("int() argument must be a string, a bytes-like object or a real number, not '"
        ++ value.typeName ++ "'"))

/-- The binary64 number nearest to an integer, unless it is too large to have one. -/
def floatOfInt (n : Int) : Except Failure Binary64 :=
  match Binary64.ofInt n with
  | .infinite _ => .error (.tooLarge "int too large to convert to float")
  | x => .ok x

/-- The binary64 number that a value stands for. -/
def toFloat : Value → Except Failure Binary64
  | .float x => .ok x
  | .int n => floatOfInt n
  | .bool b => .ok (Binary64.ofInt (Number.ofTruth b))
  | .text s =>
    match Number.readFloat? s with
    | some x => .ok x
    | none => .error (.notNumber (Text.quoted s))
  | .octets bits =>
    match Number.readFloat? (octetText bits) with
    | some x => .ok x
    | none => .error (.notNumber (Text.quotedOctets bits))
  | value => .error (.wrongType
      ("float() argument must be a string or a real number, not '" ++ value.typeName ++ "'"))

/-- Refuses entries under any other key than the given names. -/
def requireNames (names : List String) (entries : Entries) : Except Failure Unit :=
  if entries.all fun entry => names.any fun name => entry.1.same (.text name) then .ok ()
  else .error (.wrongType "unexpected keyword argument")

/-- The end of a slice that a value gives: null is the whole length. -/
def sliceEnd : Value → Except Failure (Option Int)
  | .null => .ok none
  | .int n => .ok (some n)
  | .bool b => .ok (some (Number.ofTruth b))
  | _ => .error (.wrongType "slice indices must be integers or None or have an __index__ method")

end Parley.Value
