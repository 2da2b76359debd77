import Parley.Number.Basic
import Parley.Text.Quoted
import Parley.Time.Iso

/-!
# Values

The values that documents, variables and capabilities pass around. A document gives the first
eight kinds, the date and the moment; the rest arrive from outside. Entries of a dictionary keep
the order in which their keys first appeared.
-/

namespace Parley

/-- A dynamic value. -/
inductive Value where
  | null
  | bool (value : Bool)
  | int (value : Int)
  | float (value : Binary64)
  | text (value : String)
  | list (items : List Value)
  | dict (entries : List (Value × Value))
  | tuple (items : List Value)
  | octets (value : List UInt8)
  | set (items : List Value)
  | date (value : Time.Date)
  | moment (value : Time.Moment)
  | foreign
deriving Inhabited, BEq

/-- The entries of a dictionary in order. -/
abbrev Entries := List (Value × Value)

namespace Value

/-- The name of a value's type. -/
def typeName : Value → String
  | .null => "NoneType"
  | .bool _ => "bool"
  | .int _ => "int"
  | .float _ => "float"
  | .text _ => "str"
  | .list _ => "list"
  | .dict _ => "dict"
  | .tuple _ => "tuple"
  | .octets _ => "bytes"
  | .set _ => "set"
  | .date _ => "date"
  | .moment _ => "datetime"
  | .foreign => "object"

/-- The value as a number, if it counts as one. -/
def number? : Value → Option Number
  | .bool b => some (.truth b)
  | .int n => some (.int n)
  | .float x => some (.float x)
  | _ => none

/-- A number as a value. -/
def ofNumber : Number → Value
  | .truth b => .bool b
  | .int n => .int n
  | .float x => .float x

/-- Whether a value counts as true: null, zeros and what is empty do not. -/
def truthy : Value → Bool
  | .null => false
  | .bool b => b
  | .int n => n != 0
  | .float x => !x.isZero
  | .text s => s != ""
  | .list items => !items.isEmpty
  | .dict entries => !entries.isEmpty
  | .tuple items => !items.isEmpty
  | .octets value => !value.isEmpty
  | .set items => !items.isEmpty
  | _ => true

/-- The arguments that show a date. -/
def dateParts (date : Time.Date) : List String :=
  [toString date.year, toString date.month, toString date.day]

/-- The arguments that show the time of a moment: seconds and microseconds only if needed. -/
def clockParts (moment : Time.Moment) : List String :=
  let micros := moment.timeOfDay
  let fraction := micros % Time.secondMicros
  let seconds := micros / Time.secondMicros
  [toString (seconds / 3600), toString (seconds / 60 % 60)]
    ++ (if seconds % 60 != 0 || fraction != 0 then [toString (seconds % 60)] else [])
    ++ (if fraction != 0 then [toString fraction] else [])

/-- The argument that shows the offset of a moment. -/
def offsetParts (moment : Time.Moment) : List String :=
  match moment.offset with
  | none => []
  | some offset =>
    if offset.micros = 0 then ["tzinfo=datetime.timezone.utc"]
    else ["tzinfo=datetime.timezone(" ++ Time.durationText offset.micros ++ ")"]

/-- Shown items between brackets. -/
def enclosed (opening : String) (items : List String) (closing : String) : String :=
  opening ++ Text.join ", " items ++ closing

/-- Shown items of a tuple: a single one is followed by a comma. -/
def tupled : List String → String
  | [item] => "(" ++ item ++ ",)"
  | items => enclosed "(" items ")"

mutual

/-- A value shown so that its kind can be told: texts are quoted. -/
def shown : Value → String
  | .null => "None"
  | .bool b => Number.text (.truth b)
  | .int n => toString n
  | .float x => Decimal.text x
  | .text s => Text.quoted s
  | .list items => enclosed "[" (shownAll items) "]"
  | .dict entries => enclosed "\x7b" (shownEntries entries) "\x7d"
  | .tuple items => tupled (shownAll items)
  | .octets value => Text.quotedOctets value
  | .set items =>
    if items.isEmpty then "set()" else enclosed "\x7b" (shownAll items) "\x7d"
  | .date d => enclosed "datetime.date(" (dateParts d) ")"
  | .moment m =>
    enclosed "datetime.datetime(" (dateParts m.date ++ clockParts m ++ offsetParts m) ")"
  | .foreign => "<object>"

/-- Values shown in order. -/
def shownAll : List Value → List String
  | [] => []
  | item :: rest => shown item :: shownAll rest

/-- Entries shown in order. -/
def shownEntries : List (Value × Value) → List String
  | [] => []
  | (key, value) :: rest => (shown key ++ ": " ++ shown value) :: shownEntries rest

end

/-- The text of a value: a text is itself, a date or moment is its plain form, anything else is
shown. -/
def toText : Value → String
  | .text s => s
  | .date d => d.text
  | .moment m => m.textWith " " false
  | value => shown value

end Value

end Parley
