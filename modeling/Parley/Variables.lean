import Parley.Value.Conversion
import Parley.Value.Plain

/-!
# Variables

The variables of one execution: a dictionary that its owner reads and writes by name. A name
that is not set reads as the empty text. A snapshot is a plain copy, which can be kept.
-/

namespace Parley

/-- The variables of an execution, in the order in which they were first set. -/
structure Variables where
  /-- The label under which the variables are shown. -/
  name : Value
  /-- The variables and their values. -/
  entries : Entries
deriving Inhabited

namespace Variables

/-- No variables. -/
def empty (name : Value) : Variables := ⟨name, []⟩

/-- The variables that a value holds: a dictionary or pairs, or none if it counts as false. -/
def ofValue (name value : Value) : Except Failure Variables := do
  if value.truthy then return ⟨name, ← value.entries⟩ else return empty name

/-- The value of a variable, if it is set. -/
def get? (vars : Variables) (key : String) : Option Value := vars.entries.text? key

/-- The value of a variable; one that is not set reads as the empty text. -/
def read (vars : Variables) (key : String) : Value := (vars.get? key).getD (.text "")

/-- The variables with a value put under a key. -/
def put (vars : Variables) (key value : Value) : Variables :=
  { vars with entries := vars.entries.put key value }

/-- The variables with a value put under a name. -/
def set (vars : Variables) (key : String) (value : Value) : Variables :=
  vars.put (.text key) value

/-- The entries with their values made plain, or a note of their type put in their place. -/
def snapshot (vars : Variables) : Entries :=
  vars.entries.map fun entry => (entry.1, entry.2.settled)

/-- The variables as they come back after they were kept. -/
def kept (vars : Variables) : Variables := { vars with entries := vars.snapshot }

/-- Whether the variables are the same as those of a dictionary. -/
def same (vars : Variables) (entries : Entries) : Bool :=
  (Value.dict vars.entries).same (.dict entries)

/-- The label and the names of the variables. -/
def shown (vars : Variables) : String :=
  "VariableStore(name=" ++ vars.name.shown ++ ", keys="
    ++ (Value.list (vars.entries.map Prod.fst)).shown ++ ")"

end Variables

end Parley
