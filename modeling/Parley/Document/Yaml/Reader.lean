import Parley.Document.Yaml.Merge
import Parley.Document.Yaml.Scalar

/-!
# Reading YAML

A YAML document is read into a value. Of two entries with one key the later value stays in the
place of the earlier, and a collection cannot be a key. Where several parts of a document stand for
nothing, the one that lies the least deep is told, and of those at one depth the first.
-/

namespace Parley.Yaml

namespace Node

/-- The value of a scalar. -/
def scalarValue (text : String) (plain : Bool) : Except Failure Value :=
  if plain then plainValue text else .ok (.text text)

/-- The value of a key: the equals sign stands for itself there. -/
def keyValue : Node → Except Failure Value
  | .scalar text plain => if plain && text == "=" then .ok (.text text) else scalarValue text plain
  | _ => .error .notYaml

mutual

/-- The first failure so deep inside a node. -/
def failureAt : (depth : Nat) → Node → Option Failure
  | 0, .scalar text plain =>
    match scalarValue text plain with
    | .ok _ => none
    | .error failure => some failure
  | depth + 1, .sequence items => failureAmong depth items
  | depth + 1, .mapping entries => failureInEntries depth entries
  | _, _ => none

/-- The first failure so deep inside some nodes. -/
def failureAmong (depth : Nat) : List Node → Option Failure
  | [] => none
  | item :: rest => (failureAt depth item).or (failureAmong depth rest)

/-- The first failure so deep inside the keys and values of some entries. -/
def failureInEntries (depth : Nat) : List (Node × Node) → Option Failure
  | [] => none
  | (key, value) :: rest =>
    let inKey := match depth, keyValue key with
      | 0, .error failure => some failure
      | _, _ => none
    (inKey.or (failureAt depth value)).or (failureInEntries depth rest)

end

/-- Whether a key is the number that equals nothing; all of those count as one key. -/
def isNan : Value → Bool
  | .float .nan => true
  | _ => false

/-- Entries with a value put under a key. -/
def putKey (entries : Entries) (key value : Value) : Entries :=
  if isNan key && entries.any fun entry => isNan entry.1 then
    entries.map fun entry => if isNan entry.1 then (entry.1, value) else entry
  else entries.put key value

mutual

/-- The value of a node. -/
def value : Node → Except Failure Value
  | .scalar text plain => scalarValue text plain
  | .sequence items => do return .list (← values items)
  | .mapping entries => do return .dict (← entryValues [] entries)

/-- The values of some nodes. -/
def values : List Node → Except Failure (List Value)
  | [] => .ok []
  | item :: rest => do return (← value item) :: (← values rest)

/-- The entries of a dictionary with those of a mapping put into it. -/
def entryValues (dictionary : Entries) : List (Node × Node) → Except Failure Entries
  | [] => .ok dictionary
  | (key, item) :: rest => do
    entryValues (putKey dictionary (← keyValue key) (← value item)) rest

end

/-- How many levels of collections a node may have. -/
def levels : List Nat := List.range (depthLimit + 2)

/-- The value that a node stands for, with the failure that lies the least deep. -/
def read (node : Node) : Except Failure Value :=
  match value node with
  | .ok value => .ok value
  | .error failure =>
    .error ((levels.findSome? fun depth => failureAt depth node).getD failure)

end Node

/-- The failure of a text that is no document. -/
def Fault.failure : Fault → Failure
  | .malformed => .notYaml
  | .noCharacter => .notCharacter
  | .hugeCode => .tooLarge "Python int too large to convert to C int"
  | .tooDeep => .tooDeep

/-- The value of a document; no document is null. -/
def read (text : String) : Except Failure Value :=
  match Node.ofText text with
  | .ok (some node) => node.merge.read
  | .ok none => .ok .null
  | .error fault => .error fault.failure

end Parley.Yaml
