import Parley.Document.Yaml.Node

/-!
# Merged mappings

A mapping may take over the entries of others: under the plain key of two less-than signs stands
another mapping or a sequence of mappings. What is taken over comes before the entries of the
mapping itself, so that these win, and of several mappings the first one wins.
-/

namespace Parley.Yaml.Node

/-- Whether a key asks for other mappings to be taken over. -/
def isMergeKey : Node → Bool
  | .scalar text plain => plain && text == "<<"
  | _ => false

/-- The entries of a mapping in which nothing is left to be taken over. -/
def entries? : Node → Option (List (Node × Node))
  | .mapping entries =>
    if entries.any fun entry => isMergeKey entry.1 then none else some entries
  | _ => none

/-- The entries that the value of a merge key gives. -/
def merged? : Node → Option (List (Node × Node))
  | .sequence items => do return (← items.mapM entries?).reverse.flatten
  | node => node.entries?

/-- The entries after those taken over by them; nothing if one is taken over that is no
mapping. -/
def flatten? (entries : List (Node × Node)) : Option (List (Node × Node)) := do
  let (merges, own) := entries.partition fun entry => isMergeKey entry.1
  return (← merges.mapM fun entry => merged? entry.2).flatten ++ own

mutual

/-- A node in which the entries of other mappings have been taken over. A mapping for which that is
not possible keeps nothing but the key that asks for it. -/
def merge : Node → Node
  | .scalar text plain => .scalar text plain
  | .sequence items => .sequence (mergeAll items)
  | .mapping entries =>
    .mapping ((flatten? (mergeEntries entries)).getD [(.scalar "<<" true, .empty)])

/-- Nodes with what they take over. -/
def mergeAll : List Node → List Node
  | [] => []
  | item :: rest => merge item :: mergeAll rest

/-- Entries whose keys and values have what they take over. -/
def mergeEntries : List (Node × Node) → List (Node × Node)
  | [] => []
  | (key, value) :: rest => (merge key, merge value) :: mergeEntries rest

end

end Parley.Yaml.Node
