import Parley.Flow.Graph

/-!
# Registries

A registry holds the flows that can be run. Registering an id again adds a version, and the
versions before stay as they were, so that executions go on with the version they started on.
-/

namespace Parley.Flow

/-- The versions of each flow, oldest first, in the order in which the ids were registered. -/
structure Registry where
  /-- The versions by id. -/
  versions : List (String × List Graph)
deriving Inhabited

namespace Registry

/-- The registry without flows. -/
def empty : Registry := ⟨[]⟩

/-- The versions with one more version of a graph's id. -/
def addVersion (graph : Graph) : List (String × List Graph) → List (String × List Graph)
  | [] => [(graph.id, [graph])]
  | (id, graphs) :: rest =>
    if id = graph.id then (id, graphs ++ [graph]) :: rest
    else (id, graphs) :: addVersion graph rest

/-- The versions of an id, oldest first. -/
def versionsOf (registry : Registry) (id : String) : List Graph :=
  (registry.versions.lookup id).getD []

/-- Adds a version of a graph's id. -/
def add (registry : Registry) (graph : Graph) : Registry :=
  ⟨addVersion graph registry.versions⟩

/-- Adds a version and tells its number, counted from one. -/
def register (registry : Registry) (graph : Graph) : Nat × Registry :=
  let registry := registry.add graph
  ((registry.versionsOf graph.id).length, registry)

/-- The newest version of an id with its number. -/
def latest (registry : Registry) (id : String) : Except Failure (Graph × Nat) :=
  match (registry.versionsOf id).getLast? with
  | some graph => .ok (graph, (registry.versionsOf id).length)
  | none => .error (.flowNotFound id)

/-- A version of an id by its number. -/
def get (registry : Registry) (id : String) (version : Int) : Except Failure Graph :=
  match registry.versionsOf id with
  | [] => .error (.flowNotFound id)
  | graphs =>
    let missing := Failure.flowNotFound (id ++ "@v" ++ toString version)
    if version < 1 then .error missing
    else
      match graphs[version.toNat - 1]? with
      | some graph => .ok graph
      | none => .error missing

/-- The id that a value is; only a text is the id of a flow. -/
def idOf (id : Value) : Except Failure String := do
  id.requireFixed
  match id with
  | .text id => return id
  | id => throw (.flowNotFound id.toText)

/-- The version of an id that a value counts, from one; null is the newest. -/
def find (registry : Registry) (id : String) (version : Value) : Except Failure Graph := do
  let (newest, count) ← registry.latest id
  match version, version.number? with
  | .null, _ => return newest
  | _, none => throw (.wrongType "a version is a number")
  | _, some number =>
    if !((Number.int 1).le number && number.le (.int count)) then
      throw (.flowNotFound (id ++ "@v" ++ number.text))
    match number.counted with
    | .inl number => registry.get id number
    | .inr _ => throw (.wrongType "list indices must be integers or slices, not float")

/-- Whether an id is registered. -/
def contains (registry : Registry) (id : String) : Bool :=
  registry.versions.any fun entry => entry.1 == id

/-- The registered ids. -/
def ids (registry : Registry) : List String := registry.versions.map Prod.fst

end Registry

end Parley.Flow
