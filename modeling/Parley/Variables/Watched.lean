import Parley.Variables

/-!
# Watched variables

Variables with observers. Every write tells each observer, in the order in which they were
added, the name and its values before and after. Whatever an observer does, the write stays and
the other observers are told. Only the observer that was added last under a name can be removed by
that name.
-/

namespace Parley.Variables

/-- What an observer is told of a write. -/
structure Notice where
  /-- The observer that is told. -/
  observer : Value
  /-- The name that was written. -/
  key : Value
  /-- The value before; null if the name was not set. -/
  old : Value
  /-- The value after. -/
  new : Value

/-- An observer. -/
structure Observer where
  /-- The name under which it was added. -/
  name : Value
  /-- Whether it can be removed by its name. -/
  removable : Bool

/-- Variables, their observers, and the notices given so far. -/
structure Watched where
  /-- The variables. -/
  vars : Variables
  /-- The observers in the order in which they were added. -/
  observers : List Observer
  /-- The notices in order. -/
  notices : List Notice

namespace Watched

/-- Variables without observers. -/
def ofVariables (vars : Variables) : Watched := ⟨vars, [], []⟩

/-- An observer that another one of its name supersedes. -/
def supersede (name : Value) (observer : Observer) : Observer :=
  { observer with removable := observer.removable && !observer.name.same name }

/-- Adds an observer under a name. -/
def observe (watched : Watched) (name : Value) : Except Failure Watched := do
  name.requireFixed
  let earlier := watched.observers.map (supersede name)
  return { watched with observers := earlier ++ [⟨name, true⟩] }

/-- Removes the observer that was added last under a name, unless it was removed before. -/
def unobserve (watched : Watched) (name : Value) : Except Failure Watched := do
  name.requireFixed
  return { watched with
    observers := watched.observers.filter fun observer =>
      !(observer.removable && observer.name.same name) }

/-- Writes a variable and tells the observers. -/
def set (watched : Watched) (key value : Value) : Except Failure Watched := do
  key.requireFixed
  let old := (watched.vars.entries.get? key).getD .null
  return { watched with
    vars := watched.vars.put key value
    notices := watched.notices
      ++ watched.observers.map fun observer => ⟨observer.name, key, old, value⟩ }

/-- Writes the entries of a dictionary in order. -/
def update (watched : Watched) : Entries → Except Failure Watched
  | [] => .ok watched
  | (key, value) :: rest => do update (← watched.set key value) rest

/-- Removes a variable. -/
def erase (watched : Watched) (key : Value) : Except Failure Watched := do
  key.requireFixed
  if watched.vars.entries.has key then
    return { watched with
      vars := { watched.vars with entries := watched.vars.entries.erase key } }
  else throw (.missingKey key)

end Watched

end Parley.Variables
