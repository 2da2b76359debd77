import Parley.Execution
import Parley.Slice
import Parley.Value.Order

/-!
# Stores in memory

A store that holds the executions themselves, in the order in which they were created. What is
written is kept as a plain copy, so that nothing that is read later can reach it.
-/

namespace Parley.Store

/-- Whether the first moment lies at or before the second; they must both have an offset or both
have none. -/
def notAfter (a b : Time.Moment) : Except Failure Bool :=
  if a.comparable b then .ok (a.instant ≤ b.instant) else .error (.time .incomparable)

/-- The executions in the order in which they were created. -/
structure Memory (ν : Type) where
  /-- The executions. -/
  records : List (Execution ν)

namespace Memory

/-- The store without executions. -/
def empty {ν : Type} : Memory ν := ⟨[]⟩

/-- An execution as it is kept. -/
def kept {ν : Type} (execution : Execution ν) : Execution ν :=
  { execution with vars := execution.vars.kept }

/-- An execution as it is read: a version that counts as none is the first. -/
def fresh {ν : Type} (execution : Execution ν) : Execution ν :=
  { execution with version := if execution.version = 0 then 1 else execution.version }

/-- The execution kept under an id. -/
def find? {ν : Type} [Name ν] (store : Memory ν) (id : ν) : Option (Execution ν) :=
  store.records.find? fun record => Name.same record.id id

/-- Adds an execution, whose id must be new. -/
def create {ν : Type} [Name ν] (store : Memory ν) (execution : Execution ν) :
    Except Failure (Memory ν) := do
  (Name.value execution.id).requireFixed
  match store.find? execution.id with
  | some _ => throw (.duplicateExecution (Name.text execution.id))
  | none => return ⟨store.records ++ [kept execution]⟩

/-- Writes an execution in the place of the one with its id. -/
def save {ν : Type} [Name ν] (store : Memory ν) (execution : Execution ν) :
    Except Failure (Memory ν) := do
  (Name.value execution.id).requireFixed
  match store.find? execution.id with
  | none => throw (.executionNotFound (Name.text execution.id))
  | some _ =>
    return ⟨store.records.map fun record =>
      if Name.same record.id execution.id then kept execution else record⟩

/-- Reads the execution of an id. -/
def get {ν : Type} [Name ν] (store : Memory ν) (id : ν) : Except Failure (Execution ν) := do
  (Name.value id).requireFixed
  match store.find? id with
  | some record => return fresh record
  | none => throw (.executionNotFound (Name.text id))

/-- The execution of a subject that waits for input. -/
def findWaiting {ν : Type} [Name ν] (store : Memory ν) (subject : ν) : Option (Execution ν) :=
  (store.records.find? fun record =>
    Name.same record.subject subject && record.status == .waiting).map fresh

/-- The deadlines that have passed among those of some executions, as texts with the ids. -/
def dueEntries {ν : Type} (now : Time.Moment) :
    List (Execution ν) → Except Failure (List (String × ν))
  | [] => .ok []
  | record :: rest =>
    match record.status, record.deadline with
    | .waiting, some deadline => do
      if ← notAfter deadline now then
        return (deadline.text, record.id) :: (← dueEntries now rest)
      else dueEntries now rest
    | _, _ => dueEntries now rest

/-- Whether an entry of those that are due comes before another: by the text of the deadline, then
by the id, if the ids have an order. -/
def dueBefore {ν : Type} [Name ν] (a b : String × ν) : Except Failure Bool :=
  if a.1 = b.1 then (Name.value a.2).before (Name.value b.2) else .ok (decide (a.1 < b.1))

/-- Sorted entries with one more entry, after those that it does not come before. -/
def insertDue {ν : Type} [Name ν] (entry : String × ν) :
    List (String × ν) → Except Failure (List (String × ν))
  | [] => .ok [entry]
  | other :: rest => do
    if ← dueBefore entry other then return entry :: other :: rest
    else return other :: (← insertDue entry rest)

/-- Entries sorted. Two that are neighbours in the order cannot be told apart but by comparing
them, so entries without an order are always refused. -/
def sortDue {ν : Type} [Name ν] (entries : List (String × ν)) :
    Except Failure (List (String × ν)) :=
  entries.foldlM (fun sorted entry => insertDue entry sorted) []

/-- The ids of the executions whose deadline has passed. -/
def listDue {ν : Type} [Name ν] (store : Memory ν) (now : Time.Moment) :
    Except Failure (List ν) := do
  return (← sortDue (← dueEntries now store.records)).map Prod.snd

/-- The executions of a status, or all, most recently updated first, up to a bound. -/
def list {ν : Type} (store : Memory ν) (status : Option Status) (limit : Option Int) :
    List (Execution ν) :=
  let wanted := store.records.filter fun record => status.all (· == record.status)
  (Slice.first limit
    (wanted.mergeSort fun a b => decide (b.updatedAt.text ≤ a.updatedAt.text))).map fresh

end Memory

end Parley.Store
