import Parley.Store.Memory
import Parley.Store.Table

/-!
# Stores

A store keeps executions by their ids. There are two kinds with one contract: executions are
created once and then saved, what is read is a copy, and nothing is ever removed.
-/

namespace Parley

/-- A store in memory or in tables. -/
inductive Store (ν : Type) where
  | memory (store : Store.Memory ν)
  | table (store : Store.Table ν)

namespace Store

/-- Adds an execution, whose id must be new. -/
def create {ν : Type} [Table.Written ν] (store : Store ν) (execution : Execution ν) :
    Except Failure (Store ν) :=
  match store with
  | .memory store => Store.memory <$> store.create execution
  | .table store => Store.table <$> store.create execution

/-- Writes an execution in the place of the one with its id. -/
def save {ν : Type} [Table.Written ν] (store : Store ν) (execution : Execution ν) :
    Except Failure (Store ν) :=
  match store with
  | .memory store => Store.memory <$> store.save execution
  | .table store => Store.table <$> store.save execution

/-- The id that a value is to a store whose ids are texts: no other value is the id of an
execution. -/
def idOf (store : Store String) (id : Value) : Except Failure String := do
  match store with
  | .memory _ => id.requireFixed
  | .table _ => let _ ← Name.columnValue 1 id
  match id with
  | .text id => return id
  | id => throw (.executionNotFound id.toText)

/-- Reads the execution of an id. -/
def get {ν : Type} [Name ν] (store : Store ν) (id : ν) : Except Failure (Execution ν) :=
  match store with
  | .memory store => store.get id
  | .table store => store.get id

/-- The execution of a subject that waits for input. -/
def findWaiting {ν : Type} [Name ν] (store : Store ν) (subject : ν) :
    Except Failure (Option (Execution ν)) :=
  match store with
  | .memory store => .ok (store.findWaiting subject)
  | .table store => store.findWaiting subject

/-- The ids of the executions whose deadline has passed. -/
def listDue {ν : Type} [Name ν] (store : Store ν) (now : Time.Moment) :
    Except Failure (List ν) :=
  match store with
  | .memory store => store.listDue now
  | .table store => store.listDue now

/-- The executions of a status, or all, most recently updated first, up to a bound. -/
def list {ν : Type} (store : Store ν) (status : Option Status) (limit : Value) :
    Except Failure (List (Execution ν)) :=
  match store with
  | .memory store => do return store.list status (← limit.sliceEnd)
  | .table store => do
    return store.list status (← Table.limitColumn (if status.isSome then 2 else 1) limit)

/-- All executions in the order in which they were created. -/
def records {ν : Type} (store : Store ν) : List (Execution ν) :=
  match store with
  | .memory store => store.records.map Memory.fresh
  | .table store => store.rows.map Table.fresh

end Store

end Parley
