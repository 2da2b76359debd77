import Parley.Proofs.Calls
import Parley.Proofs.Records

/-!
# How a start is refused

A start is refused when no such flow is registered, and when its subject already has an execution
that waits. Nothing else on the way refuses it in these words: values that are no variables and
stores that cannot take an execution fail differently.
-/

namespace Parley

open Parley.Computation

/-- Whether a failure refuses a start: there is no such flow, or something waits already. -/
def Failure.refusesStart : Failure → Bool
  | .flowNotFound _ | .alreadyActive .. => true
  | _ => false

/-- A result that, if it fails, fails in other words than a refused start. -/
def FailsOtherwise {α : Type} (result : Except Failure α) : Prop :=
  ∀ failure, result = .error failure → failure.refusesStart = false

section FailsOtherwise

variable {α β : Type}

/-- A success does not fail. -/
theorem failsOtherwise_ok (value : α) : FailsOtherwise (.ok value : Except Failure α) := by
  rintro _ ⟨⟩

/-- A failure that does not refuse a start is another one. -/
theorem failsOtherwise_error {failure : Failure} (other : failure.refusesStart = false) :
    FailsOtherwise (.error failure : Except Failure α) := by
  rintro _ ⟨⟩
  exact other

/-- A sequence fails as its parts do. -/
theorem failsOtherwise_bind {first : Except Failure α} {rest : α → Except Failure β}
    (before : FailsOtherwise first) (afterwards : ∀ value, FailsOtherwise (rest value)) :
    FailsOtherwise (first >>= rest) := by
  cases first with
  | ok value => exact afterwards value
  | error failure =>
    rintro _ ⟨⟩
    exact before failure rfl

/-- An image fails as what is mapped does. -/
theorem failsOtherwise_map {first : Except Failure α} {change : α → β}
    (before : FailsOtherwise first) : FailsOtherwise (change <$> first) := by
  cases first with
  | ok value => exact failsOtherwise_ok _
  | error failure =>
    rintro _ ⟨⟩
    exact before failure rfl

end FailsOtherwise

namespace Value

/-- What cannot be a key fails otherwise. -/
theorem requireFixed_fails (value : Value) : FailsOtherwise value.requireFixed := by
  unfold requireFixed
  split
  · exact failsOtherwise_ok _
  · exact failsOtherwise_error rfl

/-- What has no elements fails otherwise. -/
theorem elements_fails (value : Value) : FailsOtherwise value.elements := by
  cases value <;> first
    | exact failsOtherwise_ok _
    | exact failsOtherwise_error rfl

/-- What are no pairs fails otherwise. -/
theorem addPairs_fails (index : Nat) (entries : Entries) (pairs : List Value) :
    FailsOtherwise (addPairs index entries pairs) := by
  induction pairs generalizing index entries with
  | nil => exact failsOtherwise_ok _
  | cons pair rest ih =>
    unfold addPairs
    cases pair.elements with
    | error failure => exact failsOtherwise_error rfl
    | ok parts =>
      refine failsOtherwise_bind (failsOtherwise_ok parts) fun parts => ?_
      dsimp only
      split
      · exact failsOtherwise_bind (requireFixed_fails _) fun _ => ih _ _
      · exact failsOtherwise_error rfl

/-- What has no entries fails otherwise. -/
theorem entries_fails (value : Value) : FailsOtherwise value.entries := by
  unfold entries
  split
  · exact failsOtherwise_ok _
  · exact failsOtherwise_bind (elements_fails _) fun _ => addPairs_fails _ _ _

/-- What is no key of a document fails otherwise. -/
theorem plainKey_fails (value : Value) : FailsOtherwise value.plainKey := by
  cases value <;> first
    | exact failsOtherwise_ok _
    | exact failsOtherwise_error rfl

/-- What no document holds fails otherwise. -/
theorem plain_fails :
    (∀ value : Value, FailsOtherwise value.plain) ∧
      (∀ entries : List (Value × Value), FailsOtherwise (plainEntries entries)) ∧
      ∀ items : List Value, FailsOtherwise (plainAll items) := by
  apply plain.mutual_induct
  case case6 => exact fun items all => failsOtherwise_bind all fun _ => failsOtherwise_ok _
  case case7 => exact fun items all => failsOtherwise_bind all fun _ => failsOtherwise_ok _
  case case8 => exact fun entries all => failsOtherwise_bind all fun _ => failsOtherwise_ok _
  case case15 =>
    intro item rest first later
    exact failsOtherwise_bind first fun _ => failsOtherwise_bind later fun _ =>
      failsOtherwise_ok _
  case case17 =>
    intro key value rest first later
    exact failsOtherwise_bind (plainKey_fails key) fun _ => failsOtherwise_bind first fun _ =>
      failsOtherwise_bind later fun _ => failsOtherwise_ok _
  all_goals intros
  all_goals first
    | exact failsOtherwise_ok _
    | exact failsOtherwise_error rfl

end Value

/-- What is no variables fails otherwise. -/
theorem Variables.ofValue_fails (name value : Value) :
    FailsOtherwise (Variables.ofValue name value) := by
  unfold ofValue
  split
  · exact failsOtherwise_bind (Value.entries_fails value) fun _ => failsOtherwise_ok _
  · exact failsOtherwise_ok _

namespace Store

/-- A store in memory that cannot take an execution fails otherwise. -/
theorem Memory.create_fails (store : Memory String) (execution : Execution String) :
    FailsOtherwise (store.create execution) := by
  refine failsOtherwise_bind (Value.requireFixed_fails _) fun _ => ?_
  split
  · exact failsOtherwise_error rfl
  · exact failsOtherwise_ok _

/-- A deadline beyond the calendar fails otherwise. -/
theorem Table.deadlineColumn_fails (deadline : Option Time.Moment) :
    FailsOtherwise (deadlineColumn deadline) := by
  cases deadline with
  | none => exact failsOtherwise_ok _
  | some moment =>
    refine failsOtherwise_bind ?_ fun _ => failsOtherwise_ok _
    unfold toUtc
    split
    · exact failsOtherwise_ok _
    · exact failsOtherwise_error rfl

/-- A log that no table holds fails otherwise. -/
theorem Table.payloads_fails (log : List (Entry String)) : FailsOtherwise (payloads log) := by
  induction log with
  | nil => exact failsOtherwise_ok _
  | cons entry rest ih =>
    refine failsOtherwise_bind ?_ fun _ => failsOtherwise_bind ih fun _ => failsOtherwise_ok _
    unfold payloadColumn
    split
    · exact failsOtherwise_ok _
    · refine failsOtherwise_bind (Value.plain_fails.1 _) fun _ => ?_
      split <;> exact failsOtherwise_ok _

/-- A column that needs a value fails otherwise without one. -/
theorem Table.requireName_fails (table column name : String) :
    FailsOtherwise (requireName table column name) := by
  unfold requireName
  split
  · exact failsOtherwise_error rfl
  · exact failsOtherwise_ok _

/-- A log of which no rows can be made fails otherwise. -/
theorem Table.entryRows_fails (id : String) (log : List (Entry String)) :
    FailsOtherwise (entryRows id log) := by
  induction log with
  | nil => exact failsOtherwise_ok _
  | cons entry rest ih =>
    refine failsOtherwise_bind ?_ fun _ => failsOtherwise_bind ih fun _ => failsOtherwise_ok _
    simp only [entryRow, optionalColumn_text, ok_bind]
    refine failsOtherwise_bind (requireName_fails _ _ _) fun _ => ?_
    split
    · exact failsOtherwise_error rfl
    · split
      · exact failsOtherwise_error rfl
      · exact failsOtherwise_ok _

/-- A store in tables that cannot take an execution fails otherwise. -/
theorem Table.create_fails (store : Table String) (execution : Execution String) :
    FailsOtherwise (store.create execution) := by
  refine failsOtherwise_bind ?_ fun prepared => ?_
  · refine failsOtherwise_bind ?_ fun _ => ?_
    · exact failsOtherwise_bind (Value.plain_fails.1 _) fun _ =>
        failsOtherwise_bind (Value.entries_fails _) fun _ => failsOtherwise_ok _
    refine failsOtherwise_bind (deadlineColumn_fails _) fun _ => ?_
    rw [keywordsColumn_texts]
    exact failsOtherwise_ok _
  refine failsOtherwise_bind (failsOtherwise_ok prepared.id) fun id => ?_
  refine failsOtherwise_bind ?_ fun row => ?_
  · simp only [columns, optionalColumn_text, Name.column, ok_bind]
    refine failsOtherwise_bind ?_ fun _ => failsOtherwise_ok _
    unfold Name.integerColumn
    split
    · exact failsOtherwise_ok _
    · exact failsOtherwise_error rfl
  refine failsOtherwise_bind ?_ fun _ => ?_
  · exact failsOtherwise_bind (requireName_fails _ _ _) fun _ => requireName_fails _ _ _
  split
  · exact failsOtherwise_error rfl
  · exact failsOtherwise_bind (failsOtherwise_bind (payloads_fails _) fun _ => entryRows_fails _ _)
      fun _ => failsOtherwise_ok _

/-- A store that cannot take an execution fails otherwise. -/
theorem create_fails (store : Store String) (execution : Execution String) :
    FailsOtherwise (store.create execution) := by
  cases store with
  | memory store => exact failsOtherwise_map (Memory.create_fails store execution)
  | table store => exact failsOtherwise_map (Table.create_fails store execution)

end Store

namespace Desk

/-- A computation that, if it fails, fails in other words than a refused start. -/
def Spares {α : Type} (action : Desk α) : Prop :=
  ∀ world failure left, action world = .error failure left → failure.refusesStart = false

section Spares

variable {α β : Type}

/-- A result that fails otherwise spares a start. -/
theorem spares_ofExcept {result : Except Failure α} (fails : FailsOtherwise result) :
    Spares (ofExcept result) := by
  intro world failure left failed
  cases result with
  | ok value => cases failed
  | error refused =>
    cases failed
    exact fails _ rfl

/-- A computation that never fails spares a start. -/
theorem spares_ok {action : Desk α} (done : ∀ world, ∃ value left, action world = .ok value left) :
    Spares action := by
  intro world failure left failed
  obtain ⟨value, last, succeeded⟩ := done world
  rw [succeeded] at failed
  cases failed

/-- A sequence spares a start if its parts do. -/
theorem spares_bind {first : Desk α} {rest : α → Desk β} (before : Spares first)
    (afterwards : ∀ value, Spares (rest value)) : Spares (first >>= rest) := by
  intro world failure left failed
  rw [bind_apply] at failed
  cases outcome : first world with
  | ok value middle =>
    simp only [outcome] at failed
    exact afterwards value middle failure left failed
  | error refused middle =>
    simp only [outcome] at failed
    cases failed
    exact before world failure left outcome

/-- Reading the world spares a start. -/
theorem spares_get : Spares (get : Desk World) := spares_ok fun world => ⟨world, world, rfl⟩

/-- A computation while an execution is held spares a start if it does. -/
theorem spares_holdingExecution {id : String} {action : Desk α} (spares : Spares action) :
    Spares (holdingExecution id action) := by
  intro world failure left failed
  rw [holdingExecution_apply] at failed
  split at failed
  · cases failed
  · rename_i refused middle outcome
    cases failed
    exact spares _ failure middle outcome

end Spares

variable {engine : Engine} {world : World} {flow : String} (key vars : Value)

/-- A start of a flow that is not registered is refused, and leaves the world. -/
theorem start_unregistered {failure : Failure}
    (missing : world.flows.latest flow = .error failure) :
    start engine flow key vars world = .error failure world := by
  have given : ofExcept (world.flows.latest flow) world = .error failure world := by
    rw [missing]
    rfl
  exact (bind_of_ok (get_apply world)).trans (bind_of_error given)

/-- What a start of a version of a flow does for a subject that nothing waits for. -/
def startFree (engine : Engine) (newest : Flow.Graph × Nat) (subject : String) (vars : Value) :
    Desk String := do
  let now := (← get).clock
  let id ← nextId
  let vars ← ofExcept (Variables.ofValue (.text id) vars)
  let execution := Execution.new id newest.1.id newest.2 subject vars now
  let store ← ofExcept ((← get).store.create execution)
  modify fun world => { world with store }
  holdingExecution id (guarded engine execution (Tick.start engine newest.1 true))
  return id

/-- A start for a subject that nothing waits for is not refused. -/
theorem startFree_spares (stored : engine.keeping = .stored) (newest : Flow.Graph × Nat)
    (subject : String) (vars : Value) : Spares (startFree engine newest subject vars) := by
  refine spares_bind spares_get fun before => ?_
  refine spares_bind (spares_ok fun world => ⟨_, _, rfl⟩) fun id => ?_
  refine spares_bind (spares_ofExcept (Variables.ofValue_fails _ vars)) fun vars => ?_
  refine spares_bind spares_get fun world => ?_
  refine spares_bind (spares_ofExcept (Store.create_fails _ _)) fun store => ?_
  refine spares_bind (spares_ok fun world => ⟨_, _, rfl⟩) fun _ => ?_
  refine spares_bind (spares_holdingExecution (spares_ok fun world => ?_)) fun _ =>
    spares_ok fun world => ⟨_, _, rfl⟩
  let execution := Execution.new id newest.1.id newest.2 subject vars before.clock
  have ends (held : World) (_ : world.Beside held) :
      Ends engine ⟨held, .made newest.1 execution⟩ execution.id
        (Tick.start engine newest.1 true ⟨execution, held⟩) :=
    Tick.start_ends newest.1 stored true rfl held
  obtain ⟨left, done, -⟩ := guarded_moves engine ends
  exact ⟨(), left, done⟩

variable {newest : Flow.Graph × Nat} (registered : world.flows.latest flow = .ok newest)
include registered

/-- A start of a registered flow is what is done while its subject is held. -/
theorem start_registered :
    start engine flow key vars world =
      holdingSubject (Subject.ofValue key) (do
        match ← ofExcept ((← get).store.findWaiting (Subject.ofValue key)) with
        | some active => throw (.alreadyActive (Subject.ofValue key) active.id)
        | none => startFree engine newest (Subject.ofValue key) vars) world := by
  have given : ofExcept (world.flows.latest flow) world = .ok newest world := by
    rw [registered]
    rfl
  exact (bind_of_ok (get_apply world)).trans (bind_of_ok given)

/-- A start for a subject that something waits for is rejected, and only touches the registry of
held subjects. -/
theorem start_waiting {active : Execution String}
    (waiting : world.store.findWaiting (Subject.ofValue key) = .ok (some active)) :
    ∃ subjects, start engine flow key vars world =
      .error (.alreadyActive (Subject.ofValue key) active.id) { world with subjects } := by
  let held := { world with subjects := world.subjects.enter (Subject.ofValue key) }
  have given : ofExcept (held.store.findWaiting (Subject.ofValue key)) held =
      .ok (some active) held := by
    rw [waiting]
    rfl
  rw [start_registered key vars registered, holdingSubject_apply,
    (bind_of_ok (get_apply held)).trans (bind_of_ok given)]
  exact ⟨_, rfl⟩

/-- A start for a subject that nothing waits for is not rejected. -/
theorem start_free (stored : engine.keeping = .stored)
    (free : world.store.findWaiting (Subject.ofValue key) = .ok none)
    {failure : Failure} {left : World}
    (failed : start engine flow key vars world = .error failure left) :
    failure.refusesStart = false := by
  let held := { world with subjects := world.subjects.enter (Subject.ofValue key) }
  have nobody : ofExcept (held.store.findWaiting (Subject.ofValue key)) held =
      .ok none held := by
    rw [free]
    rfl
  rw [start_registered key vars registered, holdingSubject_apply,
    (bind_of_ok (get_apply held)).trans (bind_of_ok nobody)] at failed
  split at failed
  · cases failed
  · rename_i refused middle outcome
    cases failed
    exact startFree_spares stored newest _ vars held failure middle outcome

/-- A start is rejected exactly when something waits for its subject. -/
theorem start_rejected_iff (stored : engine.keeping = .stored) :
    (∃ subject id left, start engine flow key vars world =
        .error (.alreadyActive subject id) left) ↔
      ∃ record ∈ world.store.records, record.status = .waiting ∧
        record.subject = Subject.ofValue key := by
  obtain ⟨found, search, some, none⟩ := world.store.findWaiting_spec (Subject.ofValue key)
  constructor
  · rintro ⟨subject, id, left, failed⟩
    cases found with
    | none => cases start_free key vars registered stored search failed
    | some active =>
      obtain ⟨member, subjects, waits⟩ := some active rfl
      exact ⟨active, member, waits, subjects⟩
  · rintro ⟨record, member, waits, subjects⟩
    cases found with
    | none => exact absurd waits (none rfl record member subjects)
    | some active =>
      obtain ⟨subjects, rejected⟩ := start_waiting key vars registered search
      exact ⟨_, _, _, rejected⟩

omit registered in
/-- A start that is refused only touches the registry of held subjects. -/
theorem start_refused (stored : engine.keeping = .stored) {failure : Failure} {left : World}
    (failed : start engine flow key vars world = .error failure left)
    (refused : failure.refusesStart = true) : ∃ subjects, left = { world with subjects } := by
  cases newest : world.flows.latest flow with
  | error missing =>
    rw [start_unregistered key vars newest] at failed
    cases failed
    exact ⟨_, rfl⟩
  | ok registered =>
    obtain ⟨found, search, -, -⟩ := world.store.findWaiting_spec (Subject.ofValue key)
    cases found with
    | none =>
      rw [start_free key vars newest stored search failed] at refused
      cases refused
    | some active =>
      obtain ⟨subjects, rejected⟩ := start_waiting key vars newest search
      rw [rejected] at failed
      cases failed
      exact ⟨subjects, rfl⟩

end Desk

end Parley
