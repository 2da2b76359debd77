import Parley.Proofs.Calls
import Parley.Proofs.Records
import Parley.Proofs.Refusals
import Parley.Proofs.Subjects

/-!
# One conversation at a time

At most one execution waits for each subject, in every world that runs of calls reach. An execution
comes to wait only while it is in hand, and what is in hand was made for a subject that nothing
waited for, or is itself what waited. A start is rejected exactly when something waits.
-/

namespace Parley

open Parley.Computation World

namespace Store

/-- In a store, ids are distinct, at most one execution waits for each subject, and subjects are in
canonical form. -/
structure Exclusive (store : Store String) : Prop where
  /-- Its records have distinct ids. -/
  distinct : store.Distinct
  /-- Executions that wait for one subject are one execution. -/
  single : ∀ record ∈ store.records, ∀ other ∈ store.records, record.status = .waiting →
    other.status = .waiting → record.subject = other.subject → record.id = other.id
  /-- Its subjects are in canonical form. -/
  canonical : ∀ record ∈ store.records, Subject.normalize record.subject = record.subject

/-- An execution may come to wait: its subject is in canonical form, and no other execution waits
for it. -/
structure Admits (store : Store String) (execution : Execution String) : Prop where
  /-- No other execution waits for its subject. -/
  alone : ∀ record ∈ store.records, record.id ≠ execution.id →
    record.subject = execution.subject → record.status ≠ .waiting
  /-- Its subject is in canonical form. -/
  canonical : Subject.normalize execution.subject = execution.subject

/-- A store admits an execution as it admits one of the same id and subject. -/
theorem Admits.congr {store : Store String} {execution other : Execution String}
    (admits : store.Admits execution) (id : other.id = execution.id)
    (subject : other.subject = execution.subject) : store.Admits other := by
  refine ⟨fun record member => ?_, ?_⟩
  · rw [id, subject]
    exact admits.alone record member
  · rw [subject]
    exact admits.canonical

/-- At most one execution is counted among those that wait for a subject. -/
theorem Exclusive.count {store : Store String} (exclusive : store.Exclusive) (subject : String) :
    (store.records.filter fun record =>
      record.status == .waiting && record.subject == subject).length ≤ 1 := by
  have apart := (List.nodup_iff_pairwise_ne.mp exclusive.distinct).of_map _ fun _ _ => id
  have found : ∀ record ∈ store.records.filter fun record =>
      record.status == .waiting && record.subject == subject,
      record ∈ store.records ∧ record.status = .waiting ∧ record.subject = subject := by
    intro record member
    simpa using member
  have distinct := apart.filter fun record =>
    record.status == .waiting && record.subject == subject
  revert found distinct
  generalize (store.records.filter fun record =>
    record.status == .waiting && record.subject == subject) = waiting
  intro found distinct
  match waiting with
  | [] | [_] => simp
  | first :: second :: rest =>
    obtain ⟨one, waits, subjects⟩ := found first (by simp)
    obtain ⟨other, otherWaits, otherSubjects⟩ := found second (by simp)
    have same := exclusive.single first one second other waits otherWaits
      (subjects.trans otherSubjects.symm)
    exact absurd same (List.rel_of_pairwise_cons distinct (by simp))

/-- What is saved leaves at most one execution waiting, if it does not wait or nothing else does. -/
theorem Exclusive.save {store left : Store String} {execution : Execution String}
    (exclusive : store.Exclusive) (saved : store.save execution = .ok left)
    (canonical : Subject.normalize execution.subject = execution.subject)
    (alone : execution.status = .waiting → store.Admits execution) : left.Exclusive := by
  obtain ⟨-, old, listed, new, named, recorded, -, records⟩ := save_records saved
  have differs : ∀ other ∈ left.records, other.status = .waiting → other.id ≠ new.id →
      new.status = .waiting → other.subject ≠ new.subject := by
    intro other member waits apart waiting same
    rw [records] at member
    rw [recorded.status] at waiting
    rw [recorded.id] at apart
    rw [recorded.subject] at same
    rcases mem_rewritten member with rfl | ⟨before, -⟩
    · exact apart recorded.id
    · exact (alone waiting).alone other before apart same waits
  refine ⟨exclusive.distinct.save saved, ?_, ?_⟩
  · intro record member other otherMember waits otherWaits same
    by_contra apart
    have recordMember := member
    have othersMember := otherMember
    rw [records] at member otherMember
    rcases mem_rewritten member with rfl | ⟨before, -⟩
    · exact differs other othersMember otherWaits (Ne.symm apart) waits same.symm
    · rcases mem_rewritten otherMember with rfl | ⟨otherBefore, -⟩
      · exact differs record recordMember waits apart otherWaits same
      · exact apart (exclusive.single record before other otherBefore waits otherWaits same)
  · intro record member
    rw [records] at member
    rcases mem_rewritten member with rfl | ⟨before, -⟩
    · rw [recorded.subject]
      exact canonical
    · exact exclusive.canonical record before

/-- What does not wait, or is itself the execution, does not keep it from waiting when saved. -/
theorem Admits.save {store left : Store String} {execution other : Execution String}
    (admits : store.Admits execution) (saved : store.save other = .ok left)
    (apart : other.id ≠ execution.id → other.status ≠ .waiting) : left.Admits execution := by
  obtain ⟨-, old, listed, new, named, recorded, -, records⟩ := save_records saved
  refine ⟨?_, admits.canonical⟩
  intro record member differs same
  rw [records] at member
  rcases mem_rewritten member with rfl | ⟨before, -⟩
  · rw [recorded.status]
    rw [recorded.id] at differs
    exact apart differs
  · exact admits.alone record before differs same

/-- A new execution for a subject that nothing waits for leaves at most one execution waiting. -/
theorem Exclusive.create {store left : Store String} {execution : Execution String}
    (exclusive : store.Exclusive) (created : store.create execution = .ok left)
    (canonical : Subject.normalize execution.subject = execution.subject)
    (running : execution.status ≠ .waiting) : left.Exclusive := by
  obtain ⟨-, unused, new, recorded, -, records⟩ := create_records created
  have moving : new.status ≠ .waiting := by rwa [recorded.status]
  refine ⟨exclusive.distinct.create created, ?_, ?_⟩
  · intro record member other otherMember waits otherWaits same
    rw [records, List.mem_append, List.mem_singleton] at member otherMember
    rcases member with before | rfl
    · rcases otherMember with otherBefore | rfl
      · exact exclusive.single record before other otherBefore waits otherWaits same
      · exact absurd otherWaits moving
    · exact absurd waits moving
  · intro record member
    rw [records, List.mem_append, List.mem_singleton] at member
    rcases member with before | rfl
    · exact exclusive.canonical record before
    · rw [recorded.subject]
      exact canonical

end Store

/-- The execution that the desk has in hand. -/
def Hand.execution? : Hand → Option (Execution String)
  | .made _ execution => some execution
  | .roused _ execution _ _ _ => some execution
  | .going _ execution => some execution
  | .empty | .broken .. => none

/-- After an offer, at most the execution that was offered is in hand. -/
theorem Hand.execution?_offered {graph : Flow.Graph} {offered execution : Execution String}
    {taken : Bool} {failure : Failure}
    (held : (Hand.offered graph offered taken failure).execution? = some execution) :
    taken = true ∧ execution = offered := by
  cases taken with
  | true =>
    simp only [Hand.offered] at held
    split at held
    · cases held
      exact ⟨rfl, rfl⟩
    · cases held
  | false => cases held

/-- At most one execution waits for each subject, and the one in hand may come to wait. -/
structure Scene.Exclusive (scene : Scene) : Prop where
  /-- At most one execution waits for each subject. -/
  store : scene.world.store.Exclusive
  /-- What is in hand may come to wait. -/
  hand : ∀ execution, scene.hand.execution? = some execution →
    scene.world.store.Admits execution

namespace Scene

variable {world left : World} {graph : Flow.Graph} {execution handed : Execution String}
  {taken : Bool} {failure : Failure}

/-- With no execution in hand, only the store counts. -/
theorem Exclusive.unhanded {hand : Hand} (store : world.store.Exclusive)
    (none : hand.execution? = none) : Exclusive ⟨world, hand⟩ := by
  refine ⟨store, fun execution held => ?_⟩
  cases none.symm.trans held

/-- An execution in hand that is offered leaves at most one execution waiting. -/
theorem Exclusive.offered {hand : Hand} (exclusive : Exclusive ⟨world, hand⟩)
    (held : hand.execution? = some execution) (continues : execution.Continues handed)
    (offered : Offered handed world taken left) :
    Exclusive ⟨left, .offered graph handed taken failure⟩ := by
  have admits : world.store.Admits handed :=
    (exclusive.hand execution held).congr continues.id continues.subject
  cases offered with
  | taken saved =>
    refine ⟨exclusive.store.save saved admits.canonical fun _ => admits, ?_⟩
    intro other held
    change (Hand.offered graph handed true failure).execution? = some other at held
    obtain ⟨-, rfl⟩ := Hand.execution?_offered held
    exact admits.save saved fun apart => absurd rfl apart
  | refused =>
    refine ⟨exclusive.store, ?_⟩
    rintro other ⟨⟩

/-- A stored execution that is offered, and does not come to wait by that, leaves at most one
execution waiting. -/
theorem Exclusive.stored {hand : Hand} {id : String} {record : Execution String}
    (exclusive : Exclusive ⟨world, hand⟩) (read : world.store.get id = .ok record)
    (continues : record.Continues handed) (rests : handed.status ≠ .waiting)
    (offered : Offered handed world taken left) : Exclusive ⟨left, hand⟩ := by
  have canonical : Subject.normalize handed.subject = handed.subject := by
    rw [continues.subject]
    exact exclusive.store.canonical record (Store.mem_of_get read).1
  cases offered with
  | taken saved =>
    refine ⟨exclusive.store.save saved canonical fun waits => absurd waits rests, ?_⟩
    intro execution held
    exact (exclusive.hand execution held).save saved fun _ => rests
  | refused => exact ⟨exclusive.store, exclusive.hand⟩

/-- A stored execution that waits may come to wait. -/
theorem Exclusive.admits {hand : Hand} {id : String} {record : Execution String}
    (exclusive : Exclusive ⟨world, hand⟩) (read : world.store.get id = .ok record)
    (waits : record.status = .waiting) : world.store.Admits record := by
  have member := (Store.mem_of_get read).1
  refine ⟨?_, exclusive.store.canonical record member⟩
  intro other otherMember apart same otherWaits
  exact apart (exclusive.store.single other otherMember record member otherWaits waits same)

/-- What stirs the world leaves at most one execution waiting. -/
theorem Exclusive.stir {hand : Hand} (exclusive : Exclusive ⟨world, hand⟩)
    (stir : Stir world left) : Exclusive ⟨left, hand⟩ := by
  cases stir with
  | beside same =>
    refine ⟨?_, ?_⟩
    · simp only [same.store]
      exact exclusive.store
    · simp only [same.store]
      exact exclusive.hand
  | @cancelled id record ended taken read moved offered =>
    obtain ⟨-, rfl⟩ := Execution.transition_final_eq rfl moved
    have rests : (record.ended .cancelled world.clock).status ≠ .waiting := by
      rintro ⟨⟩
    exact exclusive.stored read (record.ended_continues .cancelled world.clock) rests offered

/-- A new execution for a subject that nothing waits for may come to wait. -/
theorem Exclusive.created {store : Store String} (exclusive : Exclusive ⟨world, .empty⟩)
    (canonical : Subject.normalize execution.subject = execution.subject)
    (moving : execution.status ≠ .waiting)
    (free : world.store.findWaiting execution.subject = .ok none)
    (made : world.store.create execution = .ok store) :
    Exclusive ⟨{ world with store }, .made graph execution⟩ := by
  refine ⟨exclusive.store.create made canonical moving, ?_⟩
  rintro other ⟨⟩
  refine ⟨?_, canonical⟩
  intro record member differs same
  obtain ⟨-, -, new, recorded, -, records⟩ := Store.create_records made
  obtain ⟨found, search, -, none⟩ := world.store.findWaiting_spec execution.subject
  rw [free] at search
  cases search
  rw [records, List.mem_append, List.mem_singleton] at member
  rcases member with before | rfl
  · exact none rfl record before same
  · exact absurd recorded.id differs

/-- Every move leaves at most one execution waiting for each subject. -/
theorem Exclusive.move {engine : Engine} {scene next : Scene} (move : Move engine scene next)
    (exclusive : scene.Exclusive) : next.Exclusive := by
  cases move with
  | stirred stir => exact exclusive.stir stir
  | timed moment => exact .unhanded exclusive.store rfl
  | registered loaded => exact .unhanded exclusive.store rfl
  | created newest free made =>
    exact exclusive.created (Subject.normalize_ofValue _) (by rintro ⟨⟩) free made
  | @entered world left graph execution taken offered failure =>
    exact exclusive.offered rfl (execution.movedTo_continues graph.start world.clock) offered
  | @roused world id record graph vars label reason reply read waits had =>
    refine ⟨exclusive.store, ?_⟩
    rintro other ⟨⟩
    exact (exclusive.admits read waits).congr rfl rfl
  | @resumed world left graph execution label reason reply taken offered failure =>
    exact exclusive.offered rfl
      (execution.resumed_continues graph label reason reply world.clock) offered
  | @visited world left graph execution handled node result taken found handling offered failure =>
    exact exclusive.offered rfl (handling.continues graph) offered
  | @interrupted world left graph execution taken offered failure =>
    exact exclusive.offered rfl (execution.ended_continues .cancelled world.clock) offered
  | @exhausted world left graph execution taken offered failure =>
    exact exclusive.offered rfl
      (execution.exhausted_continues engine.settings.budget world.clock) offered
  | lost missing failure => exact .unhanded exclusive.store rfl
  | left => exact .unhanded exclusive.store rfl
  | @held world left id record reply taken read waits offered =>
    refine .unhanded ?_ rfl
    have admits : world.store.Admits { record with
        vars := record.vars.set Handler.lastMessage reply, updatedAt := world.clock } :=
      (exclusive.admits read waits).congr rfl rfl
    cases offered with
    | taken saved => exact exclusive.store.save saved admits.canonical fun _ => admits
    | refused => exact exclusive.store
  | @crashed world left id failure record taken read runs offered =>
    have cleared : Exclusive ⟨world, .empty⟩ := .unhanded exclusive.store rfl
    have failed : (record.crashed failure world.clock).status = .failed := rfl
    have rests : (record.crashed failure world.clock).status ≠ .waiting := by
      rw [failed]
      decide
    exact cleared.stored read (record.crashed_continues failure world.clock) rests offered
  | spared spare => exact .unhanded exclusive.store rfl

/-- A desk over an unused store has nothing that waits. -/
theorem Exclusive.start (clock : Time.Moment) {store : Store String} (unused : store.Unused) :
    Exclusive ⟨.start clock store, .empty⟩ := by
  have none : store.records = [] := unused.records
  refine .unhanded ⟨?_, ?_, ?_⟩ rfl <;> simp [World.start, Store.Distinct, none]

end Scene

/-- At most one execution waits for each subject in every world that is reached. -/
theorem World.Reached.exclusive {engine : Engine} {world : World}
    (reached : World.Reached engine world) : world.store.Exclusive :=
  (reached.induct Scene.Exclusive (fun clock _ unused => Scene.Exclusive.start clock unused)
    fun _ _ move => Scene.Exclusive.move move).store

/-- In every world that is reached, at most one execution waits for each subject, and subjects are
in canonical form. A start of a registered flow is rejected exactly when something waits for the
canonical subject, and a start that is refused leaves all but the registry of held subjects. -/
theorem World.Reached.one_conversation {engine : Engine} {world : World}
    (reached : World.Reached engine world) :
    (∀ subject, (world.store.records.filter fun record =>
        record.status == .waiting && record.subject == subject).length ≤ 1) ∧
      (∀ record ∈ world.store.records, Subject.normalize record.subject = record.subject) ∧
      (∀ flow key vars newest, world.flows.latest flow = .ok newest →
        ((∃ subject id left, Desk.start engine.atDesk flow key vars world =
            .error (.alreadyActive subject id) left) ↔
          ∃ record ∈ world.store.records, record.status = .waiting ∧
            record.subject = Subject.ofValue key)) ∧
      ∀ flow key vars failure left,
        Desk.start engine.atDesk flow key vars world = .error failure left →
        failure.refusesStart = true → ∃ subjects, left = { world with subjects } := by
  have exclusive := reached.exclusive
  refine ⟨exclusive.count, exclusive.canonical, ?_, ?_⟩
  · intro flow key vars newest registered
    exact Desk.start_rejected_iff key vars registered rfl
  · intro flow key vars failure left failed refused
    exact Desk.start_refused key vars rfl failed refused

/-- A subject that was asked waits, alone. -/
theorem World.asked_one_conversation :
    Reached .quiet asked ∧
      (∃ record ∈ asked.store.records, record.status = .waiting ∧ record.subject = "316") ∧
      ∀ subject, (asked.store.records.filter fun record =>
        record.status == .waiting && record.subject == subject).length ≤ 1 :=
  ⟨asked_reached, by decide +kernel, (World.Reached.one_conversation asked_reached).1⟩

end Parley
