import Parley.Proofs.Graphs
import Parley.Proofs.Waiting

/-!
# History

What a call leaves of the records that were there before it. An execution in hand goes on from its
record, so saving it only adds to the log of that record; nobody takes an execution in hand that has
ended. This holds whatever the store refuses, since a refused execution is no longer in hand.
-/

namespace Parley

open Parley.Computation World

namespace Store

/-- No record is of version zero, as it is read. -/
theorem version_ne_zero {store : Store String} {record : Execution String}
    (member : record ∈ store.records) : record.version ≠ 0 := by
  cases store with
  | memory store =>
    obtain ⟨stored, -, rfl⟩ := List.mem_map.mp member
    simp only [Memory.fresh]
    split <;> omega
  | table store =>
    obtain ⟨stored, -, rfl⟩ := List.mem_map.mp member
    simp only [Table.fresh]
    split <;> omega

/-- An execution goes on from a record: it is the same run, and the record keeps the beginning of
its log. -/
structure Backs (store : Store String) (record execution : Execution String) : Prop where
  /-- They have the same id. -/
  id : record.id = execution.id
  /-- They are of the same flow. -/
  flow : record.flow = execution.flow
  /-- They are of the same version. -/
  version : record.version = execution.version
  /-- The version counts from one. -/
  counted : execution.version ≠ 0
  /-- They talk to the same subject. -/
  subject : record.subject = execution.subject
  /-- They began at the same time. -/
  createdAt : record.createdAt = execution.createdAt
  /-- The record keeps the beginning of the log. -/
  log : ∃ handed, store.Keeps record.log handed ∧ handed <+: execution.log

variable {store left : Store String} {record execution : Execution String}

/-- A record backs itself. -/
theorem Backs.refl (member : record ∈ store.records) : store.Backs record record :=
  ⟨rfl, rfl, rfl, version_ne_zero member, rfl, rfl, record.log, .refl store record.log,
    List.prefix_rfl⟩

/-- A record that backs an execution backs it when it has gone on. -/
theorem Backs.continues {later : Execution String} (backs : store.Backs record execution)
    (continues : execution.Continues later) : store.Backs record later := by
  obtain ⟨handed, keeps, begins⟩ := backs.log
  refine ⟨backs.id.trans continues.id.symm, backs.flow.trans continues.flow.symm,
    backs.version.trans continues.version.symm, ?_, backs.subject.trans continues.subject.symm,
    backs.createdAt.trans continues.createdAt.symm, handed, keeps, begins.trans continues.log⟩
  rw [continues.version]
  exact backs.counted

/-- A record backs an execution in every store of one kind, and so does one that goes on from it
without telling more. -/
theorem Backs.congr {other : Execution String} (backs : store.Backs record execution)
    (kind : left.inTables = store.inTables) (continues : record.Continues other)
    (log : other.log = record.log) : left.Backs other execution := by
  obtain ⟨handed, keeps, begins⟩ := backs.log
  refine ⟨continues.id.trans backs.id, continues.flow.trans backs.flow,
    continues.version.trans backs.version, backs.counted, continues.subject.trans backs.subject,
    continues.createdAt.trans backs.createdAt, handed, ?_, begins⟩
  rw [log]
  exact keeps.congr kind

/-- Saving an execution that is backed lets its record go on, and keeps its whole log. -/
theorem Backs.saved (backs : store.Backs record execution) (distinct : store.Distinct)
    (member : record ∈ store.records) (saved : store.save execution = .ok left) :
    ∃ new, Recorded execution new ∧ record.Continues new ∧ left.Keeps new.log execution.log ∧
      left.inTables = store.inTables ∧ left.records = rewritten store.records new := by
  obtain ⟨kind, old, listed, new, named, recorded, grows, records⟩ := save_records saved
  have same : old = record := distinct.unique listed member (named.trans backs.id.symm)
  subst same
  obtain ⟨handed, keeps, tail, log⟩ := backs.log
  obtain ⟨rows, more, grown⟩ := grows handed tail keeps log.symm
  refine ⟨new, recorded, ?_, ?_, kind, records⟩
  · refine ⟨recorded.id.trans backs.id.symm, recorded.flow.trans backs.flow.symm,
      (recorded.version backs.counted).trans backs.version.symm,
      recorded.subject.trans backs.subject.symm, recorded.createdAt.trans backs.createdAt.symm, ?_⟩
    rw [grown]
    exact List.prefix_append _ _
  · rw [grown, ← log]
    exact (keeps.append more).congr kind

/-- A record that was saved in full backs what was saved. -/
theorem Recorded.backs {new : Execution String} (recorded : Recorded execution new)
    (counted : execution.version ≠ 0) (keeps : left.Keeps new.log execution.log) :
    left.Backs new execution :=
  ⟨recorded.id, recorded.flow, recorded.version counted, counted, recorded.subject,
    recorded.createdAt, execution.log, keeps, List.prefix_rfl⟩

end Store

/-- What may move to another status is not final. -/
theorem Status.not_final_of_next {status other : Status} (allowed : other ∈ status.next) :
    status.isFinal = false := by
  cases status <;> first
    | rfl
    | cases allowed

namespace Execution

/-- Every execution goes on from itself. -/
theorem Continues.refl (execution : Execution String) : execution.Continues execution :=
  ⟨rfl, rfl, rfl, rfl, rfl, List.prefix_rfl⟩

/-- An execution goes on when its variables change. -/
theorem set_continues (execution : Execution String) (vars : Variables) (now : Time.Moment) :
    execution.Continues { execution with vars, updatedAt := now } :=
  ⟨rfl, rfl, rfl, rfl, rfl, List.prefix_rfl⟩

/-- None of some records of an id has ended. -/
def Open (before : List (Execution String)) (id : String) : Prop :=
  ∀ old ∈ before, old.id = id → old.status.isFinal = false

end Execution

/-- Records that were there before are still there: they went on, and are the same if they had
ended. What is in hand goes on from its record, and had not ended before. -/
structure Scene.Preserves (before : List (Execution String)) (scene : Scene) : Prop where
  /-- The ids in the store are distinct. -/
  distinct : scene.world.store.Distinct
  /-- What is in hand goes on from a record. -/
  backed : ∀ execution, scene.hand.execution? = some execution →
    ∃ record ∈ scene.world.store.records, scene.world.store.Backs record execution
  /-- What is in hand had not ended. -/
  unended : ∀ execution, scene.hand.execution? = some execution →
    Execution.Open before execution.id
  /-- The records from before went on, or stayed if they had ended. -/
  kept : ∀ old ∈ before, ∃ record ∈ scene.world.store.records, old.Continues record ∧
    (old.status.isFinal = true → record = old)

namespace Scene

variable {before : List (Execution String)} {world left : World} {hand : Hand}
  {record execution handed : Execution String} {taken : Bool}

/-- With no execution in hand, only the store counts. -/
theorem Preserves.unhanded (distinct : world.store.Distinct)
    (kept : ∀ old ∈ before, ∃ record ∈ world.store.records, old.Continues record ∧
      (old.status.isFinal = true → record = old))
    (none : hand.execution? = none) : Preserves before ⟨world, hand⟩ := by
  refine ⟨distinct, ?_, ?_, kept⟩
  · intro execution held
    cases none.symm.trans held
  · intro execution held
    cases none.symm.trans held

/-- A record that has not ended had not ended before. -/
theorem Preserves.opened (preserves : Preserves before ⟨world, hand⟩)
    (member : record ∈ world.store.records) (running : record.status.isFinal = false) :
    Execution.Open before record.id := by
  intro old listed named
  by_contra final
  rw [Bool.not_eq_false] at final
  obtain ⟨later, kept, continues, same⟩ := preserves.kept old listed
  have unique : later = record :=
    preserves.distinct.unique kept member (continues.id.trans named)
  rw [← unique, same final, final] at running
  cases running

/-- Saving an execution that is backed and had not ended keeps the records from before. -/
theorem Preserves.saved {store : Store String} (preserves : Preserves before ⟨world, hand⟩)
    (member : record ∈ world.store.records) (backs : world.store.Backs record handed)
    (unended : Execution.Open before handed.id) (saved : world.store.save handed = .ok store) :
    ∀ old ∈ before, ∃ record ∈ store.records, old.Continues record ∧
      (old.status.isFinal = true → record = old) := by
  obtain ⟨new, recorded, continues, -, -, records⟩ :=
    backs.saved preserves.distinct member saved
  intro old listed
  obtain ⟨later, kept, went, same⟩ := preserves.kept old listed
  rw [records]
  by_cases named : later.id = handed.id
  · have unique : later = record :=
      preserves.distinct.unique kept member (named.trans backs.id.symm)
    subst unique
    have running := unended old listed (went.id.symm.trans named)
    refine ⟨new, Store.mem_rewritten_self kept continues.id.symm, went.trans continues, ?_⟩
    intro final
    rw [running] at final
    cases final
  · rw [← recorded.id] at named
    exact ⟨later, Store.mem_rewritten_of_ne kept named, went, same⟩

/-- An execution in hand that is offered keeps the records from before. -/
theorem Preserves.offered {graph : Flow.Graph} {failure : Failure}
    (preserves : Preserves before ⟨world, hand⟩) (held : hand.execution? = some execution)
    (continues : execution.Continues handed) (offered : Offered handed world taken left) :
    Preserves before ⟨left, .offered graph handed taken failure⟩ := by
  obtain ⟨record, member, backs⟩ := preserves.backed execution held
  have unended : Execution.Open before handed.id := by
    rw [continues.id]
    exact preserves.unended execution held
  cases offered with
  | taken saved =>
    have backed := backs.continues continues
    obtain ⟨new, recorded, went, keeps, -, records⟩ :=
      backed.saved preserves.distinct member saved
    have kept := preserves.saved member backed unended saved
    refine ⟨preserves.distinct.save saved, ?_, ?_, kept⟩
    · intro other (inHand : (Hand.offered graph handed true failure).execution? = some other)
      obtain ⟨-, rfl⟩ := Hand.execution?_offered inHand
      refine ⟨new, ?_, recorded.backs backed.counted keeps⟩
      simp only [records]
      exact Store.mem_rewritten_self member went.id.symm
    · intro other (inHand : (Hand.offered graph handed true failure).execution? = some other)
      obtain ⟨-, rfl⟩ := Hand.execution?_offered inHand
      exact unended
  | refused => exact .unhanded preserves.distinct preserves.kept rfl

/-- A stored execution that has not ended and is offered keeps the records from before. -/
theorem Preserves.stored {id : String} (preserves : Preserves before ⟨world, hand⟩)
    (read : world.store.get id = .ok record) (running : record.status.isFinal = false)
    (continues : record.Continues handed) (offered : Offered handed world taken left) :
    Preserves before ⟨left, .empty⟩ := by
  have member := (Store.mem_of_get read).1
  have backs := (Store.Backs.refl member).continues continues
  have unended : Execution.Open before handed.id := by
    rw [continues.id]
    exact preserves.opened member running
  cases offered with
  | taken saved =>
    exact .unhanded (preserves.distinct.save saved)
      (preserves.saved member backs unended saved) rfl
  | refused => exact .unhanded preserves.distinct preserves.kept rfl

/-- Cancelling keeps the records from before, and what is in hand. -/
theorem Preserves.cancelled {id : String} (preserves : Preserves before ⟨world, hand⟩)
    (read : world.store.get id = .ok record) (running : record.status.isFinal = false)
    (offered : Offered (record.ended .cancelled world.clock) world taken left) :
    Preserves before ⟨left, hand⟩ := by
  have member := (Store.mem_of_get read).1
  have continues := record.ended_continues .cancelled world.clock
  have backs := (Store.Backs.refl member).continues continues
  have alone := preserves.stored read running continues offered
  refine ⟨alone.distinct, ?_, preserves.unended, alone.kept⟩
  intro execution held
  obtain ⟨base, listed, based⟩ := preserves.backed execution held
  cases offered with
  | taken saved =>
    obtain ⟨new, recorded, went, keeps, kind, records⟩ :=
      backs.saved preserves.distinct member saved
    simp only [records]
    by_cases named : base.id = record.id
    · have unique : base = record := preserves.distinct.unique listed member named
      subst unique
      have same : new.log = base.log :=
        (went.log.eq_of_length keeps.echoes.length_eq.symm).symm
      exact ⟨new, Store.mem_rewritten_self member went.id.symm, based.congr kind went same⟩
    · rw [← went.id] at named
      exact ⟨base, Store.mem_rewritten_of_ne listed named, based.congr kind (.refl base) rfl⟩
  | refused => exact ⟨base, listed, based⟩

/-- What stirs the world keeps the records from before, and what is in hand. -/
theorem Preserves.stir (preserves : Preserves before ⟨world, hand⟩) (stir : Stir world left) :
    Preserves before ⟨left, hand⟩ := by
  cases stir with
  | beside same =>
    refine ⟨?_, ?_, preserves.unended, ?_⟩
    · simp only [same.store]
      exact preserves.distinct
    · simp only [same.store]
      exact preserves.backed
    · simp only [same.store]
      exact preserves.kept
  | @cancelled id record ended taken read moved offered =>
    obtain ⟨allowed, rfl⟩ := Execution.transition_final_eq rfl moved
    exact preserves.cancelled read (Status.not_final_of_next allowed) offered

/-- Making an execution keeps the records from before. -/
theorem Preserves.created {graph : Flow.Graph} {store : Store String}
    (preserves : Preserves before ⟨world, .empty⟩) (counted : execution.version ≠ 0)
    (made : world.store.create execution = .ok store) :
    Preserves before ⟨{ world with store }, .made graph execution⟩ := by
  obtain ⟨kind, unused, new, recorded, keeps, records⟩ := Store.create_records made
  refine ⟨preserves.distinct.create made, ?_, ?_, ?_⟩
  · rintro other ⟨⟩
    refine ⟨new, ?_, recorded.backs counted (keeps.congr kind)⟩
    simp only [records, List.mem_append, List.mem_singleton, or_true]
  · rintro other ⟨⟩ old listed named
    obtain ⟨record, kept, continues, -⟩ := preserves.kept old listed
    exact absurd (List.mem_map.mpr ⟨record, kept, continues.id.trans named⟩) unused
  · intro old listed
    obtain ⟨record, kept, continues, same⟩ := preserves.kept old listed
    refine ⟨record, ?_, continues, same⟩
    simp only [records, List.mem_append, kept, true_or]

/-- Every move keeps the records from before. -/
theorem Preserves.move {engine : Engine} {scene next : Scene} (move : Move engine scene next)
    (preserves : Preserves before scene) : Preserves before next := by
  cases move with
  | stirred stir => exact preserves.stir stir
  | timed moment => exact .unhanded preserves.distinct preserves.kept rfl
  | registered loaded => exact .unhanded preserves.distinct preserves.kept rfl
  | created newest free made =>
    have counts := (Flow.Registry.get_latest newest).1
    exact preserves.created (by simp [Execution.new]; omega) made
  | @entered world left graph execution taken offered failure =>
    exact preserves.offered rfl (execution.movedTo_continues graph.start world.clock) offered
  | @roused world id record graph vars label reason reply read waits had =>
    have member := (Store.mem_of_get read).1
    have running : record.status.isFinal = false := by rw [waits]; rfl
    have continues := record.set_continues vars record.updatedAt
    have unended : Execution.Open before record.id := preserves.opened member running
    refine ⟨preserves.distinct, ?_, ?_, preserves.kept⟩
    · rintro other ⟨⟩
      exact ⟨record, member, (Store.Backs.refl member).continues continues⟩
    · rintro other ⟨⟩
      exact unended
  | @resumed world left graph execution label reason reply taken offered failure =>
    exact preserves.offered rfl
      (execution.resumed_continues graph label reason reply world.clock) offered
  | @visited world left graph execution handled node result taken found handling offered failure =>
    exact preserves.offered rfl (handling.continues graph) offered
  | @interrupted world left graph execution taken offered failure =>
    exact preserves.offered rfl (execution.ended_continues .cancelled world.clock) offered
  | @exhausted world left graph execution taken offered failure =>
    exact preserves.offered rfl
      (execution.exhausted_continues engine.settings.budget world.clock) offered
  | lost missing failure => exact .unhanded preserves.distinct preserves.kept rfl
  | left => exact .unhanded preserves.distinct preserves.kept rfl
  | @held world left id record reply taken read waits offered =>
    have running : record.status.isFinal = false := by rw [waits]; rfl
    exact preserves.stored read running (record.set_continues _ world.clock) offered
  | @crashed world left id failure record taken read runs offered =>
    have running : record.status.isFinal = false := by rw [runs]; rfl
    exact preserves.stored read running (record.crashed_continues failure world.clock) offered
  | spared spare => exact .unhanded preserves.distinct preserves.kept rfl

/-- The records of a store with distinct ids are there before anything is done. -/
theorem Preserves.start (distinct : world.store.Distinct) :
    Preserves world.store.records ⟨world, .empty⟩ :=
  .unhanded distinct (fun old listed => ⟨old, listed, .refl old, fun _ => rfl⟩) rfl

end Scene

/-- A call on a world that is reached leaves every record in the store as the only one of its id:
it is the same run, its log only grows, and a record that had ended stays what it was. -/
theorem World.Reached.history_kept {engine : Engine} {world : World}
    (reached : World.Reached engine world) (call : Call) :
    (after (call.perform engine) world).store.Distinct ∧
      ∀ record ∈ world.store.records,
        ∃ later ∈ (after (call.perform engine) world).store.records,
          record.Continues later ∧ (record.status.isFinal = true → later = record) := by
  have start := Scene.Preserves.start reached.exclusive.distinct
  have preserves := Moves.keep (fun _ _ move => Scene.Preserves.move move)
    (Call.perform_serves engine call world) start
  exact ⟨preserves.distinct, preserves.kept⟩

/-- A reply lets the record of a subject that was asked go on, and ends it. -/
theorem World.asked_history_kept :
    Reached .quiet asked ∧
      (∃ record ∈ asked.store.records, record.log.length = 7) ∧
      (∀ record ∈ asked.store.records,
        ∃ later ∈ (after (Call.perform .quiet (.inbound (.text "316") (.text "Fine!")))
          asked).store.records, record.Continues later) ∧
      ∃ later ∈ (after (Call.perform .quiet (.inbound (.text "316") (.text "Fine!")))
        asked).store.records, later.status = .completed ∧ later.log.length = 10 := by
  refine ⟨asked_reached, by decide +kernel, ?_, by decide +kernel⟩
  intro record member
  obtain ⟨later, kept, continues, -⟩ :=
    (World.Reached.history_kept asked_reached (.inbound (.text "316") (.text "Fine!"))).2
      record member
  exact ⟨later, kept, continues⟩

end Parley
