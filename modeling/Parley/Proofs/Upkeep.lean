import Parley.Proofs.Due
import Parley.Proofs.History

/-!
# What stored waits can count on

In every world that is reached, the version of the flow that a record is a run of is registered, and
tables hold deadlines in universal time. So a store that can compare its deadlines with a moment
lists what is due, and all that is due can go on.
-/

namespace Parley

open Parley.Computation World Time

namespace Store

/-- All deadlines that are kept have a property. -/
def Dated (property : Moment → Prop) (store : Store String) : Prop :=
  ∀ record ∈ store.records, ∀ deadline, record.deadline = some deadline → property deadline

/-- Deadlines that are kept in tables are in universal time. -/
def Universal (store : Store String) : Prop := store.inTables = true → store.Dated Moment.IsUtc

/-- What a store of a kind copies of the variables and the times of an execution. -/
structure Copies (tables : Bool) (handed kept : Execution String) : Prop where
  /-- In memory the variables are kept as plain copies. -/
  vars : tables = false → kept.vars = handed.vars.kept
  /-- In memory the deadline is kept as it is. -/
  deadline : tables = false → kept.deadline = handed.deadline
  /-- In tables the variables are kept as a document. -/
  documented : tables = true → Table.variablesColumn handed.vars = .ok kept.vars
  /-- In tables the deadline is kept in universal time. -/
  universal : tables = true → Table.deadlineColumn handed.deadline = .ok kept.deadline
  /-- The time of the change is kept. -/
  updatedAt : kept.updatedAt = handed.updatedAt

/-- What is copied in memory. -/
theorem Copies.memory {handed kept : Execution String} (vars : kept.vars = handed.vars.kept)
    (deadline : kept.deadline = handed.deadline) (updatedAt : kept.updatedAt = handed.updatedAt) :
    Copies false handed kept where
  vars _ := vars
  deadline _ := deadline
  documented tables := by cases tables
  universal tables := by cases tables
  updatedAt := updatedAt

/-- What is copied in tables. -/
theorem Copies.tables {handed kept : Execution String}
    (documented : Table.variablesColumn handed.vars = .ok kept.vars)
    (universal : Table.deadlineColumn handed.deadline = .ok kept.deadline)
    (updatedAt : kept.updatedAt = handed.updatedAt) : Copies true handed kept where
  vars memory := by cases memory
  deadline memory := by cases memory
  documented _ := documented
  universal _ := universal
  updatedAt := updatedAt

/-- Rows copy what was handed over. -/
theorem Table.columns_copies {shift : Nat} {execution prepared row : Execution String}
    (made : documents execution = .ok prepared) (kept : columns shift prepared = .ok row) :
    Copies true execution row := by
  simp only [documents, keywordsColumn_texts, bind_eq_ok, pure_eq_ok, Except.ok.injEq,
    exists_eq_left'] at made
  obtain ⟨vars, written, deadline, moved, rfl⟩ := made
  simp only [columns, optionalColumn_text, Name.column, bind_eq_ok, pure_eq_ok, Except.ok.injEq,
    exists_eq_left'] at kept
  obtain ⟨version, -, rfl⟩ := kept
  exact .tables written moved rfl

/-- Saving rewrites a record by a copy. -/
theorem save_copies {store left : Store String} {execution : Execution String}
    (saved : store.save execution = .ok left) :
    ∃ new, new.id = execution.id ∧ Copies store.inTables execution new ∧
      left.records = rewritten store.records new := by
  cases store with
  | memory store =>
    simp only [Store.save, map_eq_ok] at saved
    obtain ⟨memory, saved, rfl⟩ := saved
    obtain ⟨-, -, -, -, records⟩ := Memory.save_records saved
    exact ⟨Memory.fresh (Memory.kept execution), rfl, .memory rfl rfl rfl, records⟩
  | table store =>
    simp only [Store.save, map_eq_ok, Table.save, Name.column, bind_eq_ok, Except.ok.injEq,
      exists_eq_left'] at saved
    obtain ⟨table, ⟨prepared, made, row, counted, saved⟩, rfl⟩ := saved
    have copies := Table.columns_copies made counted
    split at saved
    · simp only [throw_eq_ok] at saved
    · rename_i stored found
      simp only [bind_eq_ok, pure_eq_ok] at saved
      obtain ⟨-, -, rows, -, rfl⟩ := saved
      exact ⟨Table.fresh { row with id := execution.id, log := stored.log ++ rows }, rfl,
        .tables (copies.documented rfl) (copies.universal rfl) copies.updatedAt,
        map_rewritten Table.fresh (fun _ => rfl) store.rows rfl⟩

/-- Creating adds a copy. -/
theorem create_copies {store left : Store String} {execution : Execution String}
    (created : store.create execution = .ok left) :
    ∃ new, Copies store.inTables execution new ∧ left.records = store.records ++ [new] := by
  cases store with
  | memory store =>
    simp only [Store.create, map_eq_ok] at created
    obtain ⟨memory, created, rfl⟩ := created
    obtain ⟨-, -, records⟩ := Memory.create_records created
    exact ⟨Memory.fresh (Memory.kept execution), .memory rfl rfl rfl, records⟩
  | table store =>
    simp only [Store.create, map_eq_ok, Table.create, Name.column, bind_eq_ok, Except.ok.injEq,
      exists_eq_left'] at created
    obtain ⟨table, ⟨prepared, made, row, counted, -, -, created⟩, rfl⟩ := created
    have copies := Table.columns_copies made counted
    split at created
    · simp [bind, Except.bind, throw, throwThe, MonadExceptOf.throw] at created
    · simp only [bind_eq_ok, pure_eq_ok] at created
      obtain ⟨log, -, rfl⟩ := created
      refine ⟨Table.fresh { row with id := prepared.id, log },
        .tables (copies.documented rfl) (copies.universal rfl) copies.updatedAt, ?_⟩
      rw [Store.records, List.map_append]
      rfl

/-- A deadline in universal time is told in universal time. -/
theorem Table.deadlineColumn_universal {deadline kept : Option Moment}
    (written : deadlineColumn deadline = .ok kept) :
    ∀ moment, kept = some moment → moment.IsUtc := by
  rintro moment rfl
  cases deadline with
  | none => cases written
  | some given =>
    simp only [deadlineColumn, bind_eq_ok, pure_eq_ok] at written
    obtain ⟨utc, found, same⟩ := written
    cases same
    unfold toUtc at found
    split at found
    · rename_i brought
      cases found
      exact Moment.isUtc_of_toUtc brought
    · cases found

/-- An unused store keeps no deadlines. -/
theorem Unused.dated {store : Store String} (unused : store.Unused) (property : Moment → Prop) :
    store.Dated property := by
  intro record member
  rw [unused.records] at member
  cases member

/-- What is kept of a deadline has a property: in memory that is the deadline itself, and in tables
it may be any moment in universal time. -/
structure Dates (property : Moment → Prop) (store : Store String) (execution : Execution String) :
    Prop where
  /-- In memory the deadline has the property. -/
  memory : store.inTables = false →
    ∀ deadline, execution.deadline = some deadline → property deadline
  /-- In tables every moment in universal time has it. -/
  tables : store.inTables = true → ∀ deadline : Moment, deadline.IsUtc → property deadline

variable {property : Moment → Prop} {store left : Store String} {execution : Execution String}

/-- What is copied of a deadline has the property that what is kept of it has. -/
theorem Dates.copied {kept : Execution String} (dates : store.Dates property execution)
    (copies : Copies store.inTables execution kept) :
    ∀ deadline, kept.deadline = some deadline → property deadline := by
  intro deadline until?
  cases kind : store.inTables with
  | false => exact dates.memory kind deadline ((copies.deadline kind).symm.trans until?)
  | true =>
    have written := copies.universal kind
    exact dates.tables kind deadline (Table.deadlineColumn_universal written deadline until?)

/-- Saving keeps a property of the deadlines if what is kept of the deadline has it. -/
theorem Dated.save (dated : store.Dated property) (dates : store.Dates property execution)
    (saved : store.save execution = .ok left) : left.Dated property := by
  obtain ⟨new, -, copies, records⟩ := save_copies saved
  intro record member
  rw [records] at member
  rcases mem_rewritten member with rfl | ⟨before, -⟩
  · exact dates.copied copies
  · exact dated record before

/-- Creating keeps a property of the deadlines if what is kept of the deadline has it. -/
theorem Dated.create (dated : store.Dated property) (dates : store.Dates property execution)
    (created : store.create execution = .ok left) : left.Dated property := by
  obtain ⟨new, copies, records⟩ := create_copies created
  intro record member
  rw [records] at member
  rcases List.mem_append.mp member with before | added
  · exact dated record before
  · rw [List.mem_singleton.mp added]
    exact dates.copied copies

/-- What tables keep of a deadline is in universal time. -/
theorem dates_universal (execution : Execution String) (tables : store.inTables = true) :
    store.Dates Moment.IsUtc execution :=
  ⟨fun memory => absurd tables (by simp [memory]), fun _ _ utc => utc⟩

/-- Saving keeps deadlines in universal time. -/
theorem Universal.save (universal : store.Universal) (saved : store.save execution = .ok left) :
    left.Universal := by
  intro tables
  rw [(save_records saved).1] at tables
  exact (universal tables).save (dates_universal execution tables) saved

/-- Creating keeps deadlines in universal time. -/
theorem Universal.create (universal : store.Universal)
    (created : store.create execution = .ok left) : left.Universal := by
  intro tables
  rw [(create_records created).1] at tables
  exact (universal tables).create (dates_universal execution tables) created

/-- A store can tell what is due at a moment: the deadlines of what waits can be compared with it,
and tables can bring it to universal time. -/
structure Compares (store : Store String) (now : Moment) : Prop where
  /-- The deadlines of what waits can be compared with it. -/
  comparable : ∀ record ∈ store.records, record.Comparable now
  /-- Tables can bring it to universal time. -/
  universal : store.inTables = true → now.toUtc?.isSome = true

/-- The ids of what is due are those of records that are due. -/
theorem mem_due {now : Moment} {ids : List String}
    (perm : ids.Perm ((store.records.filter (Execution.isDue now)).map Execution.id))
    (id : String) : id ∈ ids ↔ ∃ record ∈ store.records, record.id = id ∧
      record.isDue now = true := by
  rw [perm.mem_iff]
  simp only [List.mem_map, List.mem_filter, and_assoc, and_comm]

/-- A store that can tell what is due lists that. -/
theorem Compares.lists {now : Moment} (compares : store.Compares now)
    (universal : store.Universal) :
    ∃ ids, store.listDue now = .ok ids ∧
      ids.Perm ((store.records.filter (Execution.isDue now)).map Execution.id) := by
  cases store with
  | memory store =>
    have comparable : ∀ record ∈ store.records, record.Comparable now :=
      fun record member => compares.comparable (Memory.fresh record) (List.mem_map_of_mem member)
    obtain ⟨sorted, listed, perm, -⟩ := Memory.listDue_spec.2 comparable
    refine ⟨_, listed, (perm.map Prod.snd).trans (.of_eq ?_)⟩
    rw [records, List.filter_map, List.map_map, List.map_map]
    rfl
  | table store =>
    obtain ⟨utc, brought⟩ := Option.isSome_iff_exists.mp (compares.universal rfl)
    have deadlines : ∀ row ∈ store.rows, ∀ deadline, row.deadline = some deadline →
        deadline.IsUtc :=
      fun row member => universal rfl (Table.fresh row) (List.mem_map_of_mem member)
    refine ⟨_, Table.listDue_eq brought deadlines, ?_⟩
    rw [records, List.filter_map, List.map_map]
    exact (List.mergeSort_perm _ _).map _

end Store

/-- The flow of which an execution is a run is registered in its version. -/
def Flow.Registry.Knows (flows : Flow.Registry) (execution : Execution String) : Prop :=
  ∃ graph, flows.get execution.flow execution.version = .ok graph

/-- Every record is of a version of a flow that is registered, and tables hold deadlines in
universal time. -/
structure Scene.Upheld (scene : Scene) : Prop where
  /-- The flows keep the rules. -/
  flows : scene.world.flows.Sound
  /-- What is in hand goes on from a record. -/
  backed : scene.Preserves []
  /-- The flows of the records are registered. -/
  known : ∀ record ∈ scene.world.store.records, scene.world.flows.Knows record
  /-- Deadlines in tables are in universal time. -/
  universal : scene.world.store.Universal

namespace Scene.Upheld

variable {engine : Engine} {world left : World} {hand next : Hand}
  {record execution handed : Execution String} {taken : Bool}

/-- An offer of an execution that goes on from a record is of the same flow. -/
theorem offered (upheld : Upheld ⟨world, hand⟩) (member : record ∈ world.store.records)
    (backs : world.store.Backs record handed) (offered : Offered handed world taken left)
    (backed : Preserves [] ⟨left, next⟩) : Upheld ⟨left, next⟩ := by
  cases offered with
  | taken saved =>
    obtain ⟨new, -, continues, -, -, records⟩ := backs.saved upheld.backed.distinct member saved
    refine ⟨upheld.flows, backed, fun other listed => ?_, upheld.universal.save saved⟩
    rw [records] at listed
    rcases Store.mem_rewritten listed with rfl | ⟨before, -⟩
    · have known := upheld.known record member
      unfold Flow.Registry.Knows at known ⊢
      rwa [continues.flow, continues.version]
    · exact upheld.known other before
  | refused => exact ⟨upheld.flows, backed, upheld.known, upheld.universal⟩

/-- An offer of what is in hand is of the same flow. -/
theorem inHand (upheld : Upheld ⟨world, hand⟩) (held : hand.execution? = some execution)
    (continues : execution.Continues handed) (offer : Offered handed world taken left)
    (backed : Preserves [] ⟨left, next⟩) : Upheld ⟨left, next⟩ := by
  obtain ⟨record, member, backs⟩ := upheld.backed.backed execution held
  exact upheld.offered member (backs.continues continues) offer backed

/-- An offer of what is stored is of the same flow. -/
theorem stored {id : String} (upheld : Upheld ⟨world, hand⟩)
    (read : world.store.get id = .ok record) (continues : record.Continues handed)
    (offer : Offered handed world taken left) (backed : Preserves [] ⟨left, next⟩) :
    Upheld ⟨left, next⟩ := by
  have member := (Store.mem_of_get read).1
  exact upheld.offered member ((Store.Backs.refl member).continues continues) offer backed

/-- Every move upholds what waits can count on. -/
theorem move {scene next : Scene} (move : Move engine scene next) (upheld : Upheld scene) :
    Upheld next := by
  have backed : Preserves [] next := upheld.backed.move move
  cases move with
  | stirred stir =>
    cases stir with
    | beside same =>
      refine ⟨?_, backed, ?_, ?_⟩
      · simp only [same.flows]
        exact upheld.flows
      · simp only [same.store, same.flows]
        exact upheld.known
      · simp only [same.store]
        exact upheld.universal
    | cancelled read moved offered =>
      obtain ⟨-, rfl⟩ := Execution.transition_final_eq rfl moved
      exact upheld.stored read (Execution.ended_continues _ .cancelled _) offered backed
  | registered loaded =>
    refine ⟨upheld.flows.add (Flow.load_sound loaded), backed, fun record member => ?_,
      upheld.universal⟩
    obtain ⟨graph, had⟩ := upheld.known record member
    exact ⟨graph, Flow.Registry.get_add had _⟩
  | @created world flow id graph version key vars store newest free made =>
    obtain ⟨counts, had⟩ := Flow.Registry.get_latest newest
    have named : graph.id = flow := (upheld.flows flow graph (Flow.Registry.mem_of_get had)).2
    obtain ⟨-, -, new, recorded, -, records⟩ := Store.create_records made
    refine ⟨upheld.flows, backed, fun record member => ?_, upheld.universal.create made⟩
    simp only [records, List.mem_append, List.mem_singleton] at member
    rcases member with before | rfl
    · exact upheld.known record before
    · refine ⟨graph, ?_⟩
      rw [recorded.flow, recorded.version (by simp [Execution.new]; omega)]
      rw [← named] at had
      exact had
  | @entered world left graph execution taken offered failure =>
    exact upheld.inHand rfl (execution.movedTo_continues graph.start world.clock) offered backed
  | @resumed world left graph execution label reason reply taken offered failure =>
    exact upheld.inHand rfl
      (execution.resumed_continues graph label reason reply world.clock) offered backed
  | @visited world left graph execution handled node result taken found handling offered failure =>
    exact upheld.inHand rfl (handling.continues graph) offered backed
  | @interrupted world left graph execution taken offered failure =>
    exact upheld.inHand rfl (execution.ended_continues .cancelled world.clock) offered backed
  | @exhausted world left graph execution taken offered failure =>
    exact upheld.inHand rfl
      (execution.exhausted_continues engine.settings.budget world.clock) offered backed
  | @held world left id record reply taken read waits offered =>
    exact upheld.stored read (record.set_continues _ world.clock) offered backed
  | @crashed world left id failure record taken read runs offered =>
    exact upheld.stored read (record.crashed_continues failure world.clock) offered backed
  | timed | roused | lost | left | spared =>
    exact ⟨upheld.flows, backed, upheld.known, upheld.universal⟩

end Scene.Upheld

/-- In every world that is reached, the flow of every record is registered in its version, and
tables hold deadlines in universal time. -/
theorem World.Reached.upheld {engine : Engine} {world : World} (reached : Reached engine world) :
    Scene.Upheld ⟨world, .empty⟩ := by
  refine reached.induct Scene.Upheld (fun clock store unused => ?_)
    fun _ _ move => Scene.Upheld.move move
  have none : store.records = [] := unused.records
  have start := Scene.Preserves.start (Scene.Exclusive.start clock unused).store.distinct
  simp only [World.start, none] at start
  refine ⟨Flow.Registry.sound_empty, start, ?_, fun _ => unused.dated Moment.IsUtc⟩
  simp [World.start, none]

end Parley
