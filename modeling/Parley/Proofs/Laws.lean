import Parley.Proofs.History

/-!
# Laws of executions

A law speaks of an execution and the graph that it runs through. If every step that the engine takes
on an execution keeps a law, and stores keep it too, then all executions that are ever offered to a
store obey it, and so do all records, as long as the store refuses nothing. The steps are those on
the built-in types of nodes.
-/

namespace Parley

open Parley.Computation World Handler

/-- An execution stands at a node of a graph. -/
def Execution.Placed (graph : Flow.Graph) (execution : Execution String) : Prop :=
  ∃ node, execution.node.bind graph.node? = some node

namespace Flow.Graph

variable {graph : Graph}

/-- A wait goes on to a node. -/
theorem Sound.onward_mem (sound : graph.Sound) {node label target : String}
    (leads : graph.onward node label = some target) : target ∈ graph.ids := by
  rw [onward, Option.or_eq_some_iff] at leads
  rcases leads with labelled | ⟨-, plain⟩
  · exact sound.successor_mem (Option.filter_eq_some_iff.mp labelled).1
  · exact sound.successor_mem plain

end Flow.Graph

namespace Execution

variable {graph : Flow.Graph} {execution : Execution String}

/-- An execution that moved to a node of the graph stands there. -/
theorem movedTo_placed {target : String} (member : target ∈ graph.ids) (now : Time.Moment) :
    (execution.movedTo target now).Placed graph :=
  Flow.Graph.node?_isSome member

/-- An execution that advanced and runs stands at a node of the graph. -/
theorem advanced_placed {next : Option String} {now : Time.Moment}
    (leads : ∀ target, next = some target → target ∈ graph.ids)
    (runs : (execution.advanced next now).runs = true) :
    (execution.advanced next now).Placed graph := by
  cases next with
  | some target => exact movedTo_placed (leads target rfl) now
  | none => exact absurd runs Bool.false_ne_true

end Execution

/-- After the visit of a node that is of no registered type, an execution that runs stands at a node
of the graph. -/
theorem Handler.Handled.stands {engine : Engine} {graph : Flow.Graph} {node : Flow.Node String}
    {now : Time.Moment} {execution left : Execution String}
    {result : Except Failure (Action × Entries)}
    (plain : ∀ text, node.content = .tag text →
      engine.capabilities.extensions.lookup node.type = none)
    (sound : graph.Sound) (member : node ∈ graph.nodes)
    (handled : Handled engine node now execution result left)
    (runs : (left.closed graph node now result).runs = true) :
    (left.closed graph node now result).Placed graph := by
  have leads (label : Option String) (target : String)
      (edge : graph.successor node.id label = some target) : target ∈ graph.ids :=
    sound.successor_mem edge
  cases handled with
  | failed failure =>
    simp only [Execution.closed] at runs ⊢
    cases fallback : node.onError with
    | some target =>
      exact Execution.movedTo_placed (sound.fallbacks node member target fallback) now
    | none =>
      rw [fallback] at runs
      exact absurd runs Bool.false_ne_true
  | start kind => exact Execution.advanced_placed (leads none) runs
  | finish kind => exact absurd runs Bool.false_ne_true
  | message kind => exact Execution.advanced_placed (leads none) runs
  | condition kind answer => exact Execution.advanced_placed (leads _) runs
  | wait kind later => exact absurd runs Bool.false_ne_true
  | generate kind => exact Execution.advanced_placed (leads none) runs
  | goTo kind => exact Execution.movedTo_placed (sound.targets node member _ kind) now
  | tag kind known =>
    rw [plain _ kind] at known
    cases known

/-- After the visit of a built-in node, an execution that runs stands at a node of the graph. -/
theorem Handler.Handled.placed {engine : Engine} {graph : Flow.Graph} {node : Flow.Node String}
    {now : Time.Moment} {execution left : Execution String}
    {result : Except Failure (Action × Entries)} (builtin : engine.capabilities.extensions = [])
    (sound : graph.Sound) (member : node ∈ graph.nodes)
    (handled : Handled engine node now execution result left)
    (runs : (left.closed graph node now result).runs = true) :
    (left.closed graph node now result).Placed graph := by
  refine handled.stands (fun _ _ => ?_) sound member runs
  rw [builtin]
  rfl

/-- A law that executions may obey, each with the graph that it runs through. -/
abbrev Law := Flow.Graph → Execution String → Prop

namespace Law

/-- Every step of the engine keeps the law, and so does every store. -/
structure Closed (engine : Engine) (law : Law) : Prop where
  /-- What a store keeps of an execution obeys if the execution does. -/
  recorded : ∀ {graph handed kept}, law graph handed → Store.Recorded handed kept →
    List.Forall₂ Entry.Echoes kept.log handed.log → law graph kept
  /-- A new execution obeys. -/
  created : ∀ {graph id version subject vars now},
    law graph (.new id graph.id version subject vars now)
  /-- Entering the start keeps the law. -/
  entered : ∀ {graph execution now}, graph.Sound → law graph execution →
    execution.status = .running → execution.node = none →
    law graph (execution.movedTo graph.start now)
  /-- Setting variables of an execution that waits keeps the law. -/
  set : ∀ {graph execution vars now}, law graph execution → execution.status = .waiting →
    law graph { execution with vars, updatedAt := now }
  /-- Going on from a wait keeps the law. -/
  resumed : ∀ {graph execution label reason reply now}, graph.Sound → law graph execution →
    execution.status = .waiting → law graph (execution.resumed graph label reason reply now)
  /-- Visiting a node keeps the law. -/
  visited : ∀ {graph execution handled node result now}, graph.Sound → law graph execution →
    execution.status = .running → execution.node.bind graph.node? = some node →
    Handled engine node now (execution.opened node now) result handled →
    law graph (handled.closed graph node now result)
  /-- Being cancelled keeps the law. -/
  cancelled : ∀ {graph execution now}, law graph execution →
    execution.status.isFinal = false → law graph (execution.ended .cancelled now)
  /-- Being ended after too many visits keeps the law. -/
  exhausted : ∀ {graph execution now}, law graph execution → execution.status = .running →
    execution.Placed graph → law graph (execution.exhausted engine.settings.budget now)

/-- An execution obeys a law with the graph that a registry has for it. -/
def Holds (law : Law) (flows : Flow.Registry) (execution : Execution String) : Prop :=
  ∃ graph, flows.get execution.flow execution.version = .ok graph ∧ law graph execution

variable {law : Law} {flows : Flow.Registry} {graph : Flow.Graph} {execution : Execution String}

/-- A law holds on when graphs are registered. -/
theorem Holds.add (holds : law.Holds flows execution) (graph : Flow.Graph) :
    law.Holds (flows.add graph) execution := by
  obtain ⟨own, had, obeys⟩ := holds
  exact ⟨own, Flow.Registry.get_add had graph, obeys⟩

/-- A law holds of what a store keeps of an execution of which it holds. -/
theorem Holds.recorded {engine : Engine} {kept : Execution String} (closed : law.Closed engine)
    (holds : law.Holds flows execution) (recorded : Store.Recorded execution kept)
    (counted : execution.version ≠ 0)
    (echoes : List.Forall₂ Entry.Echoes kept.log execution.log) : law.Holds flows kept := by
  obtain ⟨graph, had, obeys⟩ := holds
  rw [← recorded.flow, ← recorded.version counted] at had
  exact ⟨graph, had, closed.recorded obeys recorded echoes⟩

end Law

/-- What is in hand obeys a law with its graph, and stands where the hand has it. -/
def Hand.Obeys (law : Law) (flows : Flow.Registry) : Hand → Prop
  | .empty => True
  | .made graph execution =>
    flows.get execution.flow execution.version = .ok graph ∧ law graph execution ∧
      execution.status = .running ∧ execution.node = none
  | .roused graph execution _ _ _ =>
    flows.get execution.flow execution.version = .ok graph ∧ law graph execution ∧
      execution.status = .waiting
  | .going graph execution =>
    flows.get execution.flow execution.version = .ok graph ∧ law graph execution ∧
      execution.status = .running ∧ execution.Placed graph
  | .broken .. => False

/-- All executions obey a law: those that were offered, those in the store, and the one in hand. -/
structure Scene.Obeys (law : Law) (scene : Scene) : Prop where
  /-- The flows keep the rules. -/
  flows : scene.world.flows.Sound
  /-- What is in hand goes on from a record. -/
  backed : scene.Preserves []
  /-- What was offered obeys, and stands at a node if it runs. -/
  saves : ∀ save ∈ scene.world.saves, law.Holds scene.world.flows save.execution ∧
    (save.execution.status = .running → save.execution.node ≠ none)
  /-- What is stored obeys. -/
  records : ∀ record ∈ scene.world.store.records, law.Holds scene.world.flows record
  /-- A record that runs and stands nowhere is in hand, just made. -/
  fresh : ∀ record ∈ scene.world.store.records, record.status = .running → record.node = none →
    ∃ graph execution, scene.hand = .made graph execution ∧ record.id = execution.id
  /-- What is in hand obeys. -/
  hand : scene.hand.Obeys law scene.world.flows

/-- Whatever was offered to the store was taken. -/
def World.Taken (world : World) : Prop := ∀ save ∈ world.saves, save.taken = true

namespace World

/-- What stirs the world adds to the requests to save. -/
theorem Stir.saves {world left : World} (stir : Stir world left) : world.saves <+: left.saves := by
  cases stir with
  | beside same => exact same.saves ▸ List.prefix_rfl
  | cancelled read moved offered =>
    rw [offered.saves]
    exact List.prefix_append _ _

/-- However often it is stirred, requests to save are only added. -/
theorem Stirred.saves {before after : World} (stirred : Stirred before after) :
    before.saves <+: after.saves := by
  induction stirred with
  | refl => exact List.prefix_rfl
  | tail _ stir before => exact before.trans stir.saves

/-- A refused offer shows. -/
theorem Offered.not_taken {execution : Execution String} {before after : World}
    (offered : Offered execution before false after) : ¬ after.Taken := by
  intro taken
  cases taken ⟨execution, false⟩ (by simp [offered.saves])

end World

/-- A move adds to the requests to save. -/
theorem Move.saves {engine : Engine} {scene next : Scene} (move : Move engine scene next) :
    scene.world.saves <+: next.world.saves := by
  cases move with
  | stirred stir => exact stir.saves
  | entered offered _ | resumed offered _ | visited _ _ offered _ | interrupted offered _
  | exhausted offered _ | held _ _ offered | crashed _ _ offered =>
    rw [offered.saves]
    exact List.prefix_append _ _
  | timed | registered | created | roused | lost | left | spared => exact List.prefix_rfl

/-- However many moves are made, requests to save are only added. -/
theorem Moves.saves {engine : Engine} {scene last : Scene} (moves : Moves engine scene last) :
    scene.world.saves <+: last.world.saves :=
  @Moves.keep engine (fun next => scene.world.saves <+: next.world.saves)
    (fun _ _ move held => held.trans move.saves) _ _ moves List.prefix_rfl

namespace Scene

variable {engine : Engine} {law : Law} {world left : World} {hand : Hand} {graph : Flow.Graph}
  {record execution handed : Execution String} {taken : Bool}

/-- Records obey after an execution that obeys and is backed was saved, and none of them runs
nowhere but those that did before. -/
theorem Obeys.saved {store : Store String} (obeys : Obeys law ⟨world, hand⟩)
    (closed : law.Closed engine) (member : record ∈ world.store.records)
    (backs : world.store.Backs record handed) (holds : law.Holds world.flows handed)
    (placed : handed.status = .running → handed.node ≠ none)
    (saved : world.store.save handed = .ok store) :
    (∀ other ∈ store.records, law.Holds world.flows other) ∧
      ∀ other ∈ store.records, other.status = .running → other.node = none →
        other.id ≠ handed.id ∧ other ∈ world.store.records := by
  obtain ⟨new, recorded, -, keeps, -, records⟩ := backs.saved obeys.backed.distinct member saved
  refine ⟨?_, ?_⟩
  · intro other listed
    rw [records] at listed
    rcases Store.mem_rewritten listed with rfl | ⟨before, -⟩
    · exact holds.recorded closed recorded backs.counted keeps.echoes
    · exact obeys.records other before
  · intro other listed runs nowhere
    rw [records] at listed
    rcases Store.mem_rewritten listed with rfl | ⟨before, differs⟩
    · rw [recorded.status] at runs
      rw [recorded.node] at nowhere
      exact absurd nowhere (placed runs)
    · rw [recorded.id] at differs
      exact ⟨differs, before⟩

/-- An execution in hand that obeys when it is offered obeys from then on. -/
theorem Obeys.offered {failure : Failure} (obeys : Obeys law ⟨world, hand⟩)
    (closed : law.Closed engine) (held : hand.execution? = some execution)
    (had : world.flows.get execution.flow execution.version = .ok graph)
    (continues : execution.Continues handed) (lawful : law graph handed)
    (placed : handed.runs = true → handed.Placed graph) (offered : Offered handed world taken left)
    (took : left.Taken) : Obeys law ⟨left, .offered graph handed taken failure⟩ := by
  have backed : Preserves [] ⟨left, .offered graph handed taken failure⟩ :=
    obeys.backed.offered held continues offered
  have same : world.flows.get handed.flow handed.version = .ok graph := by
    rw [continues.flow, continues.version]
    exact had
  have holds : law.Holds world.flows handed := ⟨graph, same, lawful⟩
  have seated : handed.status = .running → handed.node ≠ none := by
    intro running nowhere
    have runs : handed.runs = true := by simpa [Execution.runs] using running
    obtain ⟨node, found⟩ := placed runs
    rw [nowhere] at found
    cases found
  cases offered with
  | taken saved =>
    obtain ⟨record, member, backs⟩ := obeys.backed.backed execution held
    obtain ⟨records, fresh⟩ :=
      obeys.saved closed member (backs.continues continues) holds seated saved
    refine ⟨obeys.flows, backed, ?_, records, ?_, ?_⟩
    · intro save member
      rw [List.mem_append, List.mem_singleton] at member
      rcases member with before | rfl
      · exact obeys.saves save before
      · exact ⟨holds, seated⟩
    · intro other listed runs nowhere
      obtain ⟨differs, before⟩ := fresh other listed runs nowhere
      obtain ⟨_, made, inHand, named⟩ := obeys.fresh other before runs nowhere
      cases inHand
      cases held
      exact absurd (named.trans continues.id.symm) differs
    · by_cases runs : handed.runs
      · have running : handed.status = .running := by simpa [Execution.runs] using runs
        simp only [Hand.offered, if_pos runs]
        exact ⟨same, lawful, running, placed runs⟩
      · simp only [Hand.offered, if_neg runs]
        trivial
  | refused => exact absurd took (Offered.not_taken .refused)

/-- A stored execution that obeys when it is offered obeys from then on. -/
theorem Obeys.stored {id : String} (obeys : Obeys law ⟨world, hand⟩) (closed : law.Closed engine)
    (read : world.store.get id = .ok record) (continues : record.Continues handed)
    (backed : Preserves [] ⟨left, hand⟩) (keeps : ∀ graph, law graph record → law graph handed)
    (rests : handed.status ≠ .running) (offered : Offered handed world taken left)
    (took : left.Taken) : Obeys law ⟨left, hand⟩ := by
  have member := (Store.mem_of_get read).1
  have holds : law.Holds world.flows handed := by
    obtain ⟨graph, had, lawful⟩ := obeys.records record member
    rw [← continues.flow, ← continues.version] at had
    exact ⟨graph, had, keeps graph lawful⟩
  cases offered with
  | taken saved =>
    obtain ⟨records, fresh⟩ := obeys.saved closed member
      ((Store.Backs.refl member).continues continues) holds (fun runs => absurd runs rests) saved
    refine ⟨obeys.flows, backed, ?_, records, ?_, obeys.hand⟩
    · intro save member
      rw [List.mem_append, List.mem_singleton] at member
      rcases member with before | rfl
      · exact obeys.saves save before
      · exact ⟨holds, fun runs => absurd runs rests⟩
    · intro other listed runs nowhere
      exact obeys.fresh other (fresh other listed runs nowhere).2 runs nowhere
  | refused => exact absurd took (Offered.not_taken .refused)

/-- With no execution in hand, only flows, store and requests to save count. -/
theorem Obeys.unhanded (flows : world.flows.Sound) (backed : Preserves [] ⟨world, .empty⟩)
    (saves : ∀ save ∈ world.saves, law.Holds world.flows save.execution ∧
      (save.execution.status = .running → save.execution.node ≠ none))
    (records : ∀ record ∈ world.store.records, law.Holds world.flows record)
    (fresh : ∀ record ∈ world.store.records, record.status = .running → record.node ≠ none) :
    Obeys law ⟨world, .empty⟩ :=
  ⟨flows, backed, saves, records,
    fun record member runs nowhere => absurd nowhere (fresh record member runs), trivial⟩

/-- What stirs the world keeps a law. -/
theorem Obeys.stir (obeys : Obeys law ⟨world, hand⟩) (closed : law.Closed engine)
    (stir : Stir world left) (took : left.Taken) : Obeys law ⟨left, hand⟩ := by
  have backed : Preserves [] ⟨left, hand⟩ := obeys.backed.stir stir
  cases stir with
  | beside same =>
    refine ⟨?_, backed, ?_, ?_, ?_, ?_⟩
    · simp only [same.flows]
      exact obeys.flows
    · simp only [same.saves, same.flows]
      exact obeys.saves
    · simp only [same.store, same.flows]
      exact obeys.records
    · simp only [same.store]
      exact obeys.fresh
    · simp only [same.flows]
      exact obeys.hand
  | @cancelled id record ended taken read moved offered =>
    obtain ⟨allowed, rfl⟩ := Execution.transition_final_eq rfl moved
    have running := Status.not_final_of_next allowed
    have rests : (record.ended .cancelled world.clock).status ≠ .running := by
      rintro ⟨⟩
    exact obeys.stored closed read (record.ended_continues .cancelled world.clock) backed
      (fun _ lawful => closed.cancelled lawful running) rests offered took

/-- Once the execution that was just made is offered, no record runs nowhere. -/
theorem Obeys.unmade (obeys : Obeys law ⟨world, hand⟩)
    (none : ∀ graph execution, hand ≠ .made graph execution) :
    ∀ record ∈ world.store.records, record.status = .running → record.node ≠ .none := by
  intro record member runs nowhere
  obtain ⟨graph, execution, made, -⟩ := obeys.fresh record member runs nowhere
  exact none graph execution made

/-- An execution that is made of the newest version of a flow obeys, and so does its record. -/
theorem Obeys.created {flow id : String} {version : Nat} {key : Value} {vars : Variables}
    {store : Store String} (obeys : Obeys law ⟨world, .empty⟩) (closed : law.Closed engine)
    (newest : world.flows.latest flow = .ok (graph, version))
    (backed : Preserves [] ⟨{ world with store }, .made graph
      (.new id graph.id version (Subject.ofValue key) vars world.clock)⟩)
    (made : world.store.create
      (.new id graph.id version (Subject.ofValue key) vars world.clock) = .ok store) :
    Obeys law ⟨{ world with store }, .made graph
      (.new id graph.id version (Subject.ofValue key) vars world.clock)⟩ := by
  let execution := Execution.new id graph.id version (Subject.ofValue key) vars world.clock
  obtain ⟨counts, had⟩ := Flow.Registry.get_latest newest
  have named : graph.id = flow := (obeys.flows flow graph (Flow.Registry.mem_of_get had)).2
  have own : world.flows.get execution.flow execution.version = .ok graph := by
    rw [← named] at had
    exact had
  have counted : execution.version ≠ 0 := by
    change (version : Int) ≠ 0
    omega
  obtain ⟨-, -, new, recorded, keeps, records⟩ := Store.create_records made
  have holds : law.Holds world.flows execution := ⟨graph, own, closed.created⟩
  refine ⟨obeys.flows, backed, obeys.saves, ?_, ?_, ⟨own, closed.created, rfl, rfl⟩⟩
  · intro record member
    simp only [records, List.mem_append, List.mem_singleton] at member
    rcases member with before | rfl
    · exact obeys.records record before
    · exact holds.recorded closed recorded counted keeps.echoes
  · intro record member runs nowhere
    simp only [records, List.mem_append, List.mem_singleton] at member
    rcases member with before | rfl
    · exact absurd nowhere (obeys.unmade (by simp) record before runs)
    · exact ⟨graph, execution, rfl, recorded.id⟩

/-- Every move keeps a law, if the store refuses nothing. -/
theorem Obeys.move (builtin : engine.capabilities.extensions = []) (closed : law.Closed engine)
    {scene next : Scene} (move : Move engine scene next) (obeys : Obeys law scene)
    (took : next.world.Taken) : Obeys law next := by
  have backed : Preserves [] next := obeys.backed.move move
  cases move with
  | stirred stir => exact obeys.stir closed stir took
  | timed moment =>
    exact .unhanded obeys.flows backed obeys.saves obeys.records (obeys.unmade (by simp))
  | registered loaded =>
    have flows := obeys.flows.add (Flow.load_sound loaded)
    refine .unhanded flows backed ?_ ?_ (obeys.unmade (by simp))
    · intro save member
      exact ⟨(obeys.saves save member).1.add _, (obeys.saves save member).2⟩
    · intro record member
      exact (obeys.records record member).add _
  | created newest free made => exact obeys.created closed newest backed made
  | @entered world left graph execution taken offered failure =>
    obtain ⟨had, lawful, running, nowhere⟩ := obeys.hand
    have sound := (obeys.flows _ graph (Flow.Registry.mem_of_get had)).1
    exact obeys.offered closed rfl had (execution.movedTo_continues graph.start world.clock)
      (closed.entered sound lawful running nowhere)
      (fun _ => Execution.movedTo_placed sound.start_mem world.clock) offered took
  | @roused world id record graph vars label reason reply read waits had =>
    obtain ⟨own, found, lawful⟩ := obeys.records record (Store.mem_of_get read).1
    rw [had] at found
    cases found
    exact ⟨obeys.flows, backed, obeys.saves, obeys.records,
      fun other member runs nowhere => absurd nowhere (obeys.unmade (by simp) other member runs),
      had, closed.set lawful waits, waits⟩
  | @resumed world left graph execution label reason reply taken offered failure =>
    obtain ⟨had, lawful, waits⟩ := obeys.hand
    have sound := (obeys.flows _ graph (Flow.Registry.mem_of_get had)).1
    refine obeys.offered closed rfl had
      (execution.resumed_continues graph label reason reply world.clock)
      (closed.resumed sound lawful waits) ?_ offered took
    intro runs
    refine Execution.advanced_placed ?_ runs
    intro target leads
    obtain ⟨node, -, onward⟩ := Option.bind_eq_some_iff.mp leads
    exact sound.onward_mem onward
  | @visited world left graph execution handled node result taken found handling offered failure =>
    obtain ⟨had, lawful, running, -⟩ := obeys.hand
    have sound := (obeys.flows _ graph (Flow.Registry.mem_of_get had)).1
    have member : node ∈ graph.nodes := by
      obtain ⟨_, -, listed⟩ := Option.bind_eq_some_iff.mp found
      exact (Flow.Graph.node?_eq_some listed).1
    exact obeys.offered closed rfl had (handling.continues graph)
      (closed.visited sound lawful running found handling) (handling.placed builtin sound member)
      offered took
  | @interrupted world left graph execution taken offered failure =>
    obtain ⟨had, lawful, running, -⟩ := obeys.hand
    have unended : execution.status.isFinal = false := by rw [running]; rfl
    exact obeys.offered closed rfl had (execution.ended_continues .cancelled world.clock)
      (closed.cancelled lawful unended) (fun runs => absurd runs Bool.false_ne_true) offered took
  | @exhausted world left graph execution taken offered failure =>
    obtain ⟨had, lawful, running, placed⟩ := obeys.hand
    exact obeys.offered closed rfl had
      (execution.exhausted_continues engine.settings.budget world.clock)
      (closed.exhausted lawful running placed) (fun runs => absurd runs Bool.false_ne_true)
      offered took
  | lost missing failure =>
    obtain ⟨-, -, -, node, found⟩ := obeys.hand
    rw [missing] at found
    cases found
  | left => exact .unhanded obeys.flows backed obeys.saves obeys.records (obeys.unmade (by simp))
  | @held world left id record reply taken read waits offered =>
    exact obeys.stored closed read (record.set_continues _ world.clock) backed
      (fun _ lawful => closed.set lawful waits) (by simp [waits]) offered took
  | crashed => exact obeys.hand.elim
  | spared => exact obeys.hand.elim

end Scene

/-- In a world that is reached without the store refusing anything, all executions obey every
law that the steps on built-in nodes keep: those that were offered to the store, and stand at a node
if they run, and those that are in the store. -/
theorem World.Reached.obeys {engine : Engine} {law : Law} {world : World}
    (builtin : engine.capabilities.extensions = []) (closed : law.Closed engine.atDesk)
    (reached : World.Reached engine world) (took : world.Taken) :
    Scene.Obeys law ⟨world, .empty⟩ := by
  refine reached.induct (fun scene => scene.world.Taken → Scene.Obeys law scene) ?_ ?_ took
  · intro clock store unused _
    have none : store.records = [] := unused.records
    have start := Scene.Preserves.start (Scene.Exclusive.start clock unused).store.distinct
    simp only [World.start, none] at start
    refine .unhanded Flow.Registry.sound_empty start ?_ ?_ ?_
    · simp [World.start]
    · simp [World.start, none]
    · simp [World.start, none]
  · intro scene next move holds took
    have same : engine.atDesk.capabilities.extensions = [] := builtin
    refine Scene.Obeys.move same closed move (holds ?_) took
    exact fun save member => took save (move.saves.subset member)

end Parley
