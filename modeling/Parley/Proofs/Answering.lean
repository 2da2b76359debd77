import Parley.Proofs.Laws
import Parley.Proofs.Rereading
import Parley.Proofs.Upkeep

/-!
# Waits that can be answered

In every world that is reached, what waits stands at a node of the graph that it runs through, so
that a reply finds the node that decides about it; and no keyword that it waits for is empty, so
that every keyword can be found in a reply.
-/

namespace Parley

open Parley.Computation World

namespace Flow

/-- No keyword is empty. -/
def Content.Worded (content : Content) : Prop :=
  ∀ timeout keywords hold, content = .wait timeout keywords hold → "" ∉ keywords

/-- No keyword of a graph is empty. -/
def Graph.Worded (graph : Graph) : Prop := ∀ node ∈ graph.nodes, node.content.Worded

/-- No keyword of a graph that was loaded is empty. -/
theorem load_worded {extensions : Extensions} {raw : Value} {graph : Graph}
    (loaded : load extensions raw = .ok graph) : graph.Worded := by
  intro node member timeout keywords hold holds empty
  obtain ⟨entries, read⟩ := readContent_of_load loaded member
  rw [holds] at read
  have wait : readWait node.id entries = .ok (.wait timeout keywords hold) := read.2.2
  obtain ⟨_, _, _, same, kept, -⟩ := readWait_ok wait
  cases same
  exact kept.present "" empty (by decide)

end Flow

namespace Execution

/-- A reply to an execution can be looked at: it waits for no empty keyword, and it stands at a node
of a graph if it waits. -/
structure Answerable (graph : Flow.Graph) (execution : Execution String) : Prop where
  /-- It waits for no empty keyword. -/
  worded : "" ∉ execution.keywords
  /-- It stands at a node if it waits. -/
  placed : execution.status = .waiting → execution.Placed graph

variable {graph : Flow.Graph} {execution handed : Execution String}

/-- An execution that does not wait for anything is answerable. -/
theorem answerable_of_none (free : execution.keywords = []) (rests : execution.status ≠ .waiting) :
    execution.Answerable graph :=
  ⟨by simp [free], fun waits => absurd waits rests⟩

/-- An execution that ended is answerable. -/
theorem ended_answerable (execution : Execution String) {status : Status}
    (final : status.isFinal = true) (now : Time.Moment) :
    (execution.ended status now).Answerable graph := by
  refine answerable_of_none rfl fun waits => ?_
  have waits : status = .waiting := waits
  rw [waits] at final
  cases final

/-- A running execution is answerable after it moved. -/
theorem Answerable.movedTo (answerable : execution.Answerable graph)
    (runs : execution.status = .running) (target : String) (now : Time.Moment) :
    (execution.movedTo target now).Answerable graph := by
  refine ⟨answerable.worded, fun waits => ?_⟩
  have waits : execution.status = .waiting := waits
  rw [runs] at waits
  cases waits

/-- An execution is answerable after its wait was taken up. -/
theorem resumed_answerable (execution : Execution String) (graph : Flow.Graph)
    (label reason : String) (reply : Value) (now : Time.Moment) :
    (execution.resumed graph label reason reply now).Answerable graph := by
  refine answerable_of_none ?_ ?_ <;> unfold resumed <;>
    cases execution.node.bind (graph.onward · label)
  · rfl
  · rfl
  · rintro ⟨⟩
  · rintro ⟨⟩

/-- A running execution at a node is answerable at the end of the visit. -/
theorem Answerable.closed {node : Flow.Node String} (answerable : execution.Answerable graph)
    (runs : execution.status = .running) (found : execution.node.bind graph.node? = some node)
    (now : Time.Moment) (result : Except Failure (Action × Entries)) :
    (execution.closed graph node now result).Answerable graph := by
  have told (event : Event) (payload : Entries) :
      (execution.told (some node.id) event now payload).Answerable graph :=
    ⟨answerable.worded, answerable.placed⟩
  cases result with
  | error failure =>
    simp only [Execution.closed]
    cases node.onError with
    | some fallback => exact (told _ _).movedTo runs fallback now
    | none => exact ended_answerable _ rfl _
  | ok ending =>
    obtain ⟨action, payload⟩ := ending
    cases action with
    | suspend => exact ⟨answerable.worded, fun _ => ⟨node, found⟩⟩
    | finish => exact ended_answerable _ rfl _
    | jump target => exact (told _ _).movedTo runs target now
    | follow label =>
      simp only [Execution.closed]
      cases graph.successor node.id label with
      | some target => exact (told _ _).movedTo runs target now
      | none => exact ended_answerable _ rfl _

/-- What a store keeps of an execution is as answerable. -/
theorem Answerable.recorded {kept : Execution String} (answerable : handed.Answerable graph)
    (recorded : Store.Recorded handed kept) : kept.Answerable graph := by
  refine ⟨by rw [recorded.keywords]; exact answerable.worded, fun waits => ?_⟩
  have placed := answerable.placed (recorded.status ▸ waits)
  unfold Placed at placed ⊢
  rwa [recorded.node]

end Execution

/-- A running execution at a node is answerable after the node was visited. -/
theorem Handler.Handled.answerable {engine : Engine} {graph : Flow.Graph}
    {node : Flow.Node String} {now : Time.Moment} {execution left : Execution String}
    {result : Except Failure (Action × Entries)} (worded : graph.Worded)
    (answerable : execution.Answerable graph) (runs : execution.status = .running)
    (found : execution.node.bind graph.node? = some node)
    (handled : Handled engine node now (execution.opened node now) result left) :
    (left.closed graph node now result).Answerable graph := by
  have member : node ∈ graph.nodes := by
    obtain ⟨_, -, listed⟩ := Option.bind_eq_some_iff.mp found
    exact (Flow.Graph.node?_eq_some listed).1
  obtain ⟨vars, deadline, keywords, same⟩ := handled.changes
  have proper : "" ∉ left.keywords := by
    cases handled with
    | wait kind later => exact worded node member _ _ _ kind
    | _ => exact answerable.worded
  subst same
  exact Execution.Answerable.closed ⟨proper, fun _ => ⟨node, found⟩⟩ runs found now result

/-- No keyword of a registered graph is empty. -/
def Flow.Registry.Worded (flows : Flow.Registry) : Prop :=
  ∀ id, ∀ graph ∈ flows.versionsOf id, graph.Worded

/-- A graph without empty keywords may be registered. -/
theorem Flow.Registry.Worded.add {flows : Flow.Registry} (worded : flows.Worded)
    {graph : Flow.Graph} (proper : graph.Worded) : (flows.add graph).Worded := by
  intro id other member
  rw [versionsOf_add, List.mem_append] at member
  rcases member with before | added
  · exact worded id other before
  · split at added
    · rw [List.mem_singleton.mp added]
      exact proper
    · cases added

/-- What is in hand is of a registered graph, and is answerable if it is not being taken up. -/
def Hand.Answers (flows : Flow.Registry) : Hand → Prop
  | .empty => True
  | .made graph execution =>
    flows.get execution.flow execution.version = .ok graph ∧ execution.Answerable graph ∧
      execution.status = .running
  | .roused graph execution _ _ _ => flows.get execution.flow execution.version = .ok graph
  | .going graph execution =>
    flows.get execution.flow execution.version = .ok graph ∧ execution.Answerable graph ∧
      execution.status = .running
  | .broken .. => True

/-- Everything that may wait is answerable in its graph. -/
structure Scene.Answers (scene : Scene) : Prop where
  /-- The registered graphs have no empty keywords. -/
  flows : scene.world.flows.Worded
  /-- The records are answerable. -/
  records : ∀ record ∈ scene.world.store.records, ∃ graph,
    scene.world.flows.get record.flow record.version = .ok graph ∧ record.Answerable graph
  /-- So is what is in hand. -/
  hand : scene.hand.Answers scene.world.flows

namespace Scene.Answers

variable {engine : Engine} {world left : World} {hand next : Hand} {graph : Flow.Graph}
  {record execution handed : Execution String} {taken : Bool}

/-- An offer of an execution that goes on from a record and is answerable leaves all records
answerable. -/
theorem offer (answers : Answers ⟨world, hand⟩) (distinct : world.store.Distinct)
    (member : record ∈ world.store.records) (backs : world.store.Backs record handed)
    (had : world.flows.get handed.flow handed.version = .ok graph)
    (answerable : handed.Answerable graph) (offered : Offered handed world taken left)
    (onward : next.Answers world.flows) : Answers ⟨left, next⟩ := by
  cases offered with
  | taken saved =>
    obtain ⟨new, recorded, continues, -, -, records⟩ := backs.saved distinct member saved
    refine ⟨answers.flows, fun other listed => ?_, onward⟩
    rw [records] at listed
    rcases Store.mem_rewritten listed with rfl | ⟨before, -⟩
    · refine ⟨graph, ?_, answerable.recorded recorded⟩
      rw [recorded.flow, recorded.version backs.counted]
      exact had
    · exact answers.records other before
  | refused => exact ⟨answers.flows, answers.records, onward⟩

/-- An offer of what is in hand leaves everything answerable. -/
theorem inHand (answers : Answers ⟨world, hand⟩) (upheld : Upheld ⟨world, hand⟩)
    (held : hand.execution? = some execution)
    (had : world.flows.get execution.flow execution.version = .ok graph)
    (continues : execution.Continues handed) (answerable : handed.Answerable graph)
    (offered : Offered handed world taken left) (failure : Failure) :
    Answers ⟨left, .offered graph handed taken failure⟩ := by
  obtain ⟨record, member, backs⟩ := upheld.backed.backed execution held
  have same : world.flows.get handed.flow handed.version = .ok graph := by
    rw [continues.flow, continues.version]
    exact had
  refine answers.offer upheld.backed.distinct member (backs.continues continues) same answerable
    offered ?_
  cases taken with
  | false => trivial
  | true =>
    by_cases runs : handed.runs
    · simp only [Hand.offered, if_pos runs]
      exact ⟨same, answerable, Execution.runs_iff.mp runs⟩
    · simp only [Hand.offered, if_neg runs]
      trivial

/-- An offer of what is stored leaves everything answerable. -/
theorem stored {id : String} (answers : Answers ⟨world, hand⟩) (upheld : Upheld ⟨world, hand⟩)
    (read : world.store.get id = .ok record) (continues : record.Continues handed)
    (keeps : ∀ graph, record.Answerable graph → handed.Answerable graph)
    (offered : Offered handed world taken left) (onward : next.Answers world.flows) :
    Answers ⟨left, next⟩ := by
  have member := (Store.mem_of_get read).1
  obtain ⟨graph, had, answerable⟩ := answers.records record member
  rw [← continues.flow, ← continues.version] at had
  exact answers.offer upheld.backed.distinct member ((Store.Backs.refl member).continues continues)
    had (keeps graph answerable) offered onward

/-- Every move leaves everything answerable. -/
theorem move {scene next : Scene} (move : Move engine scene next) (upheld : Upheld scene)
    (answers : Answers scene) : Answers next := by
  cases move with
  | stirred stir =>
    cases stir with
    | beside same =>
      refine ⟨?_, ?_, ?_⟩
      · simp only [same.flows]
        exact answers.flows
      · simp only [same.store, same.flows]
        exact answers.records
      · simp only [same.flows]
        exact answers.hand
    | cancelled read moved offered =>
      obtain ⟨-, rfl⟩ := Execution.transition_final_eq rfl moved
      exact answers.stored upheld read (Execution.ended_continues _ .cancelled _)
        (fun _ _ => Execution.ended_answerable _ rfl _) offered answers.hand
  | registered loaded =>
    refine ⟨answers.flows.add (Flow.load_worded loaded), fun record member => ?_, trivial⟩
    obtain ⟨graph, had, answerable⟩ := answers.records record member
    exact ⟨graph, Flow.Registry.get_add had _, answerable⟩
  | @created world flow id graph version key vars store newest free made =>
    let execution :=
      Execution.new id graph.id version (Subject.ofValue key) vars world.clock
    obtain ⟨counts, had⟩ := Flow.Registry.get_latest newest
    have named : graph.id = flow := (upheld.flows flow graph (Flow.Registry.mem_of_get had)).2
    have own : world.flows.get execution.flow execution.version = .ok graph := by
      rw [← named] at had
      exact had
    have idle : execution.Answerable graph :=
      Execution.answerable_of_none rfl (by simp [execution, Execution.new])
    obtain ⟨-, -, new, recorded, -, records⟩ := Store.create_records made
    refine ⟨answers.flows, fun record member => ?_, own, idle, rfl⟩
    simp only [records, List.mem_append, List.mem_singleton] at member
    rcases member with before | rfl
    · exact answers.records record before
    · refine ⟨graph, ?_, idle.recorded recorded⟩
      rw [recorded.flow, recorded.version (by simp [Execution.new]; omega)]
      exact own
  | @entered world left graph execution taken offered failure =>
    obtain ⟨had, answerable, runs⟩ := answers.hand
    exact answers.inHand upheld rfl had (execution.movedTo_continues graph.start world.clock)
      (answerable.movedTo runs graph.start world.clock) offered failure
  | @roused world id record graph vars label reason reply read waits had =>
    exact ⟨answers.flows, answers.records, had⟩
  | @resumed world left graph execution label reason reply taken offered failure =>
    exact answers.inHand upheld rfl answers.hand
      (execution.resumed_continues graph label reason reply world.clock)
      (execution.resumed_answerable graph label reason reply world.clock) offered failure
  | @visited world left graph execution handled node result taken found handling offered failure =>
    obtain ⟨had, answerable, runs⟩ := answers.hand
    have worded := answers.flows _ graph (Flow.Registry.mem_of_get had)
    exact answers.inHand upheld rfl had (handling.continues graph)
      (handling.answerable worded answerable runs found) offered failure
  | @interrupted world left graph execution taken offered failure =>
    exact answers.inHand upheld rfl answers.hand.1
      (execution.ended_continues .cancelled world.clock)
      (Execution.ended_answerable _ rfl _) offered failure
  | @exhausted world left graph execution taken offered failure =>
    exact answers.inHand upheld rfl answers.hand.1
      (execution.exhausted_continues engine.settings.budget world.clock)
      (Execution.ended_answerable _ rfl _) offered failure
  | @held world left id record reply taken read waits offered =>
    exact answers.stored upheld read (record.set_continues _ world.clock)
      (fun _ answerable => ⟨answerable.worded, answerable.placed⟩) offered trivial
  | @crashed world left id failure record taken read runs offered =>
    exact answers.stored upheld read (record.crashed_continues failure world.clock)
      (fun _ _ => Execution.ended_answerable _ rfl _) offered trivial
  | timed | lost | left | spared => exact ⟨answers.flows, answers.records, trivial⟩

end Scene.Answers

/-- In every world that is reached, all records are answerable in their graphs. -/
theorem World.Reached.answerable {engine : Engine} {world : World}
    (reached : Reached engine world) : ∀ record ∈ world.store.records, ∃ graph,
      world.flows.get record.flow record.version = .ok graph ∧ record.Answerable graph := by
  have both : Scene.Upheld ⟨world, .empty⟩ ∧ Scene.Answers ⟨world, .empty⟩ := by
    refine reached.induct (fun scene => Scene.Upheld scene ∧ Scene.Answers scene)
      (fun clock store unused => ?_) fun _ _ move held =>
        ⟨held.1.move move, held.2.move move held.1⟩
    have none : store.records = [] := unused.records
    have reached : Reached engine (.start clock store) := ⟨clock, store, [], unused, rfl⟩
    refine ⟨reached.upheld, fun _ _ member => (List.not_mem_nil member).elim, ?_, trivial⟩
    simp [World.start, none]
  exact both.2.records

end Parley
