import Mathlib.Data.List.Count
import Parley.Proofs.Graphs

/-!
# The rules of flows are checked exactly

Every check of an assembled graph passes what keeps its rule and nothing else, so parts make a graph
if and only if they keep all the rules, and what they make holds them as they were authored. Parts
that do not are rejected with a fault of their graph.
-/

namespace Parley.Flow

open Parley.Computation

/-- Whether a failure says that a definition is no flow. -/
def IsFault (failure : Failure) : Prop := ∃ fault, failure = .graph fault

/-- A label is valid if it is absent, yes or no. -/
theorem validLabel_iff {label : Option String} :
    validLabel label = true ↔ label = none ∨ label = some yes ∨ label = some no := by
  cases label with
  | none => simp [validLabel]
  | some word => simp [validLabel]

section Checks

variable {ν : Type} {known : String → Bool} {flow : String} {seen ids : List String}

/-- Nodes pass if their ids are distinct and new, and their types known. -/
theorem checkNodes_iff {nodes : List (Node ν)} :
    checkNodes known flow seen nodes = .ok () ↔
      (nodes.map Node.id).Nodup ∧ ∀ node ∈ nodes, node.id ∉ seen ∧ known node.type = true := by
  refine ⟨checkNodes_ok, ?_⟩
  rintro ⟨distinct, fresh⟩
  induction nodes generalizing seen with
  | nil => rfl
  | cons node rest ih =>
    rw [List.map_cons, List.nodup_cons] at distinct
    obtain ⟨first, others⟩ := List.forall_mem_cons.mp fresh
    simp only [checkNodes, first.1, first.2, if_false, Bool.not_true, Bool.false_eq_true]
    refine ih distinct.2 fun other member => ⟨?_, (others other member).2⟩
    rw [List.mem_append, List.mem_singleton, not_or]
    refine ⟨(others other member).1, fun same => distinct.1 ?_⟩
    exact same ▸ List.mem_map_of_mem member

/-- Nodes that do not pass are a fault. -/
theorem checkNodes_fails {nodes : List (Node ν)} :
    FailsAs IsFault (checkNodes known flow seen nodes) := by
  induction nodes generalizing seen with
  | nil => exact failsAs_ok ()
  | cons node rest ih =>
    unfold checkNodes
    split
    · exact failsAs_error ⟨_, rfl⟩
    · split
      · exact failsAs_error ⟨_, rfl⟩
      · exact ih

/-- An edge is indexed if it joins nodes under a valid label that no edge of its source has. -/
theorem indexEdge_iff {index left : Index} {edge : Edge} :
    indexEdge flow ids index edge = .ok left ↔
      (edge.source ∈ ids ∧ edge.target ∈ ids) ∧ validLabel edge.label = true ∧
        (∀ other ∈ index.outgoing edge.source, other.label ≠ edge.label) ∧
        left = index.add edge := by
  constructor
  · intro indexed
    obtain ⟨joined, free, added⟩ := indexEdge_ok indexed
    refine ⟨joined, ?_, free, added⟩
    by_contra invalid
    rw [Bool.not_eq_true] at invalid
    simp [indexEdge, joined.1, joined.2, invalid] at indexed
  · rintro ⟨⟨source, target⟩, valid, free, rfl⟩
    have absent : (index.find? edge.source edge.label).isSome = false := by
      rw [Index.find?, Option.isSome_eq_false_iff, Option.isNone_iff_eq_none, List.find?_eq_none]
      intro other member same
      exact free other member (by simpa using same)
    simp [indexEdge, source, target, valid, absent]

/-- An edge that is not indexed is a fault. -/
theorem indexEdge_fails {index : Index} {edge : Edge} :
    FailsAs IsFault (indexEdge flow ids index edge) := by
  unfold indexEdge
  split
  · exact failsAs_error ⟨_, rfl⟩
  split
  · exact failsAs_error ⟨_, rfl⟩
  split
  · exact failsAs_error ⟨_, rfl⟩
  split
  · exact failsAs_error ⟨_, rfl⟩
  · exact failsAs_ok _

/-- What leaves a node is told apart from the next edge after an edge is added, if it was before and
the edge is. -/
theorem apart_add {index : Index} {edge : Edge} (keyed : edge.source ∈ index.map Prod.fst)
    (next : Edge) :
    (∀ other ∈ (index.add edge).outgoing next.source, other.label ≠ next.label) ↔
      (∀ other ∈ index.outgoing next.source, other.label ≠ next.label) ∧
        (edge.source = next.source → edge.label ≠ next.label) := by
  rw [Index.outgoing_add keyed, List.forall_mem_append]
  simp [List.mem_filter]

/-- Edges are indexed if they join nodes under valid labels and are told apart by source and label,
from each other and from the edges before. -/
theorem indexEdges_iff {edges : List Edge} {index : Index}
    (keys : ∀ id ∈ ids, id ∈ index.map Prod.fst) :
    (∃ left, indexEdges flow ids index edges = .ok left) ↔
      (∀ edge ∈ edges, edge.source ∈ ids ∧ edge.target ∈ ids) ∧
        (∀ edge ∈ edges, validLabel edge.label = true) ∧
        (∀ edge ∈ edges, ∀ other ∈ index.outgoing edge.source, other.label ≠ edge.label) ∧
        edges.Pairwise fun a b => a.source = b.source → a.label ≠ b.label := by
  induction edges generalizing index with
  | nil => simp [indexEdges]
  | cons edge rest ih =>
    have step : (∃ left, indexEdges flow ids index (edge :: rest) = .ok left) ↔
        ((edge.source ∈ ids ∧ edge.target ∈ ids) ∧ validLabel edge.label = true ∧
          ∀ other ∈ index.outgoing edge.source, other.label ≠ edge.label) ∧
          ∃ left, indexEdges flow ids (index.add edge) rest = .ok left := by
      simp only [indexEdges, bind_eq_ok, indexEdge_iff]
      constructor
      · rintro ⟨left, _, ⟨joined, valid, free, rfl⟩, later⟩
        exact ⟨⟨joined, valid, free⟩, left, later⟩
      · rintro ⟨⟨joined, valid, free⟩, left, later⟩
        exact ⟨left, _, ⟨joined, valid, free, rfl⟩, later⟩
    rw [step, List.forall_mem_cons, List.forall_mem_cons, List.forall_mem_cons,
      List.pairwise_cons]
    -- The index knows the source only if it is a node, and only then does it gain the edge.
    by_cases joined : edge.source ∈ ids
    · rw [ih (by rwa [Index.add_keys])]
      simp only [apart_add (keys edge.source joined), imp_and, forall_and]
      tauto
    · tauto

/-- Edges that are not indexed are a fault. -/
theorem indexEdges_fails {edges : List Edge} {index : Index} :
    FailsAs IsFault (indexEdges flow ids index edges) := by
  induction edges generalizing index with
  | nil => exact failsAs_ok index
  | cons edge rest ih => exact failsAs_bind indexEdge_fails fun _ _ => ih

/-- A jump passes if it leads to a node. -/
theorem checkTarget_iff {node : Node ν} :
    checkTarget flow ids node = .ok () ↔ ∀ target, node.content = .goTo target → target ∈ ids := by
  unfold checkTarget
  split
  · rename_i target jumps
    rw [jumps]
    by_cases member : target ∈ ids <;> simp [member]
  · rename_i stays
    simp only [true_iff]
    intro target jumps
    exact absurd jumps (stays target)

/-- A jump that does not pass is a fault. -/
theorem checkTarget_fails {node : Node ν} : FailsAs IsFault (checkTarget flow ids node) := by
  unfold checkTarget
  split
  · split
    · exact failsAs_ok ()
    · exact failsAs_error ⟨_, rfl⟩
  · exact failsAs_ok ()

/-- A fallback that a text names is found if it is a node. -/
theorem fallback_iff {node : Node String} {onError : Option String} :
    fallback flow ids node = .ok onError ↔
      onError = node.onError ∧ ∀ id, node.onError = some id → id ∈ ids := by
  cases named : node.onError with
  | none => simp [fallback, named, eq_comm]
  | some id =>
    have search : Name.find? ids id = .ok (if id ∈ ids then some id else none) := rfl
    by_cases member : id ∈ ids
    · simp [fallback, named, search, member, ok_bind, pure_eq_ok, eq_comm (a := onError)]
    · have text : (Name.value id).asText = .ok id := rfl
      simp [fallback, named, search, member, ok_bind, text, throw_eq_ok]

/-- A fallback that a text names and that is not found is a fault. -/
theorem fallback_fails {node : Node String} : FailsAs IsFault (fallback flow ids node) := by
  unfold fallback
  split
  · exact failsAs_ok none
  · rename_i id _
    have search : Name.find? ids id = .ok (if id ∈ ids then some id else none) := rfl
    rw [search, ok_bind]
    split
    · exact failsAs_ok _
    · exact failsAs_error ⟨_, rfl⟩

/-- Nodes whose fallbacks are texts stay as they are if what they refer to are nodes. -/
theorem settleNodes_iff {nodes settled : List (Node String)} :
    settleNodes flow ids nodes = .ok settled ↔
      settled = nodes ∧ (∀ node ∈ nodes, ∀ target, node.content = .goTo target → target ∈ ids) ∧
        ∀ node ∈ nodes, ∀ id, node.onError = some id → id ∈ ids := by
  induction nodes generalizing settled with
  | nil => simp [settleNodes, eq_comm]
  | cons node rest ih =>
    simp only [settleNodes, bind_eq_ok, pure_eq_ok, ih, fallback_iff, List.forall_mem_cons]
    constructor
    · rintro ⟨_, jumps, _, ⟨rfl, falls⟩, _, ⟨rfl, targets, fallbacks⟩, rfl⟩
      exact ⟨rfl, ⟨checkTarget_iff.mp jumps, targets⟩, falls, fallbacks⟩
    · rintro ⟨rfl, ⟨jumps, targets⟩, falls, fallbacks⟩
      exact ⟨(), checkTarget_iff.mpr jumps, _, ⟨rfl, falls⟩, _, ⟨rfl, targets, fallbacks⟩, rfl⟩

/-- Nodes of which one refers to no node fail as the search for its fallback does, or with a
fault. -/
theorem settleNodes_fails [Name ν] {allowed : Failure → Prop} {nodes : List (Node ν)}
    (faults : ∀ fault, allowed (.graph fault))
    (found : ∀ node ∈ nodes, FailsAs allowed (fallback flow ids node)) :
    FailsAs allowed (settleNodes flow ids nodes) := by
  induction nodes with
  | nil => exact failsAs_ok []
  | cons node rest ih =>
    obtain ⟨first, others⟩ := List.forall_mem_cons.mp found
    refine failsAs_bind (checkTarget_fails.mono ?_) fun _ _ => failsAs_bind first fun _ _ =>
      failsAs_bind (ih others) fun _ _ => failsAs_ok _
    rintro _ ⟨fault, rfl⟩
    exact faults fault

end Checks

/-- The rules of flows, of parts that are to make a graph. -/
structure Rules (known : String → Bool) (id : String) (nodes : List (Node String))
    (edges : List Edge) : Prop where
  /-- The flow has an id. -/
  named : id ≠ ""
  /-- The ids of the nodes are distinct. -/
  distinct : (nodes.map Node.id).Nodup
  /-- The types of the nodes are known. -/
  known : ∀ node ∈ nodes, known node.type = true
  /-- The edges join nodes. -/
  ends : ∀ edge ∈ edges, edge.source ∈ nodes.map Node.id ∧ edge.target ∈ nodes.map Node.id
  /-- The labels of the edges are absent, yes or no. -/
  labels : ∀ edge ∈ edges, edge.label = none ∨ edge.label = some yes ∨ edge.label = some no
  /-- The edges are told apart by source and label. -/
  apart : edges.Pairwise fun a b => a.source = b.source → a.label ≠ b.label
  /-- One node is a start. -/
  starts : nodes.countP (fun node => node.type == "start") = 1
  /-- The jumps lead to nodes. -/
  targets : ∀ node ∈ nodes, ∀ target, node.content = .goTo target → target ∈ nodes.map Node.id
  /-- The fallbacks are nodes. -/
  fallbacks : ∀ node ∈ nodes, ∀ fallback, node.onError = some fallback →
    fallback ∈ nodes.map Node.id

/-- The nodes of an index without edges are those that it was made of. -/
theorem Index.keys_nodes (ids : List String) :
    (ids.map fun node => (node, ([] : List Edge))).map Prod.fst = ids := by
  rw [List.map_map]
  exact List.map_id ids

namespace Graph

variable {known : String → Bool} {id name : String} {edges : List Edge}

/-- A graph that was assembled holds its parts as they were authored, and these keep the rules. -/
theorem rules_of_assemble {nodes : List (Node String)} {graph : Graph}
    (assembled : Graph.assemble known id name nodes edges = .ok graph) :
    Rules known id nodes edges ∧ graph.id = id ∧
      graph.name = (if name = "" then id else name) ∧ graph.nodes = nodes ∧
      graph.edges = edges := by
  obtain ⟨rfl, named, titled, rfl, -, checked, indexed, starts, settled⟩ :=
    parts_of_assemble assembled
  obtain ⟨distinct, typed⟩ := checkNodes_iff.mp checked
  have keys : ∀ id ∈ nodes.map Node.id,
      id ∈ ((nodes.map Node.id).map fun node => (node, ([] : List Edge))).map Prod.fst := by
    rw [Index.keys_nodes]
    exact fun _ member => member
  obtain ⟨ends, labels, -, apart⟩ := (indexEdges_iff keys).mp ⟨_, indexed⟩
  obtain ⟨same, targets, fallbacks⟩ := settleNodes_iff.mp settled
  refine ⟨⟨named, distinct, fun node member => (typed node member).2, ends, ?_, apart, ?_,
    targets, fallbacks⟩, rfl, titled, same, rfl⟩
  · exact fun edge member => validLabel_iff.mp (labels edge member)
  · rw [List.countP_eq_length_filter, ← List.length_map (f := Node.id), starts]
    rfl

/-- The edges of an assembled graph have valid labels. -/
theorem labels_of_assemble {ν : Type} [Name ν] {nodes : List (Node ν)} {graph : Graph}
    (assembled : Graph.assemble known id name nodes edges = .ok graph) :
    ∀ edge ∈ graph.edges, validLabel edge.label = true := by
  obtain ⟨-, -, -, rfl, -, -, indexed, -, -⟩ := parts_of_assemble assembled
  have keys : ∀ id ∈ nodes.map Node.id,
      id ∈ ((nodes.map Node.id).map fun node => (node, ([] : List Edge))).map Prod.fst := by
    rw [Index.keys_nodes]
    exact fun _ member => member
  exact ((indexEdges_iff keys).mp ⟨_, indexed⟩).2.1

/-- Parts that keep the rules make a graph. -/
theorem assemble_of_rules {nodes : List (Node String)} (rules : Rules known id nodes edges) :
    ∃ graph, Graph.assemble known id name nodes edges = .ok graph := by
  have checked : checkNodes known id [] nodes = .ok () :=
    checkNodes_iff.mpr ⟨rules.distinct, fun node member =>
      ⟨List.not_mem_nil, rules.known node member⟩⟩
  have keys : ∀ id ∈ nodes.map Node.id,
      id ∈ ((nodes.map Node.id).map fun node => (node, ([] : List Edge))).map Prod.fst := by
    rw [Index.keys_nodes]
    exact fun _ member => member
  obtain ⟨index, indexed⟩ : ∃ index, indexEdges id (nodes.map Node.id)
      ((nodes.map Node.id).map fun node => (node, [])) edges = .ok index := by
    refine (indexEdges_iff keys).mpr ⟨rules.ends, fun edge member => ?_, ?_, rules.apart⟩
    · exact validLabel_iff.mpr (rules.labels edge member)
    · simp only [Index.outgoing_nodes, List.not_mem_nil, false_implies, implies_true]
  obtain ⟨start, starts⟩ : ∃ start,
      (nodes.filter fun node => node.type == "start").map Node.id = [start] := by
    rw [← List.length_eq_one_iff, List.length_map, ← List.countP_eq_length_filter]
    exact rules.starts
  have settled : settleNodes id (nodes.map Node.id) nodes = .ok nodes :=
    settleNodes_iff.mpr ⟨rfl, rules.targets, rules.fallbacks⟩
  simp only [Graph.assemble, if_neg rules.named, checked, ok_bind, indexed, starts, settled]
  exact ⟨_, rfl⟩

/-- Parts that make no graph are rejected with a fault, unless the search for a fallback fails in
another way. -/
theorem assemble_fails {ν : Type} [Name ν] {allowed : Failure → Prop} {nodes : List (Node ν)}
    (faults : ∀ fault, allowed (.graph fault))
    (found : ∀ node ∈ nodes, FailsAs allowed (fallback id (nodes.map Node.id) node)) :
    FailsAs allowed (Graph.assemble known id name nodes edges) := by
  have fault {failure : Failure} : IsFault failure → allowed failure := by
    rintro ⟨reason, rfl⟩
    exact faults reason
  simp only [Graph.assemble]
  split
  · exact failsAs_error (faults .noId)
  refine failsAs_bind (checkNodes_fails.mono fun _ => fault) fun _ _ =>
    failsAs_bind (indexEdges_fails.mono fun _ => fault) fun _ _ => ?_
  split
  · exact failsAs_bind (settleNodes_fails faults found) fun _ _ => failsAs_ok _
  · exact failsAs_error (faults _)

/-- What the index finds under a label is the one edge that was authored so. -/
theorem Sound.successor_eq {graph : Graph} (sound : graph.Sound) (node : String)
    (label : Option String) :
    (graph.successor node label).toList =
      (graph.edges.filter fun edge => edge.source == node && edge.label == label).map
        Edge.target := by
  have found := sound.outgoing node
  unfold Graph.outgoing at found
  rw [successor, Index.find?, found, ← List.head?_filter, List.filter_filter]
  have apart := sound.labels.filter fun edge => edge.label == label && edge.source == node
  have picked : ∀ edge ∈ graph.edges.filter fun edge => edge.label == label && edge.source == node,
      edge.source = node ∧ edge.label = label := by
    intro edge member
    simpa [and_comm] using (List.mem_filter.mp member).2
  simp only [Bool.and_comm (_ == node)]
  generalize (graph.edges.filter fun edge => edge.label == label && edge.source == node) = few
    at apart picked
  rcases few with _ | ⟨first, _ | ⟨second, rest⟩⟩
  · rfl
  · rfl
  · have one := picked first (by simp)
    have other := picked second (by simp)
    have differs := (List.pairwise_cons.mp apart).1 second (by simp)
    exact absurd (one.2.trans other.2.symm) (differs (one.1.trans other.1.symm))

/-- Parts make a graph if and only if they keep the rules, and are rejected with a fault of their
graph otherwise. A graph that they make holds them as they were authored: from a node and a label it
leads where the one edge that has both leads, and the edges that leave a node are those of the list,
in order. -/
theorem assemble_exact (known : String → Bool) (id name : String) (nodes : List (Node String))
    (edges : List Edge) :
    ((∃ graph, Graph.assemble known id name nodes edges = .ok graph) ↔
      Rules known id nodes edges) ∧
    (¬Rules known id nodes edges →
      ∃ fault, Graph.assemble known id name nodes edges = .error (.graph fault)) ∧
    ∀ graph, Graph.assemble known id name nodes edges = .ok graph →
      graph.id = id ∧ graph.name = (if name = "" then id else name) ∧ graph.nodes = nodes ∧
      graph.edges = edges ∧
      (∀ node label, (graph.successor node label).toList =
        (edges.filter fun edge => edge.source == node && edge.label == label).map Edge.target) ∧
      ∀ node, graph.outgoing node = edges.filter fun edge => edge.source == node := by
  refine ⟨⟨?_, assemble_of_rules⟩, ?_, ?_⟩
  · rintro ⟨graph, assembled⟩
    exact (rules_of_assemble assembled).1
  · intro broken
    cases outcome : Graph.assemble known id name nodes edges with
    | ok graph => exact absurd (rules_of_assemble outcome).1 broken
    | error failure =>
      have fails : FailsAs IsFault (Graph.assemble known id name nodes edges) :=
        assemble_fails (fun fault => ⟨fault, rfl⟩) fun node _ => fallback_fails
      obtain ⟨fault, rfl⟩ := fails failure outcome
      exact ⟨fault, rfl⟩
  · intro graph assembled
    obtain ⟨-, ids, names, nodes, rfl⟩ := rules_of_assemble assembled
    have sound := assemble_sound assembled
    exact ⟨ids, names, nodes, rfl, sound.successor_eq, sound.outgoing⟩

/-- The nodes of a flow with a loop. -/
def loopNodes : List (Node String) := [
  ⟨"hello", "start", .start, none⟩, ⟨"ask", "wait", .wait none ["more"] false, some "bye"⟩,
  ⟨"bye", "end", .finish, none⟩, ⟨"again", "goTo", .goTo "ask", none⟩]

/-- The edges of a flow with a loop. -/
def loopEdges : List Edge := [
  ⟨"e0", "hello", "ask", none⟩, ⟨"e1", "ask", "again", some yes⟩, ⟨"e2", "ask", "bye", some no⟩]

/-- A flow with a loop is accepted and leads along the loop, and without the node that jumps back it
is rejected. -/
theorem loop_assembles_exactly :
    (∃ graph, Graph.assemble (knownType []) "loop" "" loopNodes loopEdges = .ok graph ∧
      Rules (knownType []) "loop" loopNodes loopEdges ∧ graph.name = "loop" ∧
      (graph.successor "ask" (some yes)).toList = ["again"] ∧
      graph.outgoing "ask" = loopEdges.drop 1) ∧
    ¬Rules (knownType []) "loop" (loopNodes.take 3) loopEdges ∧
    ∃ fault, Graph.assemble (knownType []) "loop" "" (loopNodes.take 3) loopEdges =
      .error (.graph fault) := by
  have accepted : ∃ graph,
      Graph.assemble (knownType []) "loop" "" loopNodes loopEdges = .ok graph := ⟨_, rfl⟩
  have stray : ¬Rules (knownType []) "loop" (loopNodes.take 3) loopEdges := by
    intro rules
    have joined := rules.ends ⟨"e1", "ask", "again", some yes⟩ (by decide)
    exact absurd joined.2 (by decide)
  obtain ⟨exactly, -, holds⟩ := assemble_exact (knownType []) "loop" "" loopNodes loopEdges
  obtain ⟨graph, assembled⟩ := accepted
  obtain ⟨-, named, -, -, leads, leaves⟩ := holds graph assembled
  refine ⟨⟨graph, assembled, exactly.mp ⟨graph, assembled⟩, named, ?_, ?_⟩, stray, ?_⟩
  · rw [leads]
    decide
  · rw [leaves]
    decide
  · exact (assemble_exact (knownType []) "loop" "" (loopNodes.take 3) loopEdges).2.1 stray

end Graph

end Parley.Flow
