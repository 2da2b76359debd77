import Parley.Flow.Definition
import Parley.Flow.Registry
import Parley.Proofs.Computation

/-!
# What is known of a loaded flow

The rules of flows as properties of graphs. A graph that was loaded keeps them all: its nodes are
told apart by their ids, all that refers to a node refers to one of them, and its index finds the
edges that were authored. A registry hands out only what was registered with it.
-/

namespace Parley.Flow

/-- The index holds an entry for each of its nodes, whatever edge is added. -/
theorem Index.add_keys (index : Index) (edge : Edge) :
    (index.add edge).map Prod.fst = index.map Prod.fst := by
  induction index with
  | nil => rfl
  | cons entry rest ih =>
    obtain ⟨node, edges⟩ := entry
    simp only [Index.add]
    split
    · rfl
    · simp only [List.map_cons, ih]

/-- An added edge comes last among those that leave its source. -/
theorem Index.outgoing_add {index : Index} {edge : Edge}
    (keyed : edge.source ∈ index.map Prod.fst) (node : String) :
    (index.add edge).outgoing node =
      index.outgoing node ++ [edge].filter fun edge => edge.source == node := by
  induction index with
  | nil => simp at keyed
  | cons entry rest ih =>
    obtain ⟨key, edges⟩ := entry
    simp only [Index.outgoing, Index.add] at ih ⊢
    by_cases found : key = edge.source
    · subst found
      by_cases asked : node = edge.source
      · subst asked
        simp
      · have other : (edge.source == node) = false := by simpa using Ne.symm asked
        have differs : (node == edge.source) = false := by simpa using asked
        simp [List.lookup_cons, differs, other]
    · have later : edge.source ∈ rest.map Prod.fst := by
        rw [List.map_cons, List.mem_cons] at keyed
        exact keyed.resolve_left (Ne.symm found)
      have skipped : (key == edge.source) = false := by simpa using found
      simp only [skipped, Bool.false_eq_true, if_false, List.lookup_cons]
      by_cases asked : node = key
      · subst asked
        have other : (edge.source == node) = false := by simpa using Ne.symm found
        simp [other]
      · have differs : (node == key) = false := by simpa using asked
        simp only [differs]
        exact ih later

/-- What an edge must be to be indexed. -/
theorem indexEdge_ok {flow : String} {ids : List String} {index left : Index} {edge : Edge}
    (indexed : indexEdge flow ids index edge = .ok left) :
    (edge.source ∈ ids ∧ edge.target ∈ ids) ∧
      (∀ other ∈ index.outgoing edge.source, other.label ≠ edge.label) ∧
      left = index.add edge := by
  unfold indexEdge at indexed
  split at indexed
  · cases indexed
  · rename_i source
    split at indexed
    · cases indexed
    · rename_i target
      split at indexed
      · cases indexed
      · split at indexed
        · cases indexed
        · rename_i free
          cases indexed
          refine ⟨⟨Decidable.not_not.mp source, Decidable.not_not.mp target⟩, ?_, rfl⟩
          intro other member same
          apply free
          simp only [Index.find?, List.find?_isSome, beq_iff_eq]
          exact ⟨other, member, same⟩

/-- Edges that were indexed join nodes, are told apart by source and label, and are found from their
sources in order. -/
theorem indexEdges_ok {flow : String} {ids : List String} {edges : List Edge} {index left : Index}
    (indexed : indexEdges flow ids index edges = .ok left)
    (keys : ∀ id ∈ ids, id ∈ index.map Prod.fst) :
    (∀ edge ∈ edges, edge.source ∈ ids ∧ edge.target ∈ ids) ∧
      (∀ edge ∈ edges, ∀ other ∈ index.outgoing edge.source, other.label ≠ edge.label) ∧
      edges.Pairwise (fun a b => a.source = b.source → a.label ≠ b.label) ∧
      ∀ node, left.outgoing node =
        index.outgoing node ++ edges.filter fun edge => edge.source == node := by
  induction edges generalizing index with
  | nil =>
    cases indexed
    simp
  | cons edge rest ih =>
    simp only [indexEdges, Computation.bind_eq_ok] at indexed
    obtain ⟨middle, added, indexed⟩ := indexed
    obtain ⟨joined, free, rfl⟩ := indexEdge_ok added
    have grown := Index.outgoing_add (keys edge.source joined.1)
    have later := ih indexed (by rwa [Index.add_keys])
    obtain ⟨ends, apart, distinct, outgoing⟩ := later
    refine ⟨?_, ?_, ?_, ?_⟩
    · exact List.forall_mem_cons.mpr ⟨joined, ends⟩
    · refine List.forall_mem_cons.mpr ⟨free, ?_⟩
      intro next member other found
      apply apart next member
      rw [grown]
      exact List.mem_append_left _ found
    · refine List.pairwise_cons.mpr ⟨?_, distinct⟩
      intro next member same
      apply apart next member
      rw [grown, List.mem_append]
      exact .inr (by simp [same])
    · intro node
      rw [outgoing, grown, List.append_assoc, ← List.filter_append]
      rfl

/-- Nodes that were checked have distinct ids. -/
theorem checkNodes_ok {ν : Type} {known : String → Bool} {flow : String} {seen : List String}
    {nodes : List (Node ν)} (checked : checkNodes known flow seen nodes = .ok ()) :
    (nodes.map Node.id).Nodup ∧ ∀ node ∈ nodes, node.id ∉ seen ∧ known node.type := by
  induction nodes generalizing seen with
  | nil => simp
  | cons node rest ih =>
    simp only [checkNodes] at checked
    split at checked
    · cases checked
    · rename_i unseen
      split at checked
      · cases checked
      · rename_i typed
        obtain ⟨distinct, fresh⟩ := ih checked
        refine ⟨?_, ?_⟩
        · rw [List.map_cons, List.nodup_cons]
          refine ⟨?_, distinct⟩
          intro twice
          obtain ⟨other, member, same⟩ := List.mem_map.mp twice
          apply (fresh other member).1
          rw [same]
          exact List.mem_append_right _ (List.mem_singleton_self _)
        · refine List.forall_mem_cons.mpr ⟨⟨unseen, by simpa using typed⟩, ?_⟩
          intro other member
          obtain ⟨unused, known⟩ := fresh other member
          exact ⟨fun early => unused (List.mem_append_left _ early), known⟩

/-- A fallback that was found is one of the nodes. -/
theorem fallback_ok {ν : Type} [Name ν] {flow : String} {ids : List String} {node : Node ν}
    {onError : Option String} (found : fallback flow ids node = .ok onError) :
    ∀ id, onError = some id → id ∈ ids := by
  intro id named
  subst named
  unfold fallback at found
  split at found
  · cases found
  · rw [Computation.bind_eq_ok] at found
    obtain ⟨known, searched, found⟩ := found
    split at found
    · rename_i other
      cases found
      unfold Name.find? at searched
      rw [Computation.bind_eq_ok] at searched
      obtain ⟨-, -, searched⟩ := searched
      split at searched
      · rename_i text
        rw [Computation.pure_eq_ok] at searched
        split at searched
        · rename_i member
          cases searched
          exact member
        · cases searched
      · cases searched
    · simp only [Computation.bind_eq_ok, Computation.throw_eq_ok, and_false, exists_false] at found

/-- Nodes that were settled are as they were authored, and what they refer to are nodes. -/
theorem settleNodes_ok {ν : Type} [Name ν] {flow : String} {ids : List String}
    {nodes : List (Node ν)} {settled : List (Node String)}
    (done : settleNodes flow ids nodes = .ok settled) :
    settled.map (fun node => (node.id, node.type, node.content)) =
        nodes.map (fun node => (node.id, node.type, node.content)) ∧
      ∀ node ∈ settled, (∀ target, node.content = .goTo target → target ∈ ids) ∧
        ∀ fallback, node.onError = some fallback → fallback ∈ ids := by
  induction nodes generalizing settled with
  | nil =>
    cases done
    simp
  | cons node rest ih =>
    simp only [settleNodes, Computation.bind_eq_ok, Computation.pure_eq_ok] at done
    obtain ⟨_, checked, onError, found, others, more, rfl⟩ := done
    obtain ⟨same, sound⟩ := ih more
    refine ⟨?_, List.forall_mem_cons.mpr ⟨⟨?_, ?_⟩, sound⟩⟩
    · simp only [List.map_cons, same]
    · intro target jumps
      have kind : node.content = .goTo target := jumps
      simp only [checkTarget, kind] at checked
      split at checked
      · assumption
      · cases checked
    · exact fallback_ok found

/-- A graph keeps the rules of flows. -/
structure Graph.Sound (graph : Graph) : Prop where
  /-- Its nodes have distinct ids. -/
  distinct : graph.ids.Nodup
  /-- It has one start. -/
  starts : (graph.nodes.filter fun node => node.type == "start").map Node.id = [graph.start]
  /-- Its edges join nodes. -/
  ends : ∀ edge ∈ graph.edges, edge.source ∈ graph.ids ∧ edge.target ∈ graph.ids
  /-- Its edges are told apart by source and label. -/
  labels : graph.edges.Pairwise fun a b => a.source = b.source → a.label ≠ b.label
  /-- Its jumps lead to nodes. -/
  targets : ∀ node ∈ graph.nodes, ∀ target, node.content = .goTo target → target ∈ graph.ids
  /-- Its fallbacks are nodes. -/
  fallbacks : ∀ node ∈ graph.nodes, ∀ id, node.onError = some id → id ∈ graph.ids
  /-- Its index holds the edges of each source in order. -/
  outgoing : ∀ node, graph.outgoing node = graph.edges.filter fun edge => edge.source == node

/-- The index of nodes without edges holds none. -/
theorem Index.outgoing_nodes (ids : List String) (node : String) :
    Index.outgoing (ids.map fun id => (id, [])) node = [] := by
  induction ids with
  | nil => rfl
  | cons id rest ih =>
    simp only [Index.outgoing, List.map_cons, List.lookup_cons] at ih ⊢
    split
    · rfl
    · exact ih

/-- What an assembled graph has of the parts it was assembled from. -/
theorem Graph.parts_of_assemble {ν : Type} [Name ν] {known : String → Bool} {id name : String}
    {nodes : List (Node ν)} {edges : List Edge} {graph : Graph}
    (assembled : Graph.assemble known id name nodes edges = .ok graph) :
    graph.id = id ∧ graph.id ≠ "" ∧ graph.name = (if name = "" then id else name) ∧
      graph.edges = edges ∧
      graph.nodes.map (fun node => (node.id, node.type, node.content)) =
        nodes.map (fun node => (node.id, node.type, node.content)) ∧
      checkNodes known id [] nodes = .ok () ∧
      indexEdges id (nodes.map Node.id) ((nodes.map Node.id).map fun node => (node, [])) edges =
        .ok graph.index ∧
      (nodes.filter fun node => node.type == "start").map Node.id = [graph.start] ∧
      settleNodes id (nodes.map Node.id) nodes = .ok graph.nodes := by
  simp only [Graph.assemble] at assembled
  split at assembled
  · cases assembled
  rename_i named
  simp only [Computation.bind_eq_ok] at assembled
  obtain ⟨_, checked, index, indexed, assembled⟩ := assembled
  split at assembled
  · rename_i start starts
    simp only [Computation.bind_eq_ok, Computation.pure_eq_ok] at assembled
    obtain ⟨settled, done, rfl⟩ := assembled
    exact ⟨rfl, named, rfl, rfl, (settleNodes_ok done).1, checked, indexed, starts, done⟩
  · cases assembled

/-- A graph that was assembled keeps the rules. -/
theorem Graph.assemble_sound {ν : Type} [Name ν] {known : String → Bool} {id name : String}
    {nodes : List (Node ν)} {edges : List Edge} {graph : Graph}
    (assembled : Graph.assemble known id name nodes edges = .ok graph) : graph.Sound := by
  obtain ⟨-, -, -, rfl, same, checked, indexed, starts, settled⟩ := parts_of_assemble assembled
  obtain ⟨-, refers⟩ := settleNodes_ok settled
  have keys : ∀ id ∈ nodes.map Node.id,
      id ∈ ((nodes.map Node.id).map fun node => (node, ([] : List Edge))).map Prod.fst := by
    intro id member
    rw [List.map_map]
    exact List.mem_map.mpr ⟨id, member, rfl⟩
  obtain ⟨ends, -, labels, outgoing⟩ := indexEdges_ok indexed keys
  obtain ⟨distinct, -⟩ := checkNodes_ok checked
  have ids : graph.nodes.map Node.id = nodes.map Node.id := by
    simpa only [List.map_map, Function.comp_def] using congrArg (List.map Prod.fst) same
  have started : (graph.nodes.filter fun node => node.type == "start").map Node.id =
      (nodes.filter fun node => node.type == "start").map Node.id := by
    have picked := congrArg
      (fun list => (list.filter fun part => part.2.1 == "start").map Prod.fst) same
    simpa only [List.filter_map, List.map_map, Function.comp_def] using picked
  refine ⟨?_, started.trans starts, ?_, labels, ?_, ?_, fun node => ?_⟩
  · rw [Graph.ids, ids]
    exact distinct
  · rw [Graph.ids, ids]
    exact ends
  · rw [Graph.ids, ids]
    exact fun node member => (refers node member).1
  · rw [Graph.ids, ids]
    exact fun node member => (refers node member).2
  · rw [Graph.outgoing, outgoing node, Index.outgoing_nodes, List.nil_append]

/-- A graph that was loaded keeps the rules. -/
theorem load_sound {extensions : Extensions} {raw : Value} {graph : Graph}
    (loaded : load extensions raw = .ok graph) : graph.Sound := by
  unfold load at loaded
  split at loaded
  · simp only [Computation.bind_eq_ok] at loaded
    obtain ⟨_, -, _, -, _, -, _, -, _, -, _, -, assembled⟩ := loaded
    exact Graph.assemble_sound assembled
  · cases loaded

/-- A wait holds the timeout that is given, if one is, and the keywords that are given. -/
theorem readWait_eq (node : String) (entries : Entries) : readWait node entries = do
    let timeout ← (pick entries ["timeout", "timeoutSeconds", "timeout_seconds"]).elim (pure none)
      fun value => some <$> readTimeout node value
    let keywords ← (pick entries ["keywords", "expectedKeywords", "expected_keywords"]).elim
      (pure []) readKeywords
    return .wait timeout keywords
      (pickTruth entries ["holdOnMismatch", "hold_on_mismatch"] false) := by
  unfold readWait
  cases pick entries ["timeout", "timeoutSeconds", "timeout_seconds"] <;>
    cases pick entries ["keywords", "expectedKeywords", "expected_keywords"] <;> rfl

/-- What a node of a type holds is read from entries in the way of its kind. -/
def Content.ReadFrom (extensions : Extensions) (type node : String) (entries : Entries)
    (content : Content) : Prop :=
  match content with
  | .tag _ => extensions.contains type = true ∧ readTag entries = .ok content
  | .start => type = "start" ∧ extensions.contains type = false
  | .finish => type = "end" ∧ extensions.contains type = false
  | .message _ => type = "message" ∧ extensions.contains type = false ∧
      readMessage entries = .ok content
  | .condition _ => type = "condition" ∧ extensions.contains type = false ∧
      readCondition node entries = .ok content
  | .wait .. => type = "wait" ∧ extensions.contains type = false ∧
      readWait node entries = .ok content
  | .generate .. => type = "aiKnowledge" ∧ extensions.contains type = false ∧
      readGenerate entries = .ok content
  | .goTo _ => type = "goTo" ∧ extensions.contains type = false ∧
      readGoTo node entries = .ok content

/-- What is read for a node is read in the way of its kind. -/
theorem readContent_ok {extensions : Extensions} {type node : String} {entries : Entries}
    {content : Content} (read : readContent? extensions type node entries = some (.ok content)) :
    content.ReadFrom extensions type node entries := by
  unfold readContent? at read
  split at read
  · rename_i registered
    have tag := Option.some.inj read
    obtain ⟨text, -, rfl⟩ : ∃ text, _ ∧ Content.tag text = content := by
      simpa only [readTag, Computation.bind_eq_ok, Computation.pure_eq_ok] using tag
    exact ⟨registered, tag⟩
  rename_i unregistered
  replace unregistered := Bool.eq_false_iff.mpr unregistered
  split at read
  all_goals simp only [Option.some.injEq, reduceCtorEq] at read
  · cases read
    exact ⟨rfl, unregistered⟩
  · cases read
    exact ⟨rfl, unregistered⟩
  · obtain ⟨template, -, rfl⟩ : ∃ template, _ ∧ Content.message template = content := by
      simpa only [readMessage, Computation.bind_eq_ok, Computation.pure_eq_ok] using read
    exact ⟨rfl, unregistered, read⟩
  · have done := read
    unfold readCondition at done
    split at done
    · cases done
    · simp only [Computation.bind_eq_ok, Computation.pure_eq_ok] at done
      obtain ⟨asked, -, rfl⟩ := done
      exact ⟨rfl, unregistered, read⟩
  · have done := read
    rw [readWait_eq] at done
    simp only [Computation.bind_eq_ok, Computation.pure_eq_ok] at done
    obtain ⟨timeout, -, keywords, -, rfl⟩ := done
    exact ⟨rfl, unregistered, read⟩
  · have done := read
    simp only [readGenerate, Computation.bind_eq_ok, Computation.pure_eq_ok] at done
    obtain ⟨template, -, output, -, rfl⟩ := done
    exact ⟨rfl, unregistered, read⟩
  · have done := read
    unfold readGoTo at done
    split at done
    · split at done
      · simp only [Computation.bind_eq_ok, Computation.pure_eq_ok] at done
        obtain ⟨target, -, rfl⟩ := done
        exact ⟨rfl, unregistered, read⟩
      · simp only [Computation.throw_eq_ok] at done
    · simp only [Computation.throw_eq_ok] at done

/-- What is no mapping with an id is no node. -/
theorem nodeShape_fails (raw : Value) (node : Node Value) : readNode.badShape raw ≠ .ok node := by
  simp [readNode.badShape, Computation.bind_eq_ok, Computation.throw_eq_ok]

/-- A node is read from entries with an id, a known type under one of its names, and data in which
the content and the fallback stand. -/
theorem readNode_ok {extensions : Extensions} {raw : Value} {node : Node Value} :
    readNode extensions raw = .ok node ↔ ∃ (entries data : Entries), raw = .dict entries ∧
      typeOf (valueAt entries "type") = .text node.type ∧ knownType extensions node.type = true ∧
      dataEntries (valueAt entries "data") = .ok data ∧
      readContent? extensions node.type node.id data = some (.ok node.content) ∧
      node.onError = pick data ["onError", "on_error"] ∧
      ∃ id, entries.text? "id" = some id ∧ id.asText = .ok node.id := by
  constructor
  · intro read
    unfold readNode at read
    split at read
    · rename_i entries
      split at read
      · exact absurd read (nodeShape_fails _ _)
      rename_i own given
      simp only [Computation.bind_eq_ok] at read
      obtain ⟨id, spelled, _, -, read⟩ := read
      split at read
      · rename_i type named
        split at read
        · simp [Computation.bind_eq_ok, Computation.throw_eq_ok] at read
        rename_i known
        simp only [Computation.bind_eq_ok] at read
        obtain ⟨data, held, read⟩ := read
        split at read
        · simp only [Computation.bind_eq_ok, Computation.throw_eq_ok, and_false,
            exists_false] at read
        · rename_i content found
          simp only [Computation.bind_eq_ok, Computation.pure_eq_ok] at read
          obtain ⟨whole, done, rfl⟩ := read
          exact ⟨entries, data, rfl, named, by simpa using known, held, done ▸ found, rfl, own,
            given, spelled⟩
      · simp only [Computation.bind_eq_ok, Computation.throw_eq_ok, and_false, exists_false] at read
    · exact absurd read (nodeShape_fails _ _)
  · rintro ⟨entries, data, rfl, named, known, held, content, fallback, id, given, spelled⟩
    have fixed : (valueAt entries "type").requireFixed = .ok () := by
      generalize valueAt entries "type" = type at named
      cases type with
      | text => rfl
      | _ => cases named
    unfold valueAt at named held fixed
    simp only [readNode, given, spelled, named, held, fixed, known, content, ← fallback,
      Computation.ok_bind, Bool.not_true, Bool.false_eq_true, if_false]
    rfl

/-- What is no mapping with two ends is no edge. -/
theorem edgeShape_fails (raw : Value) (edge : Edge) : readEdge.badShape raw ≠ .ok edge := by
  simp [readEdge.badShape, Computation.bind_eq_ok, Computation.throw_eq_ok]

/-- An edge is read from entries with the two ends. It has the label that stands for a branch, and
the id that is given, or one of its place and its ends. -/
theorem readEdge_ok {index : Nat} {raw : Value} {edge : Edge} :
    readEdge index raw = .ok edge ↔ ∃ (entries : Entries) (source target : Value),
      raw = .dict entries ∧
      (entries.text? "source" = some source ∧ source.asText = .ok edge.source) ∧
      (entries.text? "target" = some target ∧ target.asText = .ok edge.target) ∧
      branchOf (labelValue entries) = .ok edge.label ∧
      (if (valueAt entries "id").truthy then (valueAt entries "id").asText
        else .ok ("e" ++ toString index ++ "-" ++ edge.source ++ "-" ++ edge.target)) =
        .ok edge.id := by
  constructor
  · intro read
    unfold readEdge at read
    split at read
    · rename_i entries
      split at read
      · rename_i source target begins ends
        simp only [Computation.bind_eq_ok] at read
        obtain ⟨first, spelled, second, spelledToo, label, branch, named⟩ := read
        refine ⟨entries, source, target, rfl, ?_⟩
        split at named
        · rename_i truthy
          obtain ⟨id, given, built⟩ := Computation.bind_eq_ok.mp named
          cases built
          rw [if_pos truthy]
          exact ⟨⟨begins, spelled⟩, ⟨ends, spelledToo⟩, branch, given⟩
        · rename_i falsy
          cases named
          rw [if_neg falsy]
          exact ⟨⟨begins, spelled⟩, ⟨ends, spelledToo⟩, branch, rfl⟩
      · exact absurd read (edgeShape_fails _ _)
    · exact absurd read (edgeShape_fails _ _)
  · rintro ⟨entries, source, target, rfl, ⟨begins, spelled⟩, ⟨ends, spelledToo⟩, branch, named⟩
    rw [readEdge, begins, ends]
    simp only [Computation.bind_eq_ok]
    refine ⟨_, spelled, _, spelledToo, _, branch, ?_⟩
    split at named
    · rename_i truthy
      rw [if_pos truthy, named]
      rfl
    · rename_i falsy
      rw [if_neg falsy, Except.ok.inj named]
      rfl

/-- Each node was read from one of the values. -/
theorem mem_of_readNodes {extensions : Extensions} {raws : List Value} {nodes : List (Node Value)}
    (read : readNodes extensions raws = .ok nodes) :
    ∀ node ∈ nodes, ∃ raw ∈ raws, readNode extensions raw = .ok node := by
  induction raws generalizing nodes with
  | nil =>
    cases read
    exact fun node none => (List.not_mem_nil none).elim
  | cons raw rest ih =>
    simp only [readNodes, Computation.bind_eq_ok, Computation.pure_eq_ok] at read
    obtain ⟨node, first, others, more, rfl⟩ := read
    refine List.forall_mem_cons.mpr ⟨⟨raw, List.mem_cons_self .., first⟩, fun other member => ?_⟩
    obtain ⟨own, among, done⟩ := ih more other member
    exact ⟨own, List.mem_cons_of_mem raw among, done⟩

/-- Each node of a graph that was loaded has the id, the type and the content of one that was
read. -/
theorem readNode_of_load {extensions : Extensions} {raw : Value} {graph : Graph}
    (loaded : load extensions raw = .ok graph) {node : Node String}
    (member : node ∈ graph.nodes) : ∃ source own, readNode extensions source = .ok own ∧
      own.id = node.id ∧ own.type = node.type ∧ own.content = node.content := by
  unfold load at loaded
  split at loaded
  · simp only [Computation.bind_eq_ok] at loaded
    obtain ⟨_, -, nodes, read, _, -, _, -, _, -, _, -, assembled⟩ := loaded
    obtain ⟨-, -, -, -, same, -⟩ := Graph.parts_of_assemble assembled
    have listed : (node.id, node.type, node.content) ∈
        nodes.map fun node => (node.id, node.type, node.content) :=
      same ▸ List.mem_map_of_mem member
    obtain ⟨own, among, equal⟩ := List.mem_map.mp listed
    obtain ⟨source, -, done⟩ := mem_of_readNodes read own among
    simp only [Prod.mk.injEq] at equal
    exact ⟨source, own, done, equal⟩
  · cases loaded

/-- What a node of a graph that was loaded holds was read from entries in the way of its kind. -/
theorem readContent_of_load {extensions : Extensions} {raw : Value} {graph : Graph}
    (loaded : load extensions raw = .ok graph) {node : Node String}
    (member : node ∈ graph.nodes) :
    ∃ entries, node.content.ReadFrom extensions node.type node.id entries := by
  obtain ⟨source, own, read, id, type, content⟩ := readNode_of_load loaded member
  obtain ⟨_, data, -, -, -, -, found, -⟩ := readNode_ok.mp read
  rw [← id, ← type, ← content]
  exact ⟨data, readContent_ok found⟩

namespace Graph

variable {graph : Graph}

/-- The index leads where an authored edge leads. -/
theorem Sound.successor_eq_some (sound : graph.Sound) {node target : String}
    {label : Option String} :
    graph.successor node label = some target ↔
      ∃ edge ∈ graph.edges, edge.source = node ∧ edge.label = label ∧ edge.target = target := by
  have found := sound.outgoing node
  unfold Graph.outgoing at found
  simp only [successor, Index.find?, found, Option.map_eq_some_iff]
  constructor
  · rintro ⟨edge, search, rfl⟩
    have member := List.mem_of_find?_eq_some search
    have labelled := List.find?_some search
    rw [List.mem_filter, beq_iff_eq] at member
    exact ⟨edge, member.1, member.2, by simpa using labelled, rfl⟩
  · rintro ⟨edge, member, leaves, labelled, leads⟩
    refine ⟨edge, ?_, leads⟩
    rw [List.find?_eq_some_iff_append]
    refine ⟨by simpa using labelled, ?_⟩
    obtain ⟨early, late, split⟩ := List.append_of_mem member
    refine ⟨early.filter fun edge => edge.source == node,
      late.filter fun edge => edge.source == node, ?_, ?_⟩
    · simp [split, leaves]
    · intro other earlier
      rw [List.mem_filter, beq_iff_eq] at earlier
      have apart := sound.labels
      rw [split, List.pairwise_append] at apart
      have differs := apart.2.2 other earlier.1 edge (List.mem_cons_self ..)
      simp only [← labelled, Bool.not_eq_true', beq_eq_false_iff_ne]
      exact differs (earlier.2.trans leaves.symm)

/-- Where the index leads there is a node. -/
theorem Sound.successor_mem (sound : graph.Sound) {node target : String} {label : Option String}
    (leads : graph.successor node label = some target) : target ∈ graph.ids := by
  obtain ⟨edge, member, -, -, rfl⟩ := sound.successor_eq_some.mp leads
  exact (sound.ends edge member).2

/-- A graph begins at one of its nodes. -/
theorem Sound.start_mem (sound : graph.Sound) : graph.start ∈ graph.ids := by
  have listed : graph.start ∈
      (graph.nodes.filter fun node => node.type == "start").map Node.id := by
    rw [sound.starts]
    exact List.mem_singleton_self _
  obtain ⟨node, member, named⟩ := List.mem_map.mp listed
  exact List.mem_map.mpr ⟨node, (List.mem_filter.mp member).1, named⟩

/-- What is found under an id is a node of that id. -/
theorem node?_eq_some {id : String} {node : Node String} (found : graph.node? id = some node) :
    node ∈ graph.nodes ∧ node.id = id :=
  ⟨List.mem_of_find?_eq_some found, by simpa using List.find?_some found⟩

/-- Under the id of a node a node is found. -/
theorem node?_isSome {id : String} (member : id ∈ graph.ids) :
    ∃ node, graph.node? id = some node := by
  obtain ⟨node, listed, named⟩ := List.mem_map.mp member
  rw [← Option.isSome_iff_exists, node?, List.find?_isSome]
  exact ⟨node, listed, by simpa using named⟩

end Graph

namespace Registry

/-- The versions of an id after a graph was added. -/
theorem versionsOf_add (registry : Registry) (graph : Graph) (id : String) :
    (registry.add graph).versionsOf id =
      registry.versionsOf id ++ if id = graph.id then [graph] else [] := by
  obtain ⟨versions⟩ := registry
  simp only [versionsOf, add]
  induction versions with
  | nil =>
    simp only [addVersion, List.lookup_cons, List.lookup_nil]
    by_cases asked : id = graph.id
    · simp [asked]
    · have differs : (id == graph.id) = false := by simpa using asked
      simp [asked, differs]
  | cons entry rest ih =>
    obtain ⟨key, graphs⟩ := entry
    simp only [addVersion]
    by_cases found : key = graph.id
    · rw [if_pos found]
      subst found
      by_cases asked : id = graph.id
      · simp [asked]
      · have differs : (id == graph.id) = false := by simpa using asked
        simp [asked, differs, List.lookup_cons]
    · rw [if_neg found]
      by_cases asked : id = key
      · subst asked
        simp [found]
      · have differs : (id == key) = false := by simpa using asked
        simp only [List.lookup_cons, differs]
        exact ih

/-- A version that was handed out stays what it is. -/
theorem get_add {registry : Registry} {id : String} {version : Int} {graph : Graph}
    (had : registry.get id version = .ok graph) (added : Graph) :
    (registry.add added).get id version = .ok graph := by
  unfold get at had ⊢
  rw [versionsOf_add]
  split at had
  · cases had
  · rename_i graphs nonempty
    simp only at had
    split at had
    · cases had
    · rename_i counts
      split at had
      · rename_i found
        cases had
        have within := (List.getElem?_eq_some_iff.mp found).1
        have kept : (registry.versionsOf id ++ if id = added.id then [added] else [])[
            version.toNat - 1]? = some graph := by
          rw [List.getElem?_append_left within]
          exact found
        split
        · rename_i none
          rw [List.append_eq_nil_iff] at none
          exact absurd none.1 nonempty
        · simp only [if_neg counts]
          rw [kept]
      · cases had

/-- The newest version is what is handed out under its number, which is above zero. -/
theorem get_latest {registry : Registry} {id : String} {graph : Graph} {count : Nat}
    (newest : registry.latest id = .ok (graph, count)) :
    1 ≤ count ∧ registry.get id count = .ok graph := by
  unfold latest at newest
  split at newest
  · rename_i last
    cases newest
    have nonempty : registry.versionsOf id ≠ [] := by
      intro none
      rw [none] at last
      cases last
    have positive : 1 ≤ (registry.versionsOf id).length := List.length_pos_iff.mpr nonempty
    refine ⟨positive, ?_⟩
    unfold get
    split
    · contradiction
    · have counts : ¬ ((registry.versionsOf id).length : Int) < 1 := by omega
      rw [List.getLast?_eq_getElem?] at last
      simp only [if_neg counts, Int.toNat_natCast, last]
  · cases newest

/-- What a registry hands out is one of its versions. -/
theorem mem_of_get {registry : Registry} {id : String} {version : Int} {graph : Graph}
    (had : registry.get id version = .ok graph) : graph ∈ registry.versionsOf id := by
  unfold get at had
  split at had
  · cases had
  · simp only at had
    split at had
    · cases had
    · split at had
      · rename_i found
        cases had
        exact List.mem_of_getElem? found
      · cases had

/-- Every version in the registry keeps the rules and is known by its id. -/
def Sound (registry : Registry) : Prop :=
  ∀ id, ∀ graph ∈ registry.versionsOf id, graph.Sound ∧ graph.id = id

/-- Nothing is in a new registry. -/
theorem sound_empty : empty.Sound := by
  intro id graph member
  cases member

/-- A registry stays sound when a sound graph is added. -/
theorem Sound.add {registry : Registry} {graph : Graph} (sound : registry.Sound)
    (kept : graph.Sound) : (registry.add graph).Sound := by
  intro id other member
  rw [versionsOf_add, List.mem_append] at member
  rcases member with early | late
  · exact sound id other early
  · split at late
    · rename_i named
      rw [List.mem_singleton] at late
      subst late
      exact ⟨kept, named.symm⟩
    · cases late

end Registry

end Parley.Flow
