import Mathlib.Data.List.Forall2
import Mathlib.Logic.Relation
import Parley.Proofs.Graphs
import Parley.Proofs.Payloads

/-!
# Definitions that are read alike

A definition may be spelled in another way: some of its fields hold other values, which stand for
the same. Whether it is still read alike, as the same graph or as none, is a matter of its parts,
and of a part it is a matter of the keys that are looked up. What may differ between two definitions
is told by a relation of the keys and of the values under them.
-/

namespace Parley

open Relation

namespace Computation

variable {α β γ δ : Type} {rel : α → β → Prop} {joined : γ → δ → Prop}

/-- Two computations end alike: in values that a relation joins, or both in failures. -/
inductive Concur (rel : α → β → Prop) : Except Failure α → Except Failure β → Prop where
  /-- Both end in values. -/
  | ok {value : α} {other : β} (joined : rel value other) : Concur rel (.ok value) (.ok other)
  /-- Both fail. -/
  | error (failure other : Failure) : Concur rel (.error failure) (.error other)

/-- A computation ends as it does, by a relation that joins each value with itself. -/
theorem Concur.self {rel : α → α → Prop} (own : ∀ value, rel value value)
    (result : Except Failure α) : Concur rel result result := by
  cases result with
  | ok value => exact .ok (own value)
  | error => exact .error _ _

/-- A computation ends as it does. -/
theorem Concur.refl (result : Except Failure α) : Concur Eq result result := .self Eq.refl result

/-- Computations that are the same end alike. -/
theorem Concur.of_eq {first second : Except Failure α} (same : first = second) :
    Concur Eq first second := same ▸ .refl first

/-- Computations that both end in no value end alike. -/
theorem Concur.of_fails {first : Except Failure α} {second : Except Failure β}
    (fails : ∀ value, first ≠ .ok value) (otherFails : ∀ value, second ≠ .ok value) :
    Concur rel first second := by
  cases first with
  | ok value => exact absurd rfl (fails value)
  | error =>
    cases second with
    | ok value => exact absurd rfl (otherFails value)
    | error => exact .error _ _

/-- Values in which computations end alike are what they end in. -/
theorem Concur.told {first : Except Failure α} {second : Except Failure β}
    (alike : Concur rel first second) :
    Concur (fun value other => rel value other ∧ first = .ok value ∧ second = .ok other) first
      second := by
  cases alike with
  | ok related => exact .ok ⟨related, rfl, rfl⟩
  | error => exact .error _ _

/-- An option is related to itself if its value is. -/
theorem rel_self {rel : α → α → Prop} (own : ∀ value, rel value value) (option : Option α) :
    Option.Rel rel option option := by
  cases option with
  | none => exact .none
  | some value => exact .some (own value)

/-- Sequences end alike if their parts do. -/
theorem Concur.bind {first : Except Failure α} {second : Except Failure β}
    {rest : α → Except Failure γ} {others : β → Except Failure δ} (before : Concur rel first second)
    (afterwards : ∀ value other, rel value other → Concur joined (rest value) (others other)) :
    Concur joined (first >>= rest) (second >>= others) := by
  cases before with
  | ok related => exact afterwards _ _ related
  | error => exact .error _ _

/-- Sequences end alike that begin alike and then end alike with the same value. -/
theorem Concur.andThen {first second : Except Failure α} {rest others : α → Except Failure γ}
    (before : Concur Eq first second)
    (afterwards : ∀ value, Concur Eq (rest value) (others value)) :
    Concur Eq (first >>= rest) (second >>= others) :=
  before.bind fun value _ same => same ▸ afterwards value

end Computation

open Parley.Computation

namespace Flow

variable {changes : String → Value → Value → Prop} {entries others : Entries}

/-- An entry has the value that it had, or another one if that may stand under its key. -/
inductive Revalued (changes : String → Value → Value → Prop) :
    Value × Value → Value × Value → Prop where
  /-- The entry is the same. -/
  | same (entry : Value × Value) : Revalued changes entry entry
  /-- The value under a text is another one. -/
  | changed {key : String} {old new : Value} (change : changes key old new) :
    Revalued changes (.text key, old) (.text key, new)

/-- Entries have the keys that they had in their order, some with other values. -/
def Changed (changes : String → Value → Value → Prop) : Entries → Entries → Prop :=
  List.Forall₂ (Revalued changes)

/-- A value is the same, or a dictionary with some other values. -/
inductive Altered (changes : String → Value → Value → Prop) : Value → Value → Prop where
  /-- The value is the same. -/
  | same (value : Value) : Altered changes value value
  /-- Some values of a dictionary are others. -/
  | fields {entries others : Entries} (changed : Changed changes entries others) :
    Altered changes (.dict entries) (.dict others)

/-- Sequences of one kind hold values that a relation joins, or the same, place by place. -/
inductive Parts (rel : Value → Value → Prop) : Value → Value → Prop where
  /-- They are lists. -/
  | list {items others : List Value} (joined : List.Forall₂ (ReflGen rel) items others) :
    Parts rel (.list items) (.list others)
  /-- They are tuples. -/
  | tuple {items others : List Value} (joined : List.Forall₂ (ReflGen rel) items others) :
    Parts rel (.tuple items) (.tuple others)

/-- Entries are the same but for none of their values. -/
theorem Changed.refl (entries : Entries) : Changed changes entries entries :=
  List.forall₂_same.mpr fun entry _ => .same entry

/-- Under a name stands what stood there, or what it may be changed to. -/
theorem Changed.text?_cases (changed : Changed changes entries others) (name : String) :
    entries.text? name = others.text? name ∨ ∃ old new, changes name old new ∧
      entries.text? name = some old ∧ others.text? name = some new := by
  unfold Changed at changed
  induction changed with
  | nil => exact .inl rfl
  | @cons entry _ _ _ revalued _ ih =>
    simp only [Entries.text?, Entries.get?, List.find?_cons] at ih ⊢
    cases revalued with
    | same =>
      cases entry.1.same (.text name) with
      | true => exact .inl rfl
      | false => exact ih
    | @changed key old new change =>
      rw [Value.same_text]
      by_cases same : key = name
      · subst same
        simp only [beq_self_eq_true]
        exact .inr ⟨old, new, change, rfl, rfl⟩
      · rw [beq_eq_false_iff_ne.mpr same]
        exact ih

/-- Under a name that is spared stands what stood there. -/
theorem Changed.text?_eq (changed : Changed changes entries others) {name : String}
    (spared : ∀ old new, ¬changes name old new) : entries.text? name = others.text? name := by
  rcases changed.text?_cases name with same | ⟨old, new, change, -⟩
  · exact same
  · exact absurd change (spared old new)

/-- The value under a name is what it was, or what it may be changed to. -/
theorem Changed.valueAt (changed : Changed changes entries others) (name : String) :
    ReflGen (changes name) (valueAt entries name) (valueAt others name) := by
  unfold Flow.valueAt
  rcases changed.text?_cases name with same | ⟨old, new, change, before, after⟩
  · rw [same]
  · rw [before, after]
    exact .single change

/-- The first of several keys that is set holds what it held, or what that may be changed to, if no
value is null before or after a change. -/
theorem Changed.pick_cases (changed : Changed changes entries others)
    (present : ∀ key old new, changes key old new → old ≠ .null ∧ new ≠ .null)
    (keys : List String) :
    pick entries keys = pick others keys ∨ ∃ key ∈ keys, ∃ old new, changes key old new ∧
      pick entries keys = some old ∧ pick others keys = some new := by
  induction keys with
  | nil => exact .inl rfl
  | cons key rest ih =>
    rw [pick, pick]
    rcases changed.text?_cases key with same | ⟨old, new, change, before, after⟩
    · rw [same]
      split
      · exact ih.imp_right fun ⟨name, member, found⟩ => ⟨name, .tail _ member, found⟩
      · exact ih.imp_right fun ⟨name, member, found⟩ => ⟨name, .tail _ member, found⟩
      · exact .inl rfl
    · obtain ⟨was, is⟩ := present key old new change
      refine .inr ⟨key, .head _, old, new, change, ?_, ?_⟩
      · rw [before]
        split <;> simp_all
      · rw [after]
        split <;> simp_all

/-- What is picked by keys is the same if the same stands under each. -/
theorem pick_congr {keys : List String}
    (same : ∀ key ∈ keys, entries.text? key = others.text? key) :
    pick entries keys = pick others keys := by
  induction keys with
  | nil => rfl
  | cons key rest ih =>
    obtain ⟨first, later⟩ := List.forall_mem_cons.mp same
    rw [pick, pick, first, ih later]

/-- The keys of the data from which the content of a node of a type is read. -/
def contentKeys (extensions : Extensions) (type : String) : List String :=
  if extensions.contains type then ["tag"]
  else
    match type with
    | "message" => ["text", "message"]
    | "condition" => ["expression", "condition"]
    | "wait" => ["timeout", "timeoutSeconds", "timeout_seconds", "keywords", "expectedKeywords",
        "expected_keywords", "holdOnMismatch", "hold_on_mismatch"]
    | "aiKnowledge" => ["prompt", "systemPrompt", "outputVariable", "output_variable",
        "useKnowledge", "use_knowledge"]
    | "goTo" => ["targetNodeId", "targetId", "target_node_id"]
    | _ => []

/-- Nodes of other types than one, and nodes of extensions, have no content under some keys, if none
of these is the tag or a key of another type. -/
theorem contentKeys_apart {extensions : Extensions} {own type key : String} {keys : List String}
    (tag : "tag" ∉ keys)
    (apart : ∀ type ∈ ["message", "condition", "wait", "aiKnowledge", "goTo"], type ≠ own →
      ∀ key ∈ contentKeys [] type, key ∉ keys)
    (other : ¬(type = own ∧ extensions.contains type = false))
    (member : key ∈ contentKeys extensions type) : key ∉ keys := by
  unfold contentKeys at member
  split at member
  · rw [List.mem_singleton.mp member]
    exact tag
  · rename_i unregistered
    have foreign : type ≠ own := fun same => other ⟨same, by simpa using unregistered⟩
    split at member
    case h_6 => exact (List.not_mem_nil member).elim
    all_goals exact apart _ (by decide) foreign key member

/-- The keys from which the content of a node of a built-in type is picked, each time the first of
several that is set. -/
def contentPicks (type : String) : List (List String) :=
  match type with
  | "message" => [["text", "message"]]
  | "condition" => [["expression", "condition"]]
  | "wait" => [["timeout", "timeoutSeconds", "timeout_seconds"],
      ["keywords", "expectedKeywords", "expected_keywords"], ["holdOnMismatch", "hold_on_mismatch"]]
  | "aiKnowledge" => [["prompt", "systemPrompt"], ["outputVariable", "output_variable"],
      ["useKnowledge", "use_knowledge"]]
  | "goTo" => [["targetNodeId", "targetId", "target_node_id"]]
  | _ => []

/-- The content of a node of a built-in type is the same if the same is picked each time. -/
theorem readContent?_of_picks {extensions : Extensions} {type node : String}
    (unregistered : extensions.contains type = false)
    (same : ∀ keys ∈ contentPicks type, pick entries keys = pick others keys) :
    readContent? extensions type node entries = readContent? extensions type node others := by
  unfold contentPicks at same
  simp only [readContent?, unregistered, Bool.false_eq_true, if_false]
  split
  · rfl
  · rfl
  · rw [readMessage, readMessage, pickText, pickText, same _ (.head _)]
  · rw [readCondition, readCondition, same _ (.head _)]
  · simp only [readWait, pickTruth, same _ (.head _), same _ (.tail _ (.head _)),
      same _ (.tail _ (.tail _ (.head _)))]
  · simp only [readGenerate, pickText, pickTruth, same _ (.head _), same _ (.tail _ (.head _)),
      same _ (.tail _ (.tail _ (.head _)))]
  · rw [readGoTo, readGoTo, same _ (.head _)]
  · rfl

/-- The content of a node is read from some keys alone. -/
theorem readContent?_congr {extensions : Extensions} {type node : String}
    (same : ∀ key ∈ contentKeys extensions type, entries.text? key = others.text? key) :
    readContent? extensions type node entries = readContent? extensions type node others := by
  cases registered : extensions.contains type with
  | true =>
    unfold contentKeys at same
    unfold readContent?
    rw [if_pos registered] at same ⊢
    rw [if_pos registered, readTag, readTag, same "tag" (.head _)]
  | false =>
    have within : ∀ keys ∈ contentPicks type, keys ⊆ contentKeys extensions type := by
      unfold contentKeys contentPicks
      rw [registered, if_neg Bool.false_ne_true]
      split <;> decide
    exact readContent?_of_picks registered fun keys member =>
      pick_congr fun key listed => same key (within keys member listed)

section Reading

variable {extensions : Extensions} {node edge : Value → Value → Prop}

/-- Nodes are read alike if their ids, their types and their data are. -/
theorem readNode_concur {holds : Entries → Entries → Prop}
    (ids : Option.Rel (fun old new => Concur Eq old.asText new.asText) (entries.text? "id")
      (others.text? "id"))
    (types : entries.text? "type" = others.text? "type")
    (data : Concur holds (dataEntries (valueAt entries "data"))
      (dataEntries (valueAt others "data")))
    (contents : ∀ type id given renewed, typeOf (valueAt entries "type") = .text type →
      holds given renewed → Option.Rel (Concur Eq) (readContent? extensions type id given)
        (readContent? extensions type id renewed))
    (fallbacks : ∀ given renewed, holds given renewed →
      pick given ["onError", "on_error"] = pick renewed ["onError", "on_error"]) :
    Concur Eq (readNode extensions (.dict entries)) (readNode extensions (.dict others)) := by
  unfold valueAt at data contents
  rw [readNode, readNode, ← types]
  generalize Entries.text? entries "id" = id at ids
  generalize Entries.text? others "id" = otherId at ids
  cases ids with
  | none => exact .of_fails (nodeShape_fails _) (nodeShape_fails _)
  | some alike =>
    refine alike.andThen fun id => .andThen (.refl _) fun _ => ?_
    split
    · rename_i type named
      split
      · exact .refl _
      · refine data.bind fun given renewed related => ?_
        have content := contents type id given renewed named related
        generalize readContent? extensions type id given = first at content
        generalize readContent? extensions type id renewed = second at content
        cases content with
        | none => exact .refl _
        | some alike =>
          rw [fallbacks given renewed related]
          exact alike.andThen fun _ => .refl _
    · exact .refl _

/-- The handle stands in for a label that is not set. -/
theorem labelValue_unset {entries : Entries}
    (unset : valueAt entries "label" = .null ∨ valueAt entries "label" = .text "") :
    labelValue entries = if (valueAt entries "sourceHandle").truthy then
      valueAt entries "sourceHandle" else .null := by
  unfold labelValue
  rcases unset with null | empty
  · simp only [null]
  · simp only [empty]

/-- Edges are read alike if their ends, their labels and their ids are. -/
theorem readEdge_concur (index : Nat)
    (sources : Option.Rel (fun old new => Concur Eq old.asText new.asText) (entries.text? "source")
      (others.text? "source"))
    (targets : Option.Rel (fun old new => Concur Eq old.asText new.asText) (entries.text? "target")
      (others.text? "target"))
    (labels : Concur Eq (branchOf (labelValue entries)) (branchOf (labelValue others)))
    (ids : valueAt entries "id" = valueAt others "id") :
    Concur Eq (readEdge index (.dict entries)) (readEdge index (.dict others)) := by
  rw [readEdge, readEdge, ← ids]
  generalize Entries.text? entries "source" = source at sources
  generalize Entries.text? others "source" = otherSource at sources
  generalize Entries.text? entries "target" = target at targets
  generalize Entries.text? others "target" = otherTarget at targets
  cases sources with
  | none =>
    exact .of_fails (edgeShape_fails _) (edgeShape_fails _)
  | some first =>
    cases targets with
    | none => exact .of_fails (edgeShape_fails _) (edgeShape_fails _)
    | some second =>
      exact first.andThen fun _ => second.andThen fun _ => labels.andThen fun _ => .refl _

/-- Nodes are read alike in order if each is. -/
theorem readNodes_concur {raws renewed : List Value} (joined : List.Forall₂ node raws renewed)
    (alike : ∀ old new, node old new →
      Concur Eq (readNode extensions old) (readNode extensions new)) :
    Concur Eq (readNodes extensions raws) (readNodes extensions renewed) := by
  induction joined with
  | nil => exact .ok rfl
  | cons first _ ih =>
    exact (alike _ _ first).andThen fun _ => ih.andThen fun _ => .refl _

/-- Edges are read alike in order if each is in its place. -/
theorem readEdges_concur {raws renewed : List Value} (joined : List.Forall₂ edge raws renewed)
    (alike : ∀ index old new, edge old new →
      Concur Eq (readEdge index old) (readEdge index new)) (index : Nat) :
    Concur Eq (readEdges index raws) (readEdges index renewed) := by
  induction joined generalizing index with
  | nil => exact .ok rfl
  | cons first _ ih =>
    exact (alike index _ _ first).andThen fun _ => (ih (index + 1)).andThen fun _ => .refl _

/-- Parts that may be others are joined place by place. -/
theorem partsAt_concur {rel : Value → Value → Prop} {key : String}
    (related : ReflGen (Parts rel) (valueAt entries key) (valueAt others key)) :
    Concur (List.Forall₂ (ReflGen rel)) (partsAt entries key) (partsAt others key) := by
  have joins {items renewed : List Value} (joined : List.Forall₂ (ReflGen rel) items renewed) :
      Concur (List.Forall₂ (ReflGen rel)) (if (!items.isEmpty) = true then .ok items else .ok [])
        (if (!renewed.isEmpty) = true then .ok renewed else .ok []) := by
    cases joined with
    | nil => exact .ok .nil
    | cons first rest => exact .ok (.cons first rest)
  unfold partsAt
  generalize valueAt entries key = old at related
  generalize valueAt others key = new at related
  cases related with
  | refl => exact .self (fun items => List.forall₂_same.mpr fun _ _ => .refl) _
  | single changed =>
    cases changed with
    | list joined => exact joins joined
    | tuple joined => exact joins joined

/-- The entries of data that are a dictionary. -/
theorem dataEntries_dict (data : Entries) : dataEntries (.dict data) = .ok data := by
  cases data <;> rfl

/-- Data that may be others have entries that a relation joins, in whatever form they are given, if
it joins each entries with themselves. -/
theorem dataEntries_concur {holds : Entries → Entries → Prop} {key : String}
    (own : ∀ given, holds given given)
    (related : ReflGen (fun old new => Concur holds (dataEntries old) (dataEntries new))
      (valueAt entries key) (valueAt others key)) :
    Concur holds (dataEntries (valueAt entries key)) (dataEntries (valueAt others key)) := by
  generalize valueAt entries key = old at related
  generalize valueAt others key = new at related
  cases related with
  | refl => exact .self own _
  | single alike => exact alike

/-- Definitions are the same but for some of their nodes and some of their edges. -/
def Revised (node edge : Value → Value → Prop) : Value → Value → Prop :=
  Altered fun key old new => key = "nodes" ∧ Parts node old new ∨ key = "edges" ∧ Parts edge old new

/-- Definitions are loaded alike if their nodes and their edges are read alike: as the same graph,
or as none. -/
theorem Revised.load {raw renewed : Value} (revised : Revised node edge raw renewed)
    (nodes : ∀ old new, node old new →
      Concur Eq (readNode extensions old) (readNode extensions new))
    (edges : ∀ index old new, edge old new →
      Concur Eq (readEdge index old) (readEdge index new)) :
    Concur Eq (load extensions raw) (load extensions renewed) := by
  cases revised with
  | same => exact .refl _
  | @fields entries others changed =>
    have texts (key : String) (spared : key ≠ "nodes" ∧ key ≠ "edges") :
        textAt entries key = textAt others key := by
      have same : entries.text? key = others.text? key := changed.text?_eq (by simp [spared])
      rw [textAt, textAt, valueAt, valueAt, same]
    have parts := changed.valueAt "nodes"
    have links := changed.valueAt "edges"
    have nodeParts : Concur (List.Forall₂ (ReflGen node)) (partsAt entries "nodes")
        (partsAt others "nodes") := partsAt_concur (parts.mono fun old new => by simp)
    have edgeParts : Concur (List.Forall₂ (ReflGen edge)) (partsAt entries "edges")
        (partsAt others "edges") := partsAt_concur (links.mono fun old new => by simp)
    rw [Flow.load, Flow.load, texts "id" (by decide), texts "name" (by decide)]
    refine nodeParts.bind fun _ _ joined => (readNodes_concur joined ?_).andThen fun _ =>
      edgeParts.bind fun _ _ joined => (readEdges_concur joined ?_ 0).andThen fun _ => .refl _
    · intro old new related
      cases related with
      | refl => exact .refl _
      | single changed => exact nodes old new changed
    · intro index old new related
      cases related with
      | refl => exact .refl _
      | single changed => exact edges index old new changed

/-- Each of some values is read if nodes are. -/
theorem readNode_of_readNodes {raws : List Value} {nodes : List (Node Value)}
    (read : readNodes extensions raws = .ok nodes) :
    ∀ raw ∈ raws, ∃ node ∈ nodes, readNode extensions raw = .ok node := by
  induction raws generalizing nodes with
  | nil => exact fun raw none => (List.not_mem_nil none).elim
  | cons raw rest ih =>
    simp only [readNodes, bind_eq_ok, pure_eq_ok] at read
    obtain ⟨node, first, others, more, rfl⟩ := read
    refine List.forall_mem_cons.mpr ⟨⟨node, .head _, first⟩, fun other member => ?_⟩
    obtain ⟨own, among, done⟩ := ih more other member
    exact ⟨own, .tail _ among, done⟩

/-- Each of some values is read in its place if edges are. -/
theorem readEdge_of_readEdges {raws : List Value} {edges : List Edge} {index : Nat}
    (read : readEdges index raws = .ok edges) :
    ∀ raw ∈ raws, ∃ place edge, readEdge place raw = .ok edge := by
  induction raws generalizing index edges with
  | nil => exact fun raw none => (List.not_mem_nil none).elim
  | cons raw rest ih =>
    simp only [readEdges, bind_eq_ok] at read
    obtain ⟨edge, first, others, more, -⟩ := read
    exact List.forall_mem_cons.mpr ⟨⟨index, edge, first⟩, ih more⟩

/-- If a definition is loaded, each of its nodes is read. -/
theorem readNode_of_parts {graph : Graph} {parts : List Value}
    (loaded : load extensions (.dict entries) = .ok graph)
    (held : partsAt entries "nodes" = .ok parts) :
    ∀ raw ∈ parts, ∃ node, readNode extensions raw = .ok node := by
  simp only [load, held, ok_bind, bind_eq_ok] at loaded
  obtain ⟨nodes, read, -⟩ := loaded
  intro raw member
  obtain ⟨node, -, done⟩ := readNode_of_readNodes read raw member
  exact ⟨node, done⟩

end Reading

/-- A node of an id, a type and data, as it is authored. -/
def authoredNode (id : Value) (type : String) (data : Entries) : Value :=
  .dict [(.text "id", id), (.text "type", .text type), (.text "data", .dict data)]

/-- An edge between two nodes with further entries, as it is authored. -/
def authoredEdge (source target : Value) (entries : Entries) : Value :=
  .dict ((.text "source", source) :: (.text "target", target) :: entries)

end Flow

end Parley
