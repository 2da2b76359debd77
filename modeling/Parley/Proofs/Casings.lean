import Mathlib.Data.List.Find
import Parley.Proofs.Rereading
import Parley.Proofs.Spellings

/-!
# Keys in two spellings

A key of several words has two spellings: with a capital at the beginning of each further word, or
with a low line between the words. A definition is loaded alike in both, but for three keys that
have only the first one: the prompt of the system, the second name of a target, and the handle of an
edge's source. In the second spelling such a key is not seen. Then a generator is asked with no
prompt, a jump has no target, and an edge no label.
-/

namespace Parley.Flow

open Parley.Computation Relation

/-- The keys of several words, each in its two spellings. -/
def spellings : List (String × String) := [
  ("onError", "on_error"), ("timeoutSeconds", "timeout_seconds"),
  ("expectedKeywords", "expected_keywords"), ("holdOnMismatch", "hold_on_mismatch"),
  ("outputVariable", "output_variable"), ("useKnowledge", "use_knowledge"),
  ("systemPrompt", "system_prompt"), ("targetNodeId", "target_node_id"),
  ("targetId", "target_id"), ("sourceHandle", "source_handle")]

/-- A key in its second spelling, if it has one. -/
def respell (key : String) : String := (spellings.lookup key).getD key

/-- An entry with its key respelled. -/
def respellEntry : Value × Value → Value × Value
  | (.text key, value) => (.text (respell key), value)
  | entry => entry

/-- Entries have no key in its second spelling, and then all keys in it. -/
structure Respelled (entries others : Entries) : Prop where
  /-- No key is in its second spelling. -/
  unspelled : ∀ spelling ∈ spellings, entries.text? spelling.2 = none
  /-- The keys are respelled. -/
  respelled : others = entries.map respellEntry

/-- A node with the keys of its data respelled, in whatever form these are given. -/
structure RespelledNode (entries others : Entries) : Prop where
  /-- What stands beside the data is the same. -/
  beside : ∀ key, key ≠ "data" → entries.text? key = others.text? key
  /-- The keys of the data are respelled. -/
  data : Concur Respelled (dataEntries (valueAt entries "data"))
    (dataEntries (valueAt others "data"))

/-- Data of a node of a type in which a prompt or a target stands only under a key that has no
second spelling. -/
def Bereft (type : String) (data : Entries) : Prop :=
  type = "aiKnowledge" ∧ pick data ["prompt"] = none ∧ pick data ["systemPrompt"] ≠ none ∨
    type = "goTo" ∧ pick data ["targetNodeId"] = none ∧ pick data ["targetId"] ≠ none

/-- A node of a built-in type in whose data a prompt or a target stands only under a key that has no
second spelling. -/
def BereftNode (extensions : Extensions) (type : String) (entries : Entries) : Prop :=
  typeOf (valueAt entries "type") = .text type ∧ extensions.contains type = false ∧
    ∃ data, dataEntries (valueAt entries "data") = .ok data ∧ Bereft type data

/-- An edge for whose label the handle of its source stands in. -/
def Unset (entries : Entries) : Prop :=
  valueAt entries "label" = .null ∨ valueAt entries "label" = .text ""

/-- An edge whose label is given by the handle of its source. -/
def Handled (entries : Entries) : Prop :=
  Unset entries ∧ branchOf (labelValue entries) ≠ .ok none

variable {extensions : Extensions} {entries others : Entries}

/-- No key has the second spelling of another. -/
theorem spellings_inj : ∀ spelling ∈ spellings, ∀ other ∈ spellings,
    spelling.2 = other.2 ↔ spelling.1 = other.1 := by
  decide

/-- No second spelling is a first one. -/
theorem spellings_apart : ∀ spelling ∈ spellings, ∀ other ∈ spellings,
    spelling.2 ≠ other.1 := by
  decide

/-- A key is respelled, or it is none of those that have two spellings and stays. -/
theorem respell_cases (key : String) :
    (∃ spelling ∈ spellings, key = spelling.1 ∧ respell key = spelling.2) ∨
      (∀ spelling ∈ spellings, key ≠ spelling.1) ∧ respell key = key := by
  cases found : spellings.lookup key with
  | some other =>
    obtain ⟨before, after, split, -⟩ := List.lookup_eq_some_iff.mp found
    have member : (key, other) ∈ spellings := by simp [split]
    exact .inl ⟨(key, other), member, rfl, by rw [respell, found]; rfl⟩
  | none =>
    refine .inr ⟨fun spelling member same => ?_, by rw [respell, found]; rfl⟩
    exact absurd same (by simpa using List.lookup_eq_none_iff.mp found spelling member)

/-- Only a text is the same as a text. -/
theorem same_text_iff {value : Value} {name : String} :
    value.same (.text name) = true ↔ value = .text name := by
  cases value with
  | text other => rw [Value.same_text, beq_iff_eq, Value.text.injEq]
  | _ => simp [Value.same, Value.sameAtom, Value.number?]

/-- An entry has a name when it is respelled if its key is respelled to the name. -/
theorem respellEntry_iff {entry : Value × Value} {name : String} :
    (respellEntry entry).1 = .text name ↔ ∃ key, entry.1 = .text key ∧ respell key = name := by
  obtain ⟨key, value⟩ := entry
  cases key <;> simp [respellEntry]

/-- The first of several keys that is set is the first, or else the first of the others. -/
theorem pick_cons_cons (entries : Entries) (key other : String) (rest : List String) :
    pick entries (key :: other :: rest) =
      (pick entries [key]).or (pick entries (other :: rest)) := by
  rw [pick, pick, pick]
  split <;> rfl

namespace Respelled

/-- What stands under a name stood under another, if just that is respelled to the name. -/
theorem text?_eq (respelled : Respelled entries others) {name old : String}
    (joined : ∀ entry ∈ entries, ∀ key, entry.1 = .text key → (respell key = name ↔ key = old)) :
    others.text? name = entries.text? old := by
  have found : entries.find? ((fun entry => entry.1.same (.text name)) ∘ respellEntry) =
      entries.find? fun entry => entry.1.same (.text old) := by
    refine List.find?_congr fun entry member => Bool.eq_iff_iff.mpr ?_
    rw [Function.comp_apply, same_text_iff, same_text_iff, respellEntry_iff]
    constructor
    · rintro ⟨key, named, respelt⟩
      rw [named, (joined entry member key named).mp respelt]
    · exact fun named => ⟨old, named, (joined entry member old named).mpr rfl⟩
  have values : Prod.snd ∘ respellEntry = Prod.snd := by
    funext entry
    obtain ⟨key, value⟩ := entry
    cases key <;> rfl
  rw [respelled.respelled, Entries.text?, Entries.text?, Entries.get?, Entries.get?,
    List.find?_map, Option.map_map, found, values]

/-- No entry has a key in its second spelling. -/
theorem key_ne (respelled : Respelled entries others) {entry : Value × Value}
    (member : entry ∈ entries) {key : String} (named : entry.1 = .text key) :
    ∀ spelling ∈ spellings, key ≠ spelling.2 := by
  rintro spelling listed rfl
  have absent := respelled.unspelled spelling listed
  rw [Entries.text?, Entries.get?, Option.map_eq_none_iff, List.find?_eq_none] at absent
  exact absent entry member (same_text_iff.mpr named)

/-- In the second spelling of a key stands what stood in the first. -/
theorem text?_second (respelled : Respelled entries others) {spelling : String × String}
    (member : spelling ∈ spellings) : others.text? spelling.2 = entries.text? spelling.1 := by
  refine respelled.text?_eq fun entry listed key named => ?_
  have unspelled := respelled.key_ne listed named
  rcases respell_cases key with ⟨other, among, rfl, respelt⟩ | ⟨plain, stays⟩
  · rw [respelt]
    exact spellings_inj other among spelling member
  · rw [stays]
    exact iff_of_false (unspelled spelling member) (plain spelling member)

/-- In the first spelling of a key stands nothing. -/
theorem text?_first (respelled : Respelled entries others) {spelling : String × String}
    (member : spelling ∈ spellings) : others.text? spelling.1 = none := by
  rw [respelled.respelled, Entries.text?, Entries.get?, Option.map_eq_none_iff,
    List.find?_eq_none, List.forall_mem_map]
  intro entry _ named
  obtain ⟨key, -, respelt⟩ := respellEntry_iff.mp (same_text_iff.mp named)
  rcases respell_cases key with ⟨other, among, -, second⟩ | ⟨plain, stays⟩
  · exact spellings_apart other among spelling member (second.symm.trans respelt)
  · exact plain spelling member (stays.symm.trans respelt)

/-- Under a key that has no two spellings stands what stood there. -/
theorem text?_other (respelled : Respelled entries others) {name : String}
    (apart : ∀ spelling ∈ spellings, name ≠ spelling.1 ∧ name ≠ spelling.2) :
    others.text? name = entries.text? name := by
  refine respelled.text?_eq fun entry _ key _ => ?_
  rcases respell_cases key with ⟨other, among, rfl, respelt⟩ | ⟨-, stays⟩
  · rw [respelt]
    exact iff_of_false (apart other among).2.symm (apart other among).1.symm
  · rw [stays]

/-- Under a key alone is picked what was picked under another, if what stands there is the same. -/
theorem pick_one {entries others : Entries} {name old : String}
    (same : others.text? name = entries.text? old) : pick others [name] = pick entries [old] := by
  rw [pick, pick, same, pick, pick]

/-- Where a key has two spellings, the second holds what the first held, and the first nothing. -/
theorem pick_both (respelled : Respelled entries others) {spelling : String × String}
    (member : spelling ∈ spellings) :
    pick entries [spelling.2] = none ∧ pick others [spelling.1] = none ∧
      pick others [spelling.2] = pick entries [spelling.1] := by
  refine ⟨?_, ?_, pick_one (respelled.text?_second member)⟩
  · rw [pick, respelled.unspelled spelling member]
    rfl
  · rw [pick, respelled.text?_first member]
    rfl

/-- A key that has no two spellings holds what it held. -/
theorem pick_other (respelled : Respelled entries others) {key : String}
    (apart : ∀ spelling ∈ spellings, key ≠ spelling.1 ∧ key ≠ spelling.2) :
    pick others [key] = pick entries [key] :=
  pick_one (respelled.text?_other apart)

/-- What is picked under both spellings of a key is the same. -/
theorem pick_spellings (respelled : Respelled entries others) (capital low : String)
    (member : (capital, low) ∈ spellings) :
    pick entries [capital, low] = pick others [capital, low] := by
  obtain ⟨unspelled, first, second⟩ := respelled.pick_both member
  rw [pick_cons_cons, pick_cons_cons, unspelled, first, second, Option.or_none, Option.none_or]

/-- What is picked after a key without two spellings is the same if the rest is. -/
theorem pick_after (respelled : Respelled entries others) {key other : String}
    {rest : List String} (apart : ∀ spelling ∈ spellings, key ≠ spelling.1 ∧ key ≠ spelling.2)
    (same : pick entries (other :: rest) = pick others (other :: rest)) :
    pick entries (key :: other :: rest) = pick others (key :: other :: rest) := by
  rw [pick_cons_cons, pick_cons_cons, respelled.pick_other apart, same]

/-- A prompt is picked as long as it does not stand only under the key that has no second
spelling. -/
theorem pick_prompt (respelled : Respelled entries others) :
    pick entries ["prompt", "systemPrompt"] =
        (pick entries ["prompt"]).or (pick entries ["systemPrompt"]) ∧
      pick others ["prompt", "systemPrompt"] = pick entries ["prompt"] := by
  obtain ⟨-, first, -⟩ := respelled.pick_both
    (show ("systemPrompt", "system_prompt") ∈ spellings by decide)
  rw [pick_cons_cons, pick_cons_cons, respelled.pick_other (by decide), first, Option.or_none]
  exact ⟨rfl, rfl⟩

/-- A target is picked as long as it does not stand only under the key that has no second
spelling. -/
theorem pick_target (respelled : Respelled entries others) :
    pick entries ["targetNodeId", "targetId", "target_node_id"] =
        (pick entries ["targetNodeId"]).or (pick entries ["targetId"]) ∧
      pick others ["targetNodeId", "targetId", "target_node_id"] =
        pick entries ["targetNodeId"] := by
  obtain ⟨unspelled, first, second⟩ := respelled.pick_both
    (show ("targetNodeId", "target_node_id") ∈ spellings by decide)
  obtain ⟨-, other, -⟩ := respelled.pick_both
    (show ("targetId", "target_id") ∈ spellings by decide)
  simp only [pick_cons_cons, unspelled, first, second, other, Option.or_none, Option.none_or,
    and_self]

end Respelled

/-- Nothing comes after what is kept. -/
theorem or_of_kept {α : Type} {first second : Option α} (kept : ¬(first = none ∧ second ≠ none)) :
    first.or second = first := by
  cases first with
  | some => rfl
  | none =>
    rw [Option.none_or]
    by_contra set
    exact kept ⟨rfl, set⟩

/-- Data whose keys are respelled have the same content for a node of a type, unless a prompt or a
target of a built-in type stands only under a key that has no second spelling. -/
theorem Respelled.content (respelled : Respelled entries others) {type : String}
    (kept : ¬(extensions.contains type = false ∧ Bereft type entries)) (node : String) :
    readContent? extensions type node entries = readContent? extensions type node others := by
  cases registered : extensions.contains type with
  | true =>
    have keys : contentKeys extensions type = ["tag"] := by
      unfold contentKeys
      rw [if_pos registered]
    refine readContent?_congr fun key member => (respelled.text?_other ?_).symm
    rw [keys, List.mem_singleton] at member
    subst member
    decide
  | false =>
    have kept : ¬Bereft type entries := fun lost => kept ⟨registered, lost⟩
    obtain ⟨prompt, otherPrompt⟩ := respelled.pick_prompt
    obtain ⟨target, otherTarget⟩ := respelled.pick_target
    have spelled := respelled.pick_spellings
    refine readContent?_of_picks registered ?_
    unfold contentPicks
    split <;> simp only [List.forall_mem_cons, List.not_mem_nil, false_imp_iff, implies_true,
      and_true]
    · -- A message.
      refine pick_congr fun key member => (respelled.text?_other ?_).symm
      revert key
      decide
    · -- A condition.
      refine pick_congr fun key member => (respelled.text?_other ?_).symm
      revert key
      decide
    · exact ⟨respelled.pick_after (by decide) (spelled _ _ (by decide)),
        respelled.pick_after (by decide) (spelled _ _ (by decide)), spelled _ _ (by decide)⟩
    · refine ⟨?_, spelled _ _ (by decide), spelled _ _ (by decide)⟩
      rw [prompt, otherPrompt]
      exact or_of_kept fun lost => kept (.inl ⟨rfl, lost⟩)
    · rw [target, otherTarget]
      exact or_of_kept fun lost => kept (.inr ⟨rfl, lost⟩)

/-- A node whose keys are respelled is read alike, unless a prompt or a target stands only under a
key that has no second spelling. -/
theorem RespelledNode.concur (respelled : RespelledNode entries others)
    (kept : ∀ type, ¬BereftNode extensions type entries) :
    Concur Eq (readNode extensions (.dict entries)) (readNode extensions (.dict others)) := by
  refine readNode_concur ?_ (respelled.beside "type" (by decide)) respelled.data.told ?_ ?_
  · rw [respelled.beside "id" (by decide)]
    exact rel_self (fun _ => .refl _) _
  · rintro type id given renewed named ⟨related, held, -⟩
    rw [related.content fun ⟨unregistered, lost⟩ =>
      kept type ⟨named, unregistered, given, held, lost⟩]
    exact rel_self Concur.refl _
  · rintro given renewed ⟨related, -, -⟩
    exact related.pick_spellings _ _ (by decide)

/-- Data without a prompt but under the key that has no second spelling ask, with their keys
respelled, the same but with no prompt. -/
theorem Respelled.unprompted (respelled : Respelled entries others)
    (missing : pick entries ["prompt"] = none) {content : Content}
    (read : readGenerate entries = .ok content) :
    ∃ prompt output useKnowledge, content = .generate prompt output useKnowledge ∧
      readGenerate others = .ok (.generate "" output useKnowledge) := by
  obtain ⟨-, prompt⟩ := respelled.pick_prompt
  have output := respelled.pick_spellings "outputVariable" "output_variable" (by decide)
  have knowledge := respelled.pick_spellings "useKnowledge" "use_knowledge" (by decide)
  unfold readGenerate at read ⊢
  simp only [bind_eq_ok, pure_eq_ok] at read ⊢
  obtain ⟨template, -, name, kept, rfl⟩ := read
  refine ⟨template, name, _, rfl, "", ?_, name, ?_, ?_⟩
  · rw [pickText, prompt, missing]
  · rw [pickText, ← output]
    exact kept
  · rw [pickTruth, pickTruth, knowledge]

/-- Respelled data are read if the data were. -/
theorem RespelledNode.held (respelled : RespelledNode entries others) {data : Entries}
    (held : dataEntries (valueAt entries "data") = .ok data) :
    ∃ renewed, Respelled data renewed ∧
      dataEntries (valueAt others "data") = .ok renewed := by
  have alike := respelled.data
  rw [held] at alike
  generalize dataEntries (valueAt others "data") = second at alike
  cases alike with
  | ok related => exact ⟨_, related, rfl⟩

/-- A node that asks a generator and whose prompt stands only under the key that has no second
spelling is read, with its keys respelled, as it was but for the prompt. -/
theorem RespelledNode.unprompted (respelled : RespelledNode entries others)
    (lost : BereftNode extensions "aiKnowledge" entries) {node : Node Value}
    (read : readNode extensions (.dict entries) = .ok node) :
    ∃ prompt output useKnowledge, node.content = .generate prompt output useKnowledge ∧
      readNode extensions (.dict others) =
        .ok { node with content := .generate "" output useKnowledge } := by
  obtain ⟨asks, unregistered, data, held, lost⟩ := lost
  obtain ⟨-, missing, -⟩ := lost.resolve_right fun jump => absurd jump.1 (by decide)
  obtain ⟨_, given, same, named, known, found, content, fallback, id, own, spelled⟩ :=
    readNode_ok.mp read
  cases same
  rw [held, Except.ok.injEq] at found
  subst found
  obtain ⟨renewed, related, after⟩ := respelled.held held
  have type : node.type = "aiKnowledge" := (Value.text.inj (asks.symm.trans named)).symm
  rw [type, readContent?, unregistered, if_neg Bool.false_ne_true, Option.some.injEq] at content
  obtain ⟨prompt, output, useKnowledge, generates, renews⟩ := related.unprompted missing content
  refine ⟨prompt, output, useKnowledge, generates, readNode_ok.mpr ⟨others, renewed, rfl, ?_, known,
    after, ?_, ?_, id, ?_, spelled⟩⟩
  · rw [valueAt, ← respelled.beside "type" (by decide)]
    exact named
  · simp only [type, readContent?, unregistered, Bool.false_eq_true, if_false, renews]
  · exact fallback.trans (related.pick_spellings _ _ (by decide))
  · exact (respelled.beside "id" (by decide)).symm.trans own

/-- A jump whose target stands only under the key that has no second spelling is not read with its
keys respelled. -/
theorem RespelledNode.untargeted (respelled : RespelledNode entries others)
    (lost : BereftNode extensions "goTo" entries) (node : Node Value) :
    readNode extensions (.dict others) ≠ .ok node := by
  obtain ⟨jumps, unregistered, data, held, lost⟩ := lost
  obtain ⟨-, missing, -⟩ := lost.resolve_left fun asks => absurd asks.1 (by decide)
  intro read
  obtain ⟨_, given, same, named, -, found, content, -⟩ := readNode_ok.mp read
  cases same
  obtain ⟨renewed, related, after⟩ := respelled.held held
  rw [after, Except.ok.injEq] at found
  subst found
  rw [valueAt, respelled.beside "type" (by decide), ← valueAt, named, Value.text.injEq] at jumps
  obtain ⟨-, target⟩ := related.pick_target
  rw [jumps, readContent?, unregistered, if_neg Bool.false_ne_true, Option.some.injEq, readGoTo,
    target, missing] at content
  cases content

section Edge

variable (respelled : Respelled entries others)
include respelled

/-- Under a key of an edge without two spellings stands what stood there. -/
theorem Respelled.beside (key : String) (plain : key ∈ ["id", "source", "target"]) :
    entries.text? key = others.text? key := by
  refine (respelled.text?_other ?_).symm
  revert key
  decide

/-- The label of an edge is the same with its keys respelled, where it is set. -/
theorem Respelled.label : valueAt others "label" = valueAt entries "label" := by
  rw [valueAt, valueAt, respelled.text?_other (by decide)]

/-- The handle of an edge's source is not seen with its keys respelled. -/
theorem Respelled.branch_unset (unset : Unset entries) :
    branchOf (labelValue others) = .ok none := by
  have handle : valueAt others "sourceHandle" = .null := by
    have first := respelled.text?_first
      (show ("sourceHandle", "source_handle") ∈ spellings by decide)
    rw [valueAt, first]
    rfl
  rw [Unset, ← respelled.label] at unset
  rw [labelValue_unset unset, handle]
  rfl

/-- A label that is set beside the handle of an edge's source stands for the same branch. -/
theorem Respelled.branch_set (set : ¬Unset entries) :
    labelValue others = labelValue entries := by
  rw [Unset, not_or] at set
  unfold labelValue
  rw [respelled.label]
  split
  · exact absurd ‹_› set.1
  · exact absurd ‹_› set.2
  · rfl

/-- An edge whose keys are respelled is read alike, unless its label is given by the handle of its
source. -/
theorem Respelled.edge_concur (own : ¬Handled entries) (index : Nat) :
    Concur Eq (readEdge index (.dict entries)) (readEdge index (.dict others)) := by
  have ends (key : String) (plain : key ∈ ["id", "source", "target"]) :
      Option.Rel (fun old new => Concur Eq old.asText new.asText) (entries.text? key)
        (others.text? key) := by
    rw [respelled.beside key plain]
    exact rel_self (fun _ => .refl _) _
  have branch : branchOf (labelValue entries) = branchOf (labelValue others) := by
    by_cases unset : Unset entries
    · rw [respelled.branch_unset unset]
      by_contra handled
      exact own ⟨unset, handled⟩
    · rw [respelled.branch_set unset]
  refine readEdge_concur index (ends "source" (by decide)) (ends "target" (by decide))
    (.of_eq branch) ?_
  rw [valueAt, valueAt, respelled.beside "id" (by decide)]

/-- An edge whose label is given by the handle of its source is read, with its keys respelled, as it
was but with no label. -/
theorem Respelled.unlabelled (handled : Handled entries) {index : Nat} {edge : Edge}
    (read : readEdge index (.dict entries) = .ok edge) :
    edge.label ≠ none ∧ readEdge index (.dict others) = .ok { edge with label := none } := by
  obtain ⟨unset, labelled⟩ := handled
  obtain ⟨_, source, target, same, begins, ends, branch, id⟩ := readEdge_ok.mp read
  cases same
  have lost := respelled.branch_unset unset
  rw [respelled.beside "source" (by decide)] at begins
  rw [respelled.beside "target" (by decide)] at ends
  rw [valueAt, respelled.beside "id" (by decide)] at id
  refine ⟨fun none => labelled (none ▸ branch), readEdge_ok.mpr ?_⟩
  exact ⟨others, source, target, rfl, begins, ends, lost, id⟩

end Edge

/-- A definition with its keys respelled is loaded alike, as the same graph or as none, unless a
prompt, a target or a label stands only under a key that has no second spelling. Then a node that
asks is read as it was but with no prompt, a definition with such a jump is never loaded, and an
edge is read as it was but without its label. -/
theorem key_spellings_read (extensions : Extensions) :
    (∀ raw respelled, Revised
        (fun old new => ∃ entries others, old = .dict entries ∧ new = .dict others ∧
          RespelledNode entries others ∧ ∀ type, ¬BereftNode extensions type entries)
        (fun old new => ∃ entries others, old = .dict entries ∧ new = .dict others ∧
          Respelled entries others ∧ ¬Handled entries) raw respelled →
      Concur Eq (load extensions raw) (load extensions respelled)) ∧
    (∀ entries others, RespelledNode entries others →
      BereftNode extensions "aiKnowledge" entries → ∀ node,
      readNode extensions (.dict entries) = .ok node →
      ∃ prompt output useKnowledge, node.content = .generate prompt output useKnowledge ∧
        readNode extensions (.dict others) =
          .ok { node with content := .generate "" output useKnowledge }) ∧
    (∀ definition parts, partsAt definition "nodes" = .ok parts →
      (∃ entries others, RespelledNode entries others ∧ BereftNode extensions "goTo" entries ∧
        .dict others ∈ parts) →
      ∀ graph, load extensions (.dict definition) ≠ .ok graph) ∧
    (∀ entries others, Respelled entries others → Handled entries → ∀ index edge,
      readEdge index (.dict entries) = .ok edge →
      edge.label ≠ none ∧
        readEdge index (.dict others) = .ok { edge with label := none }) := by
  refine ⟨fun raw respelled revised => revised.load ?_ ?_, ?_, ?_, ?_⟩
  · rintro _ _ ⟨entries, others, rfl, rfl, respelled, kept⟩
    exact respelled.concur kept
  · rintro index _ _ ⟨entries, others, rfl, rfl, respelled, own⟩
    exact respelled.edge_concur own index
  · intro entries others respelled lost node read
    exact respelled.unprompted lost read
  · rintro definition parts held ⟨entries, others, respelled, lost, member⟩ graph loaded
    obtain ⟨node, read⟩ := readNode_of_parts loaded held _ member
    exact respelled.untargeted lost node read
  · intro entries others respelled handled index edge read
    exact respelled.unlabelled handled read

/-- An authored node whose data have no key in its second spelling can be respelled, and its data
tell whether it is bereft. -/
theorem respelledNode_authored (id : Value) (type : String) {data : Entries}
    (unspelled : ∀ spelling ∈ spellings, data.text? spelling.2 = none) :
    ∃ entries others, authoredNode id type data = .dict entries ∧
      authoredNode id type (data.map respellEntry) = .dict others ∧
      RespelledNode entries others ∧ ∀ kind, BereftNode [] kind entries ↔
        typeOf (.text type) = .text kind ∧ Bereft kind data := by
  refine ⟨_, _, rfl, rfl, ⟨fun key apart => ?_, ?_⟩, fun kind => ?_⟩
  · simp [apart.symm]
  · simpa [valueAt, dataEntries_dict] using .ok ⟨unspelled, rfl⟩
  · simp [BereftNode, valueAt, dataEntries_dict]

/-- A flow that tells a joke, asks for more and tells it again, with its data spelled in some
way. -/
def joking (spell : Entries → Entries) : Value :=
  .dict [(.text "id", .text "joking"),
    (.text "nodes", .list [authoredNode (.text "in") "start" [],
      authoredNode (.text "joke") "aiKnowledge" (spell [(.text "prompt", .text "A joke!"),
        (.text "outputVariable", .text "joke"), (.text "onError", .text "ask")]),
      authoredNode (.text "ask") "wait" (spell [(.text "timeoutSeconds", .int 60),
        (.text "expectedKeywords", .text "more"), (.text "holdOnMismatch", .bool true)]),
      authoredNode (.text "again") "goTo" (spell [(.text "targetNodeId", .text "joke")])]),
    (.text "edges", .list [authoredEdge (.text "in") (.text "joke") [],
      authoredEdge (.text "joke") (.text "ask") [],
      authoredEdge (.text "ask") (.text "again") [(.text "label", .text yes)]])]

/-- A node that asks for a joke, with its prompt under some key. -/
def prompting (key : String) : Value :=
  authoredNode (.text "joke") "aiKnowledge" [(.text key, .text "A joke!")]

/-- A jump to the beginning, with its target under some key. -/
def jumping (key : String) : Value :=
  authoredNode (.text "jump") "goTo" [(.text key, .text "in")]

/-- An edge to the jump, with its label under some key. -/
def branching (key : String) : Value :=
  authoredEdge (.text "joke") (.text "jump") [(.text key, .text yes)]

/-- The edge has its label by the handle of its source, and can be respelled. -/
theorem branching_handled :
    ∃ entries others, branching "sourceHandle" = .dict entries ∧
      branching "source_handle" = .dict others ∧ Respelled entries others ∧ Handled entries := by
  refine ⟨_, _, rfl, rfl, ⟨by decide +kernel, by with_unfolding_all rfl⟩,
    .inl (by simp [valueAt]), ?_⟩
  have branch : branchOf (labelValue [(.text "source", .text "joke"),
      (.text "target", .text "jump"), (.text "sourceHandle", .text yes)]) = .ok (some yes) := by
    with_unfolding_all rfl
  intro lost
  cases branch.symm.trans lost

/-- A flow with its keys respelled is loaded alike; but a prompt, a target and a label are lost with
the keys that have no second spelling. -/
theorem joking_respelled :
    Concur Eq (load [] (joking id)) (load [] (joking (List.map respellEntry))) ∧
    (load [] (joking id)).toOption.isSome = true ∧
    readNode [] (prompting "system_prompt") =
      .ok ⟨"joke", "aiKnowledge", .generate "" "ai_response" true, none⟩ ∧
    (∀ graph, load [] (.dict [(.text "nodes", .list [jumping "target_id"])]) ≠ .ok graph) ∧
    readEdge 0 (branching "source_handle") = .ok ⟨"e0-joke-jump", "joke", "jump", none⟩ := by
  obtain ⟨alike, unprompted, untargeted, unlabelled⟩ := key_spellings_read []
  refine ⟨alike _ _ ?_, by decide +kernel, ?_, ?_, ?_⟩
  · refine .fields
      (.cons (.same _) (.cons (.changed (.inl ⟨rfl, .list ?_⟩)) (.cons (.same _) .nil)))
    have respelled (name type : String) (data : Entries)
        (unspelled : ∀ spelling ∈ spellings, data.text? spelling.2 = none)
        (kept : ∀ kind, ¬Bereft kind data) :
        ∃ entries others, authoredNode (.text name) type data = .dict entries ∧
          authoredNode (.text name) type (data.map respellEntry) = .dict others ∧
          RespelledNode entries others ∧ ∀ kind, ¬BereftNode [] kind entries := by
      obtain ⟨entries, others, first, second, node, bereft⟩ :=
        respelledNode_authored (.text name) type unspelled
      exact ⟨entries, others, first, second, node, fun kind lost =>
        kept kind ((bereft kind).mp lost).2⟩
    refine .cons .refl (.cons (.single ?_) (.cons (.single ?_) (.cons (.single ?_) .nil)))
    · exact respelled "joke" "aiKnowledge" _ (by decide +kernel) (by simp [Bereft, pick])
    · exact respelled "ask" "wait" _ (by decide +kernel) (by simp [Bereft, pick])
    · exact respelled "again" "goTo" _ (by decide +kernel) (by simp [Bereft, pick])
  · have unspelled : ∀ spelling ∈ spellings,
        Entries.text? [(.text "systemPrompt", .text "A joke!")] spelling.2 = none := by
      decide +kernel
    obtain ⟨entries, others, first, second, node, bereft⟩ :=
      respelledNode_authored (.text "joke") "aiKnowledge" unspelled
    have lost : BereftNode [] "aiKnowledge" entries :=
      (bereft _).mpr ⟨rfl, .inl ⟨rfl, by simp [pick], by simp [pick]⟩⟩
    have read : readNode [] (.dict entries) =
        .ok ⟨"joke", "aiKnowledge", .generate "A joke!" "ai_response" true, none⟩ := by
      rw [← first]
      with_unfolding_all rfl
    obtain ⟨_, _, _, generates, after⟩ := unprompted entries others node lost _ read
    cases generates
    rw [← second] at after
    exact after
  · have unspelled : ∀ spelling ∈ spellings,
        Entries.text? [(.text "targetId", .text "in")] spelling.2 = none := by
      decide +kernel
    obtain ⟨entries, others, -, second, node, bereft⟩ :=
      respelledNode_authored (.text "jump") "goTo" unspelled
    have lost : BereftNode [] "goTo" entries :=
      (bereft _).mpr ⟨rfl, .inr ⟨rfl, by simp [pick], by simp [pick]⟩⟩
    refine untargeted _ [jumping "target_id"] (by with_unfolding_all rfl)
      ⟨entries, others, node, lost, ?_⟩
    rw [← second]
    exact .head _
  · obtain ⟨entries, others, first, second, respelled, handled⟩ := branching_handled
    have read : readEdge 0 (.dict entries) = .ok ⟨"e0-joke-jump", "joke", "jump", some yes⟩ := by
      rw [← first]
      with_unfolding_all rfl
    rw [second]
    exact (unlabelled entries others respelled handled 0 _ read).2

/-- A flow that asks for a joke and then jumps back, with some data and with its edge to the jump
labelled under some key. -/
def rejoking (prompt target label : String) : Value :=
  .dict [(.text "id", .text "rejoking"),
    (.text "nodes", .list [authoredNode (.text "in") "start" [], prompting prompt, jumping target]),
    (.text "edges", .list [authoredEdge (.text "in") (.text "joke") [], branching label])]

/-- What the nodes of a flow hold and the labels of its edges, if it is loaded. -/
def loaded? (raw : Value) : Option (List Content × List (Option String)) :=
  (load [] raw).toOption.map fun graph =>
    (graph.nodes.map Node.content, graph.edges.map Edge.label)

/-- A prompt and a label are lost, and a flow is refused, if one of three keys is respelled. -/
theorem second_spellings_unseen :
    loaded? (rejoking "systemPrompt" "targetId" "sourceHandle") =
      some ([.start, .generate "A joke!" "ai_response" true, .goTo "in"], [none, some yes]) ∧
    loaded? (rejoking "system_prompt" "targetId" "sourceHandle") =
      some ([.start, .generate "" "ai_response" true, .goTo "in"], [none, some yes]) ∧
    load [] (rejoking "systemPrompt" "target_id" "sourceHandle") =
      .error (.graph (.noTarget "jump")) ∧
    loaded? (rejoking "systemPrompt" "targetId" "source_handle") =
      some ([.start, .generate "A joke!" "ai_response" true, .goTo "in"], [none, none]) :=
  ⟨by decide +kernel, by decide +kernel, by with_unfolding_all rfl, by decide +kernel⟩

end Parley.Flow
