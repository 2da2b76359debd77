import Parley.Proofs.Rereading
import Parley.Proofs.Spellings

/-!
# Numbers that name nodes

A document format reads a name of digits as an integer if it is not quoted. A definition is loaded
alike with such numbers as the ids of its nodes, at the ends of its edges and as the targets of its
jumps. A fallback is looked up as it is, so a number is the fallback of none, and the number zero
counts as a target that is not set. An integer that is too long to be written names nothing.
-/

namespace Parley.Flow

open Parley.Computation Relation

/-- A number, and the text of its digits. -/
inductive Numbered : Value → Value → Prop where
  /-- An integer in decimal digits. -/
  | digits (n : Int) : Numbered (.int n) (.text (toString n))

/-- The keys of the target of a jump. -/
def targetKeys : List String := ["targetNodeId", "targetId", "target_node_id"]

/-- The keys of the fallback of a node. -/
def fallbackKeys : List String := ["onError", "on_error"]

/-- A reference to a node, and the same as a text. -/
def NumberedReference (key : String) (old new : Value) : Prop :=
  key ∈ targetKeys ++ fallbackKeys ∧ Numbered old new

/-- A node whose id and references may be numbers, in whatever form its data are given. -/
def NumberedNode : Value → Value → Prop :=
  Altered fun key old new => key = "id" ∧ Numbered old new ∨
    key = "data" ∧ Concur (Changed NumberedReference) (dataEntries old) (dataEntries new)

/-- An edge whose ends may be numbers. -/
def NumberedEdge : Value → Value → Prop :=
  Altered fun key old new => (key = "source" ∨ key = "target") ∧ Numbered old new

/-- An integer that is too long to be written. -/
def Overlong (value : Value) : Prop := ∃ n, value = .int n ∧ Number.isShort n = false

/-- Data with a number for the fallback, or, of a jump, with a number for the target that is zero or
too long. -/
def StrayData (extensions : Extensions) (type : Value) (data : Entries) : Prop :=
  (∃ n, pick data fallbackKeys = some (.int n)) ∨
    typeOf type = .text "goTo" ∧ extensions.contains "goTo" = false ∧
      ∃ n, pick data targetKeys = some (.int n) ∧ (n = 0 ∨ Number.isShort n = false)

/-- A node with a number that names nothing. -/
def StrayNode (extensions : Extensions) (node : Value) : Prop :=
  ∃ entries, node = .dict entries ∧ (Overlong (valueAt entries "id") ∨
    ∃ data, dataEntries (valueAt entries "data") = .ok data ∧
      StrayData extensions (valueAt entries "type") data)

/-- An edge with a number that names nothing. -/
def StrayEdge (edge : Value) : Prop :=
  ∃ entries, edge = .dict entries ∧
    (Overlong (valueAt entries "source") ∨ Overlong (valueAt entries "target"))

variable {extensions : Extensions} {old new : Value} {entries others : Entries}

/-- Neither a number nor the text of its digits is null. -/
theorem Numbered.present (numbered : Numbered old new) : old ≠ .null ∧ new ≠ .null := by
  cases numbered
  exact ⟨by rintro ⟨⟩, by rintro ⟨⟩⟩

/-- A number has the text of its digits, unless it is too long. -/
theorem Numbered.asText (numbered : Numbered old new) (short : ¬Overlong old) :
    old.asText = new.asText := by
  cases numbered with
  | digits n =>
    have written : Number.isShort n = true := by
      by_contra long
      exact short ⟨n, rfl, Bool.eq_false_iff.mpr long⟩
    rw [Value.asText, Value.isShort, written]
    rfl

/-- An integer that is too long has no text. -/
theorem Overlong.asText {value : Value} (long : Overlong value) (text : String) :
    value.asText ≠ .ok text := by
  obtain ⟨n, rfl, long⟩ := long
  rw [Value.asText, Value.isShort, long]
  rintro ⟨⟩

/-- Names under a key have the same text, unless one is a number that is too long. -/
theorem names_concur {changes : String → Value → Value → Prop} {key : String}
    (changed : Changed changes entries others)
    (numbered : ∀ old new, changes key old new → Numbered old new)
    (short : ¬Overlong (valueAt entries key)) :
    Option.Rel (fun old new => Concur Eq old.asText new.asText) (entries.text? key)
      (others.text? key) := by
  rcases changed.text?_cases key with same | ⟨old, new, change, before, after⟩
  · rw [same]
    exact rel_self (fun _ => .refl _) _
  · rw [valueAt, before] at short
    rw [before, after]
    exact .some (.of_eq ((numbered old new change).asText short))

/-- An edge whose ends are numbers is read alike, unless one of them names nothing. -/
theorem NumberedEdge.concur (numbered : NumberedEdge old new) (named : ¬StrayEdge old)
    (index : Nat) : Concur Eq (readEdge index old) (readEdge index new) := by
  cases numbered with
  | same => exact .refl _
  | @fields entries others changed =>
    have names (key : String) (spared : key ≠ "source" ∧ key ≠ "target") :
        entries.text? key = others.text? key := changed.text?_eq (by simp [spared])
    refine readEdge_concur index (names_concur changed (fun _ _ change => change.2) ?_)
      (names_concur changed (fun _ _ change => change.2) ?_) (.of_eq ?_) ?_
    · exact fun long => named ⟨entries, rfl, .inl long⟩
    · exact fun long => named ⟨entries, rfl, .inr long⟩
    · rw [labelValue, labelValue, valueAt, valueAt, valueAt, valueAt,
        names "label" (by decide), names "sourceHandle" (by decide)]
    · rw [valueAt, valueAt, names "id" (by decide)]

/-- A jump is read alike, unless its target is a number that names nothing. -/
theorem readGoTo_numbered (node : String) {given renewed : Entries}
    (changed : Changed NumberedReference given renewed)
    (named : ∀ n, pick given targetKeys = some (.int n) → n ≠ 0 ∧ Number.isShort n = true) :
    readGoTo node given = readGoTo node renewed := by
  rcases changed.pick_cases (fun _ _ _ change => change.2.present) targetKeys with
    same | ⟨key, -, old, new, ⟨-, numbered⟩, before, after⟩
  · rw [readGoTo, readGoTo]
    rw [targetKeys] at same
    rw [same]
  · cases numbered with
    | digits n =>
      obtain ⟨nonzero, short⟩ := named n before
      have truthy : (Value.int n).truthy = true := by simpa [Value.truthy] using nonzero
      have filled : (Value.text (toString n)).truthy = true := by
        have spelled : toString n ≠ "" := Value.toText_ne_empty truthy
        simpa [Value.truthy] using spelled
      have text : (Value.int n).asText = (Value.text (toString n)).asText := by
        refine (Numbered.digits n).asText ?_
        rintro ⟨m, same, long⟩
        cases same
        rw [short] at long
        cases long
      rw [targetKeys] at before after
      simp only [readGoTo, before, after, truthy, filled, text]

/-- Fallbacks that are no numbers are the same. -/
theorem fallback_numbered {given renewed : Entries}
    (changed : Changed NumberedReference given renewed)
    (named : ∀ n, pick given fallbackKeys ≠ some (.int n)) :
    pick given fallbackKeys = pick renewed fallbackKeys := by
  rcases changed.pick_cases (fun _ _ _ change => change.2.present) fallbackKeys with
    same | ⟨key, -, old, new, ⟨-, numbered⟩, before, -⟩
  · exact same
  · cases numbered with
    | digits n => exact absurd before (named n)

/-- What a node holds is read alike with numbers as references, unless one of them names nothing. -/
theorem readContent?_numbered {type node : String} {named : Value} {given renewed : Entries}
    (kind : typeOf named = .text type) (changed : Changed NumberedReference given renewed)
    (sound : ¬StrayData extensions named given) :
    readContent? extensions type node given = readContent? extensions type node renewed := by
  by_cases jump : type = "goTo" ∧ extensions.contains type = false
  · obtain ⟨rfl, unregistered⟩ := jump
    have targets : ∀ n, pick given targetKeys = some (.int n) →
        n ≠ 0 ∧ Number.isShort n = true := by
      intro n picked
      by_contra lost
      refine sound (.inr ⟨kind, unregistered, n, picked, ?_⟩)
      simpa [or_iff_not_imp_left] using lost
    simp only [readContent?, unregistered, Bool.false_eq_true, if_false,
      readGoTo_numbered node changed targets]
  · refine readContent?_congr fun key member => changed.text?_eq fun _ _ change => ?_
    exact contentKeys_apart (by decide) (by decide) jump member change.1

/-- A node whose id and references are numbers is read alike, unless one of them names nothing. -/
theorem NumberedNode.concur (numbered : NumberedNode old new) (named : ¬StrayNode extensions old) :
    Concur Eq (readNode extensions old) (readNode extensions new) := by
  cases numbered with
  | same => exact .refl _
  | @fields entries others changed =>
    have types : entries.text? "type" = others.text? "type" := changed.text?_eq (by simp)
    have data : Concur (Changed NumberedReference) (dataEntries (valueAt entries "data"))
        (dataEntries (valueAt others "data")) :=
      dataEntries_concur Changed.refl
        ((changed.valueAt "data").mono fun _ _ change => by simpa using change)
    refine readNode_concur ?_ types data.told ?_ ?_
    · exact names_concur changed (fun _ _ change => by simpa using change)
        fun long => named ⟨entries, rfl, .inl long⟩
    · rintro type id given renewed kind ⟨related, held, -⟩
      have sound : ¬StrayData extensions (valueAt entries "type") given :=
        fun stray => named ⟨entries, rfl, .inr ⟨given, held, stray⟩⟩
      rw [readContent?_numbered kind related sound]
      exact rel_self Concur.refl _
    · rintro given renewed ⟨related, held, -⟩
      refine fallback_numbered related fun n picked => ?_
      exact named ⟨entries, rfl, .inr ⟨given, held, .inl ⟨n, picked⟩⟩⟩

/-- The target of a jump that is read is no number that is zero or too long. -/
theorem readGoTo_stray {node : String} {data : Entries} {content : Content} {n : Int}
    (picked : pick data targetKeys = some (.int n)) (lost : n = 0 ∨ Number.isShort n = false) :
    readGoTo node data ≠ .ok content := by
  intro read
  rw [targetKeys] at picked
  rw [readGoTo, picked] at read
  rcases lost with rfl | long
  · cases read
  · simp only at read
    split at read
    · simp only [bind_eq_ok] at read
      obtain ⟨text, spelled, -⟩ := read
      exact Overlong.asText ⟨n, rfl, long⟩ text spelled
    · simp only [throw_eq_ok] at read

/-- The fallback of a node that is read although it has a number that names nothing is a number. -/
theorem StrayNode.fallback {node : Value} {read : Node Value} (stray : StrayNode extensions node)
    (done : readNode extensions node = .ok read) : ∃ n, read.onError = some (.int n) := by
  obtain ⟨entries, rfl, stray⟩ := stray
  obtain ⟨_, data, same, named, -, held, content, fallback, id, given, spelled⟩ :=
    readNode_ok.mp done
  cases same
  rcases stray with long | ⟨given, found, ⟨n, picked⟩ | ⟨jump, unregistered, n, picked, lost⟩⟩
  · rw [valueAt, given] at long
    exact absurd spelled (long.asText _)
  · rw [held] at found
    cases found
    exact ⟨n, fallback.trans picked⟩
  · rw [held] at found
    cases found
    rw [jump] at named
    rw [← Value.text.inj named, readContent?, unregistered] at content
    simp only [Bool.false_eq_true, if_false, Option.some.injEq] at content
    exact absurd content (readGoTo_stray picked lost)

/-- An edge with a number that names nothing is not read. -/
theorem StrayEdge.unread {edge : Value} (stray : StrayEdge edge) (index : Nat) (read : Edge) :
    readEdge index edge ≠ .ok read := by
  obtain ⟨entries, rfl, stray⟩ := stray
  intro done
  obtain ⟨_, source, target, same, ⟨begins, spelled⟩, ⟨ends, spelledToo⟩, -⟩ := readEdge_ok.mp done
  cases same
  rw [valueAt, valueAt, begins, ends] at stray
  rcases stray with long | long
  · exact long.asText _ spelled
  · exact long.asText _ spelledToo

/-- A number is the fallback of no node. -/
theorem fallback_number {flow : String} {ids : List String} {node : Node Value} {n : Int}
    (given : node.onError = some (.int n)) (found : Option String) :
    fallback flow ids node ≠ .ok found := by
  rw [fallback, given]
  simp [Name.find?, Name.value, Value.requireFixed, Value.fixed, bind_eq_ok, throw_eq_ok]

/-- Nodes can be settled only if the fallback of each is found. -/
theorem fallback_of_settleNodes {flow : String} {ids : List String} {nodes : List (Node Value)}
    {settled : List (Node String)} (done : settleNodes flow ids nodes = .ok settled) :
    ∀ node ∈ nodes, ∃ found, fallback flow ids node = .ok found := by
  induction nodes generalizing settled with
  | nil => exact fun node none => (List.not_mem_nil none).elim
  | cons node rest ih =>
    simp only [settleNodes, bind_eq_ok, pure_eq_ok] at done
    obtain ⟨_, -, onError, found, others, more, -⟩ := done
    exact List.forall_mem_cons.mpr ⟨⟨onError, found⟩, ih more⟩

/-- A definition in which a number of a node names nothing is not loaded. -/
theorem StrayNode.rejected {node : Value} {parts : List Value} (stray : StrayNode extensions node)
    (held : partsAt entries "nodes" = .ok parts) (member : node ∈ parts) (graph : Graph) :
    load extensions (.dict entries) ≠ .ok graph := by
  intro loaded
  simp only [load, held, ok_bind, bind_eq_ok] at loaded
  obtain ⟨nodes, read, _, -, _, -, _, -, _, -, assembled⟩ := loaded
  obtain ⟨own, among, done⟩ := readNode_of_readNodes read node member
  obtain ⟨n, number⟩ := stray.fallback done
  obtain ⟨-, -, -, -, -, -, -, -, settled⟩ := Graph.parts_of_assemble assembled
  obtain ⟨found, search⟩ := fallback_of_settleNodes settled own among
  exact fallback_number number found search

/-- A definition in which a number at the end of an edge names nothing is not loaded. -/
theorem StrayEdge.rejected {edge : Value} {parts : List Value} (stray : StrayEdge edge)
    (held : partsAt entries "edges" = .ok parts) (member : edge ∈ parts) (graph : Graph) :
    load extensions (.dict entries) ≠ .ok graph := by
  intro loaded
  simp only [load, held, ok_bind, bind_eq_ok] at loaded
  obtain ⟨_, -, nodes, -, edges, read, -⟩ := loaded
  obtain ⟨index, own, done⟩ := readEdge_of_readEdges read edge member
  exact stray.unread index own done

/-- A definition with numbers as ids and as references is loaded alike with the texts of their
digits, as the same graph or as none, unless one of them names nothing. A definition with a number
that names nothing, for a fallback or a target or since it is too long, is never loaded. -/
theorem numbers_read (extensions : Extensions) :
    (∀ raw texts, Revised (fun old new => NumberedNode old new ∧ ¬StrayNode extensions old)
        (fun old new => NumberedEdge old new ∧ ¬StrayEdge old) raw texts →
      Concur Eq (load extensions raw) (load extensions texts)) ∧
    (∀ entries parts, partsAt entries "nodes" = .ok parts →
      (∃ node ∈ parts, StrayNode extensions node) →
      ∀ graph, load extensions (.dict entries) ≠ .ok graph) ∧
    (∀ entries parts, partsAt entries "edges" = .ok parts → (∃ edge ∈ parts, StrayEdge edge) →
      ∀ graph, load extensions (.dict entries) ≠ .ok graph) := by
  refine ⟨fun raw texts revised => ?_, ?_, ?_⟩
  · exact revised.load (fun old new ⟨node, named⟩ => node.concur named)
      fun index old new ⟨edge, named⟩ => edge.concur named index
  · rintro entries parts held ⟨node, member, stray⟩ graph
    exact stray.rejected held member graph
  · rintro entries parts held ⟨edge, member, stray⟩ graph
    exact stray.rejected held member graph

/-- A flow from its first node by a jump to its third; the numbers of the nodes are spelled in some
way. -/
def counting (name : Int → Value) (entries : Entries) : Value :=
  .dict [(.text "id", .text "counting"),
    (.text "nodes", .list [authoredNode (name 1) "start" entries,
      authoredNode (name 2) "goTo" [(.text "targetNodeId", name (-3))],
      authoredNode (name (-3)) "end" []]),
    (.text "edges", .list [authoredEdge (name 1) (name 2) []])]

/-- The text of a number. -/
def digits (n : Int) : Value := .text (toString n)

/-- A node with a number for its id is read if its number is short and its data name nodes. -/
theorem not_strayNode {id : Int} {type : String} {data : Entries}
    (short : Number.isShort id = true) (sound : ¬StrayData extensions (.text type) data) :
    ¬StrayNode extensions (authoredNode (.int id) type data) := by
  rintro ⟨entries, same, ⟨n, named, long⟩ | ⟨given, found, stray⟩⟩
  · cases same
    simp [valueAt] at named
    rw [← named, short] at long
    cases long
  · cases same
    simp [valueAt, dataEntries_dict] at found stray
    exact sound (found ▸ stray)

/-- A flow whose nodes have numbers is loaded alike with the texts of the numbers; with a number for
a fallback it is refused, and so is an edge from a number that is too long. -/
theorem counting_read :
    Concur Eq (load [] (counting .int [])) (load [] (counting digits [])) ∧
    (load [] (counting .int [])).toOption.isSome = true ∧
    (∀ graph, load [] (counting .int [(.text "onError", .int 2)]) ≠ .ok graph) ∧
    (∀ graph, load [] (.dict [(.text "edges",
      .list [authoredEdge (.int Number.leastTooLong) (.int 2) []])]) ≠ .ok graph) := by
  obtain ⟨alike, refused, cut⟩ := numbers_read []
  refine ⟨alike _ _ ?_, by decide +kernel, ?_, ?_⟩
  · have numbered (n : Int) : Numbered (.int n) (digits n) := .digits n
    have short : Number.isShort 1 ∧ Number.isShort 2 ∧ Number.isShort (-3) := by decide +kernel
    refine .fields (.cons (.same _) (.cons (.changed (.inl ⟨rfl, .list ?_⟩))
      (.cons (.changed (.inr ⟨rfl, .list ?_⟩)) .nil)))
    · refine .cons (.single ⟨?_, ?_⟩) (.cons (.single ⟨?_, ?_⟩) (.cons (.single ⟨?_, ?_⟩) .nil))
      · exact .fields (.cons (.changed (.inl ⟨rfl, numbered 1⟩)) (.cons (.same _)
          (.cons (.same _) .nil)))
      · exact not_strayNode short.1 (by simp [StrayData, pick, fallbackKeys, targetKeys])
      · refine .fields (.cons (.changed (.inl ⟨rfl, numbered 2⟩)) (.cons (.same _)
          (.cons (.changed (.inr ⟨rfl, .ok (.cons (.changed ?_) .nil)⟩)) .nil)))
        exact ⟨.head _, numbered (-3)⟩
      · exact not_strayNode short.2.1
          (by simp [StrayData, pick, fallbackKeys, targetKeys, short.2.2])
      · exact .fields (.cons (.changed (.inl ⟨rfl, numbered (-3)⟩)) (.cons (.same _)
          (.cons (.same _) .nil)))
      · exact not_strayNode short.2.2 (by simp [StrayData, pick, fallbackKeys, targetKeys])
    · refine .cons (.single ⟨?_, ?_⟩) .nil
      · exact .fields (.cons (.changed ⟨.inl rfl, numbered 1⟩) (.cons (.changed
          ⟨.inr rfl, numbered 2⟩) .nil))
      · rintro ⟨_, same, ⟨n, long⟩ | ⟨n, long⟩⟩ <;> cases same <;>
          simp [valueAt] at long
        · rw [← long.1, short.1] at long
          cases long.2
        · rw [← long.1, short.2.1] at long
          cases long.2
  · have stray : StrayNode [] (authoredNode (.int 1) "start" [(.text "onError", .int 2)]) := by
      refine ⟨_, rfl, .inr ⟨[(.text "onError", .int 2)], ?_, .inl ⟨2, ?_⟩⟩⟩ <;>
        with_unfolding_all rfl
    exact refused _ _ (by with_unfolding_all rfl) ⟨_, .head _, stray⟩
  · have long : Overlong (.int Number.leastTooLong) :=
      ⟨_, rfl, decide_eq_false (Int.natAbs_natCast _ ▸ Nat.lt_irrefl _)⟩
    generalize Value.int Number.leastTooLong = source at long ⊢
    have stray : StrayEdge (authoredEdge source (.int 2) []) := by
      refine ⟨_, rfl, .inl ?_⟩
      simpa [valueAt] using long
    exact cut _ _ (by with_unfolding_all rfl) ⟨_, .head _, stray⟩

/-- A flow with a start that falls back, and with a jump, to the node of the number zero. -/
def falling (fallback target : Value) : Value :=
  .dict [(.text "id", .text "falling"),
    (.text "nodes", .list [authoredNode (.text "in") "start" [(.text "onError", fallback)],
      authoredNode (.text "jump") "goTo" [(.text "targetNodeId", target)],
      authoredNode (.int 0) "end" []]),
    (.text "edges", .list [])]

/-- The fault of a definition that is rejected, if there is one. -/
def faultOf? (raw : Value) : Option Fault :=
  match load [] raw with
  | .error (.graph fault) => some fault
  | _ => none

/-- The text of zero is the fallback and the target that it names, but zero itself is neither. -/
theorem zero_names_nothing :
    (load [] (falling (.text "0") (.text "0"))).toOption.isSome = true ∧
    faultOf? (falling (.int 0) (.text "0")) = some (.strayFallback "falling" "in" "0") ∧
    faultOf? (falling (.text "0") (.int 0)) = some (.noTarget "jump") := by
  decide +kernel

end Parley.Flow
