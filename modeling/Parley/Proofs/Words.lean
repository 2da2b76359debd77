import Parley.Proofs.Rereading
import Parley.Proofs.Spellings

/-!
# Words that were read as truth values

A document format may read the words yes and no as truth values if they are not quoted. A definition
is loaded alike with such values in the labels of its edges, in the handles of their sources and
among the keywords of its waits. There are two exceptions. A truth value alone is no list of
keywords, so a wait with such keywords is refused; and the handle no, which is false, counts as one
that is not set, so that the edge loses its label.
-/

namespace Parley.Flow

open Parley.Computation Relation

/-- A word, and the truth value as which it may be read. -/
inductive Bare : Value → Value → Prop where
  /-- The word yes. -/
  | yes : Bare (.text yes) (.bool true)
  /-- The word no. -/
  | no : Bare (.text no) (.bool false)

/-- The keys of the keywords of a wait. -/
def keywordKeys : List String := ["keywords", "expectedKeywords", "expected_keywords"]

/-- Keywords with bare words: one word alone, or some of several. -/
def BareKeywords (old new : Value) : Prop := Bare old new ∨ Parts Bare old new

/-- A node with bare words as keywords, in whatever form its data are given. -/
def BareNode : Value → Value → Prop :=
  Altered fun key old new => key = "data" ∧
    Concur (Changed fun key old new => key ∈ keywordKeys ∧ BareKeywords old new) (dataEntries old)
      (dataEntries new)

/-- An edge with a bare word as its label or as the handle of its source. -/
def BareEdge : Value → Value → Prop :=
  Altered fun key old new => (key = "label" ∨ key = "sourceHandle") ∧ Bare old new

/-- A wait that has a truth value for its keywords. -/
def Lone (extensions : Extensions) (node : Value) : Prop :=
  ∃ entries data, node = .dict entries ∧ typeOf (valueAt entries "type") = .text "wait" ∧
    extensions.contains "wait" = false ∧ dataEntries (valueAt entries "data") = .ok data ∧
    ∃ truth, pick data keywordKeys = some (.bool truth)

/-- An edge whose label is the handle no, and which has a bare word there. -/
def Muted (old new : Value) : Prop :=
  ∃ entries others, old = .dict entries ∧ new = .dict others ∧
    (valueAt others "label" = .null ∨ valueAt others "label" = .text "") ∧
    valueAt entries "sourceHandle" = .text no ∧ valueAt others "sourceHandle" = .bool false

variable {extensions : Extensions} {old new : Value}

/-- Neither a word nor its bare form is null. -/
theorem BareKeywords.present (bare : BareKeywords old new) : old ≠ .null ∧ new ≠ .null := by
  rcases bare with word | parts
  · cases word <;> exact ⟨by rintro ⟨⟩, by rintro ⟨⟩⟩
  · cases parts <;> exact ⟨by rintro ⟨⟩, by rintro ⟨⟩⟩

/-- A bare word stands for the word. -/
theorem Bare.wordOf (bare : Bare old new) : Keyword.wordOf old = Keyword.wordOf new := by
  cases bare <;> rfl

/-- A bare word stands for the branch of the word. -/
theorem Bare.branchOf (bare : Bare old new) : branchOf old = branchOf new := by
  cases bare <;> rfl

/-- Bare words among keywords stand for the words. -/
theorem wordsOf_bare {items others : List Value}
    (joined : List.Forall₂ (ReflGen Bare) items others) :
    items.mapM Keyword.wordOf = others.mapM Keyword.wordOf := by
  induction joined with
  | nil => rfl
  | cons first _ ih =>
    rw [List.mapM_cons, List.mapM_cons, ih]
    cases first with
    | refl => rfl
    | single bare => rw [bare.wordOf]

/-- Several keywords are read alike if some of them are bare. -/
theorem readKeywords_bare (parts : Parts Bare old new) : readKeywords old = readKeywords new := by
  cases parts with
  | list joined =>
    simp only [readKeywords, Keyword.authored, Value.elements, ok_bind, wordsOf_bare joined]
  | tuple joined =>
    simp only [readKeywords, Keyword.authored, Value.elements, ok_bind, wordsOf_bare joined]

/-- A truth value alone is no list of keywords. -/
theorem readKeywords_truth (truth : Bool) (keywords : List String) :
    readKeywords (.bool truth) ≠ .ok keywords := by
  rintro ⟨⟩

/-- A wait with bare keywords is read alike, unless that is a truth value alone. -/
theorem readWait_bare (node : String) {given renewed : Entries}
    (changed : Changed (fun key old new => key ∈ keywordKeys ∧ BareKeywords old new) given renewed)
    (several : ∀ truth, pick renewed keywordKeys ≠ some (.bool truth)) :
    readWait node given = readWait node renewed := by
  have picks (keys : List String) (spared : ∀ key ∈ keys, key ∉ keywordKeys) :
      pick given keys = pick renewed keys :=
    pick_congr fun key member => changed.text?_eq (by simp [spared key member])
  have keywords : (pick given keywordKeys).elim (pure []) readKeywords =
      (pick renewed keywordKeys).elim (pure []) readKeywords := by
    rcases changed.pick_cases (fun _ _ _ change => change.2.present) keywordKeys with
      same | ⟨key, -, old, new, ⟨-, word | parts⟩, before, after⟩
    · rw [same]
    · cases word with
      | yes => exact absurd after (several true)
      | no => exact absurd after (several false)
    · rw [before, after]
      exact readKeywords_bare parts
  unfold keywordKeys at keywords
  rw [readWait_eq, readWait_eq, keywords, pickTruth, pickTruth,
    picks ["timeout", "timeoutSeconds", "timeout_seconds"] (by decide),
    picks ["holdOnMismatch", "hold_on_mismatch"] (by decide)]

/-- A node with bare keywords is read alike, unless it is a wait that has one for its keywords. -/
theorem BareNode.concur (bare : BareNode old new) (several : ¬Lone extensions new) :
    Concur Eq (readNode extensions old) (readNode extensions new) := by
  cases bare with
  | same => exact .refl _
  | @fields entries others changed =>
    have names (key : String) (spared : key ≠ "data") : entries.text? key = others.text? key :=
      changed.text?_eq (by simp [spared])
    have data := dataEntries_concur Changed.refl
      ((changed.valueAt "data").mono fun _ _ change => change.2)
    refine readNode_concur ?_ (names "type" (by decide)) data.told ?_ ?_
    · rw [names "id" (by decide)]
      exact rel_self (fun _ => .refl _) _
    · rintro type id given renewed named ⟨changed, -, held⟩
      have same : readContent? extensions type id given =
          readContent? extensions type id renewed := by
        by_cases wait : type = "wait" ∧ extensions.contains type = false
        · obtain ⟨rfl, unregistered⟩ := wait
          have truths (truth : Bool) : pick renewed keywordKeys ≠ some (.bool truth) := by
            intro picked
            rw [valueAt, names "type" (by decide)] at named
            exact several ⟨others, renewed, rfl, named, unregistered, held, truth, picked⟩
          simp only [readContent?, unregistered, Bool.false_eq_true, if_false,
            readWait_bare id changed truths]
        · refine readContent?_congr fun key member => changed.text?_eq ?_
          have spared : key ∉ keywordKeys := contentKeys_apart (by decide) (by decide) wait member
          simp [spared]
      rw [same]
      exact rel_self Concur.refl _
    · rintro given renewed ⟨changed, -, -⟩
      refine pick_congr fun key member => changed.text?_eq ?_
      have spared : key ∉ keywordKeys := by
        revert key
        decide
      simp [spared]

/-- Bare words as label and handle stand for the same branch, unless the label is lost. -/
theorem branchOf_bare {entries others : Entries}
    (label : ReflGen Bare (valueAt entries "label") (valueAt others "label"))
    (handle : ReflGen Bare (valueAt entries "sourceHandle") (valueAt others "sourceHandle"))
    (kept : ¬Muted (.dict entries) (.dict others)) :
    branchOf (labelValue entries) = branchOf (labelValue others) := by
  have heard : ¬((valueAt others "label" = .null ∨ valueAt others "label" = .text "") ∧
      valueAt entries "sourceHandle" = .text no ∧ valueAt others "sourceHandle" = .bool false) :=
    fun lost => kept ⟨entries, others, rfl, rfl, lost⟩
  unfold labelValue
  generalize valueAt entries "label" = oldLabel at label
  generalize valueAt others "label" = newLabel at label heard
  generalize valueAt entries "sourceHandle" = oldHandle at handle heard
  generalize valueAt others "sourceHandle" = newHandle at handle heard
  cases label with
  | single word => cases word <;> rfl
  | refl =>
    cases handle with
    | refl => rfl
    | single word =>
      split
      · cases word with
        | yes => rfl
        | no => exact absurd ⟨.inl rfl, rfl, rfl⟩ heard
      · cases word with
        | yes => rfl
        | no => exact absurd ⟨.inr rfl, rfl, rfl⟩ heard
      · rfl

/-- An edge with bare words is read alike, unless it loses its label. -/
theorem BareEdge.concur (bare : BareEdge old new) (kept : ¬Muted old new) (index : Nat) :
    Concur Eq (readEdge index old) (readEdge index new) := by
  cases bare with
  | same => exact .refl _
  | @fields entries others changed =>
    have names (key : String) (spared : key ≠ "label" ∧ key ≠ "sourceHandle") :
        entries.text? key = others.text? key := changed.text?_eq (by simp [spared])
    have ends (key : String) (spared : key ≠ "label" ∧ key ≠ "sourceHandle") :
        Option.Rel (fun old new => Concur Eq old.asText new.asText) (entries.text? key)
          (others.text? key) := by
      rw [names key spared]
      exact rel_self (fun _ => .refl _) _
    have labels : branchOf (labelValue entries) = branchOf (labelValue others) :=
      branchOf_bare ((changed.valueAt "label").mono fun _ _ change => change.2)
        ((changed.valueAt "sourceHandle").mono fun _ _ change => change.2) kept
    refine readEdge_concur index (ends "source" (by decide)) (ends "target" (by decide))
      (.of_eq labels) ?_
    rw [valueAt, valueAt, names "id" (by decide)]

/-- The edge that loses its label had the label no, and is read as it was but for that. -/
theorem Muted.unlabelled (muted : Muted old new) (bare : BareEdge old new) {index : Nat}
    {edge : Edge} (read : readEdge index old = .ok edge) :
    edge.label = some no ∧ readEdge index new = .ok { edge with label := none } := by
  obtain ⟨entries, others, rfl, rfl, unset, handle, bareHandle⟩ := muted
  cases bare with
  | same => rw [handle] at bareHandle; cases bareHandle
  | fields changed =>
    have names (key : String) (spared : key ≠ "label" ∧ key ≠ "sourceHandle") :
        Entries.text? entries key = Entries.text? others key :=
      changed.text?_eq (by simp [spared])
    have own : valueAt entries "label" = valueAt others "label" := by
      have related := (changed.valueAt "label").mono fun _ _ change => change.2
      generalize valueAt entries "label" = first at related
      generalize valueAt others "label" = second at related unset
      cases related with
      | refl => rfl
      | single word => rcases unset with rfl | rfl <;> cases word
    have label : branchOf (labelValue entries) = .ok (some no) := by
      rw [labelValue_unset (own ▸ unset), handle]
      rfl
    have lost : branchOf (labelValue others) = .ok none := by
      rw [labelValue_unset unset, bareHandle]
      rfl
    obtain ⟨_, source, target, same, begins, ends, branch, id⟩ := readEdge_ok.mp read
    cases same
    rw [names "source" (by decide)] at begins
    rw [names "target" (by decide)] at ends
    rw [valueAt, names "id" (by decide)] at id
    exact ⟨Except.ok.inj (branch.symm.trans label),
      readEdge_ok.mpr ⟨others, source, target, rfl, begins, ends, lost, id⟩⟩

/-- A wait that has a truth value for its keywords is not read. -/
theorem Lone.unread {node : Value} (lone : Lone extensions node) (read : Node Value) :
    readNode extensions node ≠ .ok read := by
  obtain ⟨entries, data, rfl, wait, unregistered, held, truth, picked⟩ := lone
  intro done
  obtain ⟨_, given, same, named, -, found, content, -⟩ := readNode_ok.mp done
  cases same
  rw [held] at found
  cases found
  rw [wait] at named
  rw [← Value.text.inj named, readContent?, unregistered] at content
  simp only [Bool.false_eq_true, if_false, Option.some.injEq, readWait_eq, bind_eq_ok] at content
  obtain ⟨_, -, keywords, words, -⟩ := content
  rw [keywordKeys] at picked
  rw [picked] at words
  exact readKeywords_truth truth keywords words

/-- A definition with bare words in the place of words is loaded alike, as the same graph or as
none, unless a wait then has a truth value for its keywords or an edge loses its label. A definition
with such a wait is never loaded, and such an edge is read as it was, but without the label no. -/
theorem bare_words_read (extensions : Extensions) :
    (∀ raw bare, Revised (fun old new => BareNode old new ∧ ¬Lone extensions new)
        (fun old new => BareEdge old new ∧ ¬Muted old new) raw bare →
      Concur Eq (load extensions raw) (load extensions bare)) ∧
    (∀ entries parts, partsAt entries "nodes" = .ok parts →
      (∃ node ∈ parts, Lone extensions node) →
      ∀ graph, load extensions (.dict entries) ≠ .ok graph) ∧
    (∀ old new, BareEdge old new → Muted old new → ∀ index edge,
      readEdge index old = .ok edge →
      edge.label = some no ∧ readEdge index new = .ok { edge with label := none }) := by
  refine ⟨fun raw bare revised => ?_, ?_, ?_⟩
  · exact revised.load (fun old new ⟨node, several⟩ => node.concur several)
      fun index old new ⟨edge, kept⟩ => edge.concur kept index
  · rintro entries parts held ⟨node, member, lone⟩ graph loaded
    obtain ⟨read, done⟩ := readNode_of_parts loaded held node member
    exact lone.unread read done
  · exact fun old new edge muted index read done => muted.unlabelled edge done

/-- An edge with a handle. -/
def handled (handle : Value) : Value :=
  authoredEdge (.text "ask") (.text "in") [(.text "sourceHandle", handle)]

/-- A wait for keywords. -/
def asks (keywords : Value) : Value :=
  authoredNode (.text "ask") "wait" [(.text "keywords", keywords)]

/-- A flow that asks, and then ends or asks again. -/
def asking (keywords label handle : Value) : Value :=
  .dict [(.text "id", .text "asking"),
    (.text "nodes", .list [authoredNode (.text "in") "start" [], asks keywords,
      authoredNode (.text "out") "end" []]),
    (.text "edges", .list [authoredEdge (.text "in") (.text "ask") [],
      authoredEdge (.text "ask") (.text "out") [(.text "label", label)], handled handle])]

/-- A flow is loaded alike with bare words among the keywords, as a label and as a handle; with a
bare word for its keywords it is refused; and the edge of the bare handle no has no label. -/
theorem asking_read :
    Concur Eq
      (load [] (asking (.list [.text yes, .text "maybe", .text no]) (.text no) (.text yes)))
      (load [] (asking (.list [.bool true, .text "maybe", .bool false]) (.bool false)
        (.bool true))) ∧
    (load [] (asking (.list [.text yes, .text "maybe", .text no]) (.text no)
      (.text yes))).toOption.isSome = true ∧
    (∀ graph, load [] (asking (.bool true) (.text no) (.text yes)) ≠ .ok graph) ∧
    readEdge 2 (handled (.bool false)) = .ok ⟨"e2-ask-in", "ask", "in", none⟩ := by
  obtain ⟨alike, refused, unlabelled⟩ := bare_words_read []
  refine ⟨alike _ _ ?_, ?_, ?_, ?_⟩
  · refine .fields (.cons (.same _) (.cons (.changed (.inl ⟨rfl, .list ?_⟩))
      (.cons (.changed (.inr ⟨rfl, .list ?_⟩)) .nil)))
    · refine .cons .refl (.cons (.single ⟨?_, ?_⟩) (.cons .refl .nil))
      · refine .fields (.cons (.same _) (.cons (.same _) (.cons (.changed ⟨rfl, ?_⟩) .nil)))
        refine .ok (.cons (.changed ⟨.head _, .inr (.list ?_)⟩) .nil)
        exact .cons (.single .yes) (.cons .refl (.cons (.single .no) .nil))
      · rintro ⟨entries, data, same, -, -, held, truth, picked⟩
        cases same
        simp only [valueAt, Entries.text?_cons, dataEntries, Value.entries, Value.truthy] at held
        cases held
        simp [pick, keywordKeys] at picked
    · refine .cons .refl (.cons (.single ⟨?_, ?_⟩) (.cons (.single ⟨?_, ?_⟩) .nil))
      · exact .fields (.cons (.same _) (.cons (.same _) (.cons (.changed ⟨.inl rfl, .no⟩) .nil)))
      · rintro ⟨entries, others, -, same, unset, -⟩
        cases same
        simp [valueAt] at unset
      · exact .fields (.cons (.same _) (.cons (.same _) (.cons (.changed ⟨.inr rfl, .yes⟩) .nil)))
      · rintro ⟨entries, others, -, same, -, -, handle⟩
        cases same
        simp [valueAt] at handle
  · decide +kernel
  · have lone : Lone [] (asks (.bool true)) := by
      refine ⟨_, [(.text "keywords", .bool true)], rfl, ?_, rfl, ?_, true, ?_⟩ <;>
        with_unfolding_all rfl
    exact refused _ _ (by with_unfolding_all rfl) ⟨_, .tail _ (.head _), lone⟩
  · have bare : BareEdge (handled (.text no)) (handled (.bool false)) :=
      .fields (.cons (.same _) (.cons (.same _) (.cons (.changed ⟨.inr rfl, .no⟩) .nil)))
    have muted : Muted (handled (.text no)) (handled (.bool false)) := by
      refine ⟨_, _, rfl, rfl, .inl ?_, ?_, ?_⟩ <;> with_unfolding_all rfl
    exact (unlabelled _ _ bare muted 2 ⟨"e2-ask-in", "ask", "in", some no⟩
      (by with_unfolding_all rfl)).2

/-- The labels of the edges of a flow, if it is loaded. -/
def loadedLabels (raw : Value) : Option (List (Option String)) :=
  (load [] raw).toOption.map fun graph => graph.edges.map Edge.label

/-- The keyword no is a list of keywords and false is none; and the handle no is a label and false
is none. -/
theorem bare_no_misread :
    loadedLabels (asking (.text no) (.text no) (.text yes)) =
      some [none, some no, some yes] ∧
    load [] (asking (.bool false) (.text no) (.text yes)) =
      .error (.wrongType "'bool' object is not iterable") ∧
    loadedLabels (asking (.list []) (.text yes) (.text no)) = some [none, some yes, some no] ∧
    loadedLabels (asking (.list []) (.text yes) (.bool false)) = some [none, some yes, none] :=
  ⟨by decide +kernel, by with_unfolding_all rfl, by decide +kernel, by decide +kernel⟩

end Parley.Flow
