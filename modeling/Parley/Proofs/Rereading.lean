import Parley.Proofs.Conditions
import Parley.Proofs.Keywords
import Parley.Proofs.Rejections

/-!
# Flows that are read again

A graph that was read and is written can be read again, and is the same: the ways of writing a
definition differ in their names of types, keys and branches, in the form of keywords and in what is
left out, and a graph is written in one of them. A condition is written with single quotes, so a
graph is read again exactly if the literals of its conditions contain none.
-/

namespace Parley

open Parley.Computation

namespace Value

/-- Items between brackets are not empty. -/
theorem enclosed_ne_empty {opening : String} (filled : opening ≠ "") (items : List String)
    (closing : String) : enclosed opening items closing ≠ "" := by
  simp [enclosed, String.append_eq_empty_iff, filled]

/-- The digits of a number laid out are not empty. -/
theorem layOut_ne_empty (layout : Decimal.Layout) (value : Decimal.Digits) :
    Decimal.layOut layout value ≠ "" := by
  unfold Decimal.layOut
  dsimp only
  split
  · split
    · split <;> simp [String.append_eq_empty_iff]
    · simp [String.append_eq_empty_iff]
  · simp [String.append_eq_empty_iff]

/-- The text of a binary64 number is not empty. -/
theorem decimal_ne_empty (x : Binary64) : Decimal.text x ≠ "" := by
  unfold Decimal.text
  split
  · decide
  · split <;> decide
  · dsimp only
    split <;> simp [String.append_eq_empty_iff, layOut_ne_empty]

/-- A value shown is not empty. -/
theorem shown_ne_empty (value : Value) : value.shown ≠ "" := by
  cases value with
  | null => simp [shown]
  | bool b => cases b <;> simp [shown, Number.text]
  | int n =>
    cases n <;> simp [shown, toString, Int.repr]
  | float x => simpa only [shown] using decimal_ne_empty x
  | text s => simp [shown, Text.quoted]
  | list items => simpa only [shown] using enclosed_ne_empty (by decide) _ _
  | dict entries => simpa only [shown] using enclosed_ne_empty (by decide) _ _
  | tuple items =>
    simp only [shown, tupled]
    split
    · simp [String.append_eq_empty_iff]
    · exact enclosed_ne_empty (by decide) _ _
  | octets bits => simp [shown, Text.quotedOctets]
  | set items =>
    simp only [shown]
    split
    · simp
    · exact enclosed_ne_empty (by decide) _ _
  | date d => simpa only [shown] using enclosed_ne_empty (by decide) _ _
  | moment m => simpa only [shown] using enclosed_ne_empty (by decide) _ _
  | foreign => simp [shown]

/-- A value that counts as true has a text that is not empty. -/
theorem toText_ne_empty {value : Value} (truthy : value.truthy = true) : value.toText ≠ "" := by
  unfold toText
  split
  · simpa [Value.truthy] using truthy
  · simp [Time.Date.text, String.append_eq_empty_iff]
  · simp [Time.Moment.textWith, Time.Date.text, String.append_eq_empty_iff]
  · exact shown_ne_empty value

/-- The text of a value that counts as true is not empty. -/
theorem asText_ne_empty {value : Value} {text : String} (truthy : value.truthy = true)
    (spelled : value.asText = .ok text) : text ≠ "" := by
  unfold asText at spelled
  split at spelled
  · cases spelled
    exact toText_ne_empty truthy
  · cases spelled

end Value

namespace Entries

/-- There is nothing in no entries. -/
@[simp]
theorem text?_nil (name : String) : text? [] name = none := rfl

/-- A text is sought in the first entry and then in the rest. -/
@[simp]
theorem text?_cons (key : String) (value : Value) (rest : Entries) (name : String) :
    text? ((.text key, value) :: rest) name =
      if key = name then some value else text? rest name := by
  by_cases same : key = name <;> simp [text?, get?, Value.same, Value.sameAtom, same]

end Entries

namespace Flow

section Data

variable {node : Node String} {entries : Entries}

/-- What is written beside the fallback of a node is its content. -/
theorem text?_data {key : String} (other : key ≠ "onError") :
    node.data.text? key = Entries.text? node.content.toEntries key := by
  unfold Node.data
  split
  · simp [other.symm]
  · rfl

/-- What is written under several keys beside the fallback of a node is its content. -/
theorem pick_data {keys : List String} (other : "onError" ∉ keys) :
    pick node.data keys = pick node.content.toEntries keys := by
  induction keys with
  | nil => rfl
  | cons key rest ih =>
    rw [List.mem_cons, not_or] at other
    rw [pick, pick, text?_data (Ne.symm other.1), ih other.2]

/-- No content is written under the keys of a fallback. -/
theorem text?_toEntries_fallback (content : Content) {key : String}
    (among : key ∈ ["onError", "on_error"]) : Entries.text? content.toEntries key = none := by
  simp only [List.mem_cons, List.not_mem_nil, or_false] at among
  cases content with
  | wait timeout keywords hold =>
    rcases among with rfl | rfl <;> cases timeout <;> simp [Content.toEntries]
  | _ => rcases among with rfl | rfl <;> simp [Content.toEntries]

/-- The fallback of a node is written under its key. -/
theorem pick_fallback (node : Node String) :
    pick node.data ["onError", "on_error"] = node.onError.map .text := by
  cases named : node.onError with
  | none => simp [pick, Node.data, named, text?_toEntries_fallback node.content]
  | some name => simp [pick, Node.data, named]

/-- A text that was picked is the text that is read. -/
theorem pickText_of_pick {keys : List String} {text usual : String}
    (picked : pick entries keys = some (.text text)) : pickText entries keys usual = .ok text := by
  rw [pickText, picked]
  rfl

/-- What a message node holds is read again. -/
theorem readMessage_data (read : readMessage entries = .ok node.content) :
    readMessage node.data = .ok node.content := by
  simp only [readMessage, bind_eq_ok, pure_eq_ok] at read
  obtain ⟨template, -, held⟩ := read
  have picked : pick node.data ["text", "message"] = some (.text template) := by
    rw [pick_data (by decide), ← held]
    simp [pick, Content.toEntries]
  rw [readMessage, pickText_of_pick picked, ← held]
  rfl

/-- What is written of a condition node is read as what is printed of its condition. -/
theorem readCondition_toEntries {name : String} {asked : Condition}
    (asks : node.content = .condition asked) :
    readCondition name node.data =
      .condition <$> Condition.ofValue (.text asked.text) (some name) := by
  have picked : pick node.data ["expression", "condition"] = some (.text asked.text) := by
    rw [pick_data (by decide), asks]
    simp [pick, Content.toEntries]
  rw [readCondition, picked]
  rfl

/-- What a condition node holds has a name as its subject. -/
theorem named_of_readCondition {name : String} {asked : Condition}
    (read : readCondition name entries = .ok (.condition asked)) : asked.Named := by
  unfold readCondition at read
  split at read
  · cases read
  rename_i source _
  simp only [bind_eq_ok, pure_eq_ok, Content.condition.injEq, exists_eq_right] at read
  exact Condition.named_of_ofValue read

/-- What a condition node holds is read again if it contains no single quote. -/
theorem readCondition_data {name : String} (read : readCondition name entries = .ok node.content)
    (plain : ∀ asked, node.content = .condition asked → '\'' ∉ asked.literal.toList) :
    readCondition name node.data = .ok node.content := by
  obtain ⟨asked, asks⟩ : ∃ asked, node.content = .condition asked := by
    unfold readCondition at read
    split at read
    · cases read
    · simp only [bind_eq_ok, pure_eq_ok] at read
      obtain ⟨asked, -, asks⟩ := read
      exact ⟨asked, asks.symm⟩
  rw [asks] at read
  have named := named_of_readCondition read
  rw [readCondition_toEntries asks, Condition.ofValue_text named, if_neg (plain asked asks), asks]
  rfl

/-- Words are read as they are. -/
theorem mapM_wordOf_texts (words : List String) :
    (words.map Value.text).mapM Keyword.wordOf = .ok words := by
  induction words with
  | nil => rfl
  | cons word rest ih =>
    have first : Keyword.wordOf (.text word) = .ok word := rfl
    rw [List.map_cons, List.mapM_cons, first, ok_bind, ih]
    rfl

/-- A timeout that was read is not below zero. -/
theorem readTimeout_ok {name : String} {value : Value} {seconds : Binary64}
    (read : readTimeout name value = .ok seconds) :
    seconds.order Binary64.zero ≠ some .lt := by
  unfold readTimeout at read
  split at read
  · split at read
    · cases read
    · rename_i above
      cases read
      simpa using above
  · split at read
    · simp only [bind_eq_ok, throw_eq_ok, and_false, exists_false] at read
    · cases read

/-- What was read for a wait has a timeout that is not below zero, and kept keywords. -/
theorem readWait_ok {name : String} {content : Content}
    (read : readWait name entries = .ok content) :
    ∃ timeout keywords hold, content = .wait timeout keywords hold ∧ Keyword.Kept keywords ∧
      ∀ seconds, timeout = some seconds → seconds.order Binary64.zero ≠ some .lt := by
  rw [readWait_eq, bind_eq_ok] at read
  obtain ⟨timeout, timed, read⟩ := read
  obtain ⟨keywords, listed, read⟩ := bind_eq_ok.mp read
  refine ⟨timeout, keywords, _, (pure_eq_ok.mp read).symm, ?_, ?_⟩
  · cases picked : pick entries ["keywords", "expectedKeywords", "expected_keywords"] with
    | none =>
      rw [picked] at listed
      cases listed
      exact ⟨List.nodup_nil, nofun, nofun⟩
    | some value =>
      rw [picked] at listed
      simp only [Option.elim, readKeywords, bind_eq_ok, pure_eq_ok] at listed
      obtain ⟨_, _, words, _, rfl⟩ := listed
      exact Keyword.kept_clean words
  · rintro seconds rfl
    cases picked : pick entries ["timeout", "timeoutSeconds", "timeout_seconds"] with
    | none =>
      rw [picked] at timed
      cases timed
    | some value =>
      rw [picked] at timed
      simp only [Option.elim, map_eq_ok, Option.some.injEq] at timed
      obtain ⟨_, timed, rfl⟩ := timed
      exact readTimeout_ok timed

/-- What a wait node holds is read again. -/
theorem readWait_data {name : String} (read : readWait name entries = .ok node.content) :
    readWait name node.data = .ok node.content := by
  obtain ⟨timeout, keywords, hold, held, kept, above⟩ := readWait_ok read
  have timed : pick node.data ["timeout", "timeoutSeconds", "timeout_seconds"] =
      timeout.map .float := by
    rw [pick_data (by decide), held]
    cases timeout <;> simp [pick, Content.toEntries]
  have listed : pick node.data ["keywords", "expectedKeywords", "expected_keywords"] =
      some (.list (keywords.map .text)) := by
    rw [pick_data (by decide), held]
    cases timeout <;> simp [pick, Content.toEntries]
  have holds : pickTruth node.data ["holdOnMismatch", "hold_on_mismatch"] false = hold := by
    rw [pickTruth, pick_data (by decide), held]
    cases timeout <;> simp [pick, Content.toEntries, Value.truthy]
  have words : readKeywords (.list (keywords.map .text)) = .ok keywords := by
    have authored : Keyword.authored (.list (keywords.map .text)) = .ok (keywords.map .text) := rfl
    rw [readKeywords, authored, ok_bind, mapM_wordOf_texts, ok_bind, kept.clean_eq_self]
    rfl
  rw [held, readWait, timed, listed, holds]
  cases timeout with
  | none => simp [words, pure, Except.pure, bind, Except.bind]
  | some seconds =>
    have again : readTimeout name (.float seconds) = .ok seconds := by
      simp [readTimeout, Value.toFloat, above seconds rfl]
    simp [words, again, pure, Except.pure, bind, Except.bind, Functor.map, Except.map]

/-- What a node that asks a generator holds is read again. -/
theorem readGenerate_data (read : readGenerate entries = .ok node.content) :
    readGenerate node.data = .ok node.content := by
  simp only [readGenerate, bind_eq_ok, pure_eq_ok] at read
  obtain ⟨template, -, output, -, held⟩ := read
  generalize pickTruth entries ["useKnowledge", "use_knowledge"] true = knowledge at held
  have prompt : pick node.data ["prompt", "systemPrompt"] = some (.text template) := by
    rw [pick_data (by decide), ← held]
    simp [pick, Content.toEntries]
  have named : pick node.data ["outputVariable", "output_variable"] = some (.text output) := by
    rw [pick_data (by decide), ← held]
    simp [pick, Content.toEntries]
  have uses : pickTruth node.data ["useKnowledge", "use_knowledge"] true = knowledge := by
    rw [pickTruth, pick_data (by decide), ← held]
    simp [pick, Content.toEntries, Value.truthy]
  rw [readGenerate, pickText_of_pick prompt, pickText_of_pick named, uses, ← held]
  rfl

/-- What a jump holds is read again: its target is not empty. -/
theorem readGoTo_data {name : String} (read : readGoTo name entries = .ok node.content) :
    readGoTo name node.data = .ok node.content := by
  unfold readGoTo at read
  split at read
  · rename_i value _
    split at read
    · rename_i truthy
      simp only [bind_eq_ok, pure_eq_ok] at read
      obtain ⟨target, spelled, held⟩ := read
      have filled : target ≠ "" := Value.asText_ne_empty truthy spelled
      have picked : pick node.data ["targetNodeId", "targetId", "target_node_id"] =
          some (.text target) := by
        rw [pick_data (by decide), ← held]
        simp [pick, Content.toEntries]
      rw [readGoTo, picked, ← held]
      simp [Value.truthy, filled, Value.asText, Value.isShort, Value.toText, bind, Except.bind,
        pure, Except.pure]
    · cases read
  · cases read

/-- What a node of a registered type holds is read again. -/
theorem readTag_data (read : readTag entries = .ok node.content) :
    readTag node.data = .ok node.content := by
  simp only [readTag, bind_eq_ok, pure_eq_ok] at read
  obtain ⟨tag, -, held⟩ := read
  have found : node.data.text? "tag" = some (.text tag) := by
    rw [text?_data (by decide), ← held]
    simp [Content.toEntries]
  rw [readTag, found, ← held]
  rfl

/-- What a node holds is read again. -/
theorem readContent_data {extensions : Extensions} {type name : String}
    (read : readContent? extensions type name entries = some (.ok node.content))
    (plain : ∀ asked, node.content = .condition asked → '\'' ∉ asked.literal.toList) :
    readContent? extensions type name node.data = some (.ok node.content) := by
  unfold readContent? at read ⊢
  split at read
  · rename_i registered
    rw [if_pos registered, readTag_data (Option.some.inj read)]
  · rename_i unregistered
    rw [if_neg unregistered]
    split at read
    · exact read
    · exact read
    · exact congrArg some (readMessage_data (Option.some.inj read))
    · exact congrArg some (readCondition_data (Option.some.inj read) plain)
    · exact congrArg some (readWait_data (Option.some.inj read))
    · exact congrArg some (readGenerate_data (Option.some.inj read))
    · exact congrArg some (readGoTo_data (Option.some.inj read))
    · cases read

/-- A node asks a condition whose literal contains a single quote. -/
def Node.Quotes (node : Node String) (asked : Condition) : Prop :=
  node.content = .condition asked ∧ '\'' ∈ asked.literal.toList

/-- What a node holds is rejected again if it asks a condition with a single quote. -/
theorem readContent_quoted {extensions : Extensions} {type name : String} {asked : Condition}
    (read : readContent? extensions type name entries = some (.ok node.content))
    (quotes : node.Quotes asked) :
    readContent? extensions type name node.data =
      some (.error (.expression asked.text (some name))) := by
  obtain ⟨asks, quoted⟩ := quotes
  have way := readContent_ok read
  rw [asks] at way
  obtain ⟨rfl, unregistered, done⟩ := way
  have again : readCondition name node.data = .error (.expression asked.text (some name)) := by
    rw [readCondition_toEntries asks, Condition.ofValue_text (named_of_readCondition done),
      if_pos quoted]
    rfl
  rw [readContent?, unregistered]
  exact congrArg some again

end Data

/-- The names for which others stand have none. -/
theorem typeAliases_settled : ∀ entry ∈ typeAliases, typeAliases.lookup entry.2 = none := by
  decide

/-- The type for which a name stands stands for itself. -/
theorem typeOf_again {value : Value} {type : String} (named : typeOf value = .text type) :
    typeOf (.text type) = .text type := by
  unfold typeOf at named
  split at named
  · rename_i name
    have settled : typeAliases.lookup type = none := by
      cases found : typeAliases.lookup name with
      | none =>
        rw [found] at named
        cases named
        exact found
      | some other =>
        rw [found] at named
        cases named
        obtain ⟨before, rest, split, -⟩ := List.lookup_eq_some_iff.mp found
        exact typeAliases_settled (name, other) (by simp [split])
    rw [typeOf, settled]
    rfl
  · rename_i other
    exact absurd named (other type)

/-- A node whose fallback is named as a document names it. -/
def Node.authored (node : Node String) : Node Value :=
  ⟨node.id, node.type, node.content, node.onError.map .text⟩

/-- What is written of a node that was read is read as its content is. -/
theorem readNode_written {extensions : Extensions} {raw : Value} {first : Node Value}
    {node : Node String} {outcome : Except Failure Content}
    (read : readNode extensions raw = .ok first) (type : node.type = first.type)
    (again : readContent? extensions node.type node.id node.data = some outcome) :
    readNode extensions node.toValue = do
      return ⟨node.id, node.type, ← outcome, node.onError.map .text⟩ := by
  obtain ⟨entries, data, -, named, known, -⟩ := readNode_ok.mp read
  rw [← type] at named known
  have held : dataEntries (.dict node.data) = .ok node.data := by
    unfold dataEntries
    split
    · rfl
    · rename_i empty
      have none : node.data = [] := by simpa [Value.truthy] using empty
      rw [none]
  rw [Node.toValue, readNode]
  simp [Value.asText, Value.isShort, Value.toText, Value.requireFixed, Value.fixed,
    typeOf_again named, known, held, again, pick_fallback, bind, Except.bind, pure, Except.pure]

/-- A node that was read is read again. -/
theorem readNode_toValue {extensions : Extensions} {raw : Value} {first : Node Value}
    {node : Node String} (read : readNode extensions raw = .ok first) (id : node.id = first.id)
    (type : node.type = first.type) (content : node.content = first.content)
    (plain : ∀ asked, node.content = .condition asked → '\'' ∉ asked.literal.toList) :
    readNode extensions node.toValue = .ok node.authored := by
  obtain ⟨_, data, -, -, -, -, found, -⟩ := readNode_ok.mp read
  rw [← id, ← type, ← content] at found
  exact readNode_written read type (readContent_data found plain)

/-- A node that was read is rejected again if it asks a condition with a single quote. -/
theorem readNode_quoted {extensions : Extensions} {raw : Value} {first : Node Value}
    {node : Node String} {asked : Condition} (read : readNode extensions raw = .ok first)
    (id : node.id = first.id) (type : node.type = first.type)
    (content : node.content = first.content) (quotes : node.Quotes asked) :
    readNode extensions node.toValue = .error (.expression asked.text (some node.id)) := by
  obtain ⟨_, data, -, -, -, -, found, -⟩ := readNode_ok.mp read
  rw [← id, ← type, ← content] at found
  exact readNode_written read type (readContent_quoted found quotes)

/-- An edge that was read has an id. -/
theorem readEdge_id {index : Nat} {raw : Value} {edge : Edge}
    (read : readEdge index raw = .ok edge) : edge.id ≠ "" := by
  obtain ⟨entries, _, _, -, -, -, -, named⟩ := readEdge_ok.mp read
  split at named
  · rename_i truthy
    exact Value.asText_ne_empty truthy named
  · rw [← Except.ok.inj named]
    simp [String.append_eq_empty_iff]

/-- The labels of branches are read as they are. -/
theorem branchOf_label {label : String} (valid : validLabel (some label) = true) :
    branchOf (.text label) = .ok (some label) := by
  have branches : branchOf (.text yes) = .ok (some yes) ∧ branchOf (.text no) = .ok (some no) :=
    ⟨by with_unfolding_all rfl, by with_unfolding_all rfl⟩
  rcases validLabel_iff.mp valid with absent | positive | negative
  · cases absent
  · cases positive
    exact branches.1
  · cases negative
    exact branches.2

/-- An edge with an id and a valid label is read as it was. -/
theorem readEdge_toValue {edge : Edge} (index : Nat) (named : edge.id ≠ "")
    (valid : validLabel edge.label = true) : readEdge index edge.toValue = .ok edge := by
  obtain ⟨id, source, target, label⟩ := edge
  dsimp only at named valid
  cases label with
  | none =>
    simp [readEdge, Edge.toValue, labelValue, valueAt, Value.asText, Value.isShort, Value.toText,
      branchOf, Value.truthy, named, bind, Except.bind, pure, Except.pure]
  | some label =>
    have filled : label ≠ "" := by
      rintro rfl
      revert valid
      decide
    simp [readEdge, Edge.toValue, labelValue, valueAt, Value.asText, Value.isShort, Value.toText,
      branchOf_label valid, Value.truthy, named, filled, bind, Except.bind, pure, Except.pure]

/-- Nodes that are read again one by one are so together. -/
theorem readNodes_toValue {extensions : Extensions} {nodes : List (Node String)}
    (again : ∀ node ∈ nodes, readNode extensions node.toValue = .ok node.authored) :
    readNodes extensions (nodes.map Node.toValue) = .ok (nodes.map Node.authored) := by
  induction nodes with
  | nil => rfl
  | cons node rest ih =>
    obtain ⟨first, others⟩ := List.forall_mem_cons.mp again
    rw [List.map_cons, readNodes, first, ok_bind, ih others]
    rfl

/-- Nodes of which each is read again or rejected for a single quote are rejected together for the
first quote. -/
theorem readNodes_quoted {extensions : Extensions} {nodes : List (Node String)}
    (again : ∀ node ∈ nodes, (∀ asked, ¬node.Quotes asked) →
      readNode extensions node.toValue = .ok node.authored)
    (rejected : ∀ node ∈ nodes, ∀ asked, node.Quotes asked →
      readNode extensions node.toValue = .error (.expression asked.text (some node.id)))
    (quotes : ∃ node ∈ nodes, ∃ asked, node.Quotes asked) :
    ∃ node ∈ nodes, ∃ asked, node.Quotes asked ∧ readNodes extensions (nodes.map Node.toValue) =
      .error (.expression asked.text (some node.id)) := by
  induction nodes with
  | nil => simp at quotes
  | cons node rest ih =>
    rw [List.map_cons, readNodes]
    by_cases here : ∃ asked, node.Quotes asked
    · obtain ⟨asked, here⟩ := here
      have stops := rejected node List.mem_cons_self asked here
      exact ⟨node, List.mem_cons_self, asked, here, by rw [stops]; rfl⟩
    · have goes := again node List.mem_cons_self (not_exists.mp here)
      have later : ∃ node ∈ rest, ∃ asked, node.Quotes asked := by
        simpa [here] using quotes
      obtain ⟨other, member, asked, there, stops⟩ :=
        ih (fun other member => again other (List.mem_cons_of_mem node member))
          (fun other member => rejected other (List.mem_cons_of_mem node member)) later
      refine ⟨other, List.mem_cons_of_mem node member, asked, there, ?_⟩
      rw [goes, ok_bind, stops]
      rfl

/-- Edges with ids and valid labels are read as they were. -/
theorem readEdges_toValue {edges : List Edge} (index : Nat) (named : ∀ edge ∈ edges, edge.id ≠ "")
    (valid : ∀ edge ∈ edges, validLabel edge.label = true) :
    readEdges index (edges.map Edge.toValue) = .ok edges := by
  induction edges generalizing index with
  | nil => rfl
  | cons edge rest ih =>
    obtain ⟨first, others⟩ := List.forall_mem_cons.mp named
    obtain ⟨own, labels⟩ := List.forall_mem_cons.mp valid
    rw [List.map_cons, readEdges, readEdge_toValue index first own, ok_bind,
      ih (index + 1) others labels]
    rfl

/-- Edges that were read have ids. -/
theorem readEdges_id {index : Nat} {raws : List Value} {edges : List Edge}
    (read : readEdges index raws = .ok edges) : ∀ edge ∈ edges, edge.id ≠ "" := by
  induction raws generalizing index edges with
  | nil =>
    cases read
    exact nofun
  | cons raw rest ih =>
    simp only [readEdges, bind_eq_ok, pure_eq_ok] at read
    obtain ⟨edge, first, others, more, rfl⟩ := read
    exact List.forall_mem_cons.mpr ⟨readEdge_id first, ih more⟩

/-- Nodes that refer to nodes are settled as they were. -/
theorem settleNodes_authored {flow : String} {ids : List String} {nodes : List (Node String)}
    (refers : ∀ node ∈ nodes, (∀ target, node.content = .goTo target → target ∈ ids) ∧
      ∀ fallback, node.onError = some fallback → fallback ∈ ids) :
    settleNodes flow ids (nodes.map Node.authored) = .ok nodes := by
  induction nodes with
  | nil => rfl
  | cons node rest ih =>
    obtain ⟨⟨jumps, falls⟩, others⟩ := List.forall_mem_cons.mp refers
    have target : checkTarget flow ids node.authored = .ok () := checkTarget_iff.mpr jumps
    have found : fallback flow ids node.authored = .ok node.onError := by
      cases named : node.onError with
      | none => simp [fallback, Node.authored, named]
      | some name =>
        have search : Name.find? ids (Value.text name) =
            .ok (if name ∈ ids then some name else none) := rfl
        simp only [fallback, Node.authored, named, Option.map_some, search, ok_bind,
          if_pos (falls name named)]
        rfl
    rw [List.map_cons, settleNodes, target, ok_bind, found, ok_bind, ih others]
    rfl

/-- The check of nodes goes by their ids and types. -/
theorem checkNodes_congr {ν μ : Type} {known : String → Bool} {flow : String} {seen : List String}
    {nodes : List (Node ν)} {others : List (Node μ)}
    (same : nodes.map (fun node => (node.id, node.type)) =
      others.map fun node => (node.id, node.type)) :
    checkNodes known flow seen nodes = checkNodes known flow seen others := by
  induction nodes generalizing seen others with
  | nil =>
    rw [List.map_nil, eq_comm, List.map_eq_nil_iff] at same
    rw [same]
    rfl
  | cons node rest ih =>
    cases others with
    | nil => cases same
    | cons other others =>
      simp only [List.map_cons, List.cons.injEq, Prod.mk.injEq] at same
      simp only [checkNodes, same.1, ih same.2]

/-- The starts among nodes are told by their ids and types. -/
theorem starts_eq {ν : Type} (nodes : List (Node ν)) :
    (nodes.filter fun node => node.type == "start").map Node.id =
      ((nodes.map fun node => (node.id, node.type)).filter fun part => part.2 == "start").map
        Prod.fst := by
  rw [List.filter_map, List.map_map]
  rfl

/-- A graph is assembled again of its own parts. -/
theorem Graph.assemble_authored {ν : Type} [Name ν] {known : String → Bool} {id name : String}
    {nodes : List (Node ν)} {edges : List Edge} {graph : Graph}
    (assembled : Graph.assemble known id name nodes edges = .ok graph) :
    Graph.assemble known graph.id graph.name (graph.nodes.map Node.authored) graph.edges =
      .ok graph := by
  obtain ⟨rfl, filled, titled, rfl, same, checked, indexed, starts, settled⟩ :=
    parts_of_assemble assembled
  obtain ⟨-, refers⟩ := settleNodes_ok settled
  have parts : (graph.nodes.map Node.authored).map (fun node => (node.id, node.type)) =
      nodes.map fun node => (node.id, node.type) := by
    have fewer := congrArg
      (List.map fun part : String × String × Content => (part.1, part.2.1)) same
    simpa [List.map_map, Function.comp_def, Node.authored] using fewer
  have ids : (graph.nodes.map Node.authored).map Node.id = nodes.map Node.id := by
    have fewer := congrArg (List.map Prod.fst) parts
    simpa [List.map_map, Function.comp_def, Node.authored] using fewer
  have shown : graph.name ≠ "" := by
    rw [titled]
    split <;> assumption
  rw [checkNodes_congr parts.symm] at checked
  rw [starts_eq, ← parts, ← starts_eq] at starts
  rw [← ids] at indexed refers
  simp only [assemble, if_neg filled, checked, ok_bind, indexed, starts,
    settleNodes_authored refers, if_neg shown]
  rfl

/-- The items of a list under a key are its parts. -/
theorem partsAt_of_list {entries : Entries} {key : String} {items : List Value}
    (listed : valueAt entries key = .list items) : partsAt entries key = .ok items := by
  rw [partsAt, listed]
  cases items <;> rfl

/-- A text under a key is read as it is. -/
theorem textAt_of_text {entries : Entries} {key text : String}
    (written : valueAt entries key = .text text) : textAt entries key = .ok text := by
  rw [textAt, written]
  by_cases empty : text = "" <;>
    simp [Value.truthy, empty, Value.asText, Value.isShort, Value.toText]

/-- The entries under which a graph is written. -/
def Graph.entries (graph : Graph) : Entries :=
  [(.text "id", .text graph.id), (.text "name", .text graph.name),
    (.text "nodes", .list (graph.nodes.map Node.toValue)),
    (.text "edges", .list (graph.edges.map Edge.toValue))]

/-- A graph is written as its entries. -/
theorem Graph.toValue_eq (graph : Graph) : graph.toValue = .dict graph.entries := rfl

/-- A graph that was read, written and read again is the same, if no literal of its conditions
contains a single quote: it has the same id, name, nodes and edges, and so it is written alike. -/
theorem load_toValue {extensions : Extensions} {raw : Value} {graph : Graph}
    (loaded : load extensions raw = .ok graph)
    (plain : ∀ node ∈ graph.nodes, ∀ asked, node.content = .condition asked →
      '\'' ∉ asked.literal.toList) :
    load extensions graph.toValue = .ok graph := by
  unfold load at loaded
  split at loaded
  · simp only [bind_eq_ok] at loaded
    obtain ⟨raws, -, nodes, read, lines, -, edges, joined, id, -, name, -, assembled⟩ := loaded
    obtain ⟨-, -, -, rfl, same, -, indexed, -, -⟩ := Graph.parts_of_assemble assembled
    have nodesAgain : readNodes extensions (graph.nodes.map Node.toValue) =
        .ok (graph.nodes.map Node.authored) := by
      refine readNodes_toValue fun node member => ?_
      have among : (node.id, node.type, node.content) ∈
          nodes.map fun node => (node.id, node.type, node.content) :=
        same ▸ List.mem_map_of_mem member
      obtain ⟨first, had, alike⟩ := List.mem_map.mp among
      simp only [Prod.mk.injEq] at alike
      obtain ⟨source, -, done⟩ := mem_of_readNodes read first had
      exact readNode_toValue done alike.1.symm alike.2.1.symm alike.2.2.symm (plain node member)
    -- That the labels are valid is told by the edges that were indexed, not by what they were read
    -- from.
    have keys : ∀ id ∈ nodes.map Node.id,
        id ∈ ((nodes.map Node.id).map fun node => (node, ([] : List Edge))).map Prod.fst := by
      rw [Index.keys_nodes]
      exact fun _ member => member
    have labels := ((indexEdges_iff keys).mp ⟨_, indexed⟩).2.1
    have edgesAgain : readEdges 0 (graph.edges.map Edge.toValue) = .ok graph.edges :=
      readEdges_toValue 0 (readEdges_id joined) labels
    have nodesHeld : partsAt graph.entries "nodes" = .ok (graph.nodes.map Node.toValue) :=
      partsAt_of_list (by simp [valueAt, Graph.entries])
    have edgesHeld : partsAt graph.entries "edges" = .ok (graph.edges.map Edge.toValue) :=
      partsAt_of_list (by simp [valueAt, Graph.entries])
    have idHeld : textAt graph.entries "id" = .ok graph.id :=
      textAt_of_text (by simp [valueAt, Graph.entries])
    have nameHeld : textAt graph.entries "name" = .ok graph.name :=
      textAt_of_text (by simp [valueAt, Graph.entries])
    rw [Graph.toValue_eq, load]
    simp only [nodesHeld, edgesHeld, idHeld, nameHeld, nodesAgain, edgesAgain, ok_bind]
    exact Graph.assemble_authored assembled
  · cases loaded

/-- A definition under other names of types, keys and branches, with keywords in one text, and with
edges without ids. -/
def survey : Value :=
  .dict [(.text "id", .text "survey"),
    (.text "nodes", .list [
      .dict [(.text "id", .text "in"), (.text "type", .text "startNode")],
      .dict [(.text "id", .text "ask"), (.text "type", .text "waitNode"),
        (.text "data", .dict [(.text "timeoutSeconds", .int 30),
          (.text "expectedKeywords", .text "Yes, NO,,yes "), (.text "on_error", .text "out")])],
      .dict [(.text "id", .text "test"), (.text "type", .text "condition"),
        (.text "data", .dict [(.text "condition", .text "contains( reply ,\"sure\")")])],
      .dict [(.text "id", .text "out"), (.text "type", .text "endNode")]]),
    (.text "edges", .list [
      .dict [(.text "source", .text "in"), (.text "target", .text "ask")],
      .dict [(.text "source", .text "ask"), (.text "target", .text "test"),
        (.text "sourceHandle", .text "TRUE")],
      .dict [(.text "source", .text "test"), (.text "target", .text "out"),
        (.text "label", .bool false)]])]

/-- The graph of the survey. -/
def surveyGraph : Graph where
  id := "survey"
  name := "survey"
  nodes := [⟨"in", "start", .start, none⟩,
    ⟨"ask", "wait", .wait (some (.finite false 8444249301319680 (-48))) ["yes", "no"] false,
      some "out"⟩,
    ⟨"test", "condition", .condition ⟨"reply", "sure"⟩, none⟩, ⟨"out", "end", .finish, none⟩]
  edges := [⟨"e0-in-ask", "in", "ask", none⟩, ⟨"e1-ask-test", "ask", "test", some yes⟩,
    ⟨"e2-test-out", "test", "out", some no⟩]
  index := [("in", [⟨"e0-in-ask", "in", "ask", none⟩]),
    ("ask", [⟨"e1-ask-test", "ask", "test", some yes⟩]),
    ("test", [⟨"e2-test-out", "test", "out", some no⟩]), ("out", [])]
  start := "in"

/-- The survey is read, and its graph is written and read again. -/
theorem survey_load_toValue : load [] survey = .ok surveyGraph ∧
    (∀ node ∈ surveyGraph.nodes, ∀ asked, node.content = .condition asked →
      '\'' ∉ asked.literal.toList) ∧
    load [] surveyGraph.toValue = .ok surveyGraph := by
  have loaded : load [] survey = .ok surveyGraph := ok_of_toOption (by decide +kernel)
  have plain : ∀ node ∈ surveyGraph.nodes, ∀ asked, node.content = .condition asked →
      '\'' ∉ asked.literal.toList := by
    simp [surveyGraph]
  exact ⟨loaded, plain, load_toValue loaded plain⟩

/-- A node of a graph that was loaded is read again, or rejected if it asks a condition with a
single quote. -/
theorem readNode_again {extensions : Extensions} {raw : Value} {graph : Graph}
    (loaded : load extensions raw = .ok graph) {node : Node String} (member : node ∈ graph.nodes) :
    ((∀ asked, ¬node.Quotes asked) → readNode extensions node.toValue = .ok node.authored) ∧
      ∀ asked, node.Quotes asked →
        readNode extensions node.toValue = .error (.expression asked.text (some node.id)) := by
  obtain ⟨source, own, read, id, type, content⟩ := readNode_of_load loaded member
  constructor
  · intro plain
    exact readNode_toValue read id.symm type.symm content.symm
      fun asked asks quoted => plain asked ⟨asks, quoted⟩
  · intro asked quotes
    exact readNode_quoted read id.symm type.symm content.symm quotes

/-- What is printed of a condition that was read is read again as that condition if its literal
contains no single quote, and so is what is written of a node that asks it. Otherwise neither is
read: the node is rejected for its condition, and a graph with such a node for the first one. -/
theorem conditions_reread {source : String} {asked : Condition}
    (read : Condition.read? source = some asked) :
    Condition.read? asked.text =
        (if '\'' ∈ asked.literal.toList then none else some asked) ∧
      ∀ extensions raw graph, load extensions raw = .ok graph → ∀ node ∈ graph.nodes,
        node.content = .condition asked →
          if '\'' ∈ asked.literal.toList then
            readNode extensions node.toValue =
                .error (.expression asked.text (some node.id)) ∧
              ∃ other ∈ graph.nodes, ∃ question, other.Quotes question ∧
                load extensions graph.toValue =
                  .error (.expression question.text (some other.id))
          else readNode extensions node.toValue = .ok node.authored := by
  have named := (Condition.spells_of_read? read).1
  by_cases quoted : '\'' ∈ asked.literal.toList
  · simp only [if_pos quoted]
    refine ⟨Condition.read?_text_eq_none named quoted, ?_⟩
    intro extensions raw graph loaded node member asks
    have quotes : ∃ node ∈ graph.nodes, ∃ asked, node.Quotes asked :=
      ⟨node, member, asked, asks, quoted⟩
    obtain ⟨other, among, question, there, stops⟩ := readNodes_quoted
      (fun node member => (readNode_again loaded member).1)
      (fun node member => (readNode_again loaded member).2) quotes
    have rejected := (readNode_again loaded member).2 asked ⟨asks, quoted⟩
    refine ⟨rejected, other, among, question, there, ?_⟩
    have nodesHeld : partsAt graph.entries "nodes" = .ok (graph.nodes.map Node.toValue) :=
      partsAt_of_list (by simp [valueAt, Graph.entries])
    rw [Graph.toValue_eq, load]
    simp only [nodesHeld, ok_bind, stops]
    rfl
  · simp only [if_neg quoted]
    refine ⟨Condition.read?_text named quoted, ?_⟩
    intro extensions raw graph loaded node member asks
    apply (readNode_again loaded member).1
    rintro other ⟨same, contains⟩
    rw [asks] at same
    cases same
    exact quoted contains

/-- A definition with a condition whose literal contains a single quote. -/
def quotation : Value :=
  .dict [(.text "id", .text "quotation"),
    (.text "nodes", .list [
      .dict [(.text "id", .text "in"), (.text "type", .text "start")],
      .dict [(.text "id", .text "test"), (.text "type", .text "condition"),
        (.text "data", .dict [(.text "expression", .text "contains(reply, \"it's\")")])]]),
    (.text "edges", .list [])]

/-- The graph of the quotation. -/
def quotationGraph : Graph where
  id := "quotation"
  name := "quotation"
  nodes := [⟨"in", "start", .start, none⟩,
    ⟨"test", "condition", .condition ⟨"reply", "it's"⟩, none⟩]
  edges := []
  index := [("in", []), ("test", [])]
  start := "in"

/-- The quotation is read, its condition is printed, and neither it nor its graph is read again. -/
theorem quotation_conditions_reread :
    Condition.read? "contains(reply, \"it's\")" = some ⟨"reply", "it's"⟩ ∧
      load [] quotation = .ok quotationGraph ∧ Condition.read? "contains(reply, 'it's')" = none ∧
      ∃ other ∈ quotationGraph.nodes, ∃ question, other.Quotes question ∧
        load [] quotationGraph.toValue = .error (.expression question.text (some other.id)) := by
  have asked : Condition.read? "contains(reply, \"it's\")" = some ⟨"reply", "it's"⟩ := by decide
  have loaded : load [] quotation = .ok quotationGraph := ok_of_toOption (by decide +kernel)
  have reread := conditions_reread asked
  have rejected := reread.2 [] quotation quotationGraph loaded
    ⟨"test", "condition", .condition ⟨"reply", "it's"⟩, none⟩ (by decide) rfl
  rw [if_pos (by decide)] at rejected
  exact ⟨asked, loaded, reread.1, rejected.2⟩

/-- A condition that was read is not read again from what is printed of it. -/
theorem quoted_condition_lost :
    Condition.read? "contains(reply, \"it's\")" = some ⟨"reply", "it's"⟩ ∧
      (Condition.read? (Condition.text ⟨"reply", "it's"⟩)).isNone := by
  decide

end Flow

end Parley
