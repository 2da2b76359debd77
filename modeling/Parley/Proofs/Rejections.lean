import Mathlib.Algebra.Group.Int.Defs
import Mathlib.Algebra.Group.Nat.Defs
import Mathlib.Data.Nat.Log
import Parley.Proofs.Validation

/-!
# How definitions are rejected

A definition that is no flow is rejected with a fault of its graph or with the expression that
cannot be read, if its parts are of the kinds that are asked of them: what is gone through has
elements, what is looked up can be a key, what a node holds are entries, and numbers are not too
large. A value that does not fit where it stands can also fail in its own words, without being told
as a fault of the definition.
-/

namespace Parley

open Parley.Computation

/-- What does not fit where it stands fails in its own words. -/
inductive Failure.Misfit : Failure → Prop where
  /-- It has the wrong type for what is done with it. -/
  | wrongType (message : String) : Misfit (.wrongType message)
  /-- It is no pair where one is asked for. -/
  | pairLength (index length : Nat) : Misfit (.pairLength index length)
  /-- It is too long to be written. -/
  | tooManyDigits : Misfit (.tooManyDigits none)
  /-- It is too large to be a binary64 number. -/
  | tooLarge (message : String) : Misfit (.tooLarge message)

namespace Binary64

/-- The logarithm of a quotient is no greater than the difference of those of its parts. -/
theorem floorLog_le (num den : Nat) : floorLog num den ≤ (num.log2 : Int) - den.log2 := by
  unfold floorLog
  dsimp only
  split <;> omega

/-- An integer below the largest binary64 number has a finite one nearest to it. -/
theorem ofInt_ne_infinite {n : Int} (small : n.natAbs < 2 ^ 1023) (negative : Bool) :
    ofInt n ≠ .infinite negative := by
  have log : floorLog n.natAbs 1 ≤ 1022 := by
    have bound := floorLog_le n.natAbs 1
    by_cases zero : n.natAbs = 0
    · simp only [zero, Nat.log2_zero] at bound ⊢
      omega
    · have below := (Nat.log2_lt zero).mpr small
      omega
  unfold ofInt ofQuotient
  split
  · exact nofun
  · have below : max (floorLog n.natAbs 1 - 52) leastExponent ≤ 970 :=
      max_le (by omega) (by decide)
    generalize max (floorLog n.natAbs 1 - 52) leastExponent = exponent at *
    dsimp only
    generalize roundQuotient _ _ = significand
    have within : ¬greatestExponent <
        if significand = Nat.pow 2 53 then exponent + 1 else exponent := by
      unfold greatestExponent
      split <;> omega
    rw [if_neg within]
    exact nofun

end Binary64

/-- A small natural is short enough to be written. -/
theorem Number.isShort_ofNat {n : Nat} (small : n < 10 ^ 3) : isShort n = true := by
  have enough : 3 ≤ digitLimit := by decide
  unfold isShort leastTooLong
  generalize digitLimit = count at enough
  rw [Int.natAbs_natCast, decide_eq_true_eq]
  exact Nat.lt_of_lt_of_le small (Nat.pow_le_pow_right (by decide) enough)

namespace Value

/-- Whether a value has elements. -/
def Iterable (value : Value) : Prop := ∃ elements, value.elements = .ok elements

/-- Short entries have short keys and values. -/
theorem areShortEntries_iff {entries : Entries} :
    areShortEntries entries = true ↔
      ∀ entry ∈ entries, entry.1.isShort = true ∧ entry.2.isShort = true := by
  induction entries with
  | nil => simp [areShortEntries]
  | cons entry rest ih => simp [areShortEntries, ih, and_assoc]

/-- Short values are short each. -/
theorem areShort_iff {items : List Value} :
    areShort items = true ↔ ∀ item ∈ items, item.isShort = true := by
  induction items with
  | nil => simp [areShort]
  | cons item rest ih => simp [areShort, ih]

/-- What is found in short entries is short. -/
theorem isShort_of_text? {entries : Entries} {key : String} {value : Value}
    (short : areShortEntries entries = true) (found : entries.text? key = some value) :
    value.isShort = true := by
  obtain ⟨entry, search, rfl⟩ := Option.map_eq_some_iff.mp found
  exact (areShortEntries_iff.mp short entry (List.mem_of_find?_eq_some search)).2

/-- The elements of a short value are short. -/
theorem isShort_of_elements {value : Value} {items : List Value} (short : value.isShort = true)
    (had : value.elements = .ok items) : ∀ item ∈ items, item.isShort = true := by
  cases value with
  | text s =>
    cases had
    simp [isShort]
  | list all | tuple all | set all =>
    cases had
    exact areShort_iff.mp (by simpa only [isShort] using short)
  | dict entries =>
    cases had
    rw [isShort, areShortEntries_iff] at short
    simp only [List.mem_map]
    rintro _ ⟨entry, member, rfl⟩
    exact (short entry member).1
  | octets bits =>
    cases had
    simp only [List.mem_map]
    rintro _ ⟨octet, -, rfl⟩
    exact Number.isShort_ofNat (Nat.lt_trans octet.toNat_lt (by decide))
  | _ => cases had

end Value

namespace Flow

/-- Whether a failure rejects a definition. -/
def Rejects (failure : Failure) : Prop :=
  IsFault failure ∨ ∃ source node, failure = .expression source node

/-- What can fail where parts of a definition should be as they are asked to be: it is rejected, or
they are not so and one of them does not fit where it stands. -/
def Strays (fits : Prop) (failure : Failure) : Prop := Rejects failure ∨ failure.Misfit ∧ ¬fits

section Strays

variable {α : Type} {fits more : Prop} {result : Except Failure α}

/-- A fault rejects a definition. -/
theorem strays_fault (fault : Fault) : Strays fits (.graph fault) := .inl (.inl ⟨fault, rfl⟩)

/-- Where more is asked for, no less can fail. -/
theorem failsAs_strays (fails : FailsAs (Strays fits) result) (implied : more → fits) :
    FailsAs (Strays more) result :=
  fails.mono fun _ => Or.imp_right (And.imp_right (mt implied))

end Strays

section Values

variable (value : Value)

/-- A value has a text if it is short. -/
theorem asText_strays : FailsAs (Strays (value.isShort = true)) value.asText := by
  unfold Value.asText
  split
  · exact failsAs_ok _
  · rename_i long
    exact failsAs_error (.inr ⟨.tooManyDigits, long⟩)

/-- A value can be shown if it is short. -/
theorem asShown_strays : FailsAs (Strays (value.isShort = true)) value.asShown := by
  unfold Value.asShown
  split
  · exact failsAs_ok _
  · rename_i long
    exact failsAs_error (.inr ⟨.tooManyDigits, long⟩)

/-- A value that can be a key is looked up. -/
theorem requireFixed_strays : FailsAs (Strays (value.fixed = true)) value.requireFixed := by
  unfold Value.requireFixed
  split
  · exact failsAs_ok _
  · rename_i loose
    exact failsAs_error (.inr ⟨.wrongType _, loose⟩)

/-- What has elements is gone through. -/
theorem elements_strays : FailsAs (Strays value.Iterable) value.elements := by
  intro failure failed
  refine .inr ⟨?_, fun ⟨_, had⟩ => by rw [failed] at had; cases had⟩
  cases value <;> cases failed <;> exact .wrongType _

/-- What are no pairs does not fit. -/
theorem addPairs_misfit (index : Nat) (entries : Entries) (pairs : List Value) :
    FailsAs Failure.Misfit (Value.addPairs index entries pairs) := by
  induction pairs generalizing index entries with
  | nil => exact failsAs_ok entries
  | cons pair rest ih =>
    unfold Value.addPairs
    cases pair.elements with
    | error failure => exact failsAs_error (.wrongType _)
    | ok parts =>
      refine failsAs_bind (failsAs_ok parts) fun parts _ => ?_
      dsimp only
      split
      · rename_i key _
        refine failsAs_bind ?_ fun _ _ => ih _ _
        unfold Value.requireFixed
        split
        · exact failsAs_ok ()
        · exact failsAs_error (.wrongType _)
      · exact failsAs_error (.pairLength _ _)

/-- What is false or a dictionary gives entries. -/
theorem dataEntries_strays :
    FailsAs (Strays (value.truthy = true → ∃ entries, value = .dict entries))
      (dataEntries value) := by
  unfold dataEntries
  split
  · rename_i holds
    unfold Value.entries
    split
    · exact failsAs_ok _
    · rename_i other
      have unfit : ¬(value.truthy = true → ∃ entries, value = .dict entries) := fun fits =>
        (fits holds).elim other
      refine failsAs_bind ?_ fun _ _ => (addPairs_misfit _ _ _).mono fun _ misfit =>
        .inr ⟨misfit, unfit⟩
      intro failure failed
      refine .inr ⟨?_, unfit⟩
      cases value <;> cases failed <;> exact .wrongType _
  · exact failsAs_ok []

end Values

section Entries

variable {entries : Entries}

/-- What is picked from short entries is short. -/
theorem isShort_of_pick {keys : List String} {value : Value}
    (short : Value.areShortEntries entries = true) (picked : pick entries keys = some value) :
    value.isShort = true := by
  induction keys with
  | nil => cases picked
  | cons key rest ih =>
    unfold pick at picked
    split at picked
    · exact ih picked
    · exact ih picked
    · rename_i found
      cases picked
      exact Value.isShort_of_text? short found

/-- What is under a key of short entries is short. -/
theorem isShort_valueAt (short : Value.areShortEntries entries = true) (key : String) :
    (valueAt entries key).isShort = true := by
  unfold valueAt
  cases found : entries.text? key with
  | none => rfl
  | some value => exact Value.isShort_of_text? short found

/-- The text under a key is read from short entries. -/
theorem pickText_strays (keys : List String) (usual : String) :
    FailsAs (Strays (Value.areShortEntries entries = true)) (pickText entries keys usual) := by
  unfold pickText
  split
  · rename_i value picked
    exact failsAs_strays (asText_strays value) fun short => isShort_of_pick short picked
  · exact failsAs_ok usual

/-- What a message node holds is read from short entries. -/
theorem readMessage_strays :
    FailsAs (Strays (Value.areShortEntries entries = true)) (readMessage entries) :=
  failsAs_bind (pickText_strays _ _) fun _ _ => failsAs_ok _

/-- What a condition node holds is read from short entries, or rejected. -/
theorem readCondition_strays (node : String) :
    FailsAs (Strays (Value.areShortEntries entries = true)) (readCondition node entries) := by
  unfold readCondition
  split
  · exact failsAs_error (strays_fault _)
  · rename_i source picked
    refine failsAs_bind ?_ fun _ _ => failsAs_ok _
    unfold Condition.ofValue
    split
    · split
      · exact failsAs_ok _
      · exact failsAs_error (.inl (.inr ⟨_, _, rfl⟩))
    · refine failsAs_bind ?_ fun _ _ => failsAs_error (.inl (.inr ⟨_, _, rfl⟩))
      exact failsAs_strays (asShown_strays source) fun short => isShort_of_pick short picked

/-- A timeout is read from a short value that is no integer of a thousand binary digits, or
rejected. -/
theorem readTimeout_strays (node : String) (value : Value) :
    FailsAs (Strays (value.isShort = true ∧ ∀ n, value = .int n → n.natAbs < 2 ^ 1023))
      (readTimeout node value) := by
  unfold readTimeout
  split
  · split
    · exact failsAs_error (strays_fault _)
    · exact failsAs_ok _
  · rename_i failure failed
    split
    · refine failsAs_bind ?_ fun _ _ => failsAs_error (strays_fault _)
      exact failsAs_strays (asShown_strays value) And.left
    · rename_i other
      refine failsAs_error (.inr ?_)
      cases value with
      | int n =>
        simp only [Value.toFloat, Value.floatOfInt] at failed
        split at failed
        · rename_i infinite
          cases failed
          refine ⟨.tooLarge _, fun fits => ?_⟩
          exact Binary64.ofInt_ne_infinite (fits.2 n rfl) _ infinite
        · cases failed
      | text s | octets bits =>
        simp only [Value.toFloat] at failed
        split at failed
        · cases failed
        · cases failed
          exact absurd rfl other
      | bool | float => cases failed
      | _ =>
        cases failed
        exact absurd rfl other

/-- A word is read from a short value. -/
theorem wordOf_strays (value : Value) :
    FailsAs (Strays (value.isShort = true)) (Keyword.wordOf value) := by
  unfold Keyword.wordOf
  split
  · exact failsAs_ok _
  · exact asText_strays value

/-- Words are read from short values. -/
theorem mapM_wordOf_strays (values : List Value) :
    FailsAs (Strays (∀ value ∈ values, value.isShort = true)) (values.mapM Keyword.wordOf) := by
  induction values with
  | nil => exact failsAs_ok []
  | cons value rest ih =>
    rw [List.mapM_cons]
    refine failsAs_bind ?_ fun _ _ => failsAs_bind ?_ fun _ _ => failsAs_ok _
    · exact failsAs_strays (wordOf_strays value) fun short => short value (List.mem_cons_self ..)
    · exact failsAs_strays ih fun short other member =>
        short other (List.mem_cons_of_mem value member)

/-- Keywords are read from a short value that has elements. -/
theorem readKeywords_strays (value : Value) :
    FailsAs (Strays (value.isShort = true ∧ value.Iterable)) (readKeywords value) := by
  refine failsAs_bind ?_ fun words authored => failsAs_bind ?_ fun _ _ => failsAs_ok _
  · unfold Keyword.authored
    split
    · exact failsAs_ok _
    · exact failsAs_strays (elements_strays value) And.right
  · refine failsAs_strays (mapM_wordOf_strays words) fun fits => ?_
    unfold Keyword.authored at authored
    split at authored
    · cases authored
      simp [Value.isShort]
    · exact Value.isShort_of_elements fits.1 authored

/-- The parts of the data of a node that could fail to fit are as they are asked to be. -/
structure DataFits (entries : Entries) : Prop where
  /-- A fallback can be a key. -/
  fallback : ∀ value, pick entries ["onError", "on_error"] = some value → value.fixed = true
  /-- A timeout that is an integer has no thousand binary digits. -/
  timeout : ∀ n, pick entries ["timeout", "timeoutSeconds", "timeout_seconds"] = some (.int n) →
    n.natAbs < 2 ^ 1023
  /-- Keywords can be gone through. -/
  keywords : ∀ value,
    pick entries ["keywords", "expectedKeywords", "expected_keywords"] = some value →
      value.Iterable

/-- What a wait node holds is read from short entries that fit, or rejected. -/
theorem readWait_strays (node : String) :
    FailsAs (Strays (Value.areShortEntries entries = true ∧ DataFits entries))
      (readWait node entries) := by
  rw [readWait_eq]
  refine failsAs_bind ?_ fun _ _ => failsAs_bind ?_ fun _ _ => failsAs_ok _
  · cases picked : pick entries ["timeout", "timeoutSeconds", "timeout_seconds"] with
    | none => exact failsAs_ok _
    | some value =>
      refine failsAs_map (failsAs_strays (readTimeout_strays node value) ?_)
      rintro ⟨short, fits⟩
      exact ⟨isShort_of_pick short picked, fun n integer => fits.timeout n (integer ▸ picked)⟩
  · cases picked : pick entries ["keywords", "expectedKeywords", "expected_keywords"] with
    | none => exact failsAs_ok _
    | some value =>
      refine failsAs_strays (readKeywords_strays value) ?_
      rintro ⟨short, fits⟩
      exact ⟨isShort_of_pick short picked, fits.keywords value picked⟩

/-- What a node that asks a generator holds is read from short entries. -/
theorem readGenerate_strays :
    FailsAs (Strays (Value.areShortEntries entries = true)) (readGenerate entries) :=
  failsAs_bind (pickText_strays _ _) fun _ _ => failsAs_bind (pickText_strays _ _) fun _ _ =>
    failsAs_ok _

/-- What a jump holds is read from short entries, or rejected. -/
theorem readGoTo_strays (node : String) :
    FailsAs (Strays (Value.areShortEntries entries = true)) (readGoTo node entries) := by
  unfold readGoTo
  split
  · rename_i target picked
    split
    · refine failsAs_bind ?_ fun _ _ => failsAs_ok _
      exact failsAs_strays (asText_strays target) fun short => isShort_of_pick short picked
    · exact failsAs_error (strays_fault _)
  · exact failsAs_error (strays_fault _)

/-- What a node of a registered type holds is read from short entries. -/
theorem readTag_strays :
    FailsAs (Strays (Value.areShortEntries entries = true)) (readTag entries) := by
  refine failsAs_bind (failsAs_strays (asText_strays _) fun short => ?_) fun _ _ => failsAs_ok _
  cases found : entries.text? "tag" with
  | none => rfl
  | some value => exact Value.isShort_of_text? short found

/-- What a node holds is read from short entries that fit, or rejected. -/
theorem readContent_strays {extensions : Extensions} {type node : String}
    {content : Except Failure Content}
    (found : readContent? extensions type node entries = some content) :
    FailsAs (Strays (Value.areShortEntries entries = true ∧ DataFits entries)) content := by
  unfold readContent? at found
  split at found
  · cases found
    exact failsAs_strays readTag_strays And.left
  · split at found <;> cases found
    · exact failsAs_ok _
    · exact failsAs_ok _
    · exact failsAs_strays readMessage_strays And.left
    · exact failsAs_strays (readCondition_strays node) And.left
    · exact readWait_strays node
    · exact failsAs_strays readGenerate_strays And.left
    · exact failsAs_strays (readGoTo_strays node) And.left

end Entries

/-- The parts of a node that could fail to fit are as they are asked to be. -/
structure NodeFits (entries : Entries) : Prop where
  /-- The type can be a key. -/
  type : (valueAt entries "type").fixed = true
  /-- The data is false or a dictionary that fits. -/
  data : (valueAt entries "data").truthy = true →
    ∃ data, valueAt entries "data" = .dict data ∧ DataFits data

/-- No entries fit. -/
theorem dataFits_nil : DataFits [] := ⟨nofun, nofun, nofun⟩

/-- The data of a short node that fits is short and fits. -/
theorem dataEntries_fit {entries data : Entries} (short : Value.areShortEntries entries = true)
    (fits : NodeFits entries) (held : dataEntries (valueAt entries "data") = .ok data) :
    Value.areShortEntries data = true ∧ DataFits data := by
  unfold dataEntries at held
  split at held
  · rename_i holds
    obtain ⟨own, whole, fitting⟩ := fits.data holds
    rw [whole] at held
    cases held
    have brief := isShort_valueAt short "data"
    rw [whole, Value.isShort] at brief
    exact ⟨brief, fitting⟩
  · cases held
    exact ⟨rfl, dataFits_nil⟩

/-- A node is read from a short value that fits, or rejected. -/
theorem readNode_strays (extensions : Extensions) (raw : Value) :
    FailsAs (Strays (raw.isShort = true ∧ ∀ entries, raw = .dict entries → NodeFits entries))
      (readNode extensions raw) := by
  have shape : FailsAs
      (Strays (raw.isShort = true ∧ ∀ entries, raw = .dict entries → NodeFits entries))
      (readNode.badShape raw) :=
    failsAs_bind (failsAs_strays (asShown_strays raw) And.left) fun _ _ =>
      failsAs_error (strays_fault _)
  unfold readNode
  split
  · rename_i entries
    have brief (fits : (Value.dict entries).isShort = true ∧
        ∀ others, Value.dict entries = .dict others → NodeFits others) :
        Value.areShortEntries entries = true := by
      simpa only [Value.isShort] using fits.1
    split
    · exact shape
    rename_i id identified
    have named := failsAs_strays (asText_strays (valueAt entries "type")) fun fits =>
      isShort_valueAt (brief fits) "type"
    -- The id is read first, then the type as a key; what comes after asks for a known type.
    refine failsAs_bind ?_ fun id _ => failsAs_bind ?_ fun _ _ => ?_
    · exact failsAs_strays (asText_strays id) fun fits =>
        Value.isShort_of_text? (brief fits) identified
    · exact failsAs_strays (requireFixed_strays _) fun fits => (fits.2 entries rfl).type
    split
    · split
      · refine failsAs_bind named fun _ _ => ?_
        exact failsAs_bind (failsAs_error (strays_fault _)) fun _ done => by cases done
      · refine failsAs_bind ?_ fun data held => ?_
        · refine failsAs_strays (dataEntries_strays _) fun fits holds => ?_
          obtain ⟨data, held, -⟩ := (fits.2 entries rfl).data holds
          exact ⟨data, held⟩
        · split
          · exact failsAs_bind named fun _ _ => failsAs_error (strays_fault _)
          · rename_i content found
            refine failsAs_bind (failsAs_strays (readContent_strays found) fun fits => ?_)
              fun _ _ => failsAs_ok _
            exact dataEntries_fit (brief fits) (fits.2 entries rfl) held
    · exact failsAs_bind named fun _ _ => failsAs_error (strays_fault _)
  · exact shape

/-- Nodes are read from short values that fit, or rejected. -/
theorem readNodes_strays (extensions : Extensions) (raws : List Value) :
    FailsAs (Strays (∀ raw ∈ raws, raw.isShort = true ∧
      ∀ entries, raw = .dict entries → NodeFits entries)) (readNodes extensions raws) := by
  induction raws with
  | nil => exact failsAs_ok []
  | cons raw rest ih =>
    refine failsAs_bind (failsAs_strays (readNode_strays extensions raw) ?_) fun _ _ =>
      failsAs_bind (failsAs_strays ih ?_) fun _ _ => failsAs_ok _
    · exact fun fits => (List.forall_mem_cons.mp fits).1
    · exact fun fits => (List.forall_mem_cons.mp fits).2

/-- A fallback is found among nodes if its name can be a key, and rejected if it names none of
them. -/
theorem fallback_strays (flow : String) (ids : List String) (node : Node Value) :
    FailsAs (Strays (∀ name, node.onError = some name → name.fixed = true ∧ name.isShort = true))
      (fallback flow ids node) := by
  unfold fallback
  split
  · exact failsAs_ok none
  · rename_i name named
    refine failsAs_bind ?_ fun found _ => ?_
    · refine failsAs_bind (failsAs_strays (requireFixed_strays name) fun fits =>
        (fits name named).1) fun _ _ => ?_
      split
      · exact failsAs_ok _
      · exact failsAs_ok _
    · split
      · exact failsAs_ok _
      · refine failsAs_bind (failsAs_strays (asText_strays name) fun fits => ?_) fun _ _ =>
          failsAs_error (strays_fault _)
        exact (fits name named).2

/-- The branch of a label is read from a short value. -/
theorem branchOf_strays (label : Value) :
    FailsAs (Strays (label.isShort = true)) (branchOf label) := by
  unfold branchOf
  split
  · exact failsAs_ok none
  · exact failsAs_bind (wordOf_strays label) fun _ _ => failsAs_ok _

/-- The label of a short edge is short. -/
theorem isShort_labelValue {entries : Entries} (short : Value.areShortEntries entries = true) :
    (labelValue entries).isShort = true := by
  have handle : (if (valueAt entries "sourceHandle").truthy then valueAt entries "sourceHandle"
      else .null).isShort = true := by
    split
    · exact isShort_valueAt short "sourceHandle"
    · rfl
  unfold labelValue
  split
  · exact handle
  · exact handle
  · exact isShort_valueAt short "label"

/-- An edge is read from a short value, or rejected. -/
theorem readEdge_strays (index : Nat) (raw : Value) :
    FailsAs (Strays (raw.isShort = true)) (readEdge index raw) := by
  have shape : FailsAs (Strays (raw.isShort = true)) (readEdge.badShape raw) :=
    failsAs_bind (asShown_strays raw) fun _ _ => failsAs_error (strays_fault _)
  unfold readEdge
  split
  · rename_i entries
    have brief (short : (Value.dict entries).isShort = true) :
        Value.areShortEntries entries = true := by
      simpa only [Value.isShort] using short
    split
    · rename_i source target leaves leads
      refine failsAs_bind ?_ fun _ _ => failsAs_bind ?_ fun _ _ => failsAs_bind ?_ fun _ _ => ?_
      · exact failsAs_strays (asText_strays source) fun short =>
          Value.isShort_of_text? (brief short) leaves
      · exact failsAs_strays (asText_strays target) fun short =>
          Value.isShort_of_text? (brief short) leads
      · exact failsAs_strays (branchOf_strays _) fun short => isShort_labelValue (brief short)
      · dsimp only
        split
        · refine failsAs_bind ?_ fun _ _ => failsAs_ok _
          exact failsAs_strays (asText_strays _) fun short => isShort_valueAt (brief short) "id"
        · exact failsAs_ok _
    · exact shape
  · exact shape

/-- Edges are read from short values, or rejected. -/
theorem readEdges_strays (index : Nat) (raws : List Value) :
    FailsAs (Strays (∀ raw ∈ raws, raw.isShort = true)) (readEdges index raws) := by
  induction raws generalizing index with
  | nil => exact failsAs_ok []
  | cons raw rest ih =>
    refine failsAs_bind (failsAs_strays (readEdge_strays index raw) ?_) fun _ _ =>
      failsAs_bind (failsAs_strays (ih (index + 1)) ?_) fun _ _ => failsAs_ok _
    · exact fun short => (List.forall_mem_cons.mp short).1
    · exact fun short => (List.forall_mem_cons.mp short).2

/-- The parts of a definition that could fail to fit are as they are asked to be. -/
structure Fits (raw : Value) : Prop where
  /-- No integer in it is too long to be written. -/
  short : raw.isShort = true
  /-- Its nodes and its edges are false or can be gone through. -/
  parts : ∀ entries, raw = .dict entries → ∀ key ∈ ["nodes", "edges"],
    (valueAt entries key).truthy = true → (valueAt entries key).Iterable
  /-- Its nodes fit. -/
  nodes : ∀ entries, raw = .dict entries → ∀ nodes, partsAt entries "nodes" = .ok nodes →
    ∀ node ∈ nodes, ∀ own, node = .dict own → NodeFits own

/-- The parts under a key are short. -/
theorem isShort_of_partsAt {entries : Entries} {key : String} {parts : List Value}
    (short : Value.areShortEntries entries = true) (had : partsAt entries key = .ok parts) :
    ∀ part ∈ parts, part.isShort = true := by
  unfold partsAt at had
  dsimp only at had
  split at had
  · exact Value.isShort_of_elements (isShort_valueAt short key) had
  · cases had
    exact nofun

/-- The parts under a key are those of a value that is false or can be gone through. -/
theorem partsAt_strays (entries : Entries) (key : String) :
    FailsAs (Strays ((valueAt entries key).truthy = true → (valueAt entries key).Iterable))
      (partsAt entries key) := by
  unfold partsAt
  dsimp only
  split
  · rename_i holds
    exact failsAs_strays (elements_strays _) fun fits => fits holds
  · exact failsAs_ok []

/-- The text under a key is read from short entries. -/
theorem textAt_strays (entries : Entries) (key : String) :
    FailsAs (Strays (Value.areShortEntries entries = true)) (textAt entries key) := by
  unfold textAt
  dsimp only
  split
  · exact failsAs_strays (asText_strays _) fun short => isShort_valueAt short key
  · exact failsAs_ok ""

/-- A definition that fits is read or rejected. -/
theorem load_strays (extensions : Extensions) (raw : Value) :
    FailsAs (Strays (Fits raw)) (load extensions raw) := by
  unfold load
  split
  · rename_i entries
    have brief (fits : Fits (.dict entries)) : Value.areShortEntries entries = true := by
      simpa only [Value.isShort] using fits.short
    refine failsAs_bind ?_ fun raws had => failsAs_bind ?_ fun nodes read =>
      failsAs_bind ?_ fun edges listed => failsAs_bind ?_ fun _ _ => failsAs_bind ?_ fun _ _ =>
        failsAs_bind ?_ fun _ _ => Graph.assemble_fails strays_fault fun node member => ?_
    · exact failsAs_strays (partsAt_strays _ _) fun fits => fits.parts entries rfl _ (by simp)
    · exact failsAs_strays (readNodes_strays _ _) fun fits raw member =>
        ⟨isShort_of_partsAt (brief fits) had raw member,
          fits.nodes entries rfl raws had raw member⟩
    · exact failsAs_strays (partsAt_strays _ _) fun fits => fits.parts entries rfl _ (by simp)
    · exact failsAs_strays (readEdges_strays _ _) fun fits =>
        isShort_of_partsAt (brief fits) listed
    · exact failsAs_strays (textAt_strays _ _) brief
    · exact failsAs_strays (textAt_strays _ _) brief
    · refine failsAs_strays (fallback_strays _ _ node) fun fits name named => ?_
      obtain ⟨raw, among, done⟩ := mem_of_readNodes read node member
      obtain ⟨own, data, rfl, -, -, held, -, falls, -⟩ := readNode_ok.mp done
      have short := isShort_of_partsAt (brief fits) had _ among
      rw [Value.isShort] at short
      obtain ⟨spare, fitting⟩ := dataEntries_fit short
        (fits.nodes entries rfl raws had _ among own rfl) held
      rw [named] at falls
      exact ⟨fitting.fallback name falls.symm, isShort_of_pick spare falls.symm⟩
  · exact failsAs_error (strays_fault _)

/-- A definition becomes a graph, or it is rejected with a fault of its graph or the expression of a
condition, or it does not fit and something in it fails in its own words. -/
theorem load_outcome (extensions : Extensions) (raw : Value) :
    (∃ graph, load extensions raw = .ok graph) ∨
      ∃ failure, load extensions raw = .error failure ∧
        ((∃ fault, failure = .graph fault) ∨ (∃ source node, failure = .expression source node) ∨
          failure.Misfit ∧ ¬Fits raw) := by
  cases outcome : load extensions raw with
  | ok graph => exact .inl ⟨graph, rfl⟩
  | error failure =>
    refine .inr ⟨failure, rfl, ?_⟩
    rcases load_strays extensions raw failure outcome with rejected | unfit
    · exact rejected.imp_right .inl
    · exact .inr (.inr unfit)

/-- A definition of a wait besides the start, with a value in the place of its data. -/
def waitOn (data : Value) : Value :=
  .dict [(.text "id", .text "f"), (.text "nodes", .list [
    .dict [(.text "id", .text "s"), (.text "type", .text "start")],
    .dict [(.text "id", .text "w"), (.text "type", .text "wait"), (.text "data", data)]])]

/-- What fails in the data of the wait fails in the definition. -/
theorem load_waitOn {entries : Entries} {failure : Failure} (held : entries ≠ [])
    (fails : readWait "w" entries = .error failure) :
    load [] (waitOn (.dict entries)) = .error failure := by
  have first : readNode [] (.dict [(.text "id", .text "s"), (.text "type", .text "start")]) =
      .ok ⟨"s", "start", .start, none⟩ := by with_unfolding_all rfl
  have second : readNode [] (.dict [(.text "id", .text "w"), (.text "type", .text "wait"),
      (.text "data", .dict entries)]) = .error failure := by
    have named (key : String) (value : Value) (among : (key, value) ∈
        [("id", Value.text "w"), ("type", .text "wait"), ("data", .dict entries)]) :
        Entries.text? [(.text "id", .text "w"), (.text "type", .text "wait"),
          (.text "data", .dict entries)] key = some value := by
      simp only [List.mem_cons, Prod.mk.injEq, List.not_mem_nil, or_false] at among
      obtain ⟨rfl, rfl⟩ | ⟨rfl, rfl⟩ | ⟨rfl, rfl⟩ := among <;>
        with_unfolding_all rfl
    have known : knownType [] "wait" = true := by decide
    have content : readContent? [] "wait" "w" entries = some (.error failure) :=
      congrArg some fails
    have type : typeOf (.text "wait") = .text "wait" := by with_unfolding_all rfl
    have truthy : (Value.dict entries).truthy = true := by simpa [Value.truthy] using held
    simp [readNode, named, Value.asText, Value.isShort, Value.toText, Value.requireFixed,
      Value.fixed, type, known, dataEntries, truthy, Value.entries, content, bind, Except.bind]
  have parts (raws : List Value) (listed : raws ≠ []) :
      partsAt [(.text "id", .text "f"), (.text "nodes", .list raws)] "nodes" = .ok raws := by
    have truthy : (Value.list raws).truthy = true := by simpa [Value.truthy] using listed
    have found : valueAt [(.text "id", .text "f"), (.text "nodes", .list raws)] "nodes" =
        .list raws := by with_unfolding_all rfl
    simp only [partsAt, found, truthy, if_true, Value.elements]
  simp [load, waitOn, parts, readNodes, first, second, bind, Except.bind]

/-- What does not fit fails in its own words: a number in the place of nodes has the wrong type, and
so has a list in the place of the name of a fallback; a list of one item is not a pair of a data,
and an integer of four hundred digits is too large for a timeout. -/
theorem load_misfits :
    load [] (.dict [(.text "id", .text "f"), (.text "nodes", .int 5)]) =
      .error (.wrongType "'int' object is not iterable") ∧
    load [] (waitOn (.dict [(.text "onError", .list [.text "s"])])) =
      .error (.wrongType "unhashable type: 'list'") ∧
    load [] (waitOn (.list [.list [.text "timeout"]])) = .error (.pairLength 0 1) ∧
    load [] (waitOn (.dict [(.text "timeout", .int (10 ^ 400))])) =
      .error (.tooLarge "int too large to convert to float") := by
  refine ⟨by with_unfolding_all rfl, by with_unfolding_all rfl, by with_unfolding_all rfl,
    load_waitOn (List.cons_ne_nil _ _) ?_⟩
  have beyond : Binary64.ofInt (10 ^ 400) = .infinite false := by decide +kernel
  -- The digits are put out of sight: that the number is too large is all that is read of it.
  generalize (10 : Int) ^ 400 = seconds at beyond ⊢
  have found : pick [(.text "timeout", .int seconds)]
      ["timeout", "timeoutSeconds", "timeout_seconds"] = some (.int seconds) := by
    with_unfolding_all rfl
  simp [readWait, found, readTimeout, Value.toFloat, Value.floatOfInt, beyond, isNoNumber, bind,
    Except.bind]

end Flow

end Parley
