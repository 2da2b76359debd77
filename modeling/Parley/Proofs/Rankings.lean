import Mathlib.Data.List.FinRange
import Mathlib.Data.Set.Card
import Parley.Knowledge
import Parley.Proofs.Computation
import Parley.Proofs.Keywords

/-!
# What knowledge is retrieved

The words of a text are its runs of word characters that go on to neither side. A document is the
better an answer to a query the more words the two share, each counted once. Retrieved are the best
documents, up to the bound, and of documents that are equally good the one that stands before the
other in the list. Nothing else of a query matters but the set of its words.
-/

namespace Parley

open Parley.Computation

namespace Text

/-- A word stands among characters if it is a run of word characters, and neither the character
before it nor the one after it is one. -/
def StandsAmong (word cs : List Char) : Prop :=
  word ≠ [] ∧ (∀ c ∈ word, isWordChar c = true) ∧ ∃ before after, cs = before ++ word ++ after ∧
    (∀ c ∈ before.getLast?, isWordChar c = false) ∧ ∀ c ∈ after.head?, isWordChar c = false

variable {word run rest : List Char} {c : Char}

/-- Among word characters only all of them stand as a word. -/
theorem standsAmong_run (whole : ∀ c ∈ run, isWordChar c = true) :
    StandsAmong word run ↔ run ≠ [] ∧ word = run := by
  constructor
  · rintro ⟨present, -, before, after, rfl, left, right⟩
    have first : before = [] := by
      rw [← List.getLast?_eq_none_iff, Option.eq_none_iff_forall_ne_some]
      intro c last
      have inside := whole c (by simp [List.mem_of_getLast? last])
      rw [left c last] at inside
      cases inside
    have final : after = [] := by
      rw [← List.head?_eq_none_iff, Option.eq_none_iff_forall_ne_some]
      intro c next
      have inside := whole c (by simp [List.mem_of_head? next])
      rw [right c next] at inside
      cases inside
    subst first final
    exact ⟨by simpa using present, by simp⟩
  · rintro ⟨present, rfl⟩
    exact ⟨present, whole, [], [], by simp, nofun, nofun⟩

/-- What stands before a character that is in no word, or behind it, stands there alone. -/
theorem standsAmong_break (blank : isWordChar c = false) (before after : List Char) :
    StandsAmong word (before ++ c :: after) ↔ StandsAmong word before ∨ StandsAmong word after := by
  constructor
  · rintro ⟨present, inside, early, late, split, left, right⟩
    have outside : c ∉ word := fun member => by
      rw [inside c member] at blank
      cases blank
    rw [List.append_assoc, List.append_eq_append_iff] at split
    rcases split with ⟨gap, rfl, following⟩ | ⟨gap, rfl, following⟩
    · -- The word begins behind the character, or with it, which cannot be.
      cases gap with
      | nil =>
        obtain ⟨first, others, rfl⟩ := List.exists_cons_of_ne_nil present
        obtain ⟨same, -⟩ := List.cons.inj following
        exact absurd (same ▸ List.mem_cons_self) outside
      | cons first gap =>
        obtain ⟨rfl, rfl⟩ := List.cons.inj following
        refine .inr ⟨present, inside, gap, late, (List.append_assoc ..).symm, ?_, right⟩
        intro d last
        exact left d (by rw [List.getLast?_append, List.getLast?_cons, last]; rfl)
    · rw [eq_comm, List.append_eq_append_iff] at following
      rcases following with ⟨more, rfl, following⟩ | ⟨more, rfl, rfl⟩
      · -- The word ends where the character stands, or reaches beyond it.
        cases more with
        | nil =>
          refine .inl ⟨present, inside, early, [], by simp, left, nofun⟩
        | cons first more =>
          obtain ⟨rfl, -⟩ := List.cons.inj following
          exact absurd (by simp) outside
      · refine .inl ⟨present, inside, early, more, by simp, left, fun d next => ?_⟩
        exact right d (by rw [List.head?_append, next]; rfl)
  · rintro (⟨present, inside, early, late, rfl, left, right⟩ |
      ⟨present, inside, early, late, rfl, left, right⟩)
    · refine ⟨present, inside, early, late ++ c :: after, by simp, left, ?_⟩
      cases late with
      | nil => simpa using blank
      | cons first late => exact right
    · refine ⟨present, inside, before ++ c :: early, late, by simp, ?_, right⟩
      rw [List.getLast?_append_of_ne_nil _ (List.cons_ne_nil c early), List.getLast?_cons]
      rintro d ⟨⟩
      cases last : early.getLast? with
      | none => exact blank
      | some d => exact left d last

/-- A character that is in no word ends the run before it. -/
theorem wordsFrom_break (outside : isWordChar c = false) (run rest : List Char) :
    wordsFrom run (c :: rest) = wordsFrom run [] ++ wordsFrom [] rest := by
  rw [wordsFrom, wordsFrom, if_neg (by simp [outside])]
  split <;> rfl

/-- The words that are read of characters stand among them and the run before them. -/
theorem mem_wordsFrom (whole : ∀ c ∈ run, isWordChar c = true) (cs : List Char) :
    String.ofList word ∈ wordsFrom run cs ↔ StandsAmong word (run.reverse ++ cs) := by
  have ends {run : List Char} (whole : ∀ c ∈ run, isWordChar c = true) :
      String.ofList word ∈ wordsFrom run [] ↔ StandsAmong word run.reverse := by
    rw [standsAmong_run (by simpa using whole), ne_eq, List.reverse_eq_nil_iff, wordsFrom]
    cases run with
    | nil => simp
    | cons first others =>
      rw [if_neg (by simp), List.mem_singleton, String.ofList_inj]
      exact (and_iff_right (List.cons_ne_nil first others)).symm
  induction cs generalizing run with
  | nil => rw [List.append_nil, ends whole]
  | cons c rest ih =>
    by_cases inside : isWordChar c = true
    · have goesOn := ih (List.forall_mem_cons.mpr ⟨inside, whole⟩)
      rw [List.reverse_cons, List.append_assoc] at goesOn
      rw [wordsFrom, if_pos inside]
      exact goesOn
    · have outside : isWordChar c = false := by simpa using inside
      have anew : String.ofList word ∈ wordsFrom [] rest ↔ StandsAmong word rest := ih nofun
      rw [wordsFrom_break outside, List.mem_append, ends whole, anew, standsAmong_break outside]

/-- The words of a text are those that stand among its characters. -/
theorem mem_words {word text : String} :
    word ∈ words text ↔ StandsAmong word.toList text.toList := by
  have standing := @mem_wordsFrom word.toList [] nofun text.toList
  rwa [String.ofList_toList] at standing

end Text

section

variable {α : Type}

/-- What is left without repetitions has none. -/
theorem nodup_eraseDups [BEq α] [LawfulBEq α] (items : List α) : items.eraseDups.Nodup := by
  induction length : items.length using Nat.strong_induction_on generalizing items with
  | _ n ih =>
    cases items with
    | nil => exact List.nodup_nil
    | cons first rest =>
      have shorter : (rest.filter fun item => !item == first).length < n :=
        length ▸ Nat.lt_succ_of_le (List.length_filter_le _ _)
      rw [List.eraseDups_cons, List.nodup_cons]
      exact ⟨by simp, ih _ shorter _ rfl⟩

/-- What is sorted comes in the order that it had before if the sorting does not tell it apart. -/
theorem pairwise_mergeSort_stable {le : α → α → Bool} {before : α → α → Prop}
    (trans : ∀ a b c, le a b = true → le b c = true → le a c = true)
    (total : ∀ a b, (le a b || le b a) = true) {items : List α} (ordered : items.Pairwise before) :
    (items.mergeSort le).Pairwise fun a b => le a b = true ∧ (le b a = true → before a b) := by
  induction items with
  | nil => simp
  | cons first rest ih =>
    obtain ⟨ahead, ordered⟩ := List.pairwise_cons.mp ordered
    obtain ⟨early, late, split, others, less⟩ := List.mergeSort_cons trans total first rest
    have sorted := List.pairwise_mergeSort trans total (first :: rest)
    have later := ih ordered
    rw [split, List.pairwise_append, List.pairwise_cons] at sorted
    rw [others, List.pairwise_append] at later
    obtain ⟨-, ⟨upper, -⟩, -⟩ := sorted
    obtain ⟨earlyOrder, lateOrder, across⟩ := later
    rw [split, List.pairwise_append, List.pairwise_cons]
    refine ⟨earlyOrder, ⟨fun item member => ⟨upper item member, fun _ => ?_⟩, lateOrder⟩, ?_⟩
    · have listed : item ∈ rest.mergeSort le := others ▸ List.mem_append_right early member
      exact ahead item (List.mem_mergeSort.mp listed)
    · intro item member other otherMember
      rcases List.mem_cons.mp otherMember with rfl | listed
      · have below : le other item = false := by simpa using less item member
        have above := total other item
        rw [below, Bool.false_or] at above
        exact ⟨above, fun back => absurd back (by simp [below])⟩
      · exact across item member other listed

end

namespace Knowledge

/-- A word counts in a text if it stands in its folding and has more than two characters. -/
def Counts (word text : String) : Prop :=
  Text.StandsAmong word.toList (Text.fold text).toList ∧ 2 < word.length

/-- The words that count in a query and in a document. -/
def shared (query document : String) : Set String :=
  {word | Counts word query ∧ Counts word document}

/-- The document at a place is a better answer to a query than that at another: it shares more words
with the query, or as many, and stands before the other. -/
def Precedes (documents : List String) (query : String) (i j : Fin documents.length) : Prop :=
  (shared query documents[j]).ncard < (shared query documents[i]).ncard ∨
    (shared query documents[j]).ncard = (shared query documents[i]).ncard ∧ i < j

/-- The words that are compared are those that count. -/
theorem mem_wordsOf {word text : String} : word ∈ wordsOf text ↔ Counts word text := by
  simp only [wordsOf, List.mem_eraseDups, List.mem_filter, Text.mem_words, Counts,
    decide_eq_true_eq]

/-- Each is counted once. -/
theorem wordsOf_nodup (text : String) : (wordsOf text).Nodup := nodup_eraseDups _

/-- A document scores the number of words that it shares with the query. -/
theorem score_eq (query document : String) :
    score (wordsOf query) document = (shared query document).ncard := by
  have same : shared query document =
      {word | word ∈ (wordsOf query).filter fun word => (wordsOf document).contains word} := by
    ext word
    simp only [shared, Set.mem_ofPred_eq, List.mem_filter, List.contains_iff_mem, mem_wordsOf]
  have once : ((wordsOf query).filter fun word => (wordsOf document).contains word).Nodup :=
    (wordsOf_nodup query).filter _
  rw [same, ← List.coe_toFinset, Set.ncard_coe_finset, List.toFinset_card_of_nodup once]
  rfl

/-- A document scores alike for the same words in any order. -/
theorem score_perm {wanted others : List String} (perm : wanted.Perm others) (document : String) :
    score wanted document = score others document :=
  (perm.filter _).length_eq

/-- Queries with the same words are answered alike. -/
theorem retrieve_congr (knowledge : Knowledge) {query other : String}
    (same : ∀ word, Counts word other ↔ Counts word query) :
    knowledge.retrieve (.text other) = knowledge.retrieve (.text query) := by
  have perm : (wordsOf other).Perm (wordsOf query) := by
    rw [List.perm_ext_iff_of_nodup (wordsOf_nodup other) (wordsOf_nodup query)]
    intro word
    rw [mem_wordsOf, mem_wordsOf, same]
  have scores : score (wordsOf other) = score (wordsOf query) := funext (score_perm perm)
  have answers : ranked (wordsOf other) = ranked (wordsOf query) := by
    funext documents
    rw [ranked, ranked, scores]
  simp only [retrieve, Keyword.replyText_text, ok_bind, perm.isEmpty_eq, answers]

/-- Documents that are texts are those texts. -/
theorem mapM_textOf (documents : List String) :
    (documents.map Value.text).mapM textOf = .ok documents := by
  induction documents with
  | nil => rfl
  | cons document rest ih =>
    have first : textOf (.text document) = .ok document := rfl
    rw [List.map_cons, List.mapM_cons, first, ok_bind, ih]
    rfl

/-- The places of the documents that share a word with those wanted, the best first. -/
def places (wanted documents : List String) : List (Fin documents.length) :=
  ((List.finRange documents.length).filter fun i => 0 < score wanted documents[i]).mergeSort
    fun i j => score wanted documents[j] ≤ score wanted documents[i]

/-- The documents are ranked as their places are. -/
theorem ranked_eq (wanted documents : List String) :
    ranked wanted documents = (places wanted documents).map documents.get := by
  let entry (i : Fin documents.length) := (score wanted documents[i], documents[i])
  have entries : (documents.map fun document => (score wanted document, document)) =
      (List.finRange documents.length).map entry := by
    conv_lhs => rw [← List.map_get_finRange documents, List.map_map]
    rfl
  have sorted : (places wanted documents).map entry =
      (((List.finRange documents.length).filter fun i => 0 < score wanted documents[i]).map
        entry).mergeSort fun a b => b.1 ≤ a.1 :=
    List.map_mergeSort fun _ _ _ _ => rfl
  have kept : (List.finRange documents.length).filter
      ((fun entry : Nat × String => decide (entry.1 > 0)) ∘ entry) =
        (List.finRange documents.length).filter fun i => 0 < score wanted documents[i] := rfl
  simp only [ranked, entries, List.filter_map, kept, ← sorted, List.map_map]
  rfl

/-- Without words in the query no document is an answer. -/
theorem ranked_nil (documents : List String) : ranked [] documents = [] := by
  have none : places [] documents = [] := by simp [places, score]
  rw [ranked_eq, none, List.map_nil]

/-- Retrieved are the first documents of the ranking. -/
theorem retrieve_eq (documents : List String) (query : String) (top : Nat) :
    retrieve ⟨documents.map .text, .int top⟩ (.text query) =
      .ok (Text.join "\n\n" ((ranked (wordsOf query) documents).take top)) := by
  simp only [retrieve, Keyword.replyText_text, ok_bind, texts, mapM_textOf]
  by_cases empty : (wordsOf query).isEmpty = true
  · rw [if_pos empty, List.isEmpty_iff.mp empty, ranked_nil, List.take_nil]
    rfl
  · rw [if_neg empty]
    rfl

variable {documents : List String} {query : String}

/-- A query and a document share finitely many words. -/
theorem shared_finite (query document : String) : (shared query document).Finite :=
  (wordsOf query).finite_toSet.subset fun _ counts => mem_wordsOf.mpr counts.1

/-- The places are those of the documents that share a word with the query. -/
theorem mem_places {i : Fin documents.length} :
    i ∈ places (wordsOf query) documents ↔ (shared query documents[i]).Nonempty := by
  rw [← Set.ncard_pos (shared_finite query documents[i])]
  simp [places, score_eq]

/-- A better document stands at an earlier place. -/
theorem places_sorted (query : String) (documents : List String) :
    (places (wordsOf query) documents).Pairwise (Precedes documents query) := by
  have trans (i j k : Fin documents.length) :
      decide (score (wordsOf query) documents[j] ≤ score (wordsOf query) documents[i]) = true →
      decide (score (wordsOf query) documents[k] ≤ score (wordsOf query) documents[j]) = true →
      decide (score (wordsOf query) documents[k] ≤ score (wordsOf query) documents[i]) = true := by
    simp only [decide_eq_true_eq]
    exact fun first second => second.trans first
  have total (i j : Fin documents.length) :
      (decide (score (wordsOf query) documents[j] ≤ score (wordsOf query) documents[i]) ||
        decide (score (wordsOf query) documents[i] ≤ score (wordsOf query) documents[j])) =
          true := by
    simpa using le_total _ _
  have ordered := (List.pairwise_lt_finRange documents.length).filter
    fun i => decide (0 < score (wordsOf query) documents[i])
  refine (pairwise_mergeSort_stable trans total ordered).imp fun {i j} order => ?_
  obtain ⟨least, alike⟩ := order
  simp only [decide_eq_true_eq, score_eq] at least alike
  rcases least.lt_or_eq with less | same
  · exact .inl less
  · exact .inr ⟨same, alike same.ge⟩

/-- No document precedes itself, and so no place is taken twice. -/
theorem places_nodup (query : String) (documents : List String) :
    (places (wordsOf query) documents).Nodup := by
  refine (places_sorted query documents).imp fun {i j} before same => ?_
  subst same
  rcases before with less | ⟨-, less⟩ <;> exact lt_irrefl _ less

/-- There are as many places as documents that share a word with the query. -/
theorem places_length (query : String) (documents : List String) :
    (places (wordsOf query) documents).length =
      {i : Fin documents.length | (shared query documents[i]).Nonempty}.ncard := by
  have same : {i : Fin documents.length | (shared query documents[i]).Nonempty} =
      {i | i ∈ places (wordsOf query) documents} := by
    ext i
    exact mem_places.symm
  rw [same, ← List.coe_toFinset, Set.ncard_coe_finset,
    List.toFinset_card_of_nodup (places_nodup query documents)]

/-- A document that shares a word precedes one that shares none. -/
theorem precedes_of_stranger {i j : Fin documents.length}
    (shares : (shared query documents[i]).Nonempty)
    (stranger : ¬(shared query documents[j]).Nonempty) : Precedes documents query i j := by
  rw [Set.not_nonempty_iff_eq_empty] at stranger
  refine .inl ?_
  rw [stranger, Set.ncard_empty]
  exact (Set.ncard_pos (shared_finite query documents[i])).mpr shares

/-- Retrieved for a query are documents at places that are told apart. They are as many as share a
word with the query, up to the bound, and each shares one. The better come before the others, and
before all that are left out. The answer is the same for every query with the same words. -/
theorem retrieve_ranks (documents : List String) (query : String) (top : Nat) :
    ∃ chosen : List (Fin documents.length),
      retrieve ⟨documents.map .text, .int top⟩ (.text query) =
        .ok (Text.join "\n\n" (chosen.map documents.get)) ∧
      chosen.length = min top {i : Fin documents.length |
        (shared query documents[i]).Nonempty}.ncard ∧
      chosen.Nodup ∧ (∀ i ∈ chosen, (shared query documents[i]).Nonempty) ∧
      chosen.Pairwise (Precedes documents query) ∧
      (∀ i ∈ chosen, ∀ j ∉ chosen, Precedes documents query i j) ∧
      ∀ other, (∀ word, Counts word other ↔ Counts word query) →
        retrieve ⟨documents.map .text, .int top⟩ (.text other) =
          retrieve ⟨documents.map .text, .int top⟩ (.text query) := by
  let all := places (wordsOf query) documents
  have listed : all.take top ⊆ all := List.take_subset top all
  refine ⟨all.take top, ?_, ?_, (places_nodup query documents).take, ?_,
    (places_sorted query documents).take, ?_, fun other => retrieve_congr _⟩
  · rw [retrieve_eq, ranked_eq, List.map_take]
  · rw [List.length_take, places_length]
  · exact fun i member => mem_places.mp (listed member)
  · -- A document is left out because it shares no word, or because it stands beyond the bound.
    intro i member j absent
    by_cases shares : (shared query documents[j]).Nonempty
    · exact Slice.before_of_left_out (places_sorted query documents) member (mem_places.mpr shares)
        absent
    · exact precedes_of_stranger (mem_places.mp (listed member)) shares

end Knowledge

end Parley
