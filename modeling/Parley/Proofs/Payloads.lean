import Parley.Proofs.Records

/-!
# What payloads tell

The payload of an entry is a document with a value under each of some names. A store in tables makes
payloads plain, which leaves the names, and leaves every value that is plain already; so what an
entry tells in plain values is told by what is kept of it.
-/

namespace Parley

namespace Value

/-- Texts are the same value if they are the same text. -/
theorem same_text (a b : String) : (Value.text a).same (.text b) = (a == b) := by
  simp [same, sameAtom]

/-- Texts are plain. -/
theorem plainAll_texts (texts : List String) :
    plainAll (texts.map .text) = .ok (texts.map .text) := by
  induction texts with
  | nil => rfl
  | cons text rest ih =>
    rw [List.map_cons, plainAll, ih]
    rfl

/-- A list of texts is plain. -/
theorem plain_texts (texts : List String) :
    (Value.list (texts.map .text)).plain = .ok (.list (texts.map .text)) := by
  rw [plain, plainAll_texts]
  rfl

end Value

namespace Entries

/-- The entries are under distinct names. -/
def Named (entries : Entries) : Prop :=
  ∃ names : List String, entries.map Prod.fst = names.map .text ∧ names.Nodup

/-- What is put under a key that no entry has comes last. -/
theorem put_new {entries : Entries} {key value : Value}
    (free : ∀ entry ∈ entries, entry.1.same key = false) :
    put entries key value = entries ++ [(key, value)] := by
  induction entries with
  | nil => rfl
  | cons entry rest ih =>
    obtain ⟨apart, others⟩ := List.forall_mem_cons.mp free
    simp only [put, apart, Bool.false_eq_true, if_false, ih others, List.cons_append]

/-- Entries under distinct names are put one after another as they are. -/
theorem foldl_put {before entries : Entries} (named : Named (before ++ entries)) :
    entries.foldl (fun dictionary entry => put dictionary entry.1 entry.2) before =
      before ++ entries := by
  induction entries generalizing before with
  | nil => rw [List.foldl_nil, List.append_nil]
  | cons entry rest ih =>
    have free : ∀ other ∈ before, other.1.same entry.1 = false := by
      obtain ⟨names, keys, distinct⟩ := named
      rw [List.map_append, List.map_cons] at keys
      obtain ⟨early, late, rfl, earlyKeys, lateKeys⟩ := List.append_eq_map_iff.mp keys
      obtain ⟨name, others, rfl, key, -⟩ := List.map_eq_cons_iff.mp lateKeys
      intro other member
      have listed : other.1 ∈ early.map Value.text := by
        rw [earlyKeys]
        exact List.mem_map_of_mem member
      obtain ⟨word, within, same⟩ := List.mem_map.mp listed
      rw [← same, ← key, Value.same_text, beq_eq_false_iff_ne]
      rintro rfl
      exact List.disjoint_of_nodup_append distinct within (List.mem_cons_self ..)
    rw [List.foldl_cons, put_new free]
    have grown : Named (before ++ [(entry.1, entry.2)] ++ rest) := by simpa using named
    simpa using ih grown

/-- Entries under distinct names are a dictionary as they are. -/
theorem ofList_named {entries : Entries} (named : entries.Named) : ofList entries = entries :=
  foldl_put named

/-- Entries made plain are under the same names, with the plain values. -/
theorem plainEntries_named {entries kept : Entries} {names : List String}
    (keys : entries.map Prod.fst = names.map .text)
    (plain : Value.plainEntries entries = .ok kept) :
    kept.map Prod.fst = names.map .text ∧ ∀ name value, entries.text? name = some value →
      ∃ made, value.plain = .ok made ∧ kept.text? name = some made := by
  induction entries generalizing names kept with
  | nil =>
    cases plain
    refine ⟨keys, ?_⟩
    rintro name value ⟨⟩
  | cons entry rest ih =>
    obtain ⟨key, held⟩ := entry
    obtain ⟨word, others, rfl, rfl, otherKeys⟩ := List.map_eq_cons_iff.mp keys.symm
    simp only [Value.plainEntries, Value.plainKey, Computation.bind_eq_ok,
      Computation.pure_eq_ok, Except.ok.injEq, exists_eq_left'] at plain
    obtain ⟨made, heldPlain, later, more, rfl⟩ := plain
    obtain ⟨laterKeys, found⟩ := ih otherKeys.symm more
    refine ⟨by rw [List.map_cons, List.map_cons, laterKeys], ?_⟩
    intro name value search
    simp only [text?, get?, List.find?_cons, Value.same_text] at search ⊢
    split at search
    · cases search
      exact ⟨made, heldPlain, rfl⟩
    · exact found name value search

end Entries

namespace Entry

/-- The payload of an entry is a document that has a value under a name. -/
def Tells (entry : Entry String) (name : String) (value : Value) : Prop :=
  ∃ entries : Entries, entry.payload = some (.dict entries) ∧ entries.Named ∧
    entries.text? name = some value

/-- A kept entry tells the plain values that the entry that was handed over tells. -/
theorem Echoes.tells {kept handed : Entry String} {name : String} {value : Value}
    (echoes : kept.Echoes handed) (tells : handed.Tells name value)
    (plain : value.plain = .ok value) : kept.Tells name value := by
  obtain ⟨entries, payload, named, search⟩ := tells
  rcases echoes.payload with same | written
  · exact ⟨entries, same.trans payload, named, search⟩
  · rw [payload, Store.Table.payloadColumn, Value.plain] at written
    simp only [Computation.bind_eq_ok, Computation.pure_eq_ok] at written
    obtain ⟨_, ⟨made, plainly, rfl⟩, written⟩ := written
    have payload : kept.payload = some (.dict (Entries.ofList made)) := (Except.ok.inj written).symm
    obtain ⟨names, keys, distinct⟩ := named
    obtain ⟨madeKeys, found⟩ := Entries.plainEntries_named keys plainly
    have madeNamed : Entries.Named made := ⟨names, madeKeys, distinct⟩
    obtain ⟨value, same, told⟩ := found name value search
    rw [plain] at same
    cases same
    rw [Entries.ofList_named madeNamed] at payload
    exact ⟨made, payload, madeNamed, told⟩

end Entry

end Parley
