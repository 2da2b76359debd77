import Parley.Proofs.Native
import Parley.Proofs.Upkeep

/-!
# Variables that were kept once

What a store keeps of variables is what a document holds of them, and is kept as it is from then on.
So in every world that is reached a record that is saved again with another reply, and nothing else
changed but the time of the change, is rewritten by exactly that.
-/

namespace Parley

open Parley.Computation World

namespace Entries

variable {entries : Entries} {key value : Value}

/-- What is put under a key of an entry leaves the keys. -/
theorem put_keys (taken : ∃ entry ∈ entries, entry.1.same key = true) :
    (put entries key value).map Prod.fst = entries.map Prod.fst := by
  induction entries with
  | nil => simp at taken
  | cons entry rest ih =>
    unfold put
    split
    · rfl
    · rename_i apart
      obtain ⟨other, member, same⟩ := taken
      rcases List.mem_cons.mp member with rfl | later
      · exact absurd same apart
      · rw [List.map_cons, List.map_cons, ih ⟨other, later, same⟩]

/-- Distinct names stay distinct when a value is put under a name. -/
theorem Named.put (named : entries.Named) (name : String) (value : Value) :
    (entries.put (.text name) value).Named := by
  by_cases taken : ∃ entry ∈ entries, entry.1.same (.text name) = true
  · obtain ⟨names, keys, distinct⟩ := named
    exact ⟨names, (put_keys taken).trans keys, distinct⟩
  · have free : ∀ entry ∈ entries, entry.1.same (.text name) = false := by
      simpa using taken
    obtain ⟨names, keys, distinct⟩ := named
    rw [put_new free]
    refine ⟨names ++ [name], by rw [List.map_append, List.map_append, keys]; rfl, ?_⟩
    refine List.nodup_append.mpr ⟨distinct, List.nodup_singleton name, ?_⟩
    rintro other listed _ last rfl
    rw [List.mem_singleton.mp last] at listed
    have within : Value.text name ∈ entries.map Prod.fst := keys ▸ List.mem_map_of_mem listed
    obtain ⟨entry, member, same⟩ := List.mem_map.mp within
    have apart := free entry member
    rw [same, Value.same_text] at apart
    simp at apart

/-- Under a text is the value that was put there last, and under other texts what was there. -/
theorem text?_put (entries : Entries) (name other : String) (value : Value) :
    (entries.put (.text name) value).text? other =
      if other = name then some value else entries.text? other := by
  have apart {key : Value} (same : key.same (.text name) = true) :
      key.same (.text other) = decide (other = name) := by
    cases key with
    | text word =>
      rw [Value.same_text, beq_iff_eq] at same
      rw [Value.same_text, same, Bool.beq_eq_decide_eq, decide_eq_decide]
      exact eq_comm
    | _ => simp [Value.same, Value.sameAtom, Value.number?] at same
  unfold text? get?
  induction entries with
  | nil =>
    by_cases same : other = name
    · simp [put, Value.same_text, same]
    · simp [put, Value.same_text, same, Ne.symm same]
  | cons entry rest ih =>
    unfold put
    by_cases taken : entry.1.same (.text name) = true
    · rw [if_pos taken, List.find?_cons, List.find?_cons, apart taken]
      by_cases same : other = name <;> simp [same]
    · rw [if_neg taken, List.find?_cons, List.find?_cons]
      by_cases found : entry.1.same (.text other) = true
      · have differs : other ≠ name := fun same => taken (same ▸ found)
        simp [found, differs]
      · simp only [found]
        exact ih

/-- After a value was put, every entry has it or was there. -/
theorem mem_put {entry : Value × Value} (member : entry ∈ entries.put key value) :
    entry.2 = value ∨ entry ∈ entries := by
  induction entries with
  | nil => exact .inl (congrArg Prod.snd (List.mem_singleton.mp member))
  | cons first rest ih =>
    unfold put at member
    split at member
    · rcases List.mem_cons.mp member with rfl | later
      · exact .inl rfl
      · exact .inr (List.mem_cons_of_mem _ later)
    · rcases List.mem_cons.mp member with rfl | later
      · exact .inr List.mem_cons_self
      · exact (ih later).imp_right (List.mem_cons_of_mem _)

end Entries

namespace Value

/-- Entries of which the keys are texts and the values are held by documents as they are make a
dictionary that documents hold as it is. -/
theorem native_ofList {entries : Entries}
    (plain : ∀ entry ∈ entries, (∃ name, entry.1 = .text name) ∧ entry.2.Native) :
    (Value.dict (Entries.ofList entries)).Native := by
  have step (made : Entries) (native : (Value.dict made).Native) (entry : Value × Value)
      (member : entry ∈ entries) : (Value.dict (made.put entry.1 entry.2)).Native := by
    obtain ⟨⟨name, key⟩, own⟩ := plain entry member
    cases native with
    | dict named all =>
      rw [key]
      refine .dict (named.put name entry.2) fun other listed => ?_
      rcases Entries.mem_put listed with same | before
      · exact same ▸ own
      · exact all other before
  have empty : (Value.dict []).Native := .dict ⟨[], rfl, List.nodup_nil⟩ nofun
  exact List.foldlRecOn (motive := fun made => (Value.dict made).Native) entries _ empty step

mutual

/-- What a value is made plain to is held by documents as it is. -/
theorem plain_native : (value : Value) → {made : Value} → value.plain = .ok made → made.Native
  | .null, _, done => by cases done; exact .null
  | .bool b, _, done => by cases done; exact .bool b
  | .int n, _, done => by cases done; exact .int n
  | .float x, _, done => by cases done; exact .float x
  | .text s, _, done => by cases done; exact .text s
  | .list items, _, done => by
    simp only [plain, bind_eq_ok, pure_eq_ok] at done
    obtain ⟨kept, all, rfl⟩ := done
    exact .list (plainAll_native items all)
  | .tuple items, _, done => by
    simp only [plain, bind_eq_ok, pure_eq_ok] at done
    obtain ⟨kept, all, rfl⟩ := done
    exact .list (plainAll_native items all)
  | .dict entries, _, done => by
    simp only [plain, bind_eq_ok, pure_eq_ok] at done
    obtain ⟨kept, all, rfl⟩ := done
    exact native_ofList (plainEntries_native entries all)
  | .octets _, _, done | .set _, _, done | .date _, _, done | .moment _, _, done
  | .foreign, _, done => by cases done

/-- What values are made plain to is held by documents as it is. -/
theorem plainAll_native : (items : List Value) → {made : List Value} →
    plainAll items = .ok made → ∀ item ∈ made, item.Native
  | [], _, done => by cases done; exact nofun
  | item :: rest, _, done => by
    simp only [plainAll, bind_eq_ok, pure_eq_ok] at done
    obtain ⟨first, own, others, all, rfl⟩ := done
    exact List.forall_mem_cons.mpr ⟨plain_native item own, plainAll_native rest all⟩

/-- What entries are made plain to are texts and values that documents hold as they are. -/
theorem plainEntries_native : (entries : List (Value × Value)) → {made : List (Value × Value)} →
    plainEntries entries = .ok made →
      ∀ entry ∈ made, (∃ name, entry.1 = .text name) ∧ entry.2.Native
  | [], _, done => by cases done; exact nofun
  | (key, value) :: rest, _, done => by
    simp only [plainEntries, bind_eq_ok, pure_eq_ok] at done
    obtain ⟨name, -, first, own, others, all, rfl⟩ := done
    exact List.forall_mem_cons.mpr ⟨⟨⟨name, rfl⟩, plain_native value own⟩,
      plainEntries_native rest all⟩

end

/-- What a value is settled as is held by documents as it is. -/
theorem settled_native (value : Value) : value.settled.Native := by
  unfold settled
  cases plainly : value.plain with
  | ok made => exact plain_native value plainly
  | error failure => exact .text _

end Value

namespace Variables

/-- Variables that a store of a kind keeps as they are: documents hold their values as they are, and
in tables they are under distinct texts. -/
structure Lasting (tables : Bool) (vars : Variables) : Prop where
  /-- Documents hold the values as they are. -/
  values : ∀ entry ∈ vars.entries, entry.2.Native
  /-- In tables they are under distinct texts. -/
  names : tables = true → vars.entries.Named

variable {tables : Bool} {vars : Variables}

/-- Variables in tables are a dictionary that documents hold as it is. -/
theorem Lasting.native (lasting : vars.Lasting true) : (Value.dict vars.entries).Native :=
  .dict (lasting.names rfl) lasting.values

/-- Variables stay lasting when one is set. -/
theorem Lasting.set (lasting : vars.Lasting tables) (name : String) {value : Value}
    (native : value.Native) : (vars.set name value).Lasting tables := by
  refine ⟨fun entry member => ?_, fun kind => (lasting.names kind).put name value⟩
  rcases Entries.mem_put member with same | before
  · exact same ▸ native
  · exact lasting.values entry before

/-- A variable that is set has the value, and the others have what they had. -/
theorem get?_set (vars : Variables) (name other : String) (value : Value) :
    (vars.set name value).get? other = if other = name then some value else vars.get? other :=
  Entries.text?_put vars.entries name other value

/-- Lasting variables are kept in memory as they are. -/
theorem Lasting.kept (lasting : vars.Lasting tables) : vars.kept = vars := by
  rw [Variables.kept, snapshot_of_native lasting.values]

/-- Lasting variables are kept in tables as they are. -/
theorem Lasting.column (lasting : vars.Lasting true) :
    Store.Table.variablesColumn vars = .ok vars := by
  rw [Store.Table.variablesColumn, snapshot_of_native lasting.values, lasting.native.plain]
  rfl

/-- What is kept in memory of variables is lasting. -/
theorem kept_lasting (vars : Variables) : vars.kept.Lasting false := by
  refine ⟨fun entry member => ?_, nofun⟩
  obtain ⟨old, -, rfl⟩ := List.mem_map.mp member
  exact old.2.settled_native

/-- What is kept in tables of variables is lasting. -/
theorem column_lasting {row : Variables} (written : Store.Table.variablesColumn vars = .ok row) :
    row.Lasting true := by
  simp only [Store.Table.variablesColumn, bind_eq_ok, pure_eq_ok] at written
  obtain ⟨made, plainly, entries, opened, rfl⟩ := written
  have native := Value.plain_native _ plainly
  simp only [Value.plain, bind_eq_ok, pure_eq_ok] at plainly
  obtain ⟨rows, -, rfl⟩ := plainly
  cases opened
  cases native with
  | dict named all => exact ⟨all, fun _ => named⟩

end Variables

namespace Store

variable {store left : Store String} {execution record : Execution String}

/-- The variables of all records are lasting. -/
def Lasting (store : Store String) : Prop :=
  ∀ record ∈ store.records, record.vars.Lasting store.inTables

/-- What a store copies of variables is lasting. -/
theorem Copies.lasting {tables : Bool} (copies : Copies tables execution record) :
    record.vars.Lasting tables := by
  cases tables with
  | false =>
    rw [copies.vars rfl]
    exact Variables.kept_lasting execution.vars
  | true => exact Variables.column_lasting (copies.documented rfl)

/-- Saving keeps variables lasting. -/
theorem Lasting.save (lasting : store.Lasting) (saved : store.save execution = .ok left) :
    left.Lasting := by
  obtain ⟨new, -, copies, records⟩ := save_copies saved
  intro record member
  rw [(save_records saved).1]
  rw [records] at member
  rcases mem_rewritten member with rfl | ⟨before, -⟩
  · exact copies.lasting
  · exact lasting record before

/-- Creating keeps variables lasting. -/
theorem Lasting.create (lasting : store.Lasting) (created : store.create execution = .ok left) :
    left.Lasting := by
  obtain ⟨new, copies, records⟩ := create_copies created
  intro record member
  rw [(create_records created).1]
  rw [records] at member
  rcases List.mem_append.mp member with before | added
  · exact lasting record before
  · rw [List.mem_singleton.mp added]
    exact copies.lasting

/-- Saving a record with other lasting variables and another time of the change, but with its log,
rewrites it by exactly what is saved. -/
theorem save_exactly (member : record ∈ store.records) (distinct : store.Distinct)
    (universal : store.Universal) {vars : Variables} (lasting : vars.Lasting store.inTables)
    (now : Time.Moment) (saved : store.save { record with vars, updatedAt := now } = .ok left) :
    left.records = rewritten store.records { record with vars, updatedAt := now } := by
  obtain ⟨-, old, stood, new, named, recorded, grows, records⟩ := save_records saved
  obtain rfl : old = record := distinct.unique stood member named
  obtain ⟨copy, copied, copies, same⟩ := save_copies saved
  obtain rfl : new = copy := by
    have listed : new ∈ rewritten store.records copy := by
      rw [← same, records]
      exact mem_rewritten_self member recorded.id.symm
    rcases mem_rewritten listed with equal | ⟨-, apart⟩
    · exact equal
    · exact absurd (recorded.id.trans copied.symm) apart
  obtain ⟨rows, kept, log⟩ := grows old.log [] (.refl store old.log) (List.append_nil _).symm
  have whole : new.log = old.log := by
    rw [log, List.length_eq_zero_iff.mp kept.echoes.length_eq, List.append_nil]
  have same : new.vars = vars ∧ new.deadline = old.deadline := by
    cases kind : store.inTables with
    | false =>
      rw [kind] at copies lasting
      exact ⟨(copies.vars rfl).trans lasting.kept, copies.deadline rfl⟩
    | true =>
      rw [kind] at copies lasting
      have column := copies.documented rfl
      have moved := copies.universal rfl
      rw [lasting.column] at column
      rw [Table.deadlineColumn_eq (universal kind old member)] at moved
      exact ⟨(Except.ok.inj column).symm, (Except.ok.inj moved).symm⟩
  have exactly : new = { old with vars, updatedAt := now } := by
    obtain ⟨id, flow, version, subject, status, node, -, keywords, error, createdAt⟩ := recorded
    have nonzero : old.version ≠ 0 := version_ne_zero member
    cases new
    rw [Execution.mk.injEq]
    exact ⟨id, flow, version nonzero, subject, status, node, same.1, same.2, keywords, whole,
      error, createdAt, copies.updatedAt⟩
  rw [records, exactly]

end Store

section Kept

variable {engine : Engine} {holds : Store String → Prop}
  (saves : ∀ {store left execution}, holds store → store.save execution = .ok left → holds left)
  (creates : ∀ {store left execution}, holds store → store.create execution = .ok left →
    holds left)
include saves

/-- What saving keeps is kept when an execution is offered. -/
theorem World.Offered.keeps {execution : Execution String} {world left : World} {taken : Bool}
    (offered : Offered execution world taken left) (held : holds world.store) :
    holds left.store := by
  cases offered with
  | taken saved => exact saves held saved
  | refused => exact held

include creates

/-- What saving and creating keep is kept by every move. -/
theorem Move.keeps {scene next : Scene} (move : Move engine scene next)
    (held : holds scene.world.store) : holds next.world.store := by
  cases move with
  | stirred stir =>
    cases stir with
    | beside same =>
      simp only [same.store]
      exact held
    | cancelled _ _ offered => exact offered.keeps saves held
  | created _ _ made => exact creates held made
  | entered offered | resumed offered | visited _ _ offered | interrupted offered
  | exhausted offered | held _ _ offered | crashed _ _ offered => exact offered.keeps saves held
  | timed | registered | roused | lost | left | spared => exact held

/-- What saving and creating keep holds of the store of every world that is reached. -/
theorem World.Reached.keeps (unused : ∀ {store : Store String}, store.Unused → holds store)
    {world : World} (reached : Reached engine world) : holds world.store :=
  reached.induct (fun scene => holds scene.world.store) (fun _ _ fresh => unused fresh)
    fun _ _ move held => move.keeps saves creates held

end Kept

/-- In every world that is reached, the variables of all records are lasting. -/
theorem World.Reached.lasting {engine : Engine} {world : World} (reached : Reached engine world) :
    world.store.Lasting :=
  reached.keeps Store.Lasting.save Store.Lasting.create fun unused record member => by
    rw [unused.records] at member
    cases member

end Parley
