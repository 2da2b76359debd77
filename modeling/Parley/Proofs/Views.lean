import Parley.Proofs.Frames

/-!
# Worlds that look the same to a subject

Two worlds agree on a subject if they look the same to whoever works on its executions: the same is
stored of them, the same requests to cancel them were made, and time and flows are the same. If the
outside parts are forgetful, and do not reach over to the executions of other subjects, then replies
and cancellations of the subject come to the same in both worlds.
-/

namespace Parley

open Parley.Computation World

namespace Store

variable {left right : Store String} {execution : Execution String}

/-- The log that is stored under an id in a table. -/
theorem Table.log_of_get (store : Table String) (id : String) :
    (store.find? id).map Execution.log = (store.get id).toOption.map Execution.log := by
  simp only [get, Name.column, ok_bind]
  cases store.find? id <;> rfl

/-- Tables that hold the same log of an execution put the same record in its place, or fail
alike. -/
theorem Table.save_alike {left right : Table String}
    (same : (right.find? execution.id).map Execution.log =
      (left.find? execution.id).map Execution.log) :
    (∃ failure, left.save execution = .error failure ∧ right.save execution = .error failure) ∨
    ∃ new one other, new.id = execution.id ∧
      left.save execution = .ok one ∧ right.save execution = .ok other ∧
      one.rows.map fresh = rewritten (left.rows.map fresh) new ∧
      other.rows.map fresh = rewritten (right.rows.map fresh) new := by
  simp only [save, Name.column, bind, Except.bind, pure, Except.pure]
  cases documents execution with
  | error failure => exact .inl ⟨failure, rfl, rfl⟩
  | ok prepared =>
    dsimp only
    cases columns 0 prepared with
    | error failure => exact .inl ⟨failure, rfl, rfl⟩
    | ok row =>
      dsimp only
      cases found : left.find? execution.id with
      | none =>
        rw [found] at same
        rw [Option.map_eq_none_iff.mp same]
        exact .inl ⟨_, rfl, rfl⟩
      | some stored =>
        rw [found] at same
        obtain ⟨other, otherFound, log⟩ := Option.map_eq_some_iff.mp same
        rw [otherFound]
        dsimp only
        -- Only entries beyond the stored log are added, so the stored logs have to agree.
        rw [log]
        cases checkRow { row with id := execution.id } with
        | error failure => exact .inl ⟨failure, rfl, rfl⟩
        | ok =>
          dsimp only
          cases logRows execution.id (execution.log.drop stored.log.length) with
          | error failure => exact .inl ⟨failure, rfl, rfl⟩
          | ok added =>
            let new := { row with id := execution.id, log := stored.log ++ added }
            exact .inr ⟨fresh new, _, _, rfl, rfl, rfl,
              map_rewritten fresh (fun _ => rfl) left.rows rfl,
              map_rewritten fresh (fun _ => rfl) right.rows rfl⟩

/-- What is found in memory is what is read. -/
theorem Memory.isSome_find (store : Memory String) (id : String) :
    (store.find? id).isSome = (store.get id).isOk := by
  unfold get
  rw [show (Name.value id).requireFixed = .ok () from rfl, ok_bind]
  cases store.find? id <;> rfl

/-- Stores in memory that hold an execution put the same record in its place, or fail alike. -/
theorem Memory.save_alike {left right : Memory String}
    (same : (right.find? execution.id).isSome = (left.find? execution.id).isSome) :
    (∃ failure, left.save execution = .error failure ∧ right.save execution = .error failure) ∨
    ∃ new one other, new.id = execution.id ∧
      left.save execution = .ok one ∧ right.save execution = .ok other ∧
      one.records.map fresh = rewritten (left.records.map fresh) new ∧
      other.records.map fresh = rewritten (right.records.map fresh) new := by
  unfold save
  rw [show (Name.value execution.id).requireFixed = .ok () from rfl]
  simp only [ok_bind]
  cases found : left.find? execution.id with
  | none =>
    -- What is not stored is not saved, in neither.
    rw [found, Option.isSome_none, Option.isSome_eq_false_iff, Option.isNone_iff_eq_none] at same
    rw [same]
    exact .inl ⟨_, rfl, rfl⟩
  | some stored =>
    rw [found] at same
    obtain ⟨other, otherFound⟩ := Option.isSome_iff_exists.mp same
    rw [otherFound]
    exact .inr ⟨fresh (kept execution), _, _, rfl, rfl, rfl,
      map_rewritten fresh (fun _ => rfl) left.records rfl,
      map_rewritten fresh (fun _ => rfl) right.records rfl⟩

/-- Stores of one kind in which the same is read under the id of an execution put the same record in
its place, or fail alike. -/
theorem save_alike (kind : right.inTables = left.inTables)
    (same : right.get execution.id = left.get execution.id) :
    (∃ failure, left.save execution = .error failure ∧ right.save execution = .error failure) ∨
    ∃ new one other, new.id = execution.id ∧
      left.save execution = .ok one ∧ right.save execution = .ok other ∧
      one.records = rewritten left.records new ∧ other.records = rewritten right.records new := by
  cases left with
  | memory left =>
    cases right with
    | table right => cases kind
    | memory right =>
      have found : (right.find? execution.id).isSome = (left.find? execution.id).isSome := by
        rw [Memory.isSome_find, Memory.isSome_find]
        exact congrArg Except.isOk same
      simp only [save]
      rcases Memory.save_alike found with
        ⟨failure, one, other⟩ | ⟨new, one, other, named, saved, otherSaved, put⟩
      · exact .inl ⟨failure, by rw [one]; rfl, by rw [other]; rfl⟩
      · rw [saved, otherSaved]
        exact .inr ⟨new, .memory one, .memory other, named, rfl, rfl, put⟩
  | table left =>
    cases right with
    | memory right => cases kind
    | table right =>
      have found : (right.find? execution.id).map Execution.log =
          (left.find? execution.id).map Execution.log := by
        rw [Table.log_of_get, Table.log_of_get]
        exact congrArg (fun read => read.toOption.map Execution.log) same
      simp only [save]
      rcases Table.save_alike found with
        ⟨failure, one, other⟩ | ⟨new, one, other, named, saved, otherSaved, put⟩
      · exact .inl ⟨failure, by rw [one]; rfl, by rw [other]; rfl⟩
      · rw [saved, otherSaved]
        exact .inr ⟨new, .table one, .table other, named, rfl, rfl, put⟩

/-- Under the id of an execution whose record was put in place the record is read. -/
theorem get_rewritten {store left : Store String} {new : Execution String}
    (saved : store.save execution = .ok left) (named : new.id = execution.id)
    (put : left.records = rewritten store.records new) : left.get execution.id = .ok new := by
  obtain ⟨-, old, member, _, oldNamed, -, -, -⟩ := save_records saved
  rw [get_eq, put, ← named, find_rewritten_self member (oldNamed.trans named.symm)]

end Store

/-- What the outside parts do and what the store takes does not depend on what they were asked
before. A registered type that can run logs how often it was called, so there is none. -/
structure Engine.Forgetful (engine : Engine) : Prop where
  /-- The sender reacts in the same way to each call. -/
  send : ∀ count other subject text,
    engine.capabilities.send count subject text = engine.capabilities.send other subject text
  /-- The generator replies in the same way to each call. -/
  generate : ∀ {generate}, engine.capabilities.generate = some generate →
    ∀ count other, generate count = generate other
  /-- The same knowledge is found by each call. -/
  retrieve : ∀ {retrieve}, engine.capabilities.retrieve = some retrieve →
    ∀ count other, retrieve count = retrieve other
  /-- No registered type can run. -/
  extensions : ∀ entry ∈ engine.capabilities.extensions, entry.2 = none
  /-- The store takes executions whatever was saved before. -/
  refusal : ∀ before other status, engine.refusal before status = engine.refusal other status

namespace World

/-- While executions of a subject are in hand, the outside parts ask only for executions of the
subject to be cancelled. -/
def Discreet (capabilities : Capabilities) (world : World) (subject : String) : Prop :=
  ∀ id, AsksFor capabilities world subject id → world.Belongs subject id

/-- Two worlds that went on from a first and a second look the same to whoever works on executions
of a subject. -/
structure Agrees (subject : String) (first second left right : World) : Prop where
  /-- The time is the same. -/
  clock : right.clock = left.clock
  /-- The flows are the same. -/
  flows : right.flows = left.flows
  /-- The execution that is being stepped is the same. -/
  stepping : right.stepping = left.stepping
  /-- Generators can be asked in both or in none. -/
  closed : right.closed = left.closed
  /-- The stores are of one kind. -/
  kind : right.store.inTables = left.store.inTables
  /-- The ids of the records are those of the first. -/
  ids : left.store.records.map Execution.id = first.store.records.map Execution.id
  /-- The same is stored under ids that belong to the subject. -/
  reads : ∀ id, first.Belongs subject id → right.store.get id = left.store.get id
  /-- What is stored under them is of the subject. -/
  owned : ∀ id record, first.Belongs subject id → left.store.get id = .ok record →
    record.subject = subject
  /-- The same requests to cancel them were made. -/
  raised : ∀ id, first.Belongs subject id → id ∈ first.store.records.map Execution.id →
    right.raised id = left.raised id
  /-- The same was sent since. -/
  sends : ∃ more, left.sends = first.sends ++ more ∧ right.sends = second.sends ++ more

section Agrees

variable {engine : Engine} {subject id : String} {first second left right : World}
  {execution record : Execution String}

namespace Agrees

/-- The sender may be called in both. -/
theorem sent (agrees : Agrees subject first second left right) (sending : Sending) :
    Agrees subject first second (left.sent sending) (right.sent sending) := by
  obtain ⟨more, grown, otherGrown⟩ := agrees.sends
  refine { agrees with sends := ⟨more ++ [sending], ?_, ?_⟩ }
  · rw [World.sent, grown, List.append_assoc]
  · rw [World.sent, otherGrown, List.append_assoc]

/-- The request to cancel an execution may be made in both. -/
theorem raise (agrees : Agrees subject first second left right) (id : String) :
    Agrees subject first second (left.raiseSignal id) (right.raiseSignal id) := by
  refine { agrees with stepping := ?_, raised := fun other own known => ?_ }
  · simp only [raiseSignal, agrees.stepping]
  · rw [raised_raiseSignal, raised_raiseSignal, agrees.raised other own known]

/-- The request to cancel an execution may be closed in both. -/
theorem drop (agrees : Agrees subject first second left right) (id : String) :
    Agrees subject first second (left.dropSignal id) (right.dropSignal id) := by
  refine { agrees with raised := fun other own known => ?_ }
  rw [raised_dropSignal, raised_dropSignal, agrees.raised other own known]

/-- An execution of the subject may be about to be worked on in both. -/
theorem opens (agrees : Agrees subject first second left right) (own : first.Belongs subject id)
    (known : id ∈ first.store.records.map Execution.id) :
    Agrees subject first second (Desk.opened id left) (Desk.opened id right) := by
  have shown (world : World) : (Desk.opened id world).stepping = some ⟨id, world.raised id⟩ := by
    rw [← raised_openSignal world id id]
    rfl
  have opened (world : World) (other : String) :
      (Desk.opened id world).raised other = world.raised other := raised_openSignal world id other
  refine { agrees with stepping := ?_, raised := fun other mine stands => ?_ }
  · rw [shown, shown, agrees.raised id own known]
  · rw [opened, opened, agrees.raised other mine stands]

/-- Executions of the subject are saved alike. -/
theorem saves (agrees : Agrees subject first second left right) (forgetful : engine.Forgetful)
    (own : first.Owns subject execution.origin) :
    Alike (Agrees subject first second) (Desk.save engine execution left)
      (Desk.save engine execution right) := by
  have same : right.store.get execution.id = left.store.get execution.id :=
    agrees.reads execution.id own.belongs
  rw [Desk.save_apply, Desk.save_apply, Desk.saved, Desk.saved,
    forgetful.refusal (right.saves.map fun save => save.execution.status)
      (left.saves.map fun save => save.execution.status)]
  cases engine.refusal (left.saves.map fun save => save.execution.status) execution.status with
  | some failure => exact .error { agrees with }
  | none =>
    dsimp only
    rcases Store.save_alike agrees.kind same with
      ⟨failure, one, other⟩ | ⟨new, one, other, named, saved, otherSaved, put, otherPut⟩
    · rw [one, other]
      exact .error { agrees with }
    · rw [saved, otherSaved]
      have kind := (Store.save_records saved).1
      have otherKind := (Store.save_records otherSaved).1
      refine .ok { agrees with
        kind := otherKind.trans (agrees.kind.trans kind.symm)
        ids := ?_
        reads := ?_
        owned := ?_ }
      · simp only [put, Store.rewritten_ids]
        exact agrees.ids
      · intro id mine
        by_cases apart : execution.id = id
        · subst apart
          exact (Store.get_rewritten otherSaved named otherPut).trans
            (Store.get_rewritten saved named put).symm
        · exact (Store.get_save_of_ne otherSaved apart).trans
            ((agrees.reads id mine).trans (Store.get_save_of_ne saved apart).symm)
      · intro id record mine read
        by_cases apart : execution.id = id
        · subst apart
          obtain ⟨kept, found, recorded⟩ := Store.get_save_self saved
          cases read.symm.trans found
          exact recorded.subject.trans own.talks
        · exact agrees.owned id record mine ((Store.get_save_of_ne saved apart).symm.trans read)

end Agrees

/-- Calls that concern a subject are made on firm ground in worlds that agree on it. -/
theorem agrees_footing (subject : String) (first second : World) :
    Desk.Footing (first.Belongs subject) fun _ _ => Agrees subject first second where
  clock agrees := agrees.clock
  enters _ agrees := { agrees with }
  leaves _ _ agrees := { agrees with }
  holds _ agrees := { agrees with }
  frees _ _ agrees := { agrees with }
  reads own agrees := agrees.reads _ own

/-- Executions of a subject are cancelled in parallel in worlds that agree on it. -/
theorem agrees_cancels (forgetful : engine.Forgetful) (own : first.Belongs subject id) :
    Parallel (Agrees subject first second) (Desk.cancel engine id) := by
  refine Desk.cancel_parallel (agrees_footing subject first second) own
    (fun agrees => agrees.raise id) (fun agrees => agrees.drop id)
    (fun {_ _ left _ record} agrees read _ => ?_) .empty .empty
  have talks := agrees.owned id record own read
  rw [← (Store.mem_of_get read).2] at own
  have owns : first.Owns subject (record.ended .cancelled left.clock).origin := ⟨talks, own⟩
  exact agrees.saves forgetful owns

/-- Worlds that agree on a subject are alike for a forgetful engine that works on its executions, if
the outside parts do not reach over to others. -/
theorem agrees_like (stored : engine.keeping = .stored) (forgetful : engine.Forgetful)
    (discreet : Discreet engine.capabilities first subject) :
    Likeness engine (first.Owns subject) (Agrees subject first second) where
  stored := stored
  clock agrees := agrees.clock
  stepping agrees := agrees.stepping
  closed agrees := agrees.closed
  noted _ agrees := { agrees with }
  reacts text _ _ := forgetful.send _ _ _ text
  sent _ _ _ agrees := agrees.sent _
  replies known _ := forgetful.generate known _ _
  generated agrees := { agrees with }
  finds known _ := forgetful.retrieve known _ _
  retrieved agrees := { agrees with }
  numbers known _ := by
    -- No registered type can run.
    obtain ⟨before, later, split, -⟩ := List.lookup_eq_some_iff.mp known
    cases forgetful.extensions _ (split ▸ List.mem_append_right before List.mem_cons_self)
  called _ agrees := { agrees with }
  saved own := fun _ _ agrees => agrees.saves forgetful own
  cancelled own asks := agrees_cancels forgetful (discreet _ ⟨_, own, asks⟩)

/-- Worlds that agree on a subject do so when one of its executions is worked on, guarded. -/
theorem agrees_guards (stored : engine.keeping = .stored) (forgetful : engine.Forgetful)
    (discreet : Discreet engine.capabilities first subject) (own : first.Belongs subject id)
    (known : id ∈ first.store.records.map Execution.id) :
    Desk.Guards engine (first.Owns subject) id (Agrees subject first second)
      (Agrees subject first second) where
  like := agrees_like stored forgetful discreet
  opens _ _ agrees := agrees.opens own known
  rests _ _ agrees := { agrees with stepping := rfl }
  reads _ _ agrees := agrees.reads id own
  owned _ _ record agrees read := by
    have talks := agrees.owned id record own read
    rw [← (Store.mem_of_get read).2] at own
    exact ⟨talks, own⟩
  ends _ _ _ agrees _ _ _ := agrees.drop id
  stays _ _ agrees _ _ := agrees

/-- Guarded work on an execution of a subject ends alike in worlds that agree on it. -/
theorem agrees_guarded (stored : engine.keeping = .stored) (forgetful : engine.Forgetful)
    (discreet : Discreet engine.capabilities first subject)
    (own : first.Owns subject execution.origin)
    (known : execution.id ∈ first.store.records.map Execution.id) {work : Run Status}
    (works : ∀ {own rel}, Likeness engine own rel → Parallel (Session.Alike own rel) work)
    (agrees : Agrees subject first second left right) :
    Alike (Agrees subject first second) (Desk.guarded engine execution work left)
      (Desk.guarded engine execution work right) :=
  Desk.guarded_parallel (agrees_guards stored forgetful discreet own.belongs known) own
    (works (agrees_like stored forgetful discreet)) left right agrees

/-- Replies of a subject are taken up alike in worlds that agree on it. -/
theorem agrees_ties (stored : engine.keeping = .stored) (forgetful : engine.Forgetful)
    (discreet : Discreet engine.capabilities first subject) :
    Desk.Ties engine (first.Belongs subject) fun _ _ => Agrees subject first second where
  toFooting := agrees_footing subject first second
  flows _ agrees _ := by rw [agrees.flows]
  keeps {_ _ left right id record} reply own agrees read _ := by
    have talks := agrees.owned id record own read
    rw [← (Store.mem_of_get read).2] at own
    dsimp only
    rw [agrees.clock]
    refine agrees.saves forgetful ?_
    exact ⟨talks, own⟩
  rouses {_ _ left right id record graph} vars label reason reply own agrees read _ _ := by
    have talks := agrees.owned id record own read
    obtain ⟨member, named⟩ := Store.mem_of_get read
    subst named
    have known : record.id ∈ first.store.records.map Execution.id :=
      agrees.ids ▸ List.mem_map_of_mem member
    have owns : first.Owns subject { record with vars }.origin := ⟨talks, own⟩
    exact agrees_guarded stored forgetful discreet owns known
      (fun like => Tick.resume_parallel like graph _ _ reply true) agrees

end Agrees

end World

namespace Call

/-- A reply or a cancellation of a subject ends alike in a world and one that agrees with it on the
subject, if the same execution waits for the subject in both. -/
theorem onward_agrees {engine : Engine} (forgetful : engine.Forgetful) {call : Call}
    {subject : String} {world other : World} (distinct : world.store.Distinct)
    (discreet : Discreet engine.capabilities world subject) (concerns : call.Concerns world subject)
    (onward : Onward call) (agrees : Agrees subject world other world other)
    (found : other.store.findWaiting subject = world.store.findWaiting subject) :
    Alike (Agrees subject world other) (call.perform engine world) (call.perform engine other) := by
  have atDesk : engine.atDesk.Forgetful := { forgetful with }
  cases concerns with
  | start => cases onward
  | inbound reply own =>
    subst own
    exact (Desk.inbound_alike (agrees_ties engine.atDesk_keeping atDesk discreet) .empty .empty
      agrees found (fun _ found => belongs_waiting distinct found) reply).thenPure
  | cancel own => exact (agrees_cancels atDesk own world other agrees).thenPure

end Call

end Parley
