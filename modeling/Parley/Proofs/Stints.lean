import Parley.Proofs.History

/-!
# Stints of work

The store may refuse any request to save. While the desk works on an execution and the outside
parts ask for nothing to be cancelled, all requests are for that execution. If one is refused, the
execution is recorded as failed for that, unless it still waits in the store, and then it stays as
it was; the record of the failure is one more request, which is the last.
-/

namespace Parley

open Parley.Computation World

/-- A stretch of work on executions of some ids: all requests to save since a world are for them,
and all other records are as they were. -/
structure Stint (base : World) (ids : List String) (own : List Save) (world : World) : Prop where
  /-- The requests since then are these. -/
  saves : world.saves = base.saves ++ own
  /-- They are for executions of the ids. -/
  owned : ∀ save ∈ own, save.execution.id ∈ ids
  /-- The ids in the store are distinct. -/
  distinct : world.store.Distinct
  /-- The other records are the same. -/
  others : ∀ record, record.id ∉ ids →
    (record ∈ world.store.records ↔ record ∈ base.store.records)

namespace Stint

variable {base world left : World} {ids : List String} {own : List Save}

/-- Nothing was asked yet. -/
theorem refl (distinct : base.store.Distinct) (ids : List String) : Stint base ids [] base :=
  ⟨(List.append_nil _).symm, by simp, distinct, fun _ _ => Iff.rfl⟩

/-- What is beside the executions does not matter. -/
theorem beside (stint : Stint base ids own world) (same : Beside world left) :
    Stint base ids own left := by
  refine ⟨same.saves.trans stint.saves, stint.owned, ?_, ?_⟩
  · rw [same.store]
    exact stint.distinct
  · rw [same.store]
    exact stint.others

/-- An offer is one more request; the store changes if it takes it. -/
theorem offered (stint : Stint base ids own world) {execution : Execution String} {taken : Bool}
    (named : execution.id ∈ ids) (offered : Offered execution world taken left) :
    Stint base ids (own ++ [⟨execution, taken⟩]) left := by
  have saves : left.saves = base.saves ++ (own ++ [⟨execution, taken⟩]) := by
    rw [offered.saves, stint.saves, List.append_assoc]
  have owned : ∀ save ∈ own ++ [⟨execution, taken⟩], save.execution.id ∈ ids :=
    List.forall_mem_append.mpr ⟨stint.owned, by simpa using named⟩
  cases offered with
  | taken saved =>
    obtain ⟨-, old, listed, new, -, recorded, -, records⟩ := Store.save_records saved
    refine ⟨saves, owned, stint.distinct.save saved, fun record apart => ?_⟩
    have differs : record.id ≠ new.id := by
      rw [recorded.id]
      rintro same
      exact apart (same ▸ named)
    rw [← stint.others record apart]
    simp only [records]
    constructor
    · intro member
      rcases Store.mem_rewritten member with rfl | ⟨before, -⟩
      · exact absurd rfl differs
      · exact before
    · exact fun member => Store.mem_rewritten_of_ne member differs
  | refused => exact ⟨saves, owned, stint.distinct, stint.others⟩

/-- One stretch comes after another. -/
theorem trans {more : List Save} {others : List String} (first : Stint base ids own world)
    (second : Stint world others more left) : Stint base (ids ++ others) (own ++ more) left := by
  refine ⟨?_, ?_, second.distinct, ?_⟩
  · rw [second.saves, first.saves, List.append_assoc]
  · intro save member
    rcases List.mem_append.mp member with early | late
    · exact List.mem_append_left _ (first.owned save early)
    · exact List.mem_append_right _ (second.owned save late)
  · intro record apart
    rw [List.mem_append, not_or] at apart
    rw [second.others record apart.2, first.others record apart.1]

end Stint

/-- A store has a record of an execution that was taken. -/
theorem World.Offered.recorded {execution : Execution String} {before after : World}
    (offered : Offered execution before true after) :
    ∃ record ∈ after.store.records, Store.Recorded execution record := by
  cases offered with
  | taken saved =>
    obtain ⟨-, old, listed, new, named, recorded, -, records⟩ := Store.save_records saved
    refine ⟨new, ?_, recorded⟩
    simp only [records]
    exact Store.mem_rewritten_self listed (named.trans recorded.id.symm)

/-- The last of the requests was taken, or it is the only one and the execution was not just made.
What comes last after a request that was refused is the record of the failure. -/
def Recovered (made : Bool) (own : List Save) : Prop :=
  ∀ save ∈ own.getLast?, save.taken = true ∨ (made = false ∧ own.length = 1)

instance (made : Bool) (own : List Save) : Decidable (Recovered made own) :=
  inferInstanceAs (Decidable (∀ save ∈ own.getLast?, _ ∨ _))

/-- The text of a failure, as a record tells why it failed. -/
def Failure.reason (failure : Failure) : String := failure.kind ++ ": " ++ failure.message

/-- A store has a record of an id that failed for a reason. -/
def World.Blames (world : World) (id : String) (failure : Failure) : Prop :=
  ∃ record ∈ world.store.records,
    record.id = id ∧ record.status = .failed ∧ record.error = some failure.reason

/-- What a stretch of guarded work comes to, if its failure could be recorded. -/
structure Settles (engine : Engine) (made : Bool) (base : World) (id : String) (own : List Save)
    (world : World) : Prop where
  /-- The work was on the execution alone. -/
  stint : Stint base [id] own world
  /-- The execution does not run any more. -/
  rests : ∃ record ∈ world.store.records, record.id = id ∧ record.status ≠ .running
  /-- If the first request for an execution that waited was refused, nothing has changed. -/
  spared : ∀ refused late, own = refused :: late → refused.taken = false → made = false →
    world.store = base.store
  /-- If any other request was refused, the execution failed for that. -/
  blamed : ∀ early refused late, own = early ++ refused :: late → refused.taken = false →
    (made = true ∨ early ≠ []) → ∃ middle failure, middle.saves = base.saves ++ early ∧
      Desk.saved engine refused.execution middle = .error failure ∧ world.Blames id failure

section Guarded

variable {engine : Engine} {base left : World} {session : Session} {id : String}
  {own : List Save} {failure : Failure}
  (guards : Desk.Guarded id (.error failure session) left)
  (stint : Stint base [id] own session.world)
include guards stint

/-- A failure is recorded for a record that runs, by one request. -/
theorem Desk.Guarded.crashes
    (runs : ∃ record ∈ session.world.store.records, record.id = id ∧ record.status = .running) :
    ∃ save, Stint base [id] (own ++ [save]) left ∧
      (save.taken = true → left.Blames id failure) := by
  obtain ⟨running, member, named, status⟩ := runs
  cases guards with
  | @failed _ _ closed noted left before noting after =>
    have stood := stint.beside before
    rw [← before.store] at member
    cases noting with
    | spared spare =>
      have read : closed.store.get id = .ok running := named ▸ stood.distinct.get member
      exact absurd status (spare running read)
    | @crashed record taken noted read runs offered =>
      have same : (record.crashed failure closed.clock).id = id :=
        (record.crashed_continues failure closed.clock).id.trans (Store.mem_of_get read).2
      refine ⟨⟨_, taken⟩, (stood.offered (by simp [same]) offered).beside after, ?_⟩
      rintro rfl
      obtain ⟨kept, listed, recorded⟩ := offered.recorded
      rw [← after.store] at listed
      exact ⟨kept, listed, recorded.id.trans same, recorded.status, recorded.error⟩

/-- A failure leaves a record that does not run. -/
theorem Desk.Guarded.spares
    (rests : ∃ record ∈ session.world.store.records, record.id = id ∧ record.status ≠ .running) :
    Stint base [id] own left ∧ left.store = session.world.store := by
  obtain ⟨resting, member, named, status⟩ := rests
  cases guards with
  | @failed _ _ closed noted left before noting after =>
    have stood := stint.beside before
    rw [← before.store] at member
    cases noting with
    | spared spare => exact ⟨stood.beside after, after.store.trans before.store⟩
    | @crashed record taken noted read runs offered =>
      obtain ⟨listed, same⟩ := Store.mem_of_get read
      have unique : record = resting :=
        stood.distinct.unique listed member (same.trans named.symm)
      exact absurd (unique ▸ runs) status

end Guarded

/-- A request that was refused after requests that were taken is the last. -/
theorem refused_last {took early late : List Save} {last refused : Save}
    (took_all : ∀ save ∈ took, save.taken = true)
    (split : took ++ [last] = early ++ refused :: late) (refusal : refused.taken = false) :
    early = took ∧ refused = last := by
  induction took generalizing early with
  | nil =>
    cases early with
    | nil => exact ⟨rfl, (List.cons.inj split).1.symm⟩
    | cons first rest => simp at split
  | cons first rest ih =>
    obtain ⟨firstTook, restTook⟩ := List.forall_mem_cons.mp took_all
    cases early with
    | nil =>
      obtain ⟨rfl, -⟩ := List.cons.inj split
      rw [firstTook] at refusal
      cases refusal
    | cons other others =>
      obtain ⟨rfl, more⟩ := List.cons.inj split
      obtain ⟨rfl, same⟩ := ih restTook more
      exact ⟨rfl, same⟩

/-- Work that ends with a request for the record of a failure settles. -/
theorem Settles.crashed {engine : Engine} {made : Bool} {base world : World} {id : String}
    {prior : List Save} {save : Save} {failure : Failure}
    (stint : Stint base [id] (prior ++ [save]) world) (asked : prior ≠ [])
    (first : made = false → ∀ refused late, prior = refused :: late → refused.taken = true)
    (raised : ∀ early refused late, prior = early ++ refused :: late → refused.taken = false →
      ∃ middle, middle.saves = base.saves ++ early ∧
        Desk.saved engine refused.execution middle = .error failure)
    (blames : save.taken = true → world.Blames id failure)
    (recovered : Recovered made (prior ++ [save])) :
    Settles engine made base id (prior ++ [save]) world := by
  have took : save.taken = true := by
    rcases recovered save List.getLast?_concat with took | ⟨-, single⟩
    · exact took
    · rw [List.length_append, List.length_singleton] at single
      exact absurd (List.length_eq_zero_iff.mp (by omega)) asked
  have blame := blames took
  obtain ⟨record, member, named, failed, reason⟩ := blame
  refine ⟨stint, ⟨record, member, named, by rw [failed]; decide⟩, ?_, ?_⟩
  · intro refused late split refusal resumed
    cases prior with
    | nil => exact absurd rfl asked
    | cons head tail =>
      obtain ⟨rfl, -⟩ := List.cons.inj split
      rw [first resumed head tail rfl] at refusal
      cases refusal
  · intro early refused late split refusal _
    rcases List.eq_nil_or_concat late with rfl | ⟨between, final, rfl⟩
    · obtain ⟨-, same⟩ := List.append_inj' split rfl
      rw [← (List.cons.inj same).1, took] at refusal
      cases refusal
    · have whole : prior ++ [save] = (early ++ refused :: between) ++ [final] := by
        simpa using split
      obtain ⟨middle, saves, failing⟩ :=
        raised early refused between (List.append_inj' whole rfl).1 refusal
      exact ⟨middle, failure, saves, failing, record, member, named, failed, reason⟩

section Work

variable {engine : Engine} (stored : engine.keeping = .stored)
  (aloof : engine.capabilities.Aloof) {graph : Flow.Graph} {base : World} {id : String}
  {own : List Save}
include stored aloof

/-- Rounds with aloof outside parts are requests that are taken, and the last of them tells what is
in hand. -/
theorem Tick.Rounds.stint {start left : Session} (rounds : Rounds engine graph start left)
    (stint : Stint base [id] own start.world) (named : start.execution.id = id)
    (recorded : ∃ record ∈ start.world.store.records, Store.Recorded start.execution record) :
    ∃ more, Stint base [id] (own ++ more) left.world ∧ (∀ save ∈ more, save.taken = true) ∧
      ∃ record ∈ left.world.store.records, Store.Recorded left.execution record := by
  induction rounds with
  | refl => exact ⟨[], by rwa [List.append_nil], by simp, recorded⟩
  | @tail middle left before goes ih =>
    obtain ⟨more, met, took, -⟩ := ih
    obtain ⟨stirred, stir, kept⟩ := goes.kept
    have offered := kept.offer stored
    have same : left.execution.id = id :=
      goes.round.continues.id.trans ((Tick.Rounds.continues before).id.trans named)
    refine ⟨more ++ [⟨left.execution, true⟩], ?_, ?_, offered.recorded⟩
    · rw [← List.append_assoc]
      exact (met.beside (stir.calm aloof)).offered (by simp [same]) offered
    · exact List.forall_mem_append.mpr ⟨took, by simp⟩

variable {execution handed : Execution String} {work : Run Status} {made : Bool}
  (bounded : engine.settings.budget.ceiling?.isSome)
include bounded

/-- Work of which the first request was taken settles, if its failure can be recorded. -/
theorem Desk.Guarded.settles_taken {start : Session}
    {result : EStateM.Result Failure Session Status} {left : World}
    (guards : Desk.Guarded id result left) (tours : Tick.Tours engine graph start result)
    (stint : Stint base [id] own start.world) (asked : own ≠ [])
    (took : ∀ save ∈ own, save.taken = true) (named : start.execution.id = id)
    (recorded : ∃ record ∈ start.world.store.records, Store.Recorded start.execution record) :
    ∃ own, Stint base [id] own left ∧
      (Recovered made own → Settles engine made base id own left) := by
  cases tours with
  | @rested status session rounds rests =>
    obtain ⟨more, met, tookMore, record, member, told⟩ :=
      rounds.stint stored aloof stint named recorded
    have all := List.forall_mem_append.mpr ⟨took, tookMore⟩
    have same : record.id = id := told.id.trans (rounds.continues.id.trans named)
    cases guards with
    | rested after =>
      have ended := met.beside after
      refine ⟨_, ended, fun _ => ⟨ended, ⟨record, ?_, same, ?_⟩, ?_, ?_⟩⟩
      · rw [after.store]
        exact member
      · rw [told.status]
        exact rests bounded
      · intro refused late split refusal _
        rw [all refused (by simp [split])] at refusal
        cases refusal
      · intro early refused late split refusal _
        rw [all refused (by simp [split])] at refusal
        cases refusal
  | @failed steps middle session failure rounds runs round =>
    obtain ⟨more, met, tookMore, record, member, told⟩ :=
      rounds.stint stored aloof stint named recorded
    have all := List.forall_mem_append.mpr ⟨took, tookMore⟩
    have own' : middle.execution.id = id := rounds.continues.id.trans named
    have same : record.id = id := told.id.trans own'
    have running : record.status = .running := told.status.trans runs
    have first (refused : Save) (late : List Save) (split : own ++ more = refused :: late) :
        refused.taken = true := all refused (by simp [split])
    cases round with
    | lost missing =>
      obtain ⟨save, ended, blames⟩ := guards.crashes met ⟨record, member, same, running⟩
      refine ⟨_, ended, .crashed ended (by simp [asked]) (fun _ => first) ?_ blames⟩
      intro early refused late split refusal
      rw [all refused (by simp [split])] at refusal
      cases refusal
    | @refused stirred left handed failure round stir kept raised =>
      have calm := stir.calm aloof
      have stays : handed.id = id := round.continues.id.trans own'
      have stopped := (met.beside calm).offered (by simp [stays]) (kept.offer stored)
      have listed : record ∈ left.store.records := by
        cases kept.offer stored with
        | refused =>
          rw [← calm.store] at member
          exact member
      obtain ⟨save, ended, blames⟩ := guards.crashes stopped ⟨record, listed, same, running⟩
      refine ⟨_, ended, .crashed ended (by simp) ?_ ?_ blames⟩
      · intro _ refused late split
        cases prior : own ++ more with
        | nil => simp [asked] at prior
        | cons head tail =>
          rw [prior] at split
          rw [← (List.cons.inj split).1]
          exact first head tail prior
      · intro early refused late split refusal
        obtain ⟨rfl, rfl⟩ := refused_last all split refusal
        exact ⟨stirred, (met.beside calm).saves, raised⟩

/-- Guarded work on a record that was just made or waited settles, if its failure can be
recorded. -/
theorem Desk.guarded_settles (made : Bool)
    (works : ∀ held, Beside base held →
      Tick.Works engine graph handed held (work ⟨execution, held⟩))
    (same : handed.id = execution.id) (distinct : base.store.Distinct)
    {record : Execution String} (member : record ∈ base.store.records)
    (named : record.id = execution.id)
    (status : record.status = if made then .running else .waiting) :
    ∃ left own, Desk.guarded engine execution work base = .ok () left ∧
      Stint base [execution.id] own left ∧
      (Recovered made own → Settles engine made base execution.id own left) := by
  obtain ⟨held, left, beside, done, guards⟩ := Desk.guarded_ends engine execution work base
  refine ⟨left, ?_⟩
  have worked := works held beside
  generalize work ⟨execution, held⟩ = result at worked guards
  have started := (Stint.refl distinct [execution.id]).beside beside
  cases worked with
  | @refused stirred met failure stir kept raised =>
    have calm := stir.calm aloof
    have offered := kept.offer stored
    have stint := (started.beside calm).offered (by simp [same]) offered
    have store : met.store = base.store := by
      cases offered with
      | refused => exact calm.store.trans beside.store
    rw [← store] at member
    cases made with
    | true =>
      obtain ⟨save, ended, blames⟩ := guards.crashes stint ⟨record, member, named, status⟩
      refine ⟨_, done, ended, fun recovered => ?_⟩
      refine .crashed ended (by simp) nofun ?_ blames recovered
      intro early refused late split refusal
      obtain ⟨rfl, rfl⟩ := refused_last (by simp) split refusal
      exact ⟨stirred, (started.beside calm).saves, raised⟩
    | false =>
      have rests : record.status ≠ .running := by
        rw [status]
        decide
      obtain ⟨ended, kept⟩ := guards.spares stint ⟨record, member, named, rests⟩
      refine ⟨_, done, ended, fun _ => ⟨ended, ⟨record, ?_, named, rests⟩, ?_, ?_⟩⟩
      · rw [kept]
        exact member
      · exact fun _ _ _ _ _ => kept.trans store
      · intro early refused late split _ again
        rcases again with impossible | again
        · cases impossible
        · cases early with
          | nil => exact absurd rfl again
          | cons head tail => simp at split
  | @taken stirred met result stir kept tours =>
    have calm := stir.calm aloof
    have offered := kept.offer stored
    have stint := (started.beside calm).offered (by simp [same]) offered
    obtain ⟨own, ended, settles⟩ := guards.settles_taken stored aloof bounded tours stint (by simp)
      (by simp) same offered.recorded
    exact ⟨own, done, ended, settles⟩

end Work

end Parley
