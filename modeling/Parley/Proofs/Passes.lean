import Parley.Proofs.Recovery
import Parley.Proofs.Turns
import Parley.Proofs.Upkeep

/-!
# Turns in a pass over waits that are over

In a pass, the waits that were due when it began are ended one after another. What becomes of a
record is told from the world in which the pass began: it stays as it is as long as it is the turn
of others, unless an outside part asks for it to be cancelled, and even then its log is held.
-/

namespace Parley

open Parley.Computation World

namespace Execution

/-- The log of an execution tells more, but of no end of a wait. -/
def Adds (before after : Execution String) : Prop :=
  ∃ more, after.log = before.log ++ more ∧ ∀ entry ∈ more, entry.event ≠ .resumed

/-- Nothing is added to the same log. -/
theorem Adds.same {before after : Execution String} (log : after.log = before.log) :
    Adds before after :=
  ⟨[], by rw [log, List.append_nil], by simp⟩

/-- More is added after more. -/
theorem Adds.trans {first second third : Execution String} (before : Adds first second)
    (after : Adds second third) : Adds first third := by
  obtain ⟨early, log, quiet⟩ := before
  obtain ⟨late, grown, still⟩ := after
  refine ⟨early ++ late, by rw [grown, log, List.append_assoc], ?_⟩
  exact List.forall_mem_append.mpr ⟨quiet, still⟩

variable (execution : Execution String)

/-- Telling something else adds no end of a wait. -/
theorem told_adds (node : Option String) {event : Event} (other : event ≠ .resumed)
    (now : Time.Moment) (payload : Entries) :
    Adds execution (execution.told node event now payload) :=
  ⟨[_], rfl, by simpa using other⟩

/-- Advancing tells nothing. -/
theorem advanced_adds (next : Option String) (now : Time.Moment) :
    Adds execution (execution.advanced next now) := by
  cases next <;> exact .same rfl

/-- The end of a visit adds no end of a wait. -/
theorem closed_adds (graph : Flow.Graph) (node : Flow.Node String) (now : Time.Moment)
    (result : Except Failure (Action × Entries)) :
    Adds execution (execution.closed graph node now result) := by
  cases result with
  | error failure =>
    have told := execution.told_adds (some node.id) (show Event.nodeError ≠ .resumed by decide) now
      (Tick.failurePayload failure)
    simp only [closed]
    cases node.onError <;> exact told.trans (.same rfl)
  | ok ending =>
    obtain ⟨action, payload⟩ := ending
    have told := execution.told_adds (some node.id) (show Event.nodeEnd ≠ .resumed by decide) now
      (payload ++ [(.text "elapsed_ms", .float .zero)])
    cases action with
    | suspend => exact told.trans (told_adds _ (some node.id) (by decide) now _)
    | follow label => exact told.trans (advanced_adds _ _ now)
    | finish | jump => exact told.trans (.same rfl)

/-- The record of a failure adds no end of a wait. -/
theorem crashed_adds (failure : Failure) (now : Time.Moment) :
    Adds execution (execution.crashed failure now) := by
  unfold crashed blamed
  cases execution.node with
  | some node =>
    have told := execution.told_adds (some node) (show Event.nodeError ≠ .resumed by decide) now
      [(.text "error", .text failure.kind), (.text "message", .text failure.message)]
    exact told.trans (.same rfl)
  | none => exact .same rfl

end Execution

/-- A round adds no end of a wait. -/
theorem Tick.Round.adds {engine : Engine} {graph : Flow.Graph} {now : Time.Moment}
    {execution handed : Execution String} (round : Round engine graph now execution handed) :
    execution.Adds handed := by
  cases round with
  | @visited node result handled found handling =>
    have opened := execution.told_adds (some node.id) (show Event.nodeStart ≠ .resumed by decide)
      now [(.text "type", .text node.type)]
    refine (opened.trans ?_).trans (handled.closed_adds graph node now result)
    obtain ⟨vars, deadline, keywords, rfl⟩ := handling.changes
    exact .same rfl
  | interrupted => exact .same rfl
  | exhausted =>
    exact (execution.told_adds execution.node (by decide) now _).trans (.same rfl)

namespace Store

/-- A store holds a record that goes on from an earlier one, with what it keeps of a log. -/
def Logs (store : Store String) (record : Execution String) (log : List (Entry String)) : Prop :=
  ∃ later ∈ store.records, record.Continues later ∧ store.Keeps later.log log

variable {store left : Store String} {record execution handed : Execution String}
  {log : List (Entry String)}

/-- A record stays when an execution of another id is saved. -/
theorem mem_of_save (member : record ∈ store.records) (apart : handed.id ≠ record.id)
    (saved : store.save handed = .ok left) : record ∈ left.records := by
  obtain ⟨-, -, -, new, -, recorded, -, records⟩ := save_records saved
  rw [records]
  refine mem_rewritten_of_ne member ?_
  rw [recorded.id]
  exact apart.symm

/-- Saving an execution of another id keeps what a store holds. -/
theorem Logs.others (logs : store.Logs record log) (apart : handed.id ≠ record.id)
    (saved : store.save handed = .ok left) : left.Logs record log := by
  obtain ⟨later, member, continues, keeps⟩ := logs
  rw [← continues.id] at apart
  exact ⟨later, mem_of_save member apart saved, continues, keeps.congr (save_records saved).1⟩

/-- A record that is cancelled goes on as cancelled, with its log. -/
theorem cancelled_record {now : Time.Moment} (distinct : store.Distinct)
    (listed : record ∈ store.records)
    (saved : store.save (record.ended .cancelled now) = .ok left) :
    ∃ new ∈ left.records, Recorded (record.ended .cancelled now) new ∧ record.Continues new ∧
      new.log = record.log := by
  have backs := (Backs.refl listed).continues (record.ended_continues .cancelled now)
  obtain ⟨new, recorded, went, kept, -, records⟩ := backs.saved distinct listed saved
  refine ⟨new, ?_, recorded, went, (went.log.eq_of_length kept.echoes.length_eq.symm).symm⟩
  rw [records]
  exact mem_rewritten_self listed went.id.symm

/-- Cancelling an execution keeps what a store holds. -/
theorem Logs.cancelled {id : String} {now : Time.Moment} (logs : store.Logs record log)
    (distinct : store.Distinct) (read : store.get id = .ok execution)
    (saved : store.save (execution.ended .cancelled now) = .ok left) : left.Logs record log := by
  by_cases named : execution.id = record.id
  · obtain ⟨later, member, continues, keeps⟩ := logs
    have listed := (mem_of_get read).1
    have same : later = execution :=
      distinct.unique member listed (continues.id.trans named.symm)
    subst same
    obtain ⟨new, kept, -, went, unchanged⟩ := cancelled_record distinct listed saved
    refine ⟨new, kept, continues.trans went, ?_⟩
    rw [unchanged]
    exact keeps.congr (save_records saved).1
  · have apart : (execution.ended .cancelled now).id ≠ record.id := named
    exact logs.others apart saved

/-- Saving an execution that goes on from what a store holds lets the store hold its log. -/
theorem Logs.saved (logs : store.Logs record execution.log) (distinct : store.Distinct)
    (counted : record.version ≠ 0) (continues : record.Continues execution)
    (went : execution.Continues handed) (saved : store.save handed = .ok left) :
    left.Logs record handed.log := by
  obtain ⟨later, member, onward, keeps⟩ := logs
  have whole := continues.trans went
  have backs : store.Backs later handed :=
    ⟨onward.id.trans whole.id.symm, onward.flow.trans whole.flow.symm,
      onward.version.trans whole.version.symm, by rw [whole.version]; exact counted,
      onward.subject.trans whole.subject.symm, onward.createdAt.trans whole.createdAt.symm,
      execution.log, keeps, went.log⟩
  obtain ⟨new, -, grew, kept, -, records⟩ := backs.saved distinct member saved
  refine ⟨new, ?_, onward.trans grew, kept⟩
  rw [records]
  exact mem_rewritten_self member grew.id.symm

end Store

namespace World

variable {engine : Engine} {base world left : World}

/-- What a pass leaves of the world in which it began: the time, the flows, the ids of the records
and the requests to save are still there. -/
structure Grown (base world : World) : Prop where
  /-- The time is the same. -/
  clock : world.clock = base.clock
  /-- The flows are the same. -/
  flows : world.flows = base.flows
  /-- The ids of the records are the same. -/
  ids : world.store.records.map Execution.id = base.store.records.map Execution.id
  /-- The requests to save are still there. -/
  saves : base.saves <+: world.saves

namespace Grown

/-- Nothing has changed yet. -/
theorem refl (base : World) : Grown base base := ⟨rfl, rfl, rfl, List.prefix_rfl⟩

/-- The ids stay distinct. -/
theorem distinct (grown : Grown base world) (distinct : base.store.Distinct) :
    world.store.Distinct := by
  unfold Store.Distinct
  rw [grown.ids]
  exact distinct

/-- What is beside the executions may change. -/
theorem beside (grown : Grown base world) (same : Beside world left) : Grown base left := by
  refine ⟨same.clock.trans grown.clock, same.flows.trans grown.flows, ?_, ?_⟩
  · rw [same.store]
    exact grown.ids
  · rw [same.saves]
    exact grown.saves

/-- An execution may be offered. -/
theorem offered {execution : Execution String} {taken : Bool} (grown : Grown base world)
    (offered : Offered execution world taken left) : Grown base left := by
  refine ⟨offered.clock.trans grown.clock, ?_, ?_, ?_⟩
  · cases offered <;> exact grown.flows
  · cases offered with
    | taken saved =>
      obtain ⟨-, -, -, new, -, -, -, records⟩ := Store.save_records saved
      simp only [records, Store.rewritten_ids]
      exact grown.ids
    | refused => exact grown.ids
  · rw [offered.saves]
    exact grown.saves.trans (List.prefix_append _ _)

/-- The last request was made since the base. -/
theorem mem_since {save : Save} (grown : Grown base world)
    (saves : left.saves = world.saves ++ [save]) : save ∈ left.since base := by
  rw [since, saves, List.drop_append_of_le_length grown.saves.length_le]
  exact List.mem_append_right _ List.mem_cons_self

end Grown

/-- Requests since the base stay. -/
theorem since_mono (more : world.saves <+: left.saves) {save : Save}
    (member : save ∈ world.since base) : save ∈ left.since base :=
  (more.drop base.saves.length).subset member

/-- An offer leaves the requests. -/
theorem Offered.prefix {execution : Execution String} {taken : Bool}
    (offered : Offered execution world taken left) : world.saves <+: left.saves := by
  rw [offered.saves]
  exact List.prefix_append _ _

/-- A record stays when an execution of another id is offered. -/
theorem Offered.mem {record execution : Execution String} {taken : Bool}
    (member : record ∈ world.store.records) (apart : execution.id ≠ record.id)
    (offered : Offered execution world taken left) : record ∈ left.store.records := by
  cases offered with
  | taken saved => exact Store.mem_of_save member apart saved
  | refused => exact member

/-- What is kept by changes beside the executions and by cancelling one of them is kept when the
world is stirred. -/
theorem Stirred.keep {holds : World → Prop} (stirred : Stirred world left)
    (beside : ∀ {before after}, Beside before after → holds before → holds after)
    (cancelled : ∀ {before after id record taken}, before.store.get id = .ok record →
      record.status.isFinal = false →
      Offered (record.ended .cancelled before.clock) before taken after →
      holds before → holds after)
    (held : holds world) : holds left := by
  induction stirred with
  | refl => exact held
  | tail _ stir ih =>
    cases stir with
    | beside same => exact beside same ih
    | cancelled read moved offered =>
      obtain ⟨allowed, rfl⟩ := Execution.transition_final_eq rfl moved
      exact cancelled read (Status.not_final_of_next allowed) offered ih

/-- The world keeps what is known of it while it is astir. -/
theorem Grown.astir (grown : Grown base world) (astir : Astir engine world left) :
    Grown base left :=
  astir.stirred.keep (fun same grown => grown.beside same)
    (fun _ _ offered grown => grown.offered offered) grown

/-- What is known of the world withstands the turns of all executions. -/
theorem Grown.withstands (engine : Engine) (base : World) (id : String) :
    Withstands engine id (Grown base) :=
  ⟨fun astir grown => grown.astir astir, fun _ offered grown => grown.offered offered⟩

/-- A record was cancelled because an outside part asked for it. -/
structure Dismissed (capabilities : Capabilities) (base : World) (record : Execution String)
    (world : World) : Prop where
  /-- Some outside part asks for executions to be cancelled. -/
  meddling : ¬ capabilities.Aloof
  /-- The store took the record as cancelled. -/
  asked : ⟨record.ended .cancelled base.clock, true⟩ ∈ world.since base
  /-- It has ended, and its log tells nothing more. -/
  ended : ∃ later ∈ world.store.records,
    Store.Recorded (record.ended .cancelled base.clock) later ∧ later.log = record.log

/-- A record is as it was, unless an outside part asked for it to be cancelled. -/
def Spared (capabilities : Capabilities) (base : World) (record : Execution String)
    (world : World) : Prop :=
  record ∈ world.store.records ∨ Dismissed capabilities base record world

section Spared

variable {capabilities : Capabilities} {record : Execution String}

/-- What is beside the executions may change after a record was cancelled. -/
theorem Dismissed.beside (dismissed : Dismissed capabilities base record world)
    (same : Beside world left) : Dismissed capabilities base record left := by
  obtain ⟨meddling, asked, ended⟩ := dismissed
  refine ⟨meddling, since_mono (same.saves ▸ List.prefix_rfl) asked, ?_⟩
  rw [same.store]
  exact ended

/-- What is beside the executions may change. -/
theorem Spared.beside (spared : Spared capabilities base record world) (same : Beside world left) :
    Spared capabilities base record left := by
  refine spared.imp (fun member => ?_) fun dismissed => dismissed.beside same
  rw [same.store]
  exact member

/-- Executions of other ids may be offered after a record was cancelled. -/
theorem Dismissed.offered {execution : Execution String} {taken : Bool}
    (dismissed : Dismissed capabilities base record world) (apart : execution.id ≠ record.id)
    (offered : Offered execution world taken left) : Dismissed capabilities base record left := by
  refine ⟨dismissed.meddling, since_mono offered.prefix dismissed.asked, ?_⟩
  obtain ⟨later, member, recorded, log⟩ := dismissed.ended
  have same : later.id = record.id := recorded.id
  rw [← same] at apart
  exact ⟨later, offered.mem member apart, recorded, log⟩

/-- Executions of other ids may be offered. -/
theorem Spared.offered {execution : Execution String} {taken : Bool}
    (spared : Spared capabilities base record world) (apart : execution.id ≠ record.id)
    (offered : Offered execution world taken left) : Spared capabilities base record left :=
  spared.imp (fun member => offered.mem member apart) fun dismissed =>
    dismissed.offered apart offered

/-- A record that was cancelled is not cancelled again. -/
theorem Dismissed.cancelled {id : String} {execution : Execution String} {taken : Bool}
    (dismissed : Dismissed capabilities base record world) (distinct : world.store.Distinct)
    (read : world.store.get id = .ok execution) (unended : execution.status.isFinal = false)
    (offered : Offered (execution.ended .cancelled world.clock) world taken left) :
    Dismissed capabilities base record left := by
  refine dismissed.offered ?_ offered
  rintro (named : execution.id = record.id)
  obtain ⟨later, member, recorded, -⟩ := dismissed.ended
  have same : later = execution :=
    distinct.unique member (Store.mem_of_get read).1 (recorded.id.trans named.symm)
  rw [← same, recorded.status] at unended
  cases unended

/-- A record is cancelled only if an outside part asks for it. -/
theorem Spared.cancelled {id : String} {execution : Execution String} {taken : Bool}
    (meddling : ¬ capabilities.Aloof) (grown : Grown base world)
    (spared : Spared capabilities base record world) (distinct : world.store.Distinct)
    (read : world.store.get id = .ok execution) (unended : execution.status.isFinal = false)
    (offered : Offered (execution.ended .cancelled world.clock) world taken left) :
    Spared capabilities base record left := by
  rcases spared with member | dismissed
  · by_cases named : execution.id = record.id
    · have same : execution = record :=
        distinct.unique (Store.mem_of_get read).1 member named
      subst same
      cases offered with
      | taken saved =>
        obtain ⟨new, kept, recorded, -, log⟩ := Store.cancelled_record distinct member saved
        rw [grown.clock] at recorded
        refine .inr ⟨meddling, ?_, new, kept, recorded, log⟩
        rw [← grown.clock]
        exact grown.mem_since rfl
      | refused => exact .inl member
    · have apart : (execution.ended .cancelled world.clock).id ≠ record.id := named
      exact .inl (offered.mem member apart)
  · exact .inr (dismissed.cancelled distinct read unended offered)

variable (distinct : base.store.Distinct)
include distinct

/-- That a record was cancelled withstands the turns of other executions. -/
theorem Dismissed.withstands (engine : Engine) (record : Execution String) :
    Withstands engine record.id fun world =>
      Grown base world ∧ Dismissed engine.capabilities base record world := by
  constructor
  · intro before after astir held
    refine @Stirred.keep before after (fun world => Grown base world ∧
      Dismissed engine.capabilities base record world) astir.stirred ?_ ?_ held
    · rintro before after same ⟨grown, dismissed⟩
      exact ⟨grown.beside same, dismissed.beside same⟩
    · rintro before after id execution taken read unended offered ⟨grown, dismissed⟩
      exact ⟨grown.offered offered,
        dismissed.cancelled (grown.distinct distinct) read unended offered⟩
  · rintro execution before taken after apart offered ⟨grown, dismissed⟩
    exact ⟨grown.offered offered, dismissed.offered apart offered⟩

/-- That a record is as it was, or was cancelled, withstands the turns of other executions. -/
theorem Spared.withstands (engine : Engine) (record : Execution String) :
    Withstands engine record.id fun world =>
      Grown base world ∧ Spared engine.capabilities base record world := by
  constructor
  · intro before after astir held
    by_cases aloof : engine.capabilities.Aloof
    · have calm := astir.calm aloof
      exact ⟨held.1.beside calm, held.2.beside calm⟩
    refine @Stirred.keep before after (fun world => Grown base world ∧
      Spared engine.capabilities base record world) astir.stirred ?_ ?_ held
    · rintro before after same ⟨grown, spared⟩
      exact ⟨grown.beside same, spared.beside same⟩
    · rintro before after id execution taken read unended offered ⟨grown, spared⟩
      exact ⟨grown.offered offered,
        spared.cancelled aloof grown (grown.distinct distinct) read unended offered⟩
  · rintro execution before taken after apart offered ⟨grown, spared⟩
    exact ⟨grown.offered offered, spared.offered apart offered⟩

end Spared

/-- A record that was cancelled is read as cancelled. -/
theorem Dismissed.read {capabilities : Capabilities}
    (dismissed : Dismissed capabilities base record world) (distinct : world.store.Distinct) :
    ∃ final, world.store.get record.id = .ok final ∧ final.status = .cancelled := by
  obtain ⟨final, stays, recorded, -⟩ := dismissed.ended
  have found := distinct.get stays
  rw [recorded.id] at found
  exact ⟨final, found, recorded.status⟩

/-- A record that is as it was, or was cancelled, is held with its log. -/
theorem Spared.logs {capabilities : Capabilities}
    (spared : Spared capabilities base record world) (counted : record.version ≠ 0) :
    world.store.Logs record record.log := by
  rcases spared with member | dismissed
  · exact ⟨record, member, .refl record, .refl _ _⟩
  · obtain ⟨later, member, recorded, log⟩ := dismissed.ended
    refine ⟨later, member, ⟨recorded.id, recorded.flow, recorded.version counted,
      recorded.subject, recorded.createdAt, log ▸ List.prefix_rfl⟩, ?_⟩
    rw [log]
    exact .refl _ _

end World

end Parley
