import Parley.Proofs.Passes
import Parley.Proofs.Registrations

/-!
# What a call leaves alone

A call that concerns one subject leaves the records of all others as they are, and sends them
nothing. The one way around that are the outside parts: while an execution of the subject is in
hand they may ask for any execution to be cancelled. What such a call leaves is told from the world
in which it began, as a property that every step on an execution of the subject keeps.
-/

namespace Parley

open Parley.Computation World

namespace World

/-- All records of an id are of a subject. -/
def Belongs (world : World) (subject id : String) : Prop :=
  ∀ record ∈ world.store.records, record.id = id → record.subject = subject

/-- An origin is of a subject, and so are the records of its id. -/
structure Owns (world : World) (subject : String) (origin : Execution.Origin) : Prop where
  /-- It is of the subject. -/
  talks : origin.subject = subject
  /-- The records of its id are of the subject. -/
  belongs : world.Belongs subject origin.id

/-- While an execution of a subject is in hand, an outside part may ask for an id to be
cancelled. -/
def AsksFor (capabilities : Capabilities) (world : World) (subject id : String) : Prop :=
  ∃ origin, world.Owns subject origin ∧ capabilities.Asks origin id

/-- A record that had not ended was cancelled, because an outside part asked for it while an
execution of a subject was in hand. -/
structure Struck (capabilities : Capabilities) (subject : String) (base : World)
    (record : Execution String) (world : World) : Prop where
  /-- An outside part may ask for it. -/
  asked : AsksFor capabilities base subject record.id
  /-- It had not ended. -/
  unended : record.status.isFinal = false
  /-- It has ended, and its log tells nothing more. -/
  ended : ∃ later ∈ world.store.records,
    Store.Recorded (record.ended .cancelled base.clock) later ∧ later.log = record.log

/-- What is left of a world by calls that concern a subject. -/
structure Framed (capabilities : Capabilities) (subject : String) (base world : World) :
    Prop where
  /-- The time is the same. -/
  clock : world.clock = base.clock
  /-- The store is of the same kind. -/
  kind : world.store.inTables = base.store.inTables
  /-- Its records have distinct ids. -/
  distinct : world.store.Distinct
  /-- Ids that belong to the subject still do. -/
  owned : ∀ record ∈ world.store.records, base.Belongs subject record.id → record.subject = subject
  /-- Records of other subjects are as they were, or were cancelled. -/
  others : ∀ record ∈ base.store.records, record.subject ≠ subject →
    record ∈ world.store.records ∨ Struck capabilities subject base record world
  /-- Requests to cancel others were not made unless an outside part asked. -/
  raised : ∀ record ∈ base.store.records, record.subject ≠ subject →
    ¬ AsksFor capabilities base subject record.id → world.raised record.id = base.raised record.id
  /-- All that was sent was sent to the subject. -/
  sends : ∃ more, world.sends = base.sends ++ more ∧ ∀ sending ∈ more, sending.subject = subject

section Framed

variable {engine : Engine} {capabilities : Capabilities} {subject : String}
  {base world left right : World} {execution record : Execution String} {id : String}

/-- An id that belongs to a subject is not that of a record of another. -/
theorem Belongs.apart (own : base.Belongs subject id) (member : record ∈ base.store.records)
    (differs : record.subject ≠ subject) : id ≠ record.id :=
  fun same => differs (own record member same.symm)

/-- The id of an execution that is found to wait for a subject belongs to the subject. -/
theorem belongs_waiting (distinct : world.store.Distinct) {waiting : Execution String}
    (found : world.store.findWaiting subject = .ok (some waiting)) :
    world.Belongs subject waiting.id := by
  obtain ⟨_, search, spec, -⟩ := Store.findWaiting_spec world.store subject
  obtain ⟨stands, talks, -⟩ := spec waiting (Except.ok.inj (search.symm.trans found))
  intro record member named
  rw [distinct.unique member stands named, talks]

namespace Framed

/-- Nothing has changed yet. -/
theorem refl (capabilities : Capabilities) (subject : String) (distinct : base.store.Distinct) :
    Framed capabilities subject base base :=
  ⟨rfl, rfl, distinct, fun record member own => own record member rfl,
    fun _ member _ => .inl member, fun _ _ _ _ => rfl, [], (List.append_nil _).symm, nofun⟩

/-- A record of another subject stays as it is, or stays cancelled, where the records of its id
stay. -/
theorem stays (framed : Framed capabilities subject base world)
    (member : record ∈ base.store.records) (differs : record.subject ≠ subject)
    (keeps : ∀ later ∈ world.store.records, later.id = record.id → later ∈ left.store.records) :
    record ∈ left.store.records ∨ Struck capabilities subject base record left := by
  rcases framed.others record member differs with
    here | ⟨asked, unended, later, here, recorded, log⟩
  · exact .inl (keeps record here rfl)
  · exact .inr ⟨asked, unended, later, keeps later here recorded.id, recorded, log⟩

/-- What is beside time, store, requests to cancel and calls of the sender may change. -/
theorem congr (framed : Framed capabilities subject base world)
    (sameClock : left.clock = world.clock) (sameStore : left.store = world.store)
    (sameSignals : left.signals = world.signals) (sameSends : left.sends = world.sends) :
    Framed capabilities subject base left := by
  have others := fun record member differs =>
    @stays capabilities subject base world left record framed member differs
      fun later here _ => sameStore ▸ here
  obtain ⟨clock, kind, distinct, owned, -, raised, sends⟩ := framed
  rw [← sameStore] at kind distinct owned
  refine ⟨sameClock.trans clock, kind, distinct, owned, others, ?_, sameSends ▸ sends⟩
  unfold World.raised at *
  rw [sameSignals]
  exact raised

/-- The sender may be called for the subject. -/
theorem sent (framed : Framed capabilities subject base world) {sending : Sending}
    (own : sending.subject = subject) : Framed capabilities subject base (world.sent sending) := by
  obtain ⟨more, grown, owned⟩ := framed.sends
  refine ⟨framed.clock, framed.kind, framed.distinct, framed.owned,
    fun record member differs => framed.stays member differs fun _ here _ => here, framed.raised,
    more ++ [sending], ?_, List.forall_mem_append.mpr ⟨owned, by simpa using own⟩⟩
  rw [World.sent, grown, List.append_assoc]

/-- An execution may be offered if the records of other subjects stay, and its own does not become
one of another subject. -/
theorem offers {taken : Bool} (framed : Framed capabilities subject base world)
    (own : base.Belongs subject execution.id → execution.subject = subject)
    (others : ∀ record ∈ base.store.records, record.subject ≠ subject →
      record ∈ left.store.records ∨ Struck capabilities subject base record left)
    (offered : Offered execution world taken left) :
    Framed capabilities subject base left := by
  cases offered with
  | refused =>
    exact ⟨framed.clock, framed.kind, framed.distinct, framed.owned, others, framed.raised,
      framed.sends⟩
  | taken saved =>
    obtain ⟨kind, -, -, new, -, recorded, -, records⟩ := Store.save_records saved
    refine ⟨framed.clock, kind.trans framed.kind, framed.distinct.save saved, ?_, others,
      framed.raised, framed.sends⟩
    intro record member mine
    simp only [records] at member
    rcases Store.mem_rewritten member with rfl | ⟨old, -⟩
    · rw [recorded.subject]
      exact own (recorded.id ▸ mine)
    · exact framed.owned record old mine

/-- An execution of the subject may be offered. -/
theorem offered {taken : Bool} (framed : Framed capabilities subject base world)
    (own : base.Owns subject execution.origin) (offered : Offered execution world taken left) :
    Framed capabilities subject base left := by
  refine framed.offers (fun _ => own.talks) (fun record member differs => ?_) offered
  have apart : execution.id ≠ record.id := own.belongs.apart member differs
  exact framed.stays member differs fun later here named => offered.mem here (named ▸ apart)

/-- A record may be cancelled if it is of the subject or an outside part asked for it. -/
theorem cancelled {taken : Bool} (framed : Framed capabilities subject base world)
    (stands : record ∈ world.store.records) (unended : record.status.isFinal = false)
    (allowed : base.Belongs subject record.id ∨ AsksFor capabilities base subject record.id)
    (offered : Offered (record.ended .cancelled world.clock) world taken left) :
    Framed capabilities subject base left := by
  have own : base.Belongs subject (record.ended .cancelled world.clock).id →
      (record.ended .cancelled world.clock).subject = subject := framed.owned record stands
  refine framed.offers own (fun other member differs => ?_) offered
  -- A record of another subject is cancelled only if an outside part asked for it.
  by_cases same : record.id = other.id
  · have asked := allowed.resolve_left fun own => own.apart member differs same
    rcases framed.others other member differs with here | struck
    · obtain rfl := framed.distinct.unique here stands same.symm
      cases offered with
      | refused => exact .inl here
      | taken saved =>
        obtain ⟨new, kept, recorded, -, log⟩ :=
          Store.cancelled_record framed.distinct here saved
        rw [framed.clock] at recorded
        exact .inr ⟨asked, unended, new, kept, recorded, log⟩
    · -- It was cancelled before, so it has ended.
      obtain ⟨later, here, recorded, -⟩ := struck.ended
      obtain rfl := framed.distinct.unique here stands (recorded.id.trans same.symm)
      rw [recorded.status] at unended
      cases unended
  · have apart : (record.ended .cancelled world.clock).id ≠ other.id := same
    exact framed.stays member differs fun later here named => offered.mem here (named ▸ apart)

/-- Requests to cancel an execution may change if it is of the subject or an outside part asked for
it. -/
theorem signalled (framed : Framed capabilities subject base world)
    (allowed : base.Belongs subject id ∨ AsksFor capabilities base subject id)
    (sameClock : left.clock = world.clock) (sameStore : left.store = world.store)
    (sameSends : left.sends = world.sends)
    (raised : ∀ other, other ≠ id → left.raised other = world.raised other) :
    Framed capabilities subject base left := by
  have same : Framed capabilities subject base { left with signals := world.signals } :=
    framed.congr sameClock sameStore rfl sameSends
  refine ⟨same.clock, same.kind, same.distinct, same.owned, fun record member differs =>
    same.stays member differs fun _ here _ => here, fun record member differs unasked => ?_,
    same.sends⟩
  refine (raised record.id ?_).trans (framed.raised record member differs unasked)
  rintro rfl
  exact (allowed.resolve_right unasked).apart member differs rfl

/-- The request to cancel an execution may be made. -/
theorem raise (framed : Framed capabilities subject base world)
    (allowed : base.Belongs subject id ∨ AsksFor capabilities base subject id) :
    Framed capabilities subject base (world.raiseSignal id) :=
  framed.signalled allowed rfl rfl rfl fun other apart => by
    rw [raised_raiseSignal, if_neg apart]

/-- The request to cancel an execution may be closed. -/
theorem drop (framed : Framed capabilities subject base world)
    (allowed : base.Belongs subject id ∨ AsksFor capabilities base subject id) :
    Framed capabilities subject base (world.dropSignal id) :=
  framed.signalled allowed rfl rfl rfl fun other apart => by
    rw [raised_dropSignal, if_neg apart]

/-- An execution may be saved if what is offered may be. -/
theorem saves (engine : Engine)
    (offers : ∀ {taken left}, Offered execution world taken left →
      Framed capabilities subject base left) :
    Alike (Alone (Framed capabilities subject base)) (Desk.save engine execution world)
      (Desk.save engine execution world) := by
  obtain ⟨taken, offered⟩ := Desk.save_after engine execution world
  exact alike_alone (offers offered)

/-- An execution of the subject may be made under a new id. -/
theorem made (framed : Framed capabilities subject base world) {store : Store String}
    (own : execution.subject = subject) (created : world.store.create execution = .ok store) :
    Framed capabilities subject base { world with store } ∧ base.Belongs subject execution.id := by
  obtain ⟨kind, unused, new, recorded, -, records⟩ := Store.create_records created
  have stands {record : Execution String} (here : record ∈ world.store.records) :
      record ∈ store.records := by
    rw [records]
    exact List.mem_append_left _ here
  refine ⟨⟨framed.clock, kind.trans framed.kind, framed.distinct.create created, ?_,
    fun record member differs => framed.stays member differs fun _ here _ => stands here,
    framed.raised, framed.sends⟩, fun record member named => ?_⟩
  · intro record member mine
    simp only [records, List.mem_append, List.mem_singleton] at member
    rcases member with here | rfl
    · exact framed.owned record here mine
    · exact recorded.subject.trans own
  · by_contra differs
    refine unused (named ▸ ?_)
    rcases framed.others record member differs with here | struck
    · exact List.mem_map_of_mem here
    · obtain ⟨later, here, recorded, -⟩ := struck.ended
      exact List.mem_map.mpr ⟨later, here, recorded.id⟩

end Framed

/-- Calls that concern a subject are made on firm ground. -/
theorem framed_footing (mine : String → Prop) :
    Desk.Footing mine fun _ _ => Alone (Framed capabilities subject base) where
  clock related := congrArg World.clock related.1
  enters _ related := by
    obtain ⟨rfl, framed⟩ := related
    exact ⟨rfl, framed.congr rfl rfl rfl rfl⟩
  leaves _ _ related := by
    obtain ⟨rfl, framed⟩ := related
    exact ⟨rfl, framed.congr rfl rfl rfl rfl⟩
  holds _ related := by
    obtain ⟨rfl, framed⟩ := related
    exact ⟨rfl, framed.congr rfl rfl rfl rfl⟩
  frees _ _ related := by
    obtain ⟨rfl, framed⟩ := related
    exact ⟨rfl, framed.congr rfl rfl rfl rfl⟩
  reads _ related := by rw [related.1]

/-- An execution may be cancelled if it is of the subject or an outside part asked for it. -/
theorem framed_cancels (engine : Engine)
    (allowed : base.Belongs subject id ∨ AsksFor capabilities base subject id) :
    Parallel (Alone (Framed capabilities subject base)) (Desk.cancel engine id) := by
  refine Desk.cancel_parallel (framed_footing fun _ => True) trivial (fun related => ?_)
    (fun related => ?_) (fun related read unended => ?_) .empty .empty
  · obtain ⟨rfl, framed⟩ := related
    exact ⟨rfl, framed.raise allowed⟩
  · obtain ⟨rfl, framed⟩ := related
    exact ⟨rfl, framed.drop allowed⟩
  · obtain ⟨rfl, framed⟩ := related
    obtain ⟨stands, named⟩ := Store.mem_of_get read
    exact Framed.saves engine fun offered =>
      framed.cancelled stands unended (named.symm ▸ allowed) offered

/-- Work on executions of a subject keeps to its frame. -/
theorem framed_like (stored : engine.keeping = .stored) (base : World) (subject : String) :
    Likeness engine (base.Owns subject) (Alone (Framed engine.capabilities subject base)) where
  stored := stored
  clock related := congrArg World.clock related.1
  stepping related := congrArg World.stepping related.1
  closed related := congrArg World.closed related.1
  noted effect related := by
    obtain ⟨rfl, framed⟩ := related
    exact ⟨rfl, framed.congr rfl rfl rfl rfl⟩
  reacts _ _ related := by rw [related.1]
  sent _ _ own related := by
    obtain ⟨rfl, framed⟩ := related
    exact ⟨rfl, framed.sent own.talks⟩
  replies _ related := by rw [related.1]
  generated related := by
    obtain ⟨rfl, framed⟩ := related
    exact ⟨rfl, framed.congr rfl rfl rfl rfl⟩
  finds _ related := by rw [related.1]
  retrieved related := by
    obtain ⟨rfl, framed⟩ := related
    exact ⟨rfl, framed.congr rfl rfl rfl rfl⟩
  numbers _ related := by rw [related.1]
  called _ related := by
    obtain ⟨rfl, framed⟩ := related
    exact ⟨rfl, framed.congr rfl rfl rfl rfl⟩
  saved own := by
    rintro _ world ⟨rfl, framed⟩
    exact Framed.saves engine fun offered => framed.offered own offered
  cancelled own asks := framed_cancels engine (.inr ⟨_, own, asks⟩)

/-- Guarded work on executions of a subject keeps to its frame. -/
theorem framed_guards (stored : engine.keeping = .stored) (own : base.Belongs subject id) :
    Desk.Guards engine (base.Owns subject) id (Alone (Framed engine.capabilities subject base))
      (Alone (Framed engine.capabilities subject base)) where
  like := framed_like stored base subject
  opens left right related := by
    obtain ⟨rfl, framed⟩ := related
    exact ⟨rfl, framed.signalled (.inl own) rfl rfl rfl fun other _ =>
      raised_openSignal right id other⟩
  rests left right related := by
    obtain ⟨rfl, framed⟩ := related
    exact ⟨rfl, framed.congr rfl rfl rfl rfl⟩
  reads left right related := by rw [related.1]
  owned left right record related read := by
    obtain ⟨rfl, framed⟩ := related
    obtain ⟨member, rfl⟩ := Store.mem_of_get read
    exact ⟨framed.owned record member own, own⟩
  ends left right record related _ _ _ := by
    obtain ⟨rfl, framed⟩ := related
    exact ⟨rfl, framed.drop (.inl own)⟩
  stays left right related _ _ := related

/-- Guarded work on an execution of a subject keeps to its frame. -/
theorem framed_guarded (stored : engine.keeping = .stored)
    (own : base.Owns subject execution.origin) {work : Run Status}
    (works : ∀ {own rel}, Likeness engine own rel → Parallel (Session.Alike own rel) work)
    (related : Alone (Framed engine.capabilities subject base) left right) :
    Alike (Alone (Framed engine.capabilities subject base))
      (Desk.guarded engine execution work left) (Desk.guarded engine execution work right) :=
  Desk.guarded_parallel (framed_guards stored own.belongs) own
    (works (framed_like stored base subject)) left right related

/-- Replies of a subject keep to its frame. -/
theorem framed_ties (stored : engine.keeping = .stored) (base : World) (subject : String) :
    Desk.Ties engine (base.Belongs subject) fun _ _ =>
      Alone (Framed engine.capabilities subject base) where
  toFooting := framed_footing _
  flows _ related _ := by rw [related.1]
  keeps {_ _ left right id record} reply own related read _ := by
    obtain ⟨rfl, framed⟩ := related
    obtain ⟨member, rfl⟩ := Store.mem_of_get read
    refine Framed.saves engine fun offered => framed.offered ?_ offered
    exact ⟨framed.owned record member own, own⟩
  rouses {_ _ left right id record graph} vars label reason reply own related read _ _ := by
    obtain ⟨member, rfl⟩ := Store.mem_of_get read
    refine framed_guarded stored ?_ (fun like => Tick.resume_parallel like graph _ _ reply true)
      related
    exact ⟨related.2.owned record (related.1 ▸ member) own, own⟩

/-- Executions that are made for a subject keep to its frame. -/
theorem framed_births (stored : engine.keeping = .stored) (base : World) (subject : String) :
    Desk.Births engine (· = subject) fun _ _ =>
      Alone (Framed engine.capabilities subject base) where
  store related := by rw [related.1]
  flows related := by rw [related.1]
  created related := by rw [related.1]
  counts related := by
    obtain ⟨rfl, framed⟩ := related
    exact ⟨rfl, framed.congr rfl rfl rfl rfl⟩
  begins {_ _ left right _ graph version key vars id store} own related _ created := by
    obtain ⟨rfl, framed⟩ := related
    obtain ⟨made, belongs⟩ := framed.made own created
    have owns : base.Owns subject (Execution.new id graph.id version key vars right.clock).origin :=
      ⟨own, belongs⟩
    have entered : Alone (Framed engine.capabilities subject base)
        { right with store, executions := right.executions.enter id }
        { right with store, executions := right.executions.enter id } :=
      ⟨rfl, made.congr rfl rfl rfl rfl⟩
    refine Desk.holdingExecution_alike entered ?_ fun held other _ _ related => ?_
    · rintro left _ ⟨rfl, framed⟩
      exact ⟨rfl, framed.congr rfl rfl rfl rfl⟩
    exact framed_guarded stored owns (fun like => Tick.start_parallel like graph true) related

end Framed

end World

namespace Call

/-- A call concerns a subject: it starts an execution for it, routes its reply, or cancels an
execution of it. -/
inductive Concerns (world : World) (subject : String) : Call → Prop where
  /-- It starts an execution for the subject. -/
  | start (flow : String) {key : Value} (vars : Value) (own : Subject.ofValue key = subject) :
    Concerns world subject (.start flow key vars)
  /-- It routes a reply of the subject. -/
  | inbound {key : Value} (reply : Value) (own : Subject.ofValue key = subject) :
    Concerns world subject (.inbound key reply)
  /-- It cancels an execution of the subject. -/
  | cancel {id : String} (own : world.Belongs subject id) : Concerns world subject (.cancel id)

/-- A call that concerns a subject keeps to its frame. -/
theorem perform_framed {engine : Engine} {call : Call} {world : World} {subject : String}
    (distinct : world.store.Distinct) (concerns : call.Concerns world subject) :
    Framed engine.capabilities subject world (after (call.perform engine) world) := by
  have framed : Framed engine.capabilities subject world world := .refl _ _ distinct
  have ties := framed_ties engine.atDesk_keeping world subject
  cases concerns with
  | start flow vars own =>
    rw [perform, after_thenPure]
    exact (Desk.start_parallel ties.toFooting (framed_births engine.atDesk_keeping world subject)
      .empty .empty flow _ vars own).keeps framed
  | inbound reply own =>
    rw [perform, after_thenPure]
    subst own
    exact (Desk.inbound_alike ties .empty .empty ⟨rfl, framed⟩ rfl
      (fun _ found => belongs_waiting distinct found) reply).after.2
  | cancel own =>
    rw [perform, after_thenPure]
    exact (framed_cancels engine.atDesk (.inl own)).keeps framed

end Call

end Parley
