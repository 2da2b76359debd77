import Parley.Proofs.Deliveries
import Parley.Proofs.Expiry
import Parley.Proofs.Tidiness

/-!
# What was sent is what the logs tell

Every call of the sender is made for a stored execution and its subject, and the log of a record
tells the texts of the calls that returned. Working on one execution adds to its log and to its
calls alike; the logs of all others stay, even if they are cancelled meanwhile.
-/

namespace Parley

open Parley.Computation World

/-- The records of a store tell, under the flows, the texts for which the sender returned, and all
calls of it were made for records and their subjects. -/
structure Store.Accounted (store : Store String) (flows : Flow.Registry) (sends : List Sending) :
    Prop where
  /-- The ids of the records are distinct. -/
  distinct : store.Distinct
  /-- The records tell the texts for which the sender returned. -/
  told : ∀ record ∈ store.records, ∃ graph, flows.get record.flow record.version = .ok graph ∧
    graph.Reports record.log (returned sends record.id)
  /-- The sender was called for records and their subjects. -/
  sent : ∀ sending ∈ sends, ∃ record ∈ store.records,
    record.id = sending.execution ∧ record.subject = sending.subject

namespace World

variable {engine : Engine} {base world left : World} {record execution handed : Execution String}
  {graph : Flow.Graph} {more : List Sending}

/-- The store holds the log of what is in hand after work, if it took all that it was given. -/
theorem Holds.works {α : Type} {result : EStateM.Result Failure Session α}
    (distinct : base.store.Distinct) (stored : engine.keeping = .stored)
    (counted : record.version ≠ 0) (holds : Holds base record execution.log world)
    (continues : record.Continues execution) (went : execution.Continues handed)
    (works : Tick.Works engine graph handed world result) (taken : (leftBy result).world.Taken) :
    Holds base record (leftBy result).execution.log (leftBy result).world := by
  cases works with
  | @taken stirred left result stir kept tours =>
    have begun := holds.kept distinct stored counted continues went stir kept
    have onward := continues.trans went
    cases tours with
    | rested rounds rests => exact (begun.rounds distinct stored counted rounds onward).1
    | @failed steps middle left failure rounds runs round =>
      have met := (begun.rounds distinct stored counted rounds onward).1
      cases round with
      | lost missing => exact met
      | refused round stir kept raised =>
        exact absurd taken (kept.offer stored).not_taken
  | refused stir kept raised => exact absurd taken (kept.offer stored).not_taken

/-- The log of a record came to tell some texts since a base. -/
structure Telling (base : World) (record : Execution String) (graph : Flow.Graph)
    (texts : List String) (world : World) : Prop where
  /-- The rest of the world is as it may be. -/
  grown : Grown base world
  /-- The record went on, and its log tells the texts. -/
  tells : ∃ later ∈ world.store.records, record.Continues later ∧ graph.Reports later.log texts

namespace Telling

variable {texts : List String}

/-- What is beside the executions may change. -/
theorem beside (telling : Telling base record graph texts world) (same : Beside world left) :
    Telling base record graph texts left := by
  refine ⟨telling.grown.beside same, ?_⟩
  rw [same.store]
  exact telling.tells

/-- Noting a failure tells no texts. -/
theorem noted (distinct : base.store.Distinct) (telling : Telling base record graph texts world)
    {failure : Failure} (noted : Desk.Noted record.id failure world left) :
    Telling base record graph texts left := by
  cases noted with
  | spared => exact telling
  | @crashed running taken left read runs offered =>
    refine ⟨telling.grown.offered offered, ?_⟩
    obtain ⟨later, member, continues, reports⟩ := telling.tells
    cases offered with
    | refused => exact ⟨later, member, continues, reports⟩
    | taken saved =>
      have stays := telling.grown.distinct distinct
      obtain ⟨listed, named⟩ := Store.mem_of_get read
      obtain rfl : later = running := stays.unique member listed (continues.id.trans named.symm)
      have told : graph.Reports (later.crashed failure world.clock).log texts := by
        unfold Execution.crashed Execution.blamed
        cases later.node with
        | none => exact reports
        | some node =>
          have silent : graph.Reports [⟨some node, .nodeError, some world.clock.text,
              some (.dict [(.text "error", .text failure.kind),
                (.text "message", .text failure.message)])⟩] [] :=
            .none fun entry member => by rw [List.mem_singleton.mp member]; rfl
          have told := reports.append silent
          rwa [List.append_nil] at told
      have backs := (Store.Backs.refl member).continues
        (later.crashed_continues failure world.clock)
      obtain ⟨new, -, went, keeps, -, records⟩ := backs.saved stays member saved
      refine ⟨new, ?_, continues.trans went, told.echoes keeps.echoes⟩
      simp only [records]
      exact Store.mem_rewritten_self member went.id.symm

end Telling

end World

namespace Store.Accounted

variable {engine : Engine} {base world : World} {record : Execution String} {more : List Sending}

/-- What the sender was called for is told after a call of the desk if that adds to the log of every
record what it sends for it. -/
theorem grows (accounted : Accounted base.store base.flows base.sends) (grown : Grown base world)
    (sends : world.sends = base.sends ++ more)
    (kept : ∀ record ∈ base.store.records, ∀ graph,
      base.flows.get record.flow record.version = .ok graph →
      graph.Reports record.log (returned base.sends record.id) →
      ∃ later ∈ world.store.records, record.Continues later ∧
        graph.Reports later.log (returned base.sends record.id ++ returned more record.id))
    (mine : ∀ sending ∈ more, ∃ record ∈ base.store.records,
      record.id = sending.execution ∧ record.subject = sending.subject) :
    Accounted world.store world.flows world.sends := by
  have distinct := grown.distinct accounted.distinct
  refine ⟨distinct, fun record member => ?_, fun sending member => ?_⟩
  · obtain ⟨old, listed, named⟩ : ∃ old ∈ base.store.records, old.id = record.id :=
      List.mem_map.mp (grown.ids ▸ List.mem_map_of_mem member)
    obtain ⟨graph, had, reports⟩ := accounted.told old listed
    obtain ⟨later, here, continues, told⟩ := kept old listed graph had reports
    obtain rfl : later = record := distinct.unique here member (continues.id.trans named)
    refine ⟨graph, ?_, ?_⟩
    · rw [grown.flows, continues.flow, continues.version]
      exact had
    · rw [sends, returned_append, continues.id]
      exact told
  · rw [sends] at member
    obtain ⟨old, listed, named, talks⟩ : ∃ old ∈ base.store.records,
        old.id = sending.execution ∧ old.subject = sending.subject :=
      (List.mem_append.mp member).elim (accounted.sent sending) (mine sending)
    obtain ⟨graph, had, reports⟩ := accounted.told old listed
    obtain ⟨later, here, continues, -⟩ := kept old listed graph had reports
    exact ⟨later, here, continues.id.trans named, continues.subject.trans talks⟩

/-- What the sender was called for is told as long as it is not called and the logs are held. -/
theorem rests (accounted : Accounted base.store base.flows base.sends) (grown : Grown base world)
    (sends : world.sends = base.sends)
    (holds : ∀ record ∈ base.store.records, world.store.Logs record record.log) :
    Accounted world.store world.flows world.sends := by
  have same : world.sends = base.sends ++ [] := by rw [sends, List.append_nil]
  refine accounted.grows grown same ?_ nofun
  intro record member graph had reports
  obtain ⟨later, here, continues, keeps⟩ := holds record member
  refine ⟨later, here, continues, ?_⟩
  rw [show returned [] record.id = [] from rfl, List.append_nil]
  exact reports.echoes keeps.echoes

variable {store left : Store String} {flows : Flow.Registry} {sends : List Sending}

/-- Registering a flow leaves what is told. -/
theorem add (accounted : store.Accounted flows sends) (graph : Flow.Graph) :
    store.Accounted (flows.add graph) sends := by
  refine ⟨accounted.distinct, fun record member => ?_, accounted.sent⟩
  obtain ⟨other, had, reports⟩ := accounted.told record member
  exact ⟨other, Flow.Registry.get_add had graph, reports⟩

/-- Nothing was sent for an execution that is made. -/
theorem create (accounted : store.Accounted flows sends) {made : Execution String}
    (created : store.create made = .ok left)
    (known : ∀ record ∈ left.records, record.id = made.id →
      record.log = [] ∧ ∃ graph, flows.get record.flow record.version = .ok graph) :
    left.Accounted flows sends := by
  obtain ⟨-, unused, new, recorded, -, records⟩ := create_records created
  refine ⟨accounted.distinct.create created, fun record listed => ?_, fun sending sent => ?_⟩
  · have within := listed
    rw [records, List.mem_append, List.mem_singleton] at listed
    rcases listed with before | rfl
    · exact accounted.told record before
    · obtain ⟨empty, graph, had⟩ := known record within recorded.id
      have unsent : returned sends record.id = [] := by
        refine returned_of_apart fun sending sent same => ?_
        obtain ⟨old, before, talks, -⟩ := accounted.sent sending sent
        exact unused (List.mem_map.mpr ⟨old, before, talks.trans (same.trans recorded.id)⟩)
      refine ⟨graph, had, ?_⟩
      rw [empty, unsent]
      exact .none nofun
  · obtain ⟨old, before, talks⟩ := accounted.sent sending sent
    exact ⟨old, by simp [records, before], talks⟩

end Store.Accounted

/-- The record of an execution that is made tells nothing, and its flow is registered. -/
theorem Store.record_of_create {store left : Store String} {flows : Flow.Registry}
    {flow id key : String} {graph : Flow.Graph} {version : Nat} {vars : Variables}
    {now : Time.Moment} (sound : flows.Sound) (newest : flows.latest flow = .ok (graph, version))
    (created : store.create (.new id graph.id version key vars now) = .ok left) :
    ∃ record ∈ left.records, record.log = [] ∧
      flows.get record.flow record.version = .ok graph ∧
      record.Continues (.new id graph.id version key vars now) ∧
      ∀ other ∈ left.records, other.id = id → other = record := by
  obtain ⟨counts, had⟩ := Flow.Registry.get_latest newest
  have named : graph.id = flow := (sound flow graph (Flow.Registry.mem_of_get had)).2
  obtain ⟨-, unused, new, recorded, keeps, records⟩ := create_records created
  have empty : new.log = [] := List.forall₂_nil_right_iff.mp keeps.echoes
  have numbered : new.version = version := recorded.version (by simp only [Execution.new]; omega)
  refine ⟨new, by simp [records], empty, ?_, ?_, fun other member same => ?_⟩
  · rw [recorded.flow, numbered]
    exact (congrArg (flows.get · version) named).trans had
  · exact ⟨recorded.id.symm, recorded.flow.symm, numbered.symm, recorded.subject.symm,
      recorded.createdAt.symm, empty ▸ List.nil_prefix⟩
  · rw [records, List.mem_append, List.mem_singleton] at member
    refine member.resolve_left fun before => unused ?_
    exact List.mem_map.mpr ⟨other, before, same⟩

/-- The flows keep the rules, and what the sender was called for is told if the store took all that
it was given. -/
structure World.Accounting (world : World) : Prop where
  /-- The flows keep the rules. -/
  sound : world.flows.Sound
  /-- What the sender was called for is told. -/
  told : world.Taken → world.store.Accounted world.flows world.sends

namespace Desk

/-- Work that was guarded leaves the requests to save. -/
theorem Guarded.saves {id : String} {result : EStateM.Result Failure Session Status}
    {left : World} (guards : Guarded id result left) :
    (leftBy result).world.saves <+: left.saves := by
  cases guards with
  | rested same => exact same.saves ▸ List.prefix_rfl
  | @failed failure session closed noted left before noting same =>
    have later : closed.saves <+: noted.saves := by
      cases noting with
      | spared => exact List.prefix_rfl
      | crashed _ _ offered => exact offered.prefix
    rw [same.saves]
    exact before.saves ▸ later

variable {engine : Engine} (stored : engine.keeping = .stored) {base : World}

/-- The sender is called no more once guarded work is done. -/
theorem guarded_sends (engine : Engine) (execution : Execution String) (work : Run Status)
    (world : World) :
    (after (guarded engine execution work) world).sends =
      (leftBy (work ⟨execution, opened execution.id world⟩)).world.sends := by
  have released (world : World) :
      (after (releaseIfFinal execution.id) world).sends = world.sends := by
    unfold releaseIfFinal
    rw [after_bind_of_ok (attempt_read execution.id world)]
    cases world.store.get execution.id with
    | error failure => rfl
    | ok record => cases final : record.status.isFinal <;> simp only [final] <;> rfl
  unfold after at released ⊢
  rw [guarded_apply]
  cases work ⟨execution, opened execution.id world⟩ with
  | ok status session => exact released _
  | error failure session =>
    obtain ⟨noted, recorded, noting⟩ := failStored_noted engine execution.id failure
      { session.world with stepping := none }
    have kept : noted.sends = session.world.sends := by
      cases noting with
      | spared => rfl
      | crashed read runs offered => cases offered <;> rfl
    dsimp only
    rw [bind_of_ok recorded, released noted]
    exact kept

include stored

/-- Guarded work leaves flows, ids and requests to save. -/
theorem guarded_grown {graph : Flow.Graph} {execution handed : Execution String}
    {work : Run Status} (went : execution.Continues handed)
    (works : ∀ held, Beside base held →
      Tick.Works engine graph handed held (work ⟨execution, held⟩)) :
    Grown base (after (guarded engine execution work) base) := by
  -- What is left is that of no one execution, so any other name will do.
  have apart : execution.id ≠ execution.id ++ "-" := fun same => by
    simpa using congrArg String.length same
  exact (Grown.withstands engine base (execution.id ++ "-")).guarded stored works went.id apart
    (.refl base)

/-- Guarded work on the execution of a record adds to its log what it sends for it. -/
theorem guarded_telling (distinct : base.store.Distinct)
    {record execution handed : Execution String} {graph : Flow.Graph} {work : Run Status}
    (member : record ∈ base.store.records) (continues : record.Continues execution)
    (log : execution.log = record.log) (went : execution.Continues handed)
    (works : ∀ held, Beside base held →
      Tick.Works engine graph handed held (work ⟨execution, held⟩))
    (accounts : Along (Session.Accounts graph) work)
    (told : graph.Reports record.log (returned base.sends record.id))
    (taken : (after (guarded engine execution work) base).Taken) :
    ∃ more, (after (guarded engine execution work) base).sends = base.sends ++ more ∧
      (∀ sending ∈ more, sending.execution = record.id ∧ sending.subject = record.subject) ∧
      Telling base record graph (returned base.sends record.id ++ returned more record.id)
        (after (guarded engine execution work) base) := by
  have opening : Beside base (opened execution.id base) := ⟨rfl, rfl, rfl, rfl⟩
  obtain ⟨left, done, guards⟩ := guarded_left engine execution work base
  have sends := guarded_sends engine execution work base
  have worked := works _ opening
  obtain ⟨-, added, more, gained, grew, mine, reports⟩ :=
    accounts ⟨execution, opened execution.id base⟩
  rw [after_of_ok done] at sends taken ⊢
  have ended : after work ⟨execution, opened execution.id base⟩ =
      leftBy (work ⟨execution, opened execution.id base⟩) := by
    unfold after leftBy
    cases work ⟨execution, opened execution.id base⟩ <;> rfl
  rw [ended] at gained grew
  rw [continues.id] at reports
  refine ⟨more, sends.trans grew, by rw [← continues.id, ← continues.subject]; exact mine, ?_⟩
  have held : Holds base record execution.log (opened execution.id base) := by
    rw [log]
    exact (Holds.refl member).beside opening
  have whole := held.works distinct stored (Store.version_ne_zero member) continues went worked
    fun save listed => taken save (guards.saves.subset listed)
  obtain ⟨later, here, onward, keeps⟩ := whole.logs
  rw [gained, log] at keeps
  have reached : Telling base record graph
      (returned base.sends record.id ++ returned more record.id)
      (leftBy (work ⟨execution, opened execution.id base⟩)).world :=
    ⟨whole.grown, later, here, onward, (told.append reports).echoes keeps.echoes⟩
  -- What is noted of a failure tells no texts, and closing the request changes no log.
  generalize work ⟨execution, opened execution.id base⟩ = result at guards reached
  cases guards with
  | rested same => exact reached.beside same
  | failed before noting same =>
    rw [continues.id] at noting
    exact ((reached.beside before).noted distinct noting).beside same

/-- Guarded work on an execution keeps what the sender was called for told. -/
theorem guarded_accounts (accounting : Accounting base)
    {record execution handed : Execution String} {graph : Flow.Graph} {work : Run Status}
    (member : record ∈ base.store.records) (continues : record.Continues execution)
    (log : execution.log = record.log) (went : execution.Continues handed)
    (had : base.flows.get record.flow record.version = .ok graph)
    (works : ∀ held, Beside base held →
      Tick.Works engine graph handed held (work ⟨execution, held⟩))
    (accounts : Along (Session.Accounts graph) work) :
    Accounting (after (guarded engine execution work) base) := by
  have onward := guarded_grown stored went works
  refine ⟨onward.flows ▸ accounting.sound, fun taken => ?_⟩
  have accounted := accounting.told fun save listed => taken save (onward.saves.subset listed)
  have distinct := accounted.distinct
  obtain ⟨known, same, told⟩ := accounted.told record member
  obtain rfl : known = graph := Except.ok.inj (same.symm.trans had)
  obtain ⟨more, sends, mine, telling⟩ := guarded_telling stored distinct member continues log went
    works accounts told taken
  refine accounted.grows telling.grown sends (fun other listed graph otherHad otherTells => ?_)
    fun sending sent => ⟨record, member, (mine sending sent).1.symm, (mine sending sent).2.symm⟩
  -- The log of the record gains what was sent for it; the logs of all others are held.
  by_cases same : other.id = record.id
  · obtain rfl := distinct.unique listed member same
    obtain rfl : known = graph := Except.ok.inj (had.symm.trans otherHad)
    exact telling.tells
  · have apart : execution.id ≠ other.id := fun named => same (named.symm.trans continues.id)
    have held := (Holds.withstands distinct engine other other.log).guarded stored works
      went.id apart ⟨.refl base, other, listed, .refl other, .refl _ _⟩
    obtain ⟨later, here, onward, keeps⟩ := held.logs
    have silent : returned more other.id = [] := returned_of_apart fun sending sent named =>
      same (named.symm.trans (mine sending sent).1)
    refine ⟨later, here, onward, ?_⟩
    rw [silent, List.append_nil]
    exact otherTells.echoes keeps.echoes

end Desk

namespace World

section Accounting

variable {engine : Engine} {world : World} {record : Execution String}

/-- Cancelling an execution leaves what is told. -/
theorem Accounting.cancel (accounting : Accounting world) (engine : Engine) (id : String) :
    Accounting (after (Desk.cancel engine id) world) := by
  have stirs := Desk.cancel_stirs engine id world
  have grown : Grown world (after (Desk.cancel engine id) world) :=
    stirs.keep (fun same grown => grown.beside same)
      (fun _ _ offered grown => grown.offered offered) (.refl world)
  refine ⟨grown.flows ▸ accounting.sound, fun taken => ?_⟩
  have accounted := accounting.told fun save member => taken save (grown.saves.subset member)
  exact accounted.rests grown (Desk.cancel_sends engine id world) fun record member =>
    ((Holds.refl member).stirred accounted.distinct stirs).logs

/-- Saving a record that goes on without telling more leaves what is told. -/
theorem Accounting.save (accounting : Accounting world) {handed : Execution String}
    (member : record ∈ world.store.records) (went : record.Continues handed)
    (log : handed.log = record.log) :
    Accounting (after (Desk.save engine handed) world) := by
  obtain ⟨taken, offered⟩ := Desk.save_after engine handed world
  have sends := Desk.save_sends engine handed world
  generalize after (Desk.save engine handed) world = left at offered sends
  have grown := (Grown.refl world).offered offered
  refine ⟨grown.flows ▸ accounting.sound, fun took => ?_⟩
  have accounted := accounting.told fun save listed => took save (grown.saves.subset listed)
  refine accounted.rests grown sends fun other listed => ?_
  cases offered with
  | refused => exact (Holds.refl listed).logs
  | taken saved =>
    by_cases same : other.id = record.id
    · obtain rfl := accounted.distinct.unique listed member same
      rw [← log]
      exact (Holds.refl listed).logs.saved accounted.distinct (Store.version_ne_zero member)
        (.refl other) went saved
    · have apart : handed.id ≠ other.id := fun named => same (named.symm.trans went.id)
      exact (Holds.refl listed).logs.others apart saved

/-- Calls are made on firm ground in worlds in which what was sent is told. -/
theorem accounting_footing :
    Desk.Footing (fun _ => True) fun _ _ => Alone Accounting where
  clock related := congrArg World.clock related.1
  enters _ related := by
    obtain ⟨rfl, accounting⟩ := related
    exact ⟨rfl, accounting.sound, accounting.told⟩
  leaves _ _ related := by
    obtain ⟨rfl, accounting⟩ := related
    exact ⟨rfl, accounting.sound, accounting.told⟩
  holds _ related := by
    obtain ⟨rfl, accounting⟩ := related
    exact ⟨rfl, accounting.sound, accounting.told⟩
  frees _ _ related := by
    obtain ⟨rfl, accounting⟩ := related
    exact ⟨rfl, accounting.sound, accounting.told⟩
  reads _ related := by rw [related.1]

/-- What was sent is told as well after a call looked after waits. -/
theorem accounting_ties (stored : engine.keeping = .stored) :
    Desk.Ties engine (fun _ => True) fun _ _ => Alone Accounting where
  toFooting := accounting_footing
  flows _ related _ := by rw [related.1]
  keeps {_ _ left right id record} reply _ related read _ := by
    obtain ⟨rfl, accounting⟩ := related
    exact alike_alone (accounting.save (Store.mem_of_get read).1
      (record.set_continues _ right.clock) rfl)
  rouses {_ _ left right id record graph} vars label reason reply _ related read waits had := by
    obtain ⟨rfl, accounting⟩ := related
    let execution := { record with vars }
    have waiting : execution.status = .waiting := waits
    refine alike_alone (Desk.guarded_accounts stored accounting (Store.mem_of_get read).1
      (record.set_continues vars record.updatedAt) rfl
      (execution.resumed_continues graph label reason reply right.clock) had (fun held beside => ?_)
      (Tick.resume_accounts engine graph _ _ reply true))
    rw [← beside.clock]
    exact Tick.resume_works engine graph label reason reply true waiting held

/-- What was sent is told as well after an execution was made. -/
theorem accounting_births (stored : engine.keeping = .stored) :
    Desk.Births engine (fun _ => True) fun _ _ => Alone Accounting where
  store related := by rw [related.1]
  flows related := by rw [related.1]
  created related := by rw [related.1]
  counts related := by
    obtain ⟨rfl, accounting⟩ := related
    exact ⟨rfl, accounting.sound, accounting.told⟩
  begins {_ _ left right _ graph version key vars id store} _ related newest made := by
    obtain ⟨rfl, accounting⟩ := related
    obtain ⟨record, member, empty, had, continues, unique⟩ :=
      Store.record_of_create accounting.sound newest made
    let stood := { right with store }
    have born : Accounting stood := by
      refine ⟨accounting.sound, fun taken => (accounting.told taken).create made ?_⟩
      intro other listed same
      rw [unique other listed same]
      exact ⟨empty, graph, had⟩
    have entered : Alone Accounting { stood with executions := stood.executions.enter id }
        { stood with executions := stood.executions.enter id } := ⟨rfl, born.sound, born.told⟩
    refine Desk.holdingExecution_alike entered ?_ ?_
    · rintro left _ ⟨rfl, held⟩
      exact ⟨rfl, held.sound, held.told⟩
    rintro _ held beside - ⟨rfl, accounting⟩
    have running : (Execution.new id graph.id version key vars right.clock).status = .running := rfl
    rw [show store = _ from beside.store.symm] at member
    refine alike_alone (Desk.guarded_accounts stored accounting member continues empty.symm
      (Execution.movedTo_continues _ graph.start held.clock) ?_ (fun standing beside => ?_)
      (Tick.start_accounts engine graph true))
    · rw [beside.flows]
      exact had
    · rw [← beside.clock]
      exact Tick.start_works engine graph true running standing

end Accounting

end World

namespace Call

/-- What was sent is told as well after a call. -/
theorem perform_accounting (engine : Engine) (call : Call) {world : World}
    (accounting : Accounting world) : Accounting (after (call.perform engine) world) := by
  have ties := accounting_ties engine.atDesk_keeping
  cases call with
  | register definition =>
    rw [perform, after_thenPure, after, Desk.register_apply]
    cases loaded : Flow.load (engine.atDesk.capabilities.extensions.map Prod.fst) definition with
    | error failure => exact accounting
    | ok graph =>
      exact ⟨accounting.sound.add (Flow.load_sound loaded),
        fun taken => (accounting.told taken).add graph⟩
  | start flow subject vars =>
    rw [perform, after_thenPure]
    exact (Desk.start_parallel accounting_footing (accounting_births rfl) .empty .empty flow subject
      vars trivial).keeps accounting
  | inbound subject reply =>
    rw [perform, after_thenPure]
    exact (Desk.inbound_alike ties .empty .empty ⟨rfl, accounting⟩ rfl (fun _ _ => trivial)
      reply).after.2
  | expire now =>
    rw [perform, after_thenPure]
    exact (Desk.expire_parallel ties .empty .empty (fun _ => trivial) fun related => by
      rw [related.1]).keeps accounting
  | cancel id =>
    rw [perform, after_thenPure]
    exact accounting.cancel engine.atDesk id
  | wait moment => exact ⟨accounting.sound, accounting.told⟩

/-- What was sent is told as well after calls. -/
theorem runs_accounting (engine : Engine) (calls : List Call) {world : World}
    (accounting : Accounting world) : Accounting (runs engine calls world) := by
  induction calls generalizing world with
  | nil => exact accounting
  | cons call rest ih => exact ih (perform_accounting engine call accounting)

end Call

/-- What an entry tells under a name, if anything. -/
def Entry.detail (entry : Entry String) (name : String) : Option Value :=
  match entry.payload with
  | some (.dict entries) => Entries.text? entries name
  | _ => none

/-- What the entries of a log tell that tell of delivered messages. -/
theorem Flow.Graph.Reports.details {graph : Flow.Graph} {log : List (Entry String)}
    {texts : List String} (reports : graph.Reports log texts) :
    (log.filter graph.delivers).map (Entry.detail · "text") =
      texts.map fun text => some (.text text) := by
  unfold Reports at reports
  generalize log.filter graph.delivers = entries at reports
  induction reports with
  | nil => rfl
  | cons tells _ ih =>
    obtain ⟨entries, payload, -, found⟩ := tells
    rw [List.map_cons, List.map_cons, ih, Entry.detail, payload]
    exact congrArg (· :: _) found

/-- In every world that is reached over a store that took all that it was given, the ends of visits
of message nodes in the log of a record tell, in order, the texts for which the sender returned when
it was called for the execution; and every call of the sender was made for a record and its
subject. -/
theorem World.Reached.sendings_told {engine : Engine} {world : World}
    (reached : Reached engine world) (taken : world.Taken) :
    (∀ record ∈ world.store.records, ∃ graph,
      world.flows.get record.flow record.version = .ok graph ∧
      (record.log.filter graph.delivers).map (Entry.detail · "text") =
        (returned world.sends record.id).map fun text => some (.text text)) ∧
    world.store.Distinct ∧
    ∀ sending ∈ world.sends, ∃ record ∈ world.store.records,
      record.id = sending.execution ∧ record.subject = sending.subject := by
  obtain ⟨clock, store, calls, unused, rfl⟩ := reached
  have none : store.records = [] := unused.records
  have begins : Accounting (.start clock store) := by
    refine ⟨Flow.Registry.sound_empty, fun _ => ⟨?_, ?_, nofun⟩⟩
    · simp [Store.Distinct, World.start, none]
    · simp [World.start, none]
  have accounted := (Call.runs_accounting engine calls begins).told taken
  refine ⟨fun record member => ?_, accounted.distinct, accounted.sent⟩
  obtain ⟨graph, had, reports⟩ := accounted.told record member
  exact ⟨graph, had, reports.details⟩

/-- A subject was asked once, and the log of its execution tells that. -/
theorem World.asked_sendings_told :
    Reached .quiet asked ∧ asked.Taken ∧
      asked.sends = [⟨"ex0001", "316", "How are you?", true⟩] ∧
      ∀ record ∈ asked.store.records, ∃ graph,
        asked.flows.get record.flow record.version = .ok graph ∧
        (record.log.filter graph.delivers).map (Entry.detail · "text") =
          (returned asked.sends record.id).map fun text => some (.text text) := by
  have took : asked.Taken := by
    unfold World.Taken
    decide +kernel
  exact ⟨asked_reached, took, by decide +kernel, (World.Reached.sendings_told asked_reached took).1⟩

end Parley
