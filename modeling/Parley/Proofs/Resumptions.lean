import Parley.Proofs.Laws
import Parley.Proofs.Passes
import Parley.Proofs.Payloads

/-!
# Waits that are taken up

A wait is taken up by handing the execution to the store with one entry more in its log, which tells
that the wait ended. If the store takes that, its record tells of one more end of a wait from then
on, and the tick goes on from what was handed over; if it refuses, the record tells of no more.
Nothing that follows matters: no round and no note of a failure tells of the end of a wait, whatever
else the store refuses, and the turns of other executions leave the log as it is.
-/

namespace Parley

open Parley.Computation World

/-- Kept entries tell the events that were handed over. -/
theorem Entry.echoes_events {kept handed : List (Entry String)}
    (echoes : List.Forall₂ Entry.Echoes kept handed) :
    kept.map Entry.event = handed.map Entry.event := by
  induction echoes with
  | nil => rfl
  | cons echo _ ih => rw [List.map_cons, List.map_cons, echo.event, ih]

/-- Rounds add no end of a wait. -/
theorem Tick.Rounds.adds {engine : Engine} {graph : Flow.Graph} {start last : Session}
    (rounds : Rounds engine graph start last) : start.execution.Adds last.execution := by
  induction rounds with
  | refl => exact .same rfl
  | tail _ goes ih => exact ih.trans goes.round.adds

/-- However rounds end, they add to the requests to save. -/
theorem Tick.Tours.saves {engine : Engine} {graph : Flow.Graph} {start : Session} {α : Type}
    {result : EStateM.Result Failure Session α} (stored : engine.keeping = .stored)
    (tours : Tours engine graph start result) :
    start.world.saves <+: (leftBy result).world.saves := by
  have ended := tours.ends stored
  cases result with
  | ok value left => exact (Still.moves ended).saves
  | error failure left => exact (Still.moves ended).saves

/-- Saving a stored execution that tells more lets the store hold that at the end of its log. -/
theorem Store.Logs.extended {store left : Store String} {record running handed : Execution String}
    {log more : List (Entry String)} {id : String} (logs : store.Logs record log)
    (distinct : store.Distinct) (read : store.get id = .ok running) (named : running.id = record.id)
    (went : running.Continues handed) (told : handed.log = running.log ++ more)
    (saved : store.save handed = .ok left) : left.Logs record (log ++ more) := by
  obtain ⟨later, member, continues, keeps⟩ := logs
  have listed := (mem_of_get read).1
  obtain rfl : later = running :=
    distinct.unique member listed (continues.id.trans named.symm)
  obtain ⟨kind, old, stood, new, oldNamed, recorded, grows, records⟩ := save_records saved
  obtain rfl : old = later := distinct.unique stood member (oldNamed.trans went.id)
  obtain ⟨rows, kept, grown⟩ := grows old.log more (.refl store old.log) told
  refine ⟨new, ?_, continues.trans ⟨recorded.id.trans went.id, recorded.flow.trans went.flow, ?_,
    recorded.subject.trans went.subject, recorded.createdAt.trans went.createdAt, ?_⟩, ?_⟩
  · rw [records]
    exact mem_rewritten_self member (went.id.symm.trans recorded.id.symm)
  · have counted := version_ne_zero member
    exact (recorded.version (by rw [went.version]; exact counted)).trans went.version
  · rw [grown]
    exact List.prefix_append _ _
  · rw [grown]
    exact (keeps.append kept).congr kind

namespace World

variable {engine : Engine} {base world left : World} {record execution handed : Execution String}
  {log : List (Entry String)} {graph : Flow.Graph}

/-- Since a base the store came to hold a log of a record. -/
structure Holds (base : World) (record : Execution String) (log : List (Entry String))
    (world : World) : Prop where
  /-- The rest of the world is as it may be. -/
  grown : Grown base world
  /-- The store holds the log. -/
  logs : world.store.Logs record log

namespace Holds

/-- What a record was is held of it as long as nothing happened. -/
theorem refl (member : record ∈ world.store.records) : Holds world record record.log world :=
  ⟨.refl world, record, member, .refl record, .refl _ _⟩

/-- What is beside the executions may change. -/
theorem beside (holds : Holds base record log world) (same : Beside world left) :
    Holds base record log left := by
  refine ⟨holds.grown.beside same, ?_⟩
  rw [same.store]
  exact holds.logs

variable (distinct : base.store.Distinct)
include distinct

/-- The world may be stirred. -/
theorem stirred (holds : Holds base record log world) (stirred : Stirred world left) :
    Holds base record log left := by
  refine stirred.keep (fun same held => held.beside same) ?_ holds
  intro before after id execution taken read _ offered held
  refine ⟨held.grown.offered offered, ?_⟩
  cases offered with
  | taken saved => exact held.logs.cancelled (held.grown.distinct distinct) read saved
  | refused => exact held.logs

/-- That the store holds a log withstands the turns of other executions. -/
theorem withstands (engine : Engine) (record : Execution String) (log : List (Entry String)) :
    Withstands engine record.id (Holds base record log) := by
  constructor
  · exact fun astir held => held.stirred distinct astir.stirred
  · intro execution before taken after apart offered held
    refine ⟨held.grown.offered offered, ?_⟩
    cases offered with
    | taken saved => exact held.logs.others apart saved
    | refused => exact held.logs

/-- An execution that goes on may be kept. -/
theorem kept (stored : engine.keeping = .stored) (counted : record.version ≠ 0)
    (holds : Holds base record execution.log world) (continues : record.Continues execution)
    (went : execution.Continues handed) {stirred : World} (stir : Astir engine world stirred)
    (kept : Kept engine handed stirred true left) : Holds base record handed.log left := by
  have stood := holds.stirred distinct stir.stirred
  have offered := kept.offer stored
  refine ⟨stood.grown.offered offered, ?_⟩
  cases offered with
  | taken saved =>
    exact stood.logs.saved (stood.grown.distinct distinct) counted continues went saved

/-- The store holds the log of what is in hand after rounds. -/
theorem rounds (stored : engine.keeping = .stored) (counted : record.version ≠ 0)
    {before last : Session} (rounds : Tick.Rounds engine graph before last)
    (holds : Holds base record before.execution.log before.world)
    (continues : record.Continues before.execution) :
    Holds base record last.execution.log last.world ∧ record.Continues last.execution := by
  induction rounds with
  | refl => exact ⟨holds, continues⟩
  | tail _ goes ih =>
    obtain ⟨stirred, stir, kept⟩ := goes.kept
    have went := goes.round.continues
    exact ⟨ih.1.kept distinct stored counted ih.2 went stir kept, ih.2.trans went⟩

end Holds

/-- Since a base the store came to hold a log of a record that goes on from some entries, and tells
of no further end of a wait. -/
def Carries (base : World) (record : Execution String) (log : List (Entry String))
    (world : World) : Prop :=
  ∃ rest : List (Entry String), (∀ entry ∈ rest, entry.event ≠ .resumed) ∧
    Holds base record (log ++ rest) world

namespace Carries

/-- A log that is held is carried. -/
theorem of_holds (holds : Holds base record log world) : Carries base record log world :=
  ⟨[], by simp, by rwa [List.append_nil]⟩

/-- What is beside the executions may change. -/
theorem beside (carries : Carries base record log world) (same : Beside world left) :
    Carries base record log left := by
  obtain ⟨rest, quiet, holds⟩ := carries
  exact ⟨rest, quiet, holds.beside same⟩

/-- The record goes on as the log says, and tells of no further end of a wait. -/
theorem told (carries : Carries base record log world) :
    ∃ later ∈ world.store.records, record.Continues later ∧ ∃ kept rest,
      later.log = kept ++ rest ∧ List.Forall₂ Entry.Echoes kept log ∧
      ∀ entry ∈ rest, entry.event ≠ .resumed := by
  obtain ⟨more, quiet, -, later, member, continues, keeps⟩ := carries
  obtain ⟨kept, rest, split, first, ends⟩ := Entry.echoes_append keeps.echoes
  refine ⟨later, member, continues, kept, rest, split, first, fun entry listed resumed => ?_⟩
  have told : entry.event ∈ more.map Entry.event :=
    Entry.echoes_events ends ▸ List.mem_map_of_mem listed
  obtain ⟨own, ownListed, same⟩ := List.mem_map.mp told
  exact quiet own ownListed (same.trans resumed)

/-- A log that is carried with one more entry tells of the entry, and then of no end of a wait. -/
theorem entry {entry : Entry String}
    (carries : Carries base record (record.log ++ [entry]) world) :
    ∃ later ∈ world.store.records, record.Continues later ∧ ∃ kept rest,
      later.log = record.log ++ kept :: rest ∧ kept.Echoes entry ∧
      ∀ other ∈ rest, other.event ≠ .resumed := by
  obtain ⟨later, member, continues, told, rest, log, echoes, quiet⟩ := carries.told
  obtain ⟨early, late, rfl, before, ends⟩ := Entry.echoes_append echoes
  obtain ⟨kept, none, echo, ended, rfl⟩ := List.forall₂_cons_right_iff.mp ends
  cases ended
  obtain ⟨tail, grown⟩ := continues.log
  rw [log, List.append_assoc] at grown
  obtain ⟨rfl, -⟩ := List.append_inj grown before.length_eq.symm
  exact ⟨later, member, continues, kept, rest, by rw [log, List.append_assoc]; rfl, echo, quiet⟩

variable (distinct : base.store.Distinct)
include distinct

/-- That a log is carried withstands the turns of other executions. -/
theorem withstands (engine : Engine) (record : Execution String) (log : List (Entry String)) :
    Withstands engine record.id (Carries base record log) := by
  constructor
  · rintro before after astir ⟨rest, quiet, holds⟩
    exact ⟨rest, quiet, (Holds.withstands distinct engine record _).astir astir holds⟩
  · rintro execution before taken after apart offered ⟨rest, quiet, holds⟩
    exact ⟨rest, quiet, (Holds.withstands distinct engine record _).offered apart offered holds⟩

/-- A failure may be noted. -/
theorem noted {failure : Failure} (carries : Carries base record log world)
    (noted : Desk.Noted record.id failure world left) : Carries base record log left := by
  cases noted with
  | spared => exact carries
  | @crashed running taken left read runs offered =>
    obtain ⟨rest, quiet, grown, logs⟩ := carries
    have onward := grown.offered offered
    cases offered with
    | refused => exact ⟨rest, quiet, onward, logs⟩
    | taken saved =>
      obtain ⟨more, log, still⟩ := running.crashed_adds failure world.clock
      refine ⟨rest ++ more, List.forall_mem_append.mpr ⟨quiet, still⟩, onward, ?_⟩
      rw [← List.append_assoc]
      exact logs.extended (grown.distinct distinct) read (Store.mem_of_get read).2
        (running.crashed_continues failure world.clock) log saved

end Carries

section Work

variable (stored : engine.keeping = .stored) (distinct : base.store.Distinct)
  (counted : record.version ≠ 0)
include stored distinct counted

/-- However rounds end, the log of the execution from which they were made is carried. -/
theorem Holds.tours {start : Session} {α : Type} {result : EStateM.Result Failure Session α}
    (holds : Holds base record start.execution.log start.world)
    (continues : record.Continues start.execution)
    (tours : Tick.Tours engine graph start result) :
    Carries base record start.execution.log (leftBy result).world := by
  have carried {last : Session} (rounds : Tick.Rounds engine graph start last) :
      Carries base record start.execution.log last.world := by
    obtain ⟨more, log, quiet⟩ := rounds.adds
    have met := (holds.rounds distinct stored counted rounds continues).1
    exact ⟨more, quiet, log ▸ met⟩
  cases tours with
  | rested rounds => exact carried rounds
  | @failed steps middle last failure rounds runs round =>
    cases round with
    | lost => exact carried rounds
    | @refused stirred left handed failure round stir kept raised =>
      obtain ⟨more, quiet, met⟩ := carried rounds
      have stood := met.stirred distinct stir.stirred
      have offered := kept.offer stored
      have onward := stood.grown.offered offered
      refine ⟨more, quiet, onward, ?_⟩
      cases offered with
      | refused => exact stood.logs

end Work

/-- An execution of a record was handed to the store with the end of its wait in its log. -/
structure Resumed (base : World) (record handed : Execution String) (taken : Bool)
    (world : World) : Prop where
  /-- The store was asked to take it. -/
  asked : ⟨handed, taken⟩ ∈ world.since base
  /-- If the store took it, it holds its log since then, and else that of the record. -/
  carries : Carries base record (if taken then handed.log else record.log) world

namespace Resumed

variable {taken : Bool}

/-- What is beside the executions may change. -/
theorem beside (resumed : Resumed base record handed taken world) (same : Beside world left) :
    Resumed base record handed taken left :=
  ⟨since_mono (same.saves ▸ List.prefix_rfl) resumed.asked, resumed.carries.beside same⟩

variable (distinct : base.store.Distinct)
include distinct

/-- That an execution was handed over withstands the turns of other executions. -/
theorem withstands (engine : Engine) (record handed : Execution String) (taken : Bool) :
    Withstands engine record.id (Resumed base record handed taken) := by
  have carried := Carries.withstands distinct engine record
    (if taken then handed.log else record.log)
  constructor
  · intro before after astir held
    exact ⟨since_mono (Stirred.saves astir.stirred) held.asked, carried.astir astir held.carries⟩
  · intro execution before taken after apart offered held
    exact ⟨since_mono offered.prefix held.asked, carried.offered apart offered held.carries⟩

/-- A failure may be noted. -/
theorem noted {failure : Failure} (resumed : Resumed base record handed taken world)
    (noted : Desk.Noted record.id failure world left) : Resumed base record handed taken left := by
  refine ⟨since_mono ?_ resumed.asked, resumed.carries.noted distinct noted⟩
  cases noted with
  | spared => exact List.prefix_rfl
  | crashed read runs offered => exact offered.prefix

end Resumed

/-- A tick went on from an execution that the store had just taken, and left a world. -/
def Onward (engine : Engine) (graph : Flow.Graph) (handed : Execution String) (left : World) :
    Prop :=
  ∃ (opened : World) (result : EStateM.Result Failure Session Status),
    opened.saves.getLast? = some ⟨handed, true⟩ ∧
      Tick.Tours engine graph ⟨handed, opened⟩ result ∧ Desk.Guarded handed.id result left

/-- What is beside the executions may change. -/
theorem Onward.beside {graph : Flow.Graph} {handed : Execution String}
    (onward : Onward engine graph handed world) (same : Beside world left) :
    Onward engine graph handed left := by
  obtain ⟨opened, result, last, tours, guards⟩ := onward
  refine ⟨opened, result, last, tours, ?_⟩
  cases guards with
  | rested ends => exact .rested (trans_of Beside ends same)
  | failed before noting ends => exact .failed before noting (trans_of Beside ends same)

/-- Work on an execution of a record hands it over, and from there the tick goes on if the store
takes it. -/
theorem Holds.hands {result : EStateM.Result Failure Session Status}
    (stored : engine.keeping = .stored) (distinct : base.store.Distinct)
    (counted : record.version ≠ 0) (holds : Holds base record record.log world)
    (went : record.Continues handed) (works : Tick.Works engine graph handed world result) :
    ∃ taken, Resumed base record handed taken (leftBy result).world ∧ (taken = true →
      ∃ opened : World, opened.saves.getLast? = some ⟨handed, true⟩ ∧
        Tick.Tours engine graph ⟨handed, opened⟩ result) := by
  cases works with
  | @taken stirred opened result stir kept tours =>
    have offered := kept.offer stored
    have stood := holds.stirred distinct stir.stirred
    have asked : ⟨handed, true⟩ ∈ opened.since base := stood.grown.mem_since offered.saves
    have begun := holds.kept distinct stored counted (.refl record) went stir kept
    refine ⟨true, ⟨since_mono (tours.saves stored) asked, ?_⟩, fun _ => ⟨opened, ?_, tours⟩⟩
    · rw [if_pos rfl]
      exact begun.tours stored distinct counted went tours
    · rw [offered.saves, List.getLast?_concat]
  | @refused stirred left failure stir kept raised =>
    have offered := kept.offer stored
    have stood := holds.stirred distinct stir.stirred
    refine ⟨false, ⟨stood.grown.mem_since offered.saves, ?_⟩, fun impossible => ?_⟩
    · refine .of_holds ⟨stood.grown.offered offered, ?_⟩
      cases offered with
      | refused => exact stood.logs
    · cases impossible

end World

namespace Desk

variable {engine : Engine} {base world : World} {record : Execution String}

/-- Taking up the wait of a record, guarded, hands the execution over with the end of the wait in
its log. -/
theorem guarded_resumes (stored : engine.keeping = .stored) (distinct : base.store.Distinct)
    (counted : record.version ≠ 0) (waits : record.status = .waiting)
    (holds : Holds base record record.log world) (graph : Flow.Graph) (vars : Variables)
    (label reason : String) (reply : Value) :
    ∃ left taken, guarded engine { record with vars }
        (Tick.resume engine graph (.text label) (.text reason) reply true) world = .ok () left ∧
      Resumed base record
        ({ record with vars }.resumed graph label reason reply base.clock) taken left ∧
      (taken = true → Onward engine graph
        ({ record with vars }.resumed graph label reason reply base.clock) left) := by
  let execution := { record with vars }
  have waiting : execution.status = .waiting := waits
  let handed := execution.resumed graph label reason reply base.clock
  have went : execution.Continues handed :=
    execution.resumed_continues graph label reason reply base.clock
  have own : record.Continues handed := ⟨went.id, went.flow, went.version, went.subject,
    went.createdAt, went.log⟩
  obtain ⟨held, left, beside, done, guards⟩ := guarded_ends engine execution
    (Tick.resume engine graph (.text label) (.text reason) reply true) world
  have works := Tick.resume_works engine graph label reason reply true waiting held
  rw [show held.clock = base.clock from beside.clock.trans holds.grown.clock] at works
  obtain ⟨taken, resumed, onward⟩ :=
    (holds.beside beside).hands stored distinct counted own works
  refine ⟨left, taken, done, ?_, fun took => ?_⟩
  · generalize Tick.resume engine graph (.text label) (.text reason) reply true
      ⟨execution, held⟩ = result at resumed guards
    cases guards with
    | rested same => exact resumed.beside same
    | failed before noting same => exact ((resumed.beside before).noted distinct noting).beside same
  · obtain ⟨opened, last, tours⟩ := onward took
    refine ⟨opened, _, last, tours, ?_⟩
    rw [show handed.id = execution.id from went.id]
    exact guards

section Deliver

variable {engine : Engine} {world : World} {subject : String} {record : Execution String}
  {graph : Flow.Graph} {node : Flow.Node String}
  (found : world.store.findWaiting subject = .ok (some record))
  (read : world.store.get record.id = .ok record) (waits : record.status = .waiting)
  (had : world.flows.get record.flow record.version = .ok graph)
include found read waits had

/-- A reply to a record that waits is delivered as its route says, while the execution is held. -/
theorem deliver_routes (stands : record.node.bind graph.node? = some node) (reply : Value) :
    deliver engine subject reply world =
      holdingExecution record.id (do
        match ← ofExcept (route record.keywords node.content.holds reply) with
        | .hold =>
          save engine { record with
            vars := record.vars.set Handler.lastMessage reply, updatedAt := world.clock }
          return none
        | .resume label reason =>
          guarded engine { record with vars := record.vars.set Handler.lastMessage reply }
            (Tick.resume engine graph (.text label) (.text reason) reply true)
          return some record.id) world := by
  let held := { world with executions := world.executions.enter record.id }
  have given : ofExcept (world.store.findWaiting subject) world = .ok (some record) world := by
    rw [found]
    rfl
  have reads : Desk.read record.id held = .ok record held := by
    rw [read_apply, show held.store.get record.id = .ok record from read]
  have graphed : ofExcept (held.flows.get record.flow record.version) held = .ok graph held := by
    rw [show held.flows.get record.flow record.version = .ok graph from had]
    rfl
  rw [deliver, bind_of_ok (get_apply world), bind_of_ok given]
  dsimp only
  rw [holdingExecution_apply, holdingExecution_apply, bind_of_ok reads]
  simp only [waits, bne_self_eq_false, Bool.false_eq_true, if_false]
  rw [bind_of_ok (get_apply held), bind_of_ok graphed]
  simp only [stands]
  rw [bind_apply, bind_apply]
  cases route record.keywords node.content.holds reply with
  | error failure => rfl
  | ok routed => cases routed <;> rfl

variable (stands : record.node.bind graph.node? = some node) {reply : Value}
include stands

/-- A reply whose route cannot be told is not delivered. -/
theorem deliver_strays {failure : Failure}
    (routes : route record.keywords node.content.holds reply = .error failure) :
    ∃ left, deliver engine subject reply world = .error failure left := by
  let held := { world with executions := world.executions.enter record.id }
  have failed : ofExcept (route record.keywords node.content.holds reply) held =
      .error failure held := by
    rw [routes]
    rfl
  rw [deliver_routes found read waits had stands, holdingExecution_apply, bind_of_error failed]
  exact ⟨_, rfl⟩

/-- A reply that is held is put into a variable of the execution, which goes on waiting. -/
theorem deliver_holds (routes : route record.keywords node.content.holds reply = .ok .hold) :
    deliver engine subject reply world =
      holdingExecution record.id (do
        save engine { record with
          vars := record.vars.set Handler.lastMessage reply, updatedAt := world.clock }
        return none) world := by
  let held := { world with executions := world.executions.enter record.id }
  have given : ofExcept (route record.keywords node.content.holds reply) held =
      .ok .hold held := by
    rw [routes]
    rfl
  rw [deliver_routes found read waits had stands, holdingExecution_apply, holdingExecution_apply,
    bind_of_ok given]

/-- A reply that leads on takes the wait up. -/
theorem deliver_resumes {label reason : String}
    (routes : route record.keywords node.content.holds reply = .ok (.resume label reason)) :
    deliver engine subject reply world =
      holdingExecution record.id (do
        guarded engine { record with vars := record.vars.set Handler.lastMessage reply }
          (Tick.resume engine graph (.text label) (.text reason) reply true)
        return some record.id) world := by
  let held := { world with executions := world.executions.enter record.id }
  have given : ofExcept (route record.keywords node.content.holds reply) held =
      .ok (.resume label reason) held := by
    rw [routes]
    rfl
  rw [deliver_routes found read waits had stands, holdingExecution_apply, holdingExecution_apply,
    bind_of_ok given]

end Deliver

end Desk

end Parley
