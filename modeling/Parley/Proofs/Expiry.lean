import Parley.Proofs.Clocks
import Parley.Proofs.Resumptions

/-!
# Exact expiry of waits

A pass ends the wait of every record that is due when it begins, once, and touches no other record.
The outside parts may ask for executions to be cancelled during the pass: a record of which that is
asked before its turn is cancelled instead. Whatever becomes of other executions does not matter.
-/

namespace Parley

open Parley.Computation World Time

/-- The desk adds to the requests to save. -/
theorem Serves.saves {engine : Engine} {before after : World}
    (serves : Serves engine before after) : before.saves <+: after.saves :=
  (Still.moves serves).saves

namespace Execution

/-- The entry that tells that the wait of an execution ended by its deadline. -/
def timeout (execution : Execution String) (now : Time.Moment) : Entry String :=
  ⟨execution.node, .resumed, some now.text, some (.dict (taking Flow.no "timeout" .null))⟩

/-- An execution whose wait ended by its deadline, which is set in a variable. -/
def timedOut (execution : Execution String) (graph : Flow.Graph) (now : Time.Moment) :
    Execution String :=
  { execution with vars := execution.vars.set Handler.timeoutTriggered (.bool true) }.resumed graph
    Flow.no "timeout" .null now

variable (execution : Execution String) (graph : Flow.Graph) (now : Time.Moment)

/-- The log of an execution whose wait ended tells that at its end. -/
theorem timedOut_log :
    (execution.timedOut graph now).log = execution.log ++ [execution.timeout now] :=
  resumed_log _ graph Flow.no "timeout" .null now

/-- An execution whose wait ended has the variable that tells so. -/
theorem timedOut_vars : (execution.timedOut graph now).vars =
    execution.vars.set Handler.timeoutTriggered (.bool true) :=
  resumed_vars _ graph Flow.no "timeout" .null now

/-- An execution goes on when its wait ends. -/
theorem timedOut_continues : execution.Continues (execution.timedOut graph now) := by
  refine Continues.trans ?_ (resumed_continues _ graph Flow.no "timeout" .null now)
  exact ⟨rfl, rfl, rfl, rfl, rfl, List.prefix_rfl⟩

end Execution

namespace World

variable {base world left : World} {record : Execution String}

/-- The wait of a record was ended, after which the store holds a log of it. -/
structure Reentered (base : World) (record : Execution String) (log : List (Entry String))
    (world : World) : Prop where
  /-- The rest of the world is as it may be in a pass. -/
  grown : Grown base world
  /-- The store took the execution whose wait ended. -/
  asked : ∃ graph, ⟨record.timedOut graph base.clock, true⟩ ∈ world.since base
  /-- The store holds the log. -/
  logs : world.store.Logs record log

/-- The wait of a record was ended, and its log tells of no other end of a wait since then. -/
def Expired (base : World) (record : Execution String) (world : World) : Prop :=
  ∃ rest : List (Entry String), (∀ entry ∈ rest, entry.event ≠ .resumed) ∧
    Reentered base record (record.log ++ record.timeout base.clock :: rest) world

/-- The wait of a record was ended if the execution of which it ended was handed over and taken. -/
theorem expired_iff : Expired base record world ↔
    ∃ graph, Resumed base record (record.timedOut graph base.clock) true world := by
  have log (graph : Flow.Graph) (rest : List (Entry String)) :
      (record.timedOut graph base.clock).log ++ rest =
        record.log ++ record.timeout base.clock :: rest := by
    rw [record.timedOut_log, List.append_assoc]
    rfl
  constructor
  · rintro ⟨rest, quiet, grown, ⟨graph, asked⟩, logs⟩
    refine ⟨graph, asked, ?_⟩
    rw [if_pos rfl]
    exact ⟨rest, quiet, grown, by rwa [log]⟩
  · rintro ⟨graph, asked, carries⟩
    rw [if_pos rfl] at carries
    obtain ⟨rest, quiet, grown, logs⟩ := carries
    exact ⟨rest, quiet, grown, ⟨graph, asked⟩, by rwa [log] at logs⟩

/-- What is beside the executions may change. -/
theorem Expired.beside (expired : Expired base record world) (same : Beside world left) :
    Expired base record left := by
  obtain ⟨graph, resumed⟩ := expired_iff.mp expired
  exact expired_iff.mpr ⟨graph, resumed.beside same⟩

/-- That the wait was ended withstands the turns of other executions. -/
theorem Expired.withstands (distinct : base.store.Distinct) (engine : Engine)
    (record : Execution String) : Withstands engine record.id (Expired base record) := by
  have carried (graph : Flow.Graph) :=
    Resumed.withstands distinct engine record (record.timedOut graph base.clock) true
  constructor
  · intro before after astir expired
    obtain ⟨graph, resumed⟩ := expired_iff.mp expired
    exact expired_iff.mpr ⟨graph, (carried graph).astir astir resumed⟩
  · intro execution before taken after apart offered expired
    obtain ⟨graph, resumed⟩ := expired_iff.mp expired
    exact expired_iff.mpr ⟨graph, (carried graph).offered apart offered resumed⟩

/-- What became of a record that was due when a pass began: its wait was ended in its turn, or the
record was cancelled before. -/
def Fate (capabilities : Capabilities) (base : World) (record : Execution String) (resumed : Bool)
    (world : World) : Prop :=
  if resumed then Expired base record world else Dismissed capabilities base record world

/-- What became of a record withstands the turns of other executions. -/
theorem Fate.withstands (distinct : base.store.Distinct) (engine : Engine)
    (record : Execution String) (resumed : Bool) : Withstands engine record.id fun world =>
      Grown base world ∧ Fate engine.capabilities base record resumed world := by
  cases resumed with
  | true =>
    have known := Grown.withstands engine base record.id
    have expired := Expired.withstands distinct engine record
    exact ⟨fun astir held => ⟨known.astir astir held.1, expired.astir astir held.2⟩,
      fun apart offered held =>
        ⟨known.offered apart offered held.1, expired.offered apart offered held.2⟩⟩
  | false => exact Dismissed.withstands distinct engine record

end World

namespace Desk

variable {engine : Engine} (stored : engine.keeping = .stored) {base world : World}
  {record : Execution String} {now : Moment}

include stored

/-- Ending the wait of a record, guarded, hands the execution whose wait ended to the store. -/
theorem guarded_expires (distinct : base.store.Distinct) (counted : record.version ≠ 0)
    (waits : record.status = .waiting) (grown : Grown base world)
    (spared : Spared engine.capabilities base record world) (graph : Flow.Graph) :
    ∃ left taken, guarded engine
        { record with vars := record.vars.set Handler.timeoutTriggered (.bool true) }
        (Tick.resume engine graph (.text Flow.no) (.text "timeout") .null true) world =
          .ok () left ∧
      Resumed base record (record.timedOut graph base.clock) taken left := by
  obtain ⟨left, taken, done, resumed, -⟩ := guarded_resumes stored distinct counted waits
    ⟨grown, spared.logs counted⟩ graph (record.vars.set Handler.timeoutTriggered (.bool true))
    Flow.no "timeout" .null
  exact ⟨left, taken, done, resumed⟩

/-- In its turn, the wait of a record that is as it was and is due is ended. -/
theorem expireOne_due (distinct : base.store.Distinct) (member : record ∈ base.store.records)
    (due : record.isDue now = true) (comparable : record.Comparable now)
    (known : base.flows.Knows record) (grown : Grown base world)
    (here : record ∈ world.store.records) :
    ∃ left graph taken, expireOne engine record.id now world = .ok true left ∧
      Resumed base record (record.timedOut graph base.clock) taken left := by
  obtain ⟨waits, deadline, until?, passed⟩ := Execution.isDue_iff.mp due
  obtain ⟨graph, had⟩ := known
  let held := { world with executions := world.executions.enter record.id }
  have entered : Beside world held := ⟨rfl, rfl, rfl, rfl⟩
  obtain ⟨left, taken, done, resumed⟩ := guarded_expires stored distinct
    (Store.version_ne_zero member) waits (grown.beside entered)
    (.inl here : Spared engine.capabilities base record held) graph
  have given : read record.id held = .ok record held := by
    rw [read_apply, (grown.beside entered |>.distinct distinct).get here]
  have lapsed : ofExcept (Store.notAfter deadline now) held = .ok true held := by
    rw [Store.notAfter, if_pos (comparable waits deadline until?), decide_eq_true passed]
    rfl
  have found : ofExcept (held.flows.get record.flow record.version) held = .ok graph held := by
    rw [show held.flows = base.flows from grown.flows, had]
    rfl
  let released := { left with executions := left.executions.leave record.id }
  refine ⟨released, graph, taken, ?_, resumed.beside ⟨rfl, rfl, rfl, rfl⟩⟩
  rw [expireOne, holdingExecution_apply, bind_of_ok given]
  simp only [waits, until?] at done ⊢
  rw [bind_of_ok lapsed]
  simp only [if_true]
  rw [bind_of_ok (get_apply held), bind_of_ok found, bind_of_ok done]
  rfl

omit stored in
/-- In its turn, an execution that does not wait is left as it is. -/
theorem expireOne_rests (engine : Engine) {id : String} {later : Execution String}
    (found : world.store.get id = .ok later) (rests : later.status ≠ .waiting) :
    ∃ left, expireOne engine id now world = .ok false left ∧ Beside world left := by
  let held := { world with executions := world.executions.enter id }
  have given : read id held = .ok later held := by
    rw [read_apply, show held.store = world.store from rfl, found]
  let released := { held with executions := held.executions.leave id }
  refine ⟨released, ?_, ⟨rfl, rfl, rfl, rfl⟩⟩
  rw [expireOne, holdingExecution_apply, bind_of_ok given]
  cases status : later.status with
  | waiting => exact absurd status rests
  | _ => rfl

/-- What is known of the world in a pass is known after every turn. -/
theorem expireOne_grown (id : String) (now : Moment) (grown : Grown base world) :
    Grown base (after (expireOne engine id now) world) := by
  -- What is known speaks of no execution, so any other name will do.
  have apart : id ≠ id ++ "-" := fun same => by simpa using congrArg String.length same
  exact (Grown.withstands engine base (id ++ "-")).attended stored apart
    (expireOne_attended engine id now world) grown

/-- What withstands the turns of other executions withstands that the waits of others are ended. -/
theorem expireEach_withstood {id : String} {holds : World → Prop}
    (withstands : Withstands engine id holds) {ids : List String} (apart : id ∉ ids)
    (now : Moment) (held : holds world) : holds (after (expireEach engine now ids) world) := by
  obtain ⟨_, done⟩ := expireEach_apply engine now ids world
  rw [after_of_ok done]
  clear done
  induction ids generalizing world with
  | nil => exact held
  | cons other rest ih =>
    rw [List.mem_cons, not_or] at apart
    have turned := expireOne_attended engine other now world
    exact ih apart.2 (withstands.attended stored (Ne.symm apart.1) turned held)

omit stored in
/-- A pass goes on after the turn of its first execution. -/
theorem expireEach_cons {id : String} {rest others : List String} {resumed : Bool}
    {turned left : World} (ended : expireOne engine id now world = .ok resumed turned)
    (done : expireEach engine now rest turned = .ok others left) :
    expireEach engine now (id :: rest) world =
      .ok (if resumed then id :: others else others) left := by
  have attempted : attempt (expireOne engine id now) world = .ok (.ok resumed) turned := by
    rw [attempt, ended]
  rw [expireEach, bind_of_ok attempted, bind_of_ok done]
  cases resumed <;> rfl

/-- In its turn, the wait of a record that was due when the pass began is ended, unless an outside
part asked for the record to be cancelled before. -/
theorem expireOne_turn (upheld : Scene.Upheld ⟨base, .empty⟩)
    (member : record ∈ base.store.records) (due : record.isDue now = true)
    (comparable : record.Comparable now) (grown : Grown base world)
    (spared : Spared engine.capabilities base record world) :
    ∃ resumed turned, expireOne engine record.id now world = .ok resumed turned ∧
      Grown base turned ∧ ((∀ save ∈ turned.since base, save.taken = true) →
        Fate engine.capabilities base record resumed turned) := by
  have distinct := upheld.backed.distinct
  have onward := expireOne_grown stored record.id now grown
  rcases spared with here | dismissed
  · obtain ⟨turned, graph, taken, ended, resumed⟩ := expireOne_due stored distinct member due
      comparable (upheld.known record member) grown here
    rw [after_of_ok ended] at onward
    refine ⟨true, turned, ended, onward, fun took => expired_iff.mpr ⟨graph, ?_⟩⟩
    obtain rfl : taken = true := took _ resumed.asked
    exact resumed
  · obtain ⟨final, read, cancelled⟩ := dismissed.read (grown.distinct distinct)
    have rests : final.status ≠ .waiting := by simp [cancelled]
    obtain ⟨turned, ended, same⟩ := expireOne_rests engine read rests
    exact ⟨false, turned, ended, grown.beside same, fun _ => dismissed.beside same⟩

/-- What became of a record in its turn is what became of it in the rest of the pass. -/
theorem expireEach_keeps {resumed : Bool} {turned left : World} {rest others : List String}
    (distinct : base.store.Distinct) (grown : Grown base turned)
    (fate : Fate engine.capabilities base record resumed turned) (apart : record.id ∉ rest)
    (done : expireEach engine now rest turned = .ok others left) :
    Fate engine.capabilities base record resumed left := by
  have withstood := expireEach_withstood stored (Fate.withstands distinct engine record resumed)
    apart now ⟨grown, fate⟩
  rw [after_of_ok done] at withstood
  exact withstood.2

/-- A record that is not among those whose waits are ended in a pass is as it was, unless an outside
part asked for it to be cancelled. -/
theorem expireEach_spares {ids expired : List String} {left : World}
    (distinct : base.store.Distinct) (grown : Grown base world)
    (spared : Spared engine.capabilities base record world) (apart : record.id ∉ ids)
    (done : expireEach engine now ids world = .ok expired left) :
    Spared engine.capabilities base record left := by
  have withstood := expireEach_withstood stored (Spared.withstands distinct engine record) apart
    now ⟨grown, spared⟩
  rw [after_of_ok done] at withstood
  exact withstood.2

/-- A record of which it is not the turn is as it was, unless an outside part asked for it to be
cancelled. -/
theorem expireOne_spares {id : String} {resumed : Bool} {turned : World}
    (distinct : base.store.Distinct) (grown : Grown base world)
    (spared : Spared engine.capabilities base record world) (apart : id ≠ record.id)
    (ended : expireOne engine id now world = .ok resumed turned) :
    Spared engine.capabilities base record turned := by
  have withstood := (Spared.withstands distinct engine record).attended stored apart
    (expireOne_attended engine id now world) ⟨grown, spared⟩
  rw [after_of_ok ended] at withstood
  exact withstood.2

/-- Ending waits that were due when the pass began, one after another, ends them all, unless an
outside part asks for one to be cancelled before its turn. -/
theorem expireEach_exact (upheld : Scene.Upheld ⟨base, .empty⟩)
    (comparable : ∀ record ∈ base.store.records, record.Comparable now) {ids : List String}
    (once : ids.Nodup)
    (due : ∀ id ∈ ids, ∃ record ∈ base.store.records, record.id = id ∧ record.isDue now = true)
    (grown : Grown base world)
    (spared : ∀ record ∈ base.store.records, record.id ∈ ids →
      Spared engine.capabilities base record world) :
    ∃ expired left, expireEach engine now ids world = .ok expired left ∧ expired.Sublist ids ∧
      Grown base left ∧ ((∀ save ∈ left.since base, save.taken = true) →
        ∀ record ∈ base.store.records, record.id ∈ ids →
          Fate engine.capabilities base record (record.id ∈ expired) left) := by
  have distinct := upheld.backed.distinct
  induction ids generalizing world with
  | nil => exact ⟨[], world, rfl, .slnil, grown, fun _ _ _ => nofun⟩
  | cons id rest ih =>
    obtain ⟨apart, onceRest⟩ := List.nodup_cons.mp once
    obtain ⟨⟨record, member, named, isDue⟩, dueRest⟩ := List.forall_mem_cons.mp due
    subst named
    obtain ⟨resumed, turned, ended, onward, turn⟩ := expireOne_turn stored upheld member isDue
      (comparable record member) grown (spared record member List.mem_cons_self)
    have waiting (other : Execution String) (listed : other ∈ base.store.records)
        (within : other.id ∈ rest) : Spared engine.capabilities base other turned := by
      have differs : record.id ≠ other.id := fun same => apart (same ▸ within)
      have before := spared other listed (List.mem_cons_of_mem _ within)
      exact expireOne_spares stored distinct grown before differs ended
    obtain ⟨others, left, done, sub, last, served⟩ := ih onceRest dueRest onward waiting
    have more := (expireEach_serves stored now rest turned).saves
    rw [after_of_ok done] at more
    refine ⟨_, left, expireEach_cons ended done, ?_, last, fun took other listed within => ?_⟩
    · cases resumed with
      | true => exact sub.cons_cons _
      | false => exact sub.cons _
    by_cases same : other.id = record.id
    · obtain rfl := distinct.unique listed member same
      have unlisted : other.id ∉ others := fun listed => apart (sub.subset listed)
      have told : decide (other.id ∈ if resumed then other.id :: others else others) = resumed := by
        cases resumed <;> simp [unlisted]
      rw [told]
      have own := turn fun save asked => took save (since_mono more asked)
      exact expireEach_keeps stored distinct onward own apart done
    · have told : decide (other.id ∈ if resumed then record.id :: others else others) =
          decide (other.id ∈ others) := by
        cases resumed <;> simp [same]
      rw [told]
      exact served took other listed (List.mem_of_ne_of_mem same within)

end Desk

namespace World

variable {base left : World} {record : Execution String}

/-- The wait of a record was ended by its deadline in a pass. -/
structure TimedOut (base : World) (record : Execution String) (left : World) : Prop where
  /-- Its log goes on with the end of the wait, and tells of no other. -/
  log : ∃ later ∈ left.store.records, record.Continues later ∧ ∃ entry rest,
    later.log = record.log ++ entry :: rest ∧ entry.node = record.node ∧
      entry.event = .resumed ∧ entry.Tells "reason" (.text "timeout") ∧
      entry.Tells "edge" (.text "no") ∧ ∀ other ∈ rest, other.event ≠ .resumed
  /-- The store took it up again with the variable set that tells so. -/
  reentered : ∃ save ∈ left.since base, save.taken = true ∧ save.execution.id = record.id ∧
    save.execution.vars = record.vars.set Handler.timeoutTriggered (.bool true) ∧
    ∃ entry, entry.event = .resumed ∧ save.execution.log = record.log ++ [entry]

/-- The entry that tells that a wait ended tells why, and along which edge. -/
theorem timeout_tells (record : Execution String) (now : Moment) :
    (record.timeout now).Tells "reason" (.text "timeout") ∧
      (record.timeout now).Tells "edge" (.text "no") := by
  have named : Entries.Named (Execution.taking Flow.no "timeout" .null) :=
    ⟨["reason", "edge"], rfl, by decide⟩
  refine ⟨⟨_, rfl, named, ?_⟩, ⟨_, rfl, named, ?_⟩⟩ <;>
    simp [Execution.taking, Entries.text?, Entries.get?, Value.same_text, Flow.no]

/-- What is kept of the log of a record whose wait was ended tells that. -/
theorem Expired.timedOut (expired : Expired base record left) : TimedOut base record left := by
  obtain ⟨graph, asked, carries⟩ := expired_iff.mp expired
  rw [if_pos rfl, record.timedOut_log] at carries
  obtain ⟨later, member, continues, entry, rest, log, echo, quiet⟩ := carries.entry
  obtain ⟨reason, edge⟩ := timeout_tells record base.clock
  exact ⟨⟨later, member, continues, entry, rest, log, echo.node, echo.event,
    echo.tells reason rfl, echo.tells edge rfl, quiet⟩, ⟨_, asked, rfl,
    (record.timedOut_continues graph base.clock).id, record.timedOut_vars graph base.clock,
    record.timeout base.clock, rfl, record.timedOut_log graph base.clock⟩⟩

/-- What a pass comes to that ended the waits of some ids. -/
structure Passed (capabilities : Capabilities) (now : Moment) (base : World)
    (expired : List String) (left : World) : Prop where
  /-- No id is listed twice. -/
  once : expired.Nodup
  /-- The ids are those of records that were due. -/
  due : ∀ id ∈ expired, ∃ record ∈ base.store.records, record.id = id ∧ record.isDue now = true
  /-- The waits of all records that were due were ended, and the ids are listed, but for those that
  outside parts asked to cancel before their turn. -/
  ended : ∀ record ∈ base.store.records, record.isDue now = true →
    if record.id ∈ expired then TimedOut base record left
    else Dismissed capabilities base record left
  /-- Records that were not due are as they were, but for those that outside parts asked to
  cancel. -/
  others : ∀ record ∈ base.store.records, record.isDue now = false →
    record ∈ left.store.records ∨ Dismissed capabilities base record left
  /-- No record came or went. -/
  ids : left.store.records.map Execution.id = base.store.records.map Execution.id
  /-- If no outside part asks for anything to be cancelled, the ids of all that was due are
  listed. -/
  all : capabilities.Aloof →
    expired.Perm ((base.store.records.filter (Execution.isDue now)).map Execution.id)

end World

/-- If no outside part asks for anything to be cancelled, the waits of all that is due are ended. -/
theorem World.Fate.resumed {capabilities : Capabilities} {base world : World}
    {record : Execution String} {resumed : Bool} (aloof : capabilities.Aloof)
    (fate : Fate capabilities base record resumed world) : resumed = true := by
  cases resumed with
  | true => rfl
  | false => exact absurd aloof fate.meddling

/-- What became of a record is that its wait ended by the deadline if its id is listed. -/
theorem World.Fate.told {capabilities : Capabilities} {base world : World}
    {record : Execution String} {expired : List String}
    (fate : Fate capabilities base record (record.id ∈ expired) world) :
    if record.id ∈ expired then TimedOut base record world
    else Dismissed capabilities base record world := by
  unfold Fate at fate
  by_cases listed : record.id ∈ expired
  · rw [if_pos (decide_eq_true listed)] at fate
    rw [if_pos listed]
    exact fate.timedOut
  · rw [if_neg (by simpa using listed)] at fate
    rwa [if_neg listed]

/-- A pass ends the waits of all that is due, each once, if the store can tell what is due and takes
what is offered. -/
theorem World.Reached.passed {engine : Engine} {world : World} {now : Moment}
    (reached : Reached engine world) (compares : world.store.Compares now)
    (took : ∀ save ∈ (after ((Call.expire now).perform engine) world).since world,
      save.taken = true) :
    ∃ expired left, (Call.expire now).perform engine world = .ok (.expired expired) left ∧
      Passed engine.capabilities now world expired left := by
  have upheld := reached.upheld
  have distinct : world.store.Distinct := upheld.backed.distinct
  have stored : engine.atDesk.keeping = .stored := rfl
  obtain ⟨ids, listed, perm⟩ := compares.lists upheld.universal
  have within := Store.mem_due perm
  have once := distinct.listDue listed
  obtain ⟨expired, left, done, sub, grown, served⟩ := Desk.expireEach_exact stored upheld
    compares.comparable once (fun id => (within id).mp) (.refl world) fun _ member _ => .inl member
  have performed : (Call.expire now).perform engine world = .ok (.expired expired) left :=
    bind_of_ok (Desk.expire_apply engine.atDesk listed done)
  rw [after_of_ok performed] at took
  have fate (record : Execution String) (member : record ∈ world.store.records)
      (due : record.isDue now = true) :
      Fate engine.capabilities world record (record.id ∈ expired) left :=
    served took record member ((within record.id).mpr ⟨record, member, rfl, due⟩)
  refine ⟨expired, left, performed, once.sublist sub, fun id member =>
    (within id).mp (sub.subset member), fun record member due => (fate record member due).told,
    ?_, grown.ids, ?_⟩
  · intro record member undue
    have apart : record.id ∉ ids := by
      intro listed
      obtain ⟨other, otherMember, same, due⟩ := (within record.id).mp listed
      rw [distinct.unique otherMember member same, undue] at due
      cases due
    exact Desk.expireEach_spares stored distinct (.refl world) (.inl member) apart done
  · intro aloof
    have every (id : String) : id ∈ expired ↔ id ∈ ids := by
      refine ⟨fun member => sub.subset member, fun member => ?_⟩
      obtain ⟨record, stands, rfl, due⟩ := (within id).mp member
      exact of_decide_eq_true ((fate record stands due).resumed aloof)
    exact ((List.perm_ext_iff_of_nodup (once.sublist sub) once).mpr every).trans perm

/-- A pass in a world that is reached over a clock of known offset ends the waits of all that is due
at a moment of known offset, each once, if tables can bring the moment to universal time and the
store takes what is offered. -/
theorem World.Clocked.waits_expire {engine : Engine} {world : World} {now : Moment}
    (clocked : Clocked engine world) (aware : now.Zoned)
    (universal : world.store.inTables = true → now.toUtc?.isSome = true)
    (took : ∀ save ∈ (after ((Call.expire now).perform engine) world).since world,
      save.taken = true) :
    ∃ expired left, (Call.expire now).perform engine world = .ok (.expired expired) left ∧
      Passed engine.capabilities now world expired left :=
  clocked.reached.passed (clocked.compares aware universal) took

/-- The start of the calendar in universal time. -/
def Time.Moment.dawn : Moment := { (default : Moment) with offset := some .utc }

/-- Thirty days later, on a clock that is an hour ahead. -/
def Time.Moment.monthOn : Moment :=
  ⟨2595600000000, by decide, some ⟨3600000000, by decide, by decide⟩⟩

/-- The world in which two subjects were asked and have not answered. -/
def World.bothAsked (engine : Engine) : World :=
  Call.runs engine [
    .register Flow.greeting,
    .start "greeting" (.text "+31 6") .null,
    .start "greeting" (.text "+31 7") .null] (.start .dawn (.memory .empty))

/-- The world in which two subjects were asked is reached over a clock of universal time. -/
theorem World.bothAsked_clocked (engine : Engine) : Clocked engine (bothAsked engine) := by
  have start : Clocked engine (.start .dawn (.memory .empty)) := .start .memory (by decide)
  exact .call (.call (.call start (.register Flow.greeting) trivial)
    (.start "greeting" (.text "+31 6") .null) trivial)
    (.start "greeting" (.text "+31 7") .null) trivial

/-- A month on, the waits of both subjects are ended. -/
theorem World.bothAsked_waits_expire :
    Clocked .quiet (bothAsked .quiet) ∧ Moment.monthOn.Zoned ∧
      Moment.monthOn.toUtc?.isSome = true ∧
      ∃ expired left,
        (Call.expire .monthOn).perform .quiet (bothAsked .quiet) = .ok (.expired expired) left ∧
          expired.Perm ["ex0001", "ex0002"] ∧
          ∀ record ∈ (bothAsked .quiet).store.records, TimedOut (bothAsked .quiet) record left := by
  have clocked := bothAsked_clocked .quiet
  obtain ⟨expired, left, done, passed⟩ := World.Clocked.waits_expire clocked
    (show Moment.monthOn.Zoned by decide) (fun _ => by decide) (by decide +kernel)
  have all : ((bothAsked .quiet).store.records.filter (Execution.isDue .monthOn)).map
      Execution.id = ["ex0001", "ex0002"] := by decide +kernel
  have listed : expired.Perm ["ex0001", "ex0002"] := all ▸ passed.all Capabilities.quiet_aloof
  refine ⟨clocked, by decide, by decide, expired, left, done, listed, fun record member => ?_⟩
  have due : ∀ record ∈ (bothAsked .quiet).store.records, record.isDue .monthOn = true ∧
      record.id ∈ ["ex0001", "ex0002"] := by decide +kernel
  have ended := passed.ended record member (due record member).1
  rwa [if_pos (listed.mem_iff.mpr (due record member).2)] at ended

/-- An engine whose observers ask for the second execution to be cancelled when the first comes to
its end. -/
def Engine.meddled : Engine := { Engine.quiet with
  capabilities := { Capabilities.quiet with
    watch := fun notice =>
      if notice = .nodeStart "ex0001" "bye" then ⟨["ex0002"], none⟩ else .none } }

/-- The last moment of the calendar, on a clock that is five hours behind. -/
def Time.Moment.dusk : Moment :=
  ⟨315537897599999999, by decide, some ⟨-18000000000, by decide, by decide⟩⟩

/-- In a pass of the meddled engine the second wait is over but is not ended, and over tables a
moment that has no reading in universal time cannot be asked for. -/
theorem World.meddled_pass_differs :
    (Clocked .meddled (bothAsked .meddled) ∧
      (∀ save ∈ (after ((Call.expire .monthOn).perform .meddled) (bothAsked .meddled)).since
        (bothAsked .meddled), save.taken = true) ∧
      ((bothAsked .meddled).store.records.filter (Execution.isDue .monthOn)).map Execution.id =
        ["ex0001", "ex0002"] ∧
      ∃ record ∈ (after ((Call.expire .monthOn).perform .meddled)
          (bothAsked .meddled)).store.records, record.id = "ex0002" ∧
        record.status = .cancelled ∧ ∀ entry ∈ record.log, entry.event ≠ .resumed) ∧
    Clocked .quiet (.start .dawn (.table .empty)) ∧ Moment.dusk.Zoned ∧
      (Call.expire .dusk).perform .quiet (.start .dawn (.table .empty)) =
        .error (.time .range) (.start .dawn (.table .empty)) := by
  refine ⟨⟨bothAsked_clocked _, by decide +kernel, by decide +kernel, by decide +kernel⟩,
    .start .table (by decide), by decide, ?_⟩
  rfl

end Parley
