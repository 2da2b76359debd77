import Parley.Proofs.Answering
import Parley.Proofs.Commuting
import Parley.Proofs.Resumptions

/-!
# Waits that are reported to be taken up

An id that the desk tells when it delivers a reply, or when it ends waits that are over, is that of
a record that waited and of which an execution was handed to the store with the end of the wait in
its log. Whether the store took that is not told: the stored log tells of one more end of a wait
exactly if it did.
-/

namespace Parley

open Parley.Computation World

/-- How many ends of waits the log of an execution tells of. -/
def Execution.resumptions (execution : Execution String) : Nat :=
  execution.log.countP fun entry => entry.event == .resumed

/-- How many ends of waits a log tells of that goes on without one more. -/
theorem Execution.resumptions_append {later : Execution String} {kept rest : List (Entry String)}
    (log : later.log = kept ++ rest) (quiet : ∀ entry ∈ rest, entry.event ≠ .resumed) :
    later.resumptions = kept.countP fun entry => entry.event == .resumed := by
  have none : rest.countP (fun entry => entry.event == .resumed) = 0 := by
    rw [List.countP_eq_zero]
    exact fun entry member => by simpa using quiet entry member
  rw [resumptions, log, List.countP_append, none, Nat.add_zero]

/-- Kept entries tell of as many ends of waits as those that were handed over. -/
theorem Entry.echoes_countP {kept handed : List (Entry String)}
    (echoes : List.Forall₂ Entry.Echoes kept handed) :
    (kept.countP fun entry => entry.event == .resumed) =
      handed.countP fun entry => entry.event == .resumed := by
  have told (log : List (Entry String)) : (log.countP fun entry => entry.event == .resumed) =
      (log.map Entry.event).countP fun event => event == .resumed := by
    rw [List.countP_map]
    rfl
  rw [told, told, Entry.echoes_events echoes]

/-- An execution whose wait was taken up tells of one more end of a wait. -/
theorem Execution.resumed_resumptions (execution : Execution String) (graph : Flow.Graph)
    (label reason : String) (reply : Value) (now : Time.Moment) :
    (execution.resumed graph label reason reply now).resumptions = execution.resumptions + 1 := by
  rw [resumptions, resumed_log, List.countP_append]
  rfl

namespace World

variable {base left : World} {record handed : Execution String}

/-- An execution of a record was handed to the store with one more end of a wait in its log, and the
stored log tells of one more exactly if the store took it. -/
def Reported (base : World) (record : Execution String) (left : World) : Prop :=
  ∃ save ∈ left.since base, save.execution.id = record.id ∧
    save.execution.resumptions = record.resumptions + 1 ∧
    ∃ later ∈ left.store.records, later.id = record.id ∧
      later.resumptions = record.resumptions + if save.taken then 1 else 0

/-- An execution that was handed over with the end of its wait is reported. -/
theorem Resumed.reported {taken : Bool} (resumed : Resumed base record handed taken left)
    (named : handed.id = record.id) (more : handed.resumptions = record.resumptions + 1) :
    Reported base record left := by
  refine ⟨_, resumed.asked, named, more, ?_⟩
  obtain ⟨later, member, continues, kept, rest, log, echoes, quiet⟩ := resumed.carries.told
  refine ⟨later, member, continues.id, ?_⟩
  rw [Execution.resumptions_append log quiet, Entry.echoes_countP echoes]
  cases taken with
  | true => exact more
  | false => rfl

end World

namespace Desk

variable {engine : Engine} {base world left : World} {record : Execution String}

section Inbound

variable {subject reply : Value}

/-- A reply is answered by what its delivery tells, while its subject is held. -/
theorem inbound_delivered {resumed : Option String}
    (delivered : deliver engine (Subject.ofValue subject) reply
      { world with subjects := world.subjects.enter (Subject.ofValue subject) } =
        .ok resumed left) :
    inbound engine subject reply world =
      .ok resumed { left with subjects := left.subjects.leave (Subject.ofValue subject) } := by
  rw [inbound, holdingSubject_apply, bind_apply]
  unfold attempt
  rw [delivered]
  rfl

/-- A reply whose delivery fails is told to have resumed nothing. -/
theorem inbound_lost {failure : Failure}
    (lost : deliver engine (Subject.ofValue subject) reply
      { world with subjects := world.subjects.enter (Subject.ofValue subject) } =
        .error failure left) :
    inbound engine subject reply world =
      .ok none { left with subjects := left.subjects.leave (Subject.ofValue subject) } := by
  rw [inbound, holdingSubject_apply, bind_apply]
  unfold attempt
  rw [lost]
  rfl

/-- A reply that is told to have resumed an execution was delivered while its subject was held. -/
theorem inbound_ended {id : String}
    (ended : inbound engine subject reply world = .ok (some id) left) :
    ∃ middle, deliver engine (Subject.ofValue subject) reply
        { world with subjects := world.subjects.enter (Subject.ofValue subject) } =
          .ok (some id) middle ∧
      left = { middle with subjects := middle.subjects.leave (Subject.ofValue subject) } := by
  cases delivered : deliver engine (Subject.ofValue subject) reply
    { world with subjects := world.subjects.enter (Subject.ofValue subject) } with
  | ok resumed middle =>
    rw [inbound_delivered delivered] at ended
    cases ended
    exact ⟨middle, rfl, rfl⟩
  | error failure middle =>
    rw [inbound_lost delivered] at ended
    cases ended

end Inbound

/-- If a reply is told to have resumed an execution, the record waited for it, and its wait was
taken up while it was held. -/
theorem deliver_ended (exclusive : base.store.Exclusive) {subject : String} {reply : Value}
    {id : String} (answers : ∀ record ∈ base.store.records, ∃ graph,
      base.flows.get record.flow record.version = .ok graph ∧ record.Answerable graph)
    (delivered : deliver engine subject reply base = .ok (some id) left) :
    ∃ record ∈ base.store.records, record.id = id ∧ record.status = .waiting ∧
      record.subject = subject ∧ ∃ graph label reason middle, guarded engine
          { record with vars := record.vars.set Handler.lastMessage reply }
          (Tick.resume engine graph (.text label) (.text reason) reply true)
          { base with executions := base.executions.enter id } = .ok () middle ∧
        left = { middle with executions := middle.executions.leave id } := by
  obtain ⟨found, search, sound, -⟩ := base.store.findWaiting_spec subject
  cases found with
  | none =>
    rw [deliver, bind_of_ok (get_apply base), search] at delivered
    cases delivered
  | some record =>
    obtain ⟨member, own, waits⟩ := sound record rfl
    have read := exclusive.distinct.get member
    obtain ⟨graph, had, answerable⟩ := answers record member
    obtain ⟨node, stands⟩ := answerable.placed waits
    cases routes : route record.keywords node.content.holds reply with
    | error failure =>
      obtain ⟨strayed, lost⟩ : ∃ left, deliver engine subject reply base = .error failure left :=
        deliver_strays search read waits had stands routes
      rw [lost] at delivered
      cases delivered
    | ok route =>
      cases route with
      | hold =>
        rw [deliver_holds search read waits had stands routes] at delivered
        obtain ⟨middle, done, -⟩ := holdingExecution_ended delivered
        obtain ⟨_, _, -, told⟩ := bind_ended done
        cases told
      | resume label reason =>
        rw [deliver_resumes search read waits had stands routes] at delivered
        obtain ⟨middle, done, rfl⟩ := holdingExecution_ended delivered
        obtain ⟨_, _, resumes, told⟩ := bind_ended done
        cases told
        exact ⟨record, member, rfl, waits, own, graph, label, reason, middle, resumes, rfl⟩

/-- If a reply is told to have resumed an execution, the record waited for it, and an execution of
it was handed over with the end of the wait. -/
theorem deliver_reports (stored : engine.keeping = .stored) (exclusive : base.store.Exclusive)
    {subject : String} {reply : Value} {id : String}
    (answers : ∀ record ∈ base.store.records, ∃ graph,
      base.flows.get record.flow record.version = .ok graph ∧ record.Answerable graph)
    (delivered : deliver engine subject reply base = .ok (some id) left) :
    ∃ record ∈ base.store.records, record.id = id ∧ record.status = .waiting ∧
      record.subject = subject ∧ Reported base record left := by
  obtain ⟨record, member, rfl, waits, own, graph, label, reason, middle, resumes, rfl⟩ :=
    deliver_ended exclusive answers delivered
  let waiting := { record with vars := record.vars.set Handler.lastMessage reply }
  let held := { base with executions := base.executions.enter record.id }
  have holds : Holds base record record.log held :=
    (Holds.refl member).beside ⟨rfl, rfl, rfl, rfl⟩
  obtain ⟨_, taken, done, resumed, -⟩ := guarded_resumes stored exclusive.distinct
    (Store.version_ne_zero member) waits holds graph waiting.vars label reason reply
  cases resumes.symm.trans done
  have went := waiting.resumed_continues graph label reason reply base.clock
  have more := waiting.resumed_resumptions graph label reason reply base.clock
  exact ⟨record, member, rfl, waits, own,
    (resumed.beside ⟨rfl, rfl, rfl, rfl⟩).reported went.id more⟩

/-- If a wait is told to have been over, the execution was due, and its wait was taken up while it
was held. -/
theorem expireOne_ended {id : String} {later : Execution String} {now : Time.Moment}
    (found : world.store.get id = .ok later)
    (ended : expireOne engine id now world = .ok true left) :
    later.isDue now = true ∧ ∃ graph middle, guarded engine
        { later with vars := later.vars.set Handler.timeoutTriggered (.bool true) }
        (Tick.resume engine graph (.text Flow.no) (.text "timeout") .null true)
        { world with executions := world.executions.enter id } = .ok () middle ∧
      left = { middle with executions := middle.executions.leave id } := by
  obtain ⟨final, done, rfl⟩ := holdingExecution_ended ended
  let held := { world with executions := world.executions.enter id }
  have given : read id held = .ok later held := by
    rw [read_apply, show held.store = world.store from rfl, found]
  rw [bind_of_ok given] at done
  cases status : later.status with
  | waiting =>
    cases until? : later.deadline with
    | none =>
      simp only [status, until?] at done
      cases done
    | some deadline =>
      simp only [status, until?] at done
      obtain ⟨passed, compared, done⟩ := ofExcept_ended done
      cases passed with
      | false => cases done
      | true =>
        rw [if_pos rfl, bind_of_ok (get_apply held)] at done
        obtain ⟨graph, -, done⟩ := ofExcept_ended done
        obtain ⟨_, middle, resumes, told⟩ := bind_ended done
        cases told
        have due : deadline.instant ≤ now.instant := by
          unfold Store.notAfter at compared
          split at compared
          · exact of_decide_eq_true (Except.ok.inj compared)
          · cases compared
        exact ⟨Execution.isDue_iff.mpr ⟨status, deadline, until?, due⟩, graph, _, resumes, rfl⟩
  | _ =>
    simp only [status] at done
    cases done

/-- If a wait is told to have been over, the record was due, and an execution of it was handed over
with the end of the wait. -/
theorem expireOne_reports (stored : engine.keeping = .stored) (distinct : base.store.Distinct)
    (member : record ∈ base.store.records) {now : Time.Moment} (grown : Grown base world)
    (spared : Spared engine.capabilities base record world)
    (ended : expireOne engine record.id now world = .ok true left) :
    record.isDue now = true ∧ ∃ graph taken,
      Resumed base record (record.timedOut graph base.clock) taken left := by
  rcases spared with here | dismissed
  · obtain ⟨due, graph, middle, resumes, rfl⟩ :=
      expireOne_ended ((grown.distinct distinct).get here) ended
    let held := { world with executions := world.executions.enter record.id }
    have holds : Holds base record record.log held :=
      ⟨grown.beside ⟨rfl, rfl, rfl, rfl⟩, record, here, .refl record, .refl _ _⟩
    obtain ⟨_, taken, done, resumed, -⟩ := guarded_resumes stored distinct
      (Store.version_ne_zero member) (Execution.isDue_iff.mp due).1 holds graph
      (record.vars.set Handler.timeoutTriggered (.bool true)) Flow.no "timeout" .null
    cases resumes.symm.trans done
    exact ⟨due, graph, taken, resumed.beside ⟨rfl, rfl, rfl, rfl⟩⟩
  · -- What was cancelled does not wait, so nothing was told of it.
    obtain ⟨final, read, cancelled⟩ := dismissed.read (grown.distinct distinct)
    have waits := (Execution.isDue_iff.mp (expireOne_ended read ended).1).1
    rw [cancelled] at waits
    cases waits

/-- What a pass tells is what is told of its first turn, and of the turns after it. -/
theorem expireEach_ended {id : String} {rest expired : List String} {now : Time.Moment}
    (ended : expireEach engine now (id :: rest) world = .ok expired left) :
    ∃ others,
      expireEach engine now rest (after (expireOne engine id now) world) = .ok others left ∧
      (expired = others ∨ expired = id :: others ∧
        ∃ turned, expireOne engine id now world = .ok true turned) := by
  cases turn : expireOne engine id now world with
  | ok resumed turned =>
    rw [after_of_ok turn]
    obtain ⟨others, done⟩ := expireEach_apply engine now rest turned
    have whole := expireEach_cons turn done
    rw [ended] at whole
    obtain ⟨told, rfl⟩ := EStateM.Result.ok.inj whole
    refine ⟨others, done, ?_⟩
    cases resumed with
    | true => exact .inr ⟨told, turned, rfl⟩
    | false => exact .inl told
  | error failure turned =>
    rw [after_of_error turn]
    obtain ⟨others, done⟩ := expireEach_apply engine now rest turned
    have attempted : attempt (expireOne engine id now) world = .ok (.error failure) turned := by
      rw [attempt, turn]
    rw [expireEach, bind_of_ok attempted, bind_of_ok done] at ended
    obtain ⟨told, rfl⟩ := EStateM.Result.ok.inj ended
    exact ⟨others, done, .inl told.symm⟩

/-- If the waits of some ids are told to have been over in a pass, their records were due, and
executions of them were handed over with the ends of the waits. -/
theorem expireEach_reports (stored : engine.keeping = .stored) (distinct : base.store.Distinct)
    {now : Time.Moment} {ids expired : List String} (once : ids.Nodup) (grown : Grown base world)
    (spared : ∀ id ∈ ids, ∃ record ∈ base.store.records, record.id = id ∧
      Spared engine.capabilities base record world)
    (ended : expireEach engine now ids world = .ok expired left) :
    ∀ id ∈ expired, ∃ record ∈ base.store.records, record.id = id ∧ record.isDue now = true ∧
      ∃ graph taken, Resumed base record (record.timedOut graph base.clock) taken left := by
  induction ids generalizing world expired with
  | nil =>
    cases ended
    exact nofun
  | cons id rest ih =>
    obtain ⟨apart, onceRest⟩ := List.nodup_cons.mp once
    obtain ⟨⟨record, member, rfl, own⟩, others⟩ := List.forall_mem_cons.mp spared
    obtain ⟨told, done, report⟩ := expireEach_ended ended
    have turned := expireOne_attended engine record.id now world
    have waiting : ∀ id ∈ rest, ∃ other ∈ base.store.records, other.id = id ∧
        Spared engine.capabilities base other (after (expireOne engine record.id now) world) := by
      rintro id listed
      obtain ⟨other, stands, rfl, still⟩ := others id listed
      have differs : record.id ≠ other.id := fun same => apart (same ▸ listed)
      have withstood := (Spared.withstands distinct engine other).attended stored differs turned
        ⟨grown, still⟩
      exact ⟨other, stands, rfl, withstood.2⟩
    have onward := expireOne_grown stored record.id now grown
    have later := ih onceRest onward waiting done
    rcases report with rfl | ⟨rfl, middle, first⟩
    · exact later
    · refine List.forall_mem_cons.mpr ⟨?_, later⟩
      obtain ⟨due, graph, taken, resumed⟩ :=
        expireOne_reports stored distinct member grown own first
      rw [after_of_ok first] at done
      have withstood := expireEach_withstood stored
        (Resumed.withstands distinct engine record (record.timedOut graph base.clock) taken) apart
        now resumed
      rw [after_of_ok done] at withstood
      exact ⟨record, member, rfl, due, graph, taken, withstood⟩

end Desk

/-- What is reported is true of what was handed to the store. An id that a reply is told to have
resumed is that of a record that waited for the subject, an id that a pass tells is that of a record
that was due, and of both an execution was handed over with one more end of a wait in its log. The
stored log tells of one more exactly if the store took that. -/
theorem World.Reached.reports {engine : Engine} {world : World} (reached : Reached engine world) :
    (∀ subject reply id left,
      (Call.inbound subject reply).perform engine world = .ok (.routed (some id)) left →
        ∃ record ∈ world.store.records, record.id = id ∧ record.status = .waiting ∧
          record.subject = Subject.ofValue subject ∧ Reported world record left) ∧
    ∀ now expired left, (Call.expire now).perform engine world = .ok (.expired expired) left →
      ∀ id ∈ expired, ∃ record ∈ world.store.records, record.id = id ∧
        record.isDue now = true ∧ Reported world record left := by
  have stored : engine.atDesk.keeping = .stored := rfl
  have exclusive := reached.exclusive
  have distinct := exclusive.distinct
  refine ⟨fun subject reply id left performed => ?_, fun now expired left performed id listed => ?_⟩
  · obtain ⟨told, middle, routed, called⟩ := bind_ended performed
    cases called
    obtain ⟨final, delivered, rfl⟩ := Desk.inbound_ended routed
    let held := { world with subjects := world.subjects.enter (Subject.ofValue subject) }
    have reported := @Desk.deliver_reports _ held final stored exclusive _ _ _ reached.answerable
      delivered
    exact reported
  · obtain ⟨told, middle, ended, called⟩ := bind_ended performed
    cases called
    obtain ⟨ids, due, done⟩ := Desk.ofExcept_ended ended
    have once := distinct.listDue due
    obtain ⟨within, sub, perm⟩ := Store.listDue_sublist due
    have spared (id : String) (own : id ∈ ids) : ∃ record ∈ world.store.records, record.id = id ∧
        Spared engine.capabilities world record world := by
      obtain ⟨record, member, rfl⟩ := List.mem_map.mp (perm.mem_iff.mp own)
      exact ⟨record, sub.subset member, rfl, .inl (sub.subset member)⟩
    obtain ⟨record, member, named, isDue, graph, taken, resumed⟩ :=
      Desk.expireEach_reports stored distinct once (.refl world) spared done id listed
    have went := record.timedOut_continues graph world.clock
    have more : (record.timedOut graph world.clock).resumptions = record.resumptions + 1 :=
      Execution.resumed_resumptions _ graph Flow.no "timeout" .null world.clock
    exact ⟨record, member, named, isDue, resumed.reported went.id more⟩

deriving instance DecidableEq for Answer

/-- A call that is answered ends well. -/
theorem Call.answered {engine : Engine} {call : Call} {world : World} {answer : Answer}
    (told : (call.outcome engine world).toOption = some answer) :
    call.perform engine world = .ok answer (after (call.perform engine) world) := by
  unfold outcome at told
  unfold after
  cases performed : call.perform engine world with
  | ok given left =>
    rw [performed] at told
    cases told
    rfl
  | error failure left =>
    rw [performed] at told
    cases told

/-- The reply of the subject that was asked is told to have resumed its execution, of which the
store then tells one more end of a wait. -/
theorem World.asked_reply_reported :
    Reached .quiet asked ∧ ∃ left,
      (Call.inbound (.text "+31 6") (.text "well")).perform .quiet asked =
        .ok (.routed (some "ex0001")) left ∧
      (∃ record ∈ asked.store.records, record.id = "ex0001" ∧ Reported asked record left) ∧
      asked.store.records.map Execution.resumptions = [0] ∧
      left.store.records.map Execution.resumptions = [1] := by
  have performed := Call.answered
    (show ((Call.inbound (.text "+31 6") (.text "well")).outcome .quiet asked).toOption =
      some (.routed (some "ex0001")) by decide +kernel)
  obtain ⟨record, member, named, -, -, reported⟩ :=
    (World.Reached.reports asked_reached).1 _ _ _ _ performed
  exact ⟨asked_reached, _, performed, ⟨record, member, named, reported⟩, by decide +kernel,
    by decide +kernel⟩

/-- The world in which a subject waits for an answer over a store in tables. -/
def World.filed : World :=
  Call.runs .faltering [.register Flow.tallying, .start "tallying" (.text "316") .null]
    (.start .dawn (.table .empty))

/-- If the store refuses the execution whose wait was taken up, because it is out of order or
because tables have no text for the reply, the id is told all the same, in a pass too, and the
record goes on waiting. -/
theorem World.refused_resume_told :
    (Reached .flaky retried ∧
      retried.store.records.map Execution.resumptions = [0, 0] ∧
      (∃ left, (Call.inbound (.text "+31 6") (.text "well")).perform .flaky retried =
          .ok (.routed (some "ex0002")) left ∧
        left.store.records.map Execution.status = [.failed, .waiting] ∧
        left.store.records.map Execution.resumptions = [0, 0]) ∧
      ∃ left, (Call.expire { Time.Moment.monthOn with offset := none }).perform .flaky retried =
          .ok (.expired ["ex0002"]) left ∧
        left.store.records.map Execution.status = [.failed, .waiting] ∧
        left.store.records.map Execution.resumptions = [0, 0]) ∧
    Reached .faltering filed ∧ (∀ before status, Engine.faltering.refusal before status = none) ∧
      ∃ left, (Call.inbound (.text "316") .foreign).perform .faltering filed =
          .ok (.routed (some "ex0001")) left ∧
        left.store.records.map Execution.status = [.waiting] ∧
        left.store.records.map Execution.resumptions = [0] := by
  have reply := Call.answered
    (show ((Call.inbound (.text "+31 6") (.text "well")).outcome .flaky retried).toOption =
      some (.routed (some "ex0002")) by decide +kernel)
  have pass := Call.answered
    (show ((Call.expire { Time.Moment.monthOn with offset := none }).outcome .flaky
      retried).toOption = some (.expired ["ex0002"]) by decide +kernel)
  have untold := Call.answered
    (show ((Call.inbound (.text "316") .foreign).outcome .faltering filed).toOption =
      some (.routed (some "ex0001")) by decide +kernel)
  exact ⟨⟨⟨_, _, _, .memory, rfl⟩, by decide +kernel,
      ⟨_, reply, by decide +kernel, by decide +kernel⟩, _, pass, by decide +kernel,
      by decide +kernel⟩,
    ⟨_, _, _, .table, rfl⟩, fun _ _ => rfl, _, untold, by decide +kernel, by decide +kernel⟩

end Parley
