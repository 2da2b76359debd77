import Parley.Proofs.Expiry
import Parley.Proofs.Grants
import Parley.Proofs.Interruption

/-!
# Cancellations that were granted

A cancellation that is granted while nothing is done is final. One that is granted while an
execution is stepped is noticed before the next visit: the execution is cancelled once more, and if
the store takes that, the cancellation stands. If the visit in progress parks or ends the execution,
the cancellation is lost. What is cancelled when a call is over stays so.
-/

namespace Parley

open Parley.Computation World

namespace Tick

/-- How a round comes to its end: the next visit of the execution of an id is awaited, or what was
granted since a base is honoured. -/
inductive Answers (id : String) (base : World) : EStateM.Result Failure Session Bool → Prop where
  /-- The tick goes on. -/
  | onward {next : Session} (same : next.execution.id = id) (awaits : Awaits id base next.world) :
    Answers id base (.ok true next)
  /-- The tick is over. -/
  | done {left : Session} (honours : Honours id base left.world) : Answers id base (.ok false left)
  /-- The round fails. -/
  | failed {failure : Failure} {left : Session} (honours : Honours id base left.world) :
    Answers id base (.error failure left)

/-- A round that comes to its end after nothing was granted does so. -/
theorem Answers.after {id : String} {base middle : World}
    {result : EStateM.Result Failure Session Bool} (answers : Answers id middle result)
    (awaits : Awaits id base middle) (quiet : middle.interrupted = false) :
    Answers id base result := by
  cases answers with
  | onward same next => exact .onward same (awaits.trans quiet next)
  | done honours => exact .done (awaits.honours quiet honours)
  | failed honours => exact .failed (awaits.honours quiet honours)

variable {engine : Engine} (stored : engine.keeping = .stored)
include stored

/-- What hands an execution over that is not cancelled comes to its end, if it is heeded. -/
theorem Answers.ofHands {id : String} {handed : Execution String} {goes : Bool} {world : World}
    {result : EStateM.Result Failure Session Bool} (hands : Hands engine handed goes world result)
    (named : handed.id = id) (same : goes = handed.runs) (other : handed.status ≠ .cancelled)
    (steps : world.Steps id)
    (heeds : handed.status = .running → world.Heeds id (leftBy result).world) :
    Answers id world result := by
  subst same named
  cases hands with
  | taken stir kept =>
    cases runs : handed.runs with
    | true =>
      have running := Execution.runs_iff.mp runs
      exact .onward rfl (kept.awaits stored stir running steps (heeds running))
    | false =>
      have rests : handed.status ≠ .running := fun running => by
        rw [Execution.runs_iff.mpr running] at runs
        cases runs
      exact .done (kept.honours_rests stored stir rests other)
  | refused stir kept => exact .failed (kept.honours_refused stored stir)

omit stored in
/-- A visit does not cancel the execution. -/
theorem closed_uncancelled {execution : Execution String} (running : execution.status = .running)
    {graph : Flow.Graph} {node : Flow.Node String} {now : Time.Moment}
    {result : Except Failure (Action × Entries)} :
    (execution.closed graph node now result).status ≠ .cancelled := by
  cases result with
  | error failure =>
    simp only [Execution.closed]
    cases node.onError with
    | some fallback => simp [Execution.movedTo, Execution.told, Execution.append, running]
    | none => simp [Execution.failedFor, Execution.ended]
  | ok ending =>
    obtain ⟨action, payload⟩ := ending
    cases action with
    | suspend => simp [Execution.closed, Execution.parked, Execution.told, Execution.append]
    | finish => simp [Execution.closed, Execution.ended]
    | jump target =>
      simp [Execution.closed, Execution.movedTo, Execution.told, Execution.append, running]
    | follow label =>
      simp only [Execution.closed]
      cases graph.successor node.id label with
      | some target =>
        simp [Execution.advanced, Execution.movedTo, Execution.told, Execution.append, running]
      | none => simp [Execution.advanced, Execution.ended]

variable (graph : Flow.Graph)

/-- A round before which a visit is awaited comes to its end. -/
theorem round_answers (steps : Nat) {base : World} {session : Session}
    (running : session.execution.status = .running)
    (awaits : Awaits session.execution.id base session.world) :
    Answers session.execution.id base (round engine graph true steps session) := by
  have unended : session.execution.status ≠ .cancelled := by simp [running]
  cases asked : session.world.interrupted with
  | true =>
    have allowed : Status.cancelled ∈ session.execution.status.next := by
      rw [running]
      decide
    have hands := Run.ended_hands engine rfl allowed session.world
    rw [round_of_interrupted engine graph true asked, ← bind_assoc, bind_apply]
    generalize (do Run.setStatus engine .cancelled; Run.persist engine : Run Unit)
      ⟨session.execution, session.world⟩ = result at hands
    cases hands with
    | taken stir kept => exact .done (awaits.ended stored stir kept rfl rfl)
    | refused stir kept => exact .failed (awaits.ended stored stir kept rfl rfl)
  | false =>
    -- A round that finds no request to stop comes after nothing was granted.
    refine .after ?_ awaits asked
    by_cases spent : engine.settings.budget.le (.int steps)
    · rw [round_of_exhausted engine graph true asked spent]
      have hands := exhaust_hands engine running session.world
      have failed : (session.execution.exhausted engine.settings.budget
          session.world.clock).status = .failed := rfl
      exact .ofHands stored hands.thenReturn rfl rfl (by simp [failed]) awaits.steps
        (by simp [failed])
    · rw [round_of_affordable engine graph true asked spent]
      cases found : session.execution.node.bind graph.node? with
      | none =>
        rw [proceed_of_lost engine graph found]
        exact .failed (.beside (refl_of _ session.world))
      | some node =>
        rw [proceed_of_found engine graph found]
        obtain ⟨result, left, handled, hands⟩ :=
          visit_hands engine graph node running session.world
        have still : left.status = .running := by
          obtain ⟨vars, deadline, keywords, rfl⟩ := handled.changes
          exact running
        have heeds := (visit_heeds engine session.execution.id graph node session unended).2
        rw [← leftBy_apply] at heeds
        exact .ofHands stored hands (handled.continues graph).id rfl
          (closed_uncancelled still) awaits.steps fun _ => heeds

variable {graph} {base : World} {start middle : Session} {steps : Nat}

/-- Wherever the loop of a tick stands, the next visit is awaited if the first one was. -/
theorem Stands.awaits (stands : Stands engine graph true start steps middle)
    (running : start.execution.status = .running)
    (awaits : Awaits start.execution.id base start.world) :
    middle.execution.id = start.execution.id ∧
      Awaits start.execution.id base middle.world := by
  induction stands with
  | start => exact ⟨rfl, awaits⟩
  | @round steps middle next stands went before =>
    obtain ⟨same, awaited⟩ := before
    rw [← same] at awaited ⊢
    have answers := round_answers stored graph steps (stands.rounds running).2.1 awaited
    rw [went] at answers
    cases answers with
    | onward named next => exact ⟨named, next⟩

section

variable (bounded : engine.settings.budget.ceiling?.isSome)
include bounded

/-- A tick whose first visit is awaited honours what was granted. -/
theorem tick_honours (start : Session) (running : start.execution.status = .running)
    (awaits : Awaits start.execution.id base start.world) :
    Honours start.execution.id base (after (tick engine graph true) start).world := by
  obtain ⟨steps, middle, stands, stops⟩ := Stands.last engine graph true running bounded
  obtain ⟨same, awaited⟩ := Stands.awaits stored stands running awaits
  rw [← same] at awaited ⊢
  have answers := round_answers stored graph steps (stands.rounds running).2.1 awaited
  rw [stands.after_tick running bounded stops, ← leftBy_apply]
  generalize round engine graph true steps middle = result at answers stops
  cases answers with
  | onward => exact absurd rfl (stops _)
  | done honours => exact honours
  | failed honours => exact honours

/-- An execution that enters a node and goes on from there honours what was granted. -/
theorem enter_honours (execution : Execution String) (running : execution.status = .running)
    {world stirred : World} (steps : world.Steps execution.id)
    (stir : Astir engine world stirred) (heeds : world.Heeds execution.id stirred)
    (target : String) :
    Honours execution.id world
      (after (do Run.moveTo engine target; tick engine graph true : Run Status)
        ⟨execution, stirred⟩).world := by
  have hands := (Run.moveTo_hands engine target execution stirred).before stir
  have unended : execution.status ≠ .cancelled := by simp [running]
  have moved := (Run.moveTo_heeds engine execution.id target ⟨execution, stirred⟩ unended).2
  cases ended : Run.moveTo engine target ⟨execution, stirred⟩ with
  | error failure left =>
    rw [after_bind_of_error ended]
    rw [ended] at hands
    cases hands with
    | refused stir kept => exact kept.honours_refused stored stir
  | ok value left =>
    rw [after_of_ok ended] at moved
    rw [after_bind_of_ok ended]
    rw [ended] at hands
    cases hands with
    | @taken _ left stir kept =>
      exact tick_honours stored bounded ⟨execution.movedTo target stirred.clock, left⟩ running
        (kept.awaits stored stir running steps (trans_of _ heeds moved))

variable (graph)

/-- Starting an execution honours what was granted. -/
theorem start_honours (execution : Execution String) (running : execution.status = .running)
    {world : World} (steps : world.Steps execution.id) :
    Honours execution.id world
      (after (Tick.start engine graph true) ⟨execution, world⟩).world :=
  enter_honours stored bounded execution running steps (refl_of _ world) (refl_of _ world)
    graph.start

/-- Taking up a wait honours what was granted. -/
theorem resume_honours (execution : Execution String) (waiting : execution.status = .waiting)
    {world : World} (steps : world.Steps execution.id) (label reason : String) (reply : Value) :
    Honours execution.id world
      (after (resume engine graph (.text label) (.text reason) reply true)
        ⟨execution, world⟩).world := by
  obtain ⟨stirred, stir, set, completes, goes⟩ :=
    resume_opens engine graph label reason reply true waiting world
  let running := execution.rerun label reason reply world.clock
  have told : execution.status ≠ .cancelled := by simp [waiting]
  have heeds := (Run.setStatus_heeds engine execution.id .running (by decide)
    ⟨execution.told execution.node .resumed world.clock
      (Execution.taking label reason reply), world⟩ told).2
  rw [after_of_ok set] at heeds
  cases found : execution.node.bind (graph.onward · label) with
  | none =>
    have left : after (resume engine graph (.text label) (.text reason) reply true)
        ⟨execution, world⟩ = after (Run.complete engine) ⟨running, stirred⟩ := by
      rw [Computation.after, completes found]
      exact after_tick_of_stops
    have hands := (Run.complete_hands engine (rfl : running.status = .running) stirred).before stir
    rw [left, ← leftBy_apply]
    generalize Run.complete engine ⟨running, stirred⟩ = result at hands
    cases hands with
    | taken stir kept =>
      exact kept.honours_rests stored stir (show Status.completed ≠ .running by decide)
        (show Status.completed ≠ .cancelled by decide)
    | refused stir kept => exact kept.honours_refused stored stir
  | some target =>
    have left : after (resume engine graph (.text label) (.text reason) reply true)
        ⟨execution, world⟩ =
          after (do Run.moveTo engine target; tick engine graph true : Run Status)
            ⟨running, stirred⟩ := by
      rw [Computation.after, goes target found, ← bind_assoc]
      exact after_tick_of_stops
    rw [left]
    exact enter_honours stored bounded running rfl steps stir heeds target

end

end Tick

/-- When the world is stirred, what is granted is kept. -/
theorem World.Stirred.honours {before after : World} (stirred : Stirred before after)
    (id : String) : Honours id before after := by
  obtain ⟨asked, saves, -, last⟩ := stirred.grants id
  exact ⟨asked, saves, fun granted later suffix grants =>
    .inl (last granted later suffix grants).2⟩

/-- That cancellations of an execution are honoured withstands the turns of other executions. -/
theorem World.Honours.withstands (engine : Engine) (base : World) (id : String) :
    Withstands engine id (Honours id base) where
  astir astir honours := by
    obtain ⟨-, -, stays, -⟩ := astir.stirred.grants id
    exact honours.trans stays (astir.stirred.honours id)
  offered {execution _ taken _} apart offered honours := by
    refine honours.trans (·.others apart offered) ⟨_, offered.saves, ?_⟩
    rw [requestsFor_apart apart]
    exact .nil

/-- A record that has ended is read again after moves of the desk. -/
theorem Moves.final {engine : Engine} {world left : World}
    (moves : Moves engine ⟨world, .empty⟩ ⟨left, .empty⟩) (distinct : world.store.Distinct) :
    left.store.Distinct ∧ ∀ id record, world.store.get id = .ok record →
      record.status.isFinal = true → left.store.get id = .ok record := by
  have preserves := Moves.keep (fun _ _ move => Scene.Preserves.move move) moves
    (Scene.Preserves.start distinct)
  refine ⟨preserves.distinct, fun id record read final => ?_⟩
  obtain ⟨member, rfl⟩ := Store.mem_of_get read
  obtain ⟨later, kept, -, same⟩ := preserves.kept record member
  rw [same final] at kept
  exact preserves.distinct.get kept

/-- What is cancelled stays so after moves of the desk. -/
theorem World.Cancelled.moves {engine : Engine} {world left : World} {id : String}
    (cancelled : world.Cancelled id) (distinct : world.store.Distinct)
    (moves : Moves engine ⟨world, .empty⟩ ⟨left, .empty⟩) : left.Cancelled id := by
  obtain ⟨record, read, ended⟩ := cancelled
  exact ⟨record, (moves.final distinct).2 id record read (by rw [ended]; rfl), ended⟩

namespace Desk

variable {engine : Engine} {id : String} {world left : World}

/-- Guarded work honours what was granted if the work does. -/
theorem guarded_honours (execution : Execution String) {work : Run Status}
    (worked : ∀ held : World, held.Steps execution.id →
      Honours execution.id held (after work ⟨execution, held⟩).world) :
    Honours execution.id world (after (guarded engine execution work) world) := by
  obtain ⟨left, done, guards⟩ := guarded_left engine execution work world
  have same : Beside world (opened execution.id world) := ⟨rfl, rfl, rfl, rfl⟩
  have honours := (worked (opened execution.id world) ⟨_, rfl⟩).early same.saves
  rw [← leftBy_apply] at honours
  rw [after_of_ok done]
  generalize work ⟨execution, opened execution.id world⟩ = result at honours guards
  cases guards with
  | rested same => exact honours.late same
  | @failed failure session closed noted left before noting same =>
    refine .late ?_ same
    have met := honours.late before
    cases noting with
    | spared spare => exact met
    | crashed read runs offered =>
      have running := not_cancelled read (by rw [runs]; rfl)
      exact met.trans (absurd · running)
        (.offered offered (show Status.failed ≠ .cancelled by decide))

variable (stored : engine.keeping = .stored) (bounded : engine.settings.budget.ceiling?.isSome)
include stored bounded

/-- Looking after a wait honours what was granted. -/
theorem Attended.honours {other : String} (attended : Attended engine other world left)
    (id : String) : Honours id world left := by
  by_cases own : other = id
  · subst own
    cases attended with
    | passed same => exact .beside same
    | @kept stood noted left record reply taken entered read waits offered same =>
      have asked : Honours other stood noted := .offered offered (by simp [waits])
      exact (asked.early entered.saves).late same
    | @roused stood left record graph vars label reason reply entered read waits had same =>
      obtain ⟨-, rfl⟩ := Store.mem_of_get read
      have roused : Honours record.id stood (after (guarded engine { record with vars }
          (Tick.resume engine graph (.text label) (.text reason) reply true)) stood) :=
        guarded_honours { record with vars } fun held steps =>
          Tick.resume_honours stored graph bounded { record with vars } waits steps label reason
            reply
      exact (roused.early entered.saves).late same
  · exact (Honours.withstands engine world id).attended stored own attended
      (.beside (refl_of _ world))

/-- A start honours what was granted. -/
theorem Begun.honours (begun : Begun engine world left) (id : String) : Honours id world left := by
  cases begun with
  | refused same => exact .beside same
  | @made stood opened left flow other graph version key vars store entered newest free created
      opening same =>
    let execution := Execution.new other graph.id version (Subject.ofValue key) vars stood.clock
    have worked : Honours id opened (after (guarded engine execution
        (Tick.start engine graph true)) opened) := by
      by_cases own : other = id
      · subst own
        exact guarded_honours execution fun held steps =>
          Tick.start_honours stored graph bounded execution rfl steps
      · have works (held : World) (beside : Beside opened held) :
            Tick.Works engine graph (execution.movedTo graph.start opened.clock) held
              (Tick.start engine graph true ⟨execution, held⟩) := by
          rw [← beside.clock]
          exact Tick.start_works engine graph true rfl held
        exact (Honours.withstands engine opened id).guarded stored works rfl own
          (.beside (refl_of _ opened))
    exact (worked.early (opening.saves.trans entered.saves)).late same

/-- Ending waits, one after another, honours what was granted. -/
theorem expireEach_honours (now : Time.Moment) (ids : List String)
    (distinct : world.store.Distinct) (id : String) :
    Honours id world (ids.foldl (fun world id => after (expireOne engine id now) world) world) := by
  induction ids generalizing world with
  | nil => exact .beside (refl_of _ world)
  | cons other rest ih =>
    have turn := expireOne_attended engine other now world
    have turned := (Moves.final (turn.serves stored).moves distinct).1
    obtain ⟨resumed, done⟩ :=
      expireEach_apply engine now rest (after (expireOne engine other now) world)
    have serves := expireEach_serves stored now rest (after (expireOne engine other now) world)
    rw [after_of_ok done] at serves
    exact (turn.honours stored bounded id).trans (·.moves turned serves.moves) (ih turned)

/-- Ending all waits that are over honours what was granted. -/
theorem expire_honours (now : Time.Moment) (distinct : world.store.Distinct) (id : String) :
    Honours id world (after (expire engine now) world) := by
  unfold expire
  rw [after_bind_of_ok (get_apply world)]
  refine ofExcept_leaves (.beside (refl_of _ world)) fun ids _ => ?_
  obtain ⟨resumed, done⟩ := expireEach_apply engine now ids world
  rw [after_of_ok done]
  exact expireEach_honours stored bounded now ids distinct id

omit stored bounded in
/-- Cancelling an execution is answered with yes exactly if a cancellation of it was granted. -/
theorem cancel_iff_granted (engine : Engine) {answer : Bool}
    (ended : cancel engine id world = .ok answer left) :
    answer = true ↔ ∃ granted, left.saves = world.saves ++ [granted] ∧
      granted.execution.id = id ∧ granted.Grants := by
  rw [cancel_apply] at ended
  cases found : world.store.get id with
  | error failure =>
    rw [found] at ended
    cases ended
  | ok record =>
    rw [found] at ended
    by_cases final : record.status.isFinal
    · simp only [if_pos final] at ended
      cases ended
      simp
    simp only [if_neg final] at ended
    let held := { world.raiseSignal id with
      executions := (world.raiseSignal id).executions.enter id }
    obtain ⟨taken, met, offered, took, refused⟩ :=
      save_offers engine (record.ended .cancelled world.clock) held
    cases taken with
    | true =>
      rw [took rfl] at ended
      cases ended
      have named : record.id = id := (Store.mem_of_get found).2
      exact ⟨fun _ => ⟨_, offered.saves, named, rfl, rfl⟩, fun _ => rfl⟩
    | false =>
      obtain ⟨failure, -, failed⟩ := refused rfl
      rw [failed] at ended
      cases ended

end Desk

/-- A call honours what was granted. -/
theorem Call.perform_honours {engine : Engine} (bounded : engine.settings.budget.ceiling?.isSome)
    (call : Call) {world : World} (distinct : world.store.Distinct) (id : String) :
    Honours id world (after (call.perform engine) world) := by
  have bounded : engine.atDesk.settings.budget.ceiling?.isSome := bounded
  cases call with
  | register definition =>
    rw [perform, after_thenPure]
    refine Desk.ofExcept_leaves (.beside (refl_of _ world)) fun graph _ => ?_
    exact ⟨[], (List.append_nil _).symm, .nil⟩
  | start flow subject vars =>
    rw [perform, after_thenPure]
    exact (Desk.start_begun engine.atDesk flow subject vars world).honours engine.atDesk_keeping
      bounded id
  | inbound subject reply =>
    rw [perform, after_thenPure]
    obtain ⟨other, attended⟩ := Desk.inbound_attended engine.atDesk subject reply world
    exact attended.honours engine.atDesk_keeping bounded id
  | expire now =>
    rw [perform, after_thenPure]
    exact Desk.expire_honours engine.atDesk_keeping bounded now distinct id
  | cancel other =>
    rw [perform, after_thenPure]
    exact (Desk.cancel_stirs engine.atDesk other world).honours id
  | wait moment => exact ⟨[], (List.append_nil _).symm, .nil⟩

/-- The execution of an id is cancelled in the store, and its record stays what it is whatever the
desk is called for later. -/
def World.StaysCancelled (engine : Engine) (world : World) (id : String) : Prop :=
  ∃ record, world.store.get id = .ok record ∧ record.status = .cancelled ∧
    ∀ calls, (Call.runs engine calls world).store.get id = .ok record

/-- What is cancelled when nothing is done stays so. -/
theorem World.Cancelled.stays {world : World} {id : String} (cancelled : world.Cancelled id)
    (distinct : world.store.Distinct) (engine : Engine) : world.StaysCancelled engine id := by
  obtain ⟨record, read, ended⟩ := cancelled
  refine ⟨record, read, ended, fun calls => ?_⟩
  have kept := (Moves.final (Call.runs_serves engine calls world) distinct).2
  exact kept id record read (by rw [ended]; rfl)

/-- A cancellation is answered with yes exactly if it was granted. One that is granted while nothing
is done is final. Of one that is granted while the desk is called, three things may come: the
execution is cancelled when the call is over, and stays so; or the next request to save it that the
store was asked for parked it or ended it in another way, since the visit in progress did; or it
went on by that request, and the store refused it as cancelled before the next visit. -/
theorem World.Reached.cancellations_honoured {engine : Engine} {world : World}
    (reached : World.Reached engine world) (bounded : engine.settings.budget.ceiling?.isSome) :
    (∀ id before left answer, Desk.cancel engine.atDesk id before = .ok answer left →
      (answer = true ↔ ∃ granted, left.saves = before.saves ++ [granted] ∧
        granted.execution.id = id ∧ granted.Grants)) ∧
    (∀ id left, Desk.cancel engine.atDesk id world = .ok true left →
      left.StaysCancelled engine id) ∧
    ∀ (call : Call) id granted later,
      granted :: later <:+ requestsFor id ((after (call.perform engine) world).since world) →
      granted.Grants →
      (after (call.perform engine) world).StaysCancelled engine id ∨ Overruled later := by
  have distinct := reached.exclusive.distinct
  have calls (call : Call) (id : String) (granted : Save) (later : List Save)
      (suffix : granted :: later <:+
        requestsFor id ((after (call.perform engine) world).since world))
      (grants : granted.Grants) :
      (after (call.perform engine) world).StaysCancelled engine id ∨ Overruled later := by
    obtain ⟨asked, saves, honoured⟩ := call.perform_honours bounded distinct id
    have moved := (Moves.final (call.perform_serves engine world) distinct).1
    rw [since, saves, List.drop_left] at suffix
    exact (honoured granted later suffix grants).imp_left fun kept => kept.stays moved engine
  refine ⟨fun id before left answer ended => Desk.cancel_iff_granted engine.atDesk ended, ?_, calls⟩
  intro id left ended
  obtain ⟨granted, saves, named, grants⟩ :=
    (Desk.cancel_iff_granted engine.atDesk ended).mp rfl
  have same : after ((Call.cancel id).perform engine) world = left := by
    rw [Call.perform, after_thenPure, after_of_ok ended]
  have own : requestsFor id (left.since world) = [granted] := by
    rw [since, saves, List.drop_left, requestsFor_self named]
  have final := calls (.cancel id) id granted []
  rw [same, own] at final
  rcases final (List.suffix_refl _) grants with stays | overruled
  · exact stays
  · cases overruled

/-- An engine whose observers ask for the first execution to be cancelled when the visit of a node
begins. -/
def Engine.heckled (node : String) : Engine := { Engine.quiet with
  capabilities := { Capabilities.quiet with
    watch := fun notice =>
      if notice = .nodeStart "ex0001" node then ⟨["ex0001"], none⟩ else .none } }

/-- The world of an engine that knows how to greet. -/
def World.courteous (engine : Engine) : World :=
  Call.runs engine [.register Flow.greeting] (.start default (.memory .empty))

/-- The world of an engine after a subject was greeted. -/
def World.greeted (engine : Engine) : World :=
  after ((Call.start "greeting" (.text "+31 6") .null).perform engine) (courteous engine)

/-- A cancellation that is granted while a subject is asked is final, since the visit leads on: the
execution is saved once more as it was, and then as cancelled. -/
theorem World.heckled_cancelled :
    let engine := Engine.heckled "ask"
    let left := greeted engine
    Reached engine (courteous engine) ∧ engine.settings.budget.ceiling?.isSome ∧
      ((left.since (courteous engine)).map fun save => (save.taken, save.execution.status)) =
        [(true, .running), (true, .running), (true, .cancelled), (true, .running),
          (true, .cancelled)] ∧
      left.StaysCancelled engine "ex0001" := by
  intro engine left
  have reached : Reached engine (courteous engine) := ⟨_, _, _, .memory, rfl⟩
  have bounded : engine.settings.budget.ceiling?.isSome := rfl
  let own := requestsFor "ex0001" (left.since (courteous engine))
  have shape : ((own.drop 2).map fun save => (save.taken, save.execution.status)) =
      [(true, .cancelled), (true, .running), (true, .cancelled)] := by decide +kernel
  refine ⟨reached, bounded, by decide +kernel, ?_⟩
  obtain ⟨granted, run, last, split⟩ : ∃ granted run last, own.drop 2 = [granted, run, last] := by
    have three : (own.drop 2).length = 3 := by simpa using congrArg List.length shape
    exact List.length_eq_three.mp three
  rw [split] at shape
  simp only [List.map_cons, List.map_nil, List.cons.injEq, Prod.mk.injEq, and_true] at shape
  obtain ⟨grants, ⟨-, runs⟩, took, -⟩ := shape
  have suffix : [granted, run, last] <:+ own := split ▸ List.drop_suffix 2 own
  rcases (Reached.cancellations_honoured reached bounded).2.2 _ "ex0001" granted [run, last] suffix
    grants with stays | overruled
  · exact stays
  · cases overruled with
    | replaced _ rests _ => exact absurd runs rests
    | refused _ _ member _ refusal =>
      rw [List.mem_singleton.mp member, took] at refusal
      cases refusal

/-- Cancellations are granted that are not final: one while an execution is parked, which waits
afterwards, one while it comes to its end, which it reaches, and one after which the store refuses
to save the execution as cancelled again, which fails. -/
theorem World.heckled_lost :
    let granted (before after : World) := (after.since before).any fun save =>
      decide (save.execution.id = "ex0001" ∧ save.Grants)
    let statuses (world : World) := world.store.records.map fun record =>
      (record.id, record.status)
    let parking := Engine.heckled "answer"
    let ending := Engine.heckled "bye"
    let ended := after ((Call.inbound (.text "316") (.text "Fine!")).perform ending)
      (greeted ending)
    let refusing := { Engine.heckled "ask" with
      refusal := fun before status =>
        if status = .cancelled ∧ .cancelled ∈ before then some (.raised "OSError" "disk full")
        else none }
    (granted (courteous parking) (greeted parking) = true ∧
      statuses (greeted parking) = [("ex0001", .waiting)]) ∧
    (granted (greeted ending) ended = true ∧ statuses ended = [("ex0001", .completed)]) ∧
    granted (courteous refusing) (greeted refusing) = true ∧
      statuses (greeted refusing) = [("ex0001", .failed)] := by
  decide +kernel

end Parley
