import Parley.Desk
import Parley.Proofs.Visits

/-!
# Errands of the desk

What the desk leaves behind when it is called, told by the work on executions that it hands to the
engine. A failure of the work is noted in the store. A start makes at most one execution and works
on it; looking after a wait takes it up, keeps a reply for it, or passes by.
-/

namespace Parley

open Parley.Computation World

namespace Desk

variable (engine : Engine)

/-- What is done with the value of a result is done from the same world. -/
theorem ofExcept_leaves {α β : Type} {leaves : World → Prop} {result : Except Failure α}
    {rest : α → Desk β} {world : World} (stays : leaves world)
    (later : ∀ value, result = .ok value → leaves (after (rest value) world)) :
    leaves (after (ofExcept result >>= rest) world) := by
  cases result with
  | ok value => exact later value rfl
  | error failure => exact stays

/-- What ends well with the value of a result ends well from the same world. -/
theorem ofExcept_ended {α β : Type} {result : Except Failure α} {rest : α → Desk β}
    {world left : World} {value : β} (ended : (ofExcept result >>= rest) world = .ok value left) :
    ∃ given, result = .ok given ∧ rest given world = .ok value left := by
  cases result with
  | ok given => exact ⟨given, rfl, ended⟩
  | error failure => cases ended

/-- What is done with an execution that was read is done from the same world. -/
theorem read_leaves {β : Type} {leaves : World → Prop} {id : String}
    {rest : Execution String → Desk β} {world : World} (stays : leaves world)
    (later : ∀ record, world.store.get id = .ok record → leaves (after (rest record) world)) :
    leaves (after (read id >>= rest) world) := by
  cases found : world.store.get id with
  | ok record =>
    have given : read id world = .ok record world := by rw [read_apply, found]
    rw [after_bind_of_ok given]
    exact later record found
  | error failure =>
    have missing : read id world = .error failure world := by rw [read_apply, found]
    rw [after_bind_of_error missing]
    exact stays

/-- Noting that working on an execution failed leaves the world, or ends the execution in the store
if it runs there. -/
inductive Noted (id : String) (failure : Failure) (world : World) : World → Prop where
  /-- It does not run in the store, and stays. -/
  | spared (spare : ∀ record, world.store.get id = .ok record → record.status ≠ .running) :
    Noted id failure world world
  /-- It runs in the store, and is offered as failed. -/
  | crashed {record : Execution String} {taken : Bool} {left : World}
    (read : world.store.get id = .ok record) (runs : record.status = .running)
    (offered : Offered (record.crashed failure world.clock) world taken left) :
    Noted id failure world left

/-- An execution on which working failed is ended in the store, if it runs there. -/
theorem failStored_noted (id : String) (failure : Failure) (world : World) :
    ∃ left, failStored engine id failure world = .ok () left ∧ Noted id failure world left := by
  refine ⟨_, attempt_only _ world, ?_⟩
  cases found : world.store.get id with
  | error missing =>
    have read : read id world = .error missing world := by rw [read_apply, found]
    rw [after_bind_of_error read]
    refine .spared fun record had => ?_
    rw [found] at had
    cases had
  | ok record =>
    have read : read id world = .ok record world := by rw [read_apply, found]
    rw [after_bind_of_ok read]
    split
    · rename_i runs
      let reason := failure.kind ++ ": " ++ failure.message
      let told := record.blamed failure world.clock
      have still : told.status = .running := by
        simp only [told, Execution.blamed]
        cases record.node <;> exact runs
      have allowed : Status.failed ∈ ({ told with error := some reason }).status.next := by
        rw [still]
        decide
      have moved : ofExcept ({ told with error := some reason }.transition .failed world.clock)
          world = .ok (record.crashed failure world.clock) world := by
        rw [Execution.transition_final rfl allowed]
        rfl
      obtain ⟨taken, offered⟩ := save_after engine (record.crashed failure world.clock) world
      rw [after_bind_of_ok (get_apply world)]
      change Noted id failure world (after (ofExcept ({ told with error := some reason }.transition
        .failed world.clock) >>= fun ended => save engine ended) world)
      rw [after_bind_of_ok moved]
      exact .crashed found runs offered
    · rename_i rests
      refine .spared fun other had => ?_
      rw [found] at had
      cases had
      exact rests

/-- Reading an execution is tried without a change. -/
theorem attempt_read (id : String) (world : World) :
    attempt (read id) world = .ok (world.store.get id) world := by
  simp only [attempt, read_apply]
  cases world.store.get id <;> rfl

/-- Closing the request to cancel an execution that has ended is beside the executions. -/
theorem releaseIfFinal_beside (id : String) (world : World) :
    ∃ left, releaseIfFinal id world = .ok () left ∧ Beside world left := by
  unfold releaseIfFinal
  rw [bind_of_ok (attempt_read id world)]
  cases world.store.get id with
  | ok execution =>
    by_cases final : execution.status.isFinal
    · simp only [if_pos final]
      exact ⟨_, rfl, rfl, rfl, rfl, rfl⟩
    · simp only [if_neg final]
      exact ⟨_, rfl, rfl, rfl, rfl, rfl⟩
  | error failure => exact ⟨_, rfl, rfl, rfl, rfl, rfl⟩

/-- The world in which an execution is about to be worked on, guarded. -/
def opened (id : String) (world : World) : World :=
  { world.openSignal id with
    stepping := some ⟨id, ((world.openSignal id).signals.lookup id).getD false⟩ }

/-- Guarded work is work in the opened world, after which a failure is noted and the request to
cancel is closed if the execution has ended. -/
theorem guarded_apply (execution : Execution String) (work : Run Status) (world : World) :
    guarded engine execution work world =
      match work ⟨execution, opened execution.id world⟩ with
      | .ok _ session => releaseIfFinal execution.id { session.world with stepping := none }
      | .error failure session =>
        (do failStored engine execution.id failure; releaseIfFinal execution.id : Desk Unit)
          { session.world with stepping := none } := by
  have begins : guarded engine execution work world =
      (match work ⟨execution, opened execution.id world⟩ with
      | .ok _ session => do
        set { session.world with stepping := none }
        releaseIfFinal execution.id
      | .error failure session => do
        set { session.world with stepping := none }
        failStored engine execution.id failure
        releaseIfFinal execution.id : Desk Unit) (opened execution.id world) := rfl
  rw [begins]
  cases work ⟨execution, opened execution.id world⟩ <;> rfl

/-- What guarded work on an execution of an id leaves, by how the work ended. -/
inductive Guarded (id : String) : EStateM.Result Failure Session Status → World → Prop where
  /-- The work ended well. -/
  | rested {status : Status} {session : Session} {left : World}
    (same : Beside session.world left) : Guarded id (.ok status session) left
  /-- The work failed, which was noted. -/
  | failed {failure : Failure} {session : Session} {closed noted left : World}
    (before : Beside session.world closed) (noting : Noted id failure closed noted)
    (same : Beside noted left) : Guarded id (.error failure session) left

/-- Guarded work does not fail, and leaves what the work in the opened world leaves. -/
theorem guarded_left (execution : Execution String) (work : Run Status) (world : World) :
    ∃ left, guarded engine execution work world = .ok () left ∧
      Guarded execution.id (work ⟨execution, opened execution.id world⟩) left := by
  rw [guarded_apply]
  cases work ⟨execution, opened execution.id world⟩ with
  | ok status session =>
    let closed := { session.world with stepping := none }
    have ended : Beside session.world closed := ⟨rfl, rfl, rfl, rfl⟩
    obtain ⟨left, released, same⟩ := releaseIfFinal_beside execution.id closed
    exact ⟨left, released, .rested (trans_of _ ended same)⟩
  | error failure session =>
    let closed := { session.world with stepping := none }
    have ended : Beside session.world closed := ⟨rfl, rfl, rfl, rfl⟩
    obtain ⟨noted, recorded, noting⟩ := failStored_noted engine execution.id failure closed
    obtain ⟨left, released, same⟩ := releaseIfFinal_beside execution.id noted
    exact ⟨left, (bind_of_ok recorded).trans released, .failed ended noting same⟩

/-- Guarded work does not fail. -/
theorem guarded_ends (execution : Execution String) (work : Run Status) (world : World) :
    ∃ held left, Beside world held ∧ guarded engine execution work world = .ok () left ∧
      Guarded execution.id (work ⟨execution, held⟩) left := by
  obtain ⟨left, ended, guards⟩ := guarded_left engine execution work world
  exact ⟨opened execution.id world, left, ⟨rfl, rfl, rfl, rfl⟩, ended, guards⟩

/-- What the desk leaves when it is to start an execution: it refuses, or it makes one and works on
it. -/
inductive Begun (engine : Engine) (world : World) : World → Prop where
  /-- It refuses. -/
  | refused {left : World} (same : Beside world left) : Begun engine world left
  /-- It makes an execution of the newest version of a flow for a subject that nothing waits for. -/
  | made {stood opened left : World} {flow id : String} {graph : Flow.Graph} {version : Nat}
    {key : Value} {vars : Variables} {store : Store String} (entered : Beside world stood)
    (newest : stood.flows.latest flow = .ok (graph, version))
    (free : stood.store.findWaiting (Subject.ofValue key) = .ok none)
    (created : stood.store.create
      (.new id graph.id version (Subject.ofValue key) vars stood.clock) = .ok store)
    (opening : Beside { stood with store } opened)
    (same : Beside (after (guarded engine
      (.new id graph.id version (Subject.ofValue key) vars stood.clock)
      (Tick.start engine graph true)) opened) left) : Begun engine world left

/-- What the desk leaves when it looks after the wait of the execution of an id: it passes by, keeps
a reply for it, or takes it up. -/
inductive Attended (engine : Engine) (id : String) (world : World) : World → Prop where
  /-- It passes by. -/
  | passed {left : World} (same : Beside world left) : Attended engine id world left
  /-- The wait goes on, with a reply in a variable. -/
  | kept {stood noted left : World} {record : Execution String} {reply : Value} {taken : Bool}
    (entered : Beside world stood) (read : stood.store.get id = .ok record)
    (waits : record.status = .waiting)
    (offered : Offered
      { record with vars := record.vars.set Handler.lastMessage reply, updatedAt := stood.clock }
      stood taken noted)
    (same : Beside noted left) : Attended engine id world left
  /-- The wait is taken up along a label. -/
  | roused {stood left : World} {record : Execution String} {graph : Flow.Graph}
    {vars : Variables} {label reason : String} {reply : Value} (entered : Beside world stood)
    (read : stood.store.get id = .ok record) (waits : record.status = .waiting)
    (had : stood.flows.get record.flow record.version = .ok graph)
    (same : Beside (after (guarded engine { record with vars }
      (Tick.resume engine graph (.text label) (.text reason) reply true)) stood) left) :
    Attended engine id world left

variable {engine} {id : String} {first second third : World}

/-- More may happen beside the executions before a start. -/
theorem Begun.early (same : Beside first second) (begun : Begun engine second third) :
    Begun engine first third := by
  cases begun with
  | refused later => exact .refused (trans_of _ same later)
  | made entered newest free created opening later =>
    exact .made (trans_of _ same entered) newest free created opening later

/-- More may happen beside the executions after a start. -/
theorem Begun.late (begun : Begun engine first second) (same : Beside second third) :
    Begun engine first third := by
  cases begun with
  | refused before => exact .refused (trans_of _ before same)
  | made entered newest free created opening before =>
    exact .made entered newest free created opening (trans_of _ before same)

/-- More may happen beside the executions before a wait is looked after. -/
theorem Attended.early (same : Beside first second) (attended : Attended engine id second third) :
    Attended engine id first third := by
  cases attended with
  | passed later => exact .passed (trans_of _ same later)
  | kept entered read waits offered later =>
    exact .kept (trans_of _ same entered) read waits offered later
  | roused entered read waits had later =>
    exact .roused (trans_of _ same entered) read waits had later

/-- More may happen beside the executions after a wait was looked after. -/
theorem Attended.late (attended : Attended engine id first second) (same : Beside second third) :
    Attended engine id first third := by
  cases attended with
  | passed before => exact .passed (trans_of _ before same)
  | kept entered read waits offered before =>
    exact .kept entered read waits offered (trans_of _ before same)
  | roused entered read waits had before =>
    exact .roused entered read waits had (trans_of _ before same)

variable (engine)

/-- A start makes at most one execution. -/
theorem start_begun (flow : String) (subject vars : Value) (world : World) :
    Begun engine world (after (start engine flow subject vars) world) := by
  have idle (world : World) : Begun engine world world := .refused (refl_of _ world)
  unfold start
  rw [after_bind_of_ok (get_apply world)]
  refine ofExcept_leaves (idle world) ?_
  rintro ⟨graph, version⟩ newest
  refine holdingSubject_moves (Begun engine) .early .late fun held beside => ?_
  rw [after_bind_of_ok (get_apply held)]
  refine ofExcept_leaves (idle held) fun waiting free => ?_
  cases waiting with
  | some active => exact idle held
  | none =>
    rw [after_bind_of_ok (get_apply held)]
    let counted := { held with created := held.created + 1 }
    have numbered : nextId held =
        .ok ("ex" ++ Text.padZeros 4 (toString (held.created + 1))) counted := rfl
    have counting : Beside held counted := ⟨rfl, rfl, rfl, rfl⟩
    rw [after_bind_of_ok numbered]
    refine .early counting (ofExcept_leaves (idle counted) fun vars _ => ?_)
    rw [after_bind_of_ok (get_apply counted)]
    refine ofExcept_leaves (idle counted) fun store created => ?_
    rw [after_bind_of_ok (modify_apply _ counted), after_thenPure]
    rw [← beside.flows] at newest
    refine holdingExecution_moves (fun stood left => Beside { counted with store } stood →
        Begun engine counted left)
      (fun same begun opening => begun (trans_of _ opening same))
      (fun begun same opening => (begun opening).late same) ?_ (refl_of _ _)
    intro inside _ opening
    exact .made (refl_of _ counted) newest free created opening (refl_of _ _)

/-- Delivering a reply looks after one wait. -/
theorem deliver_attended (subject : String) (reply : Value) (world : World) :
    ∃ id, Attended engine id world (after (deliver engine subject reply) world) := by
  have idle (id : String) (world : World) : Attended engine id world world :=
    .passed (refl_of _ world)
  -- Where nothing waits, any id will do.
  unfold deliver
  rw [after_bind_of_ok (get_apply world)]
  refine @ofExcept_leaves _ _ (fun left => ∃ id, Attended engine id world left) _ _ _
    ⟨"", idle "" world⟩ fun found _ => ?_
  cases found with
  | none => exact ⟨"", idle "" world⟩
  | some waiting =>
    refine ⟨waiting.id, holdingExecution_moves (Attended engine waiting.id) .early .late
      fun held _ => ?_⟩
    refine read_leaves (idle waiting.id held) fun record read => ?_
    split
    · exact idle waiting.id held
    rename_i waits
    have waits : record.status = .waiting := by simpa using waits
    rw [after_bind_of_ok (get_apply held)]
    refine ofExcept_leaves (idle waiting.id held) fun graph had => ?_
    cases record.node.bind graph.node? with
    | none => exact idle waiting.id held
    | some node =>
      refine ofExcept_leaves (idle waiting.id held) fun route _ => ?_
      cases route with
      | hold =>
        rw [after_bind_of_ok (get_apply held), after_thenPure]
        obtain ⟨taken, offered⟩ := save_after engine { record with
          vars := record.vars.set Handler.lastMessage reply, updatedAt := held.clock } held
        exact .kept (refl_of _ held) read waits offered (refl_of _ _)
      | resume label reason =>
        rw [after_thenPure]
        exact .roused (refl_of _ held) read waits had (refl_of _ _)

/-- Routing a reply looks after one wait. -/
theorem inbound_attended (subject reply : Value) (world : World) :
    ∃ id, Attended engine id world (after (inbound engine subject reply) world) := by
  refine holdingSubject_moves (fun before left => ∃ id, Attended engine id before left)
    (fun same => Exists.imp fun _ attended => attended.early same)
    (fun attends same => attends.imp fun _ attended => attended.late same) fun held _ => ?_
  have delivered := deliver_attended engine (Subject.ofValue subject) reply held
  rw [← after_attempt] at delivered
  cases outcome : attempt (deliver engine (Subject.ofValue subject) reply) held with
  | ok result left =>
    rw [after_of_ok outcome] at delivered
    rw [after_bind_of_ok outcome]
    cases result <;> exact delivered
  | error failure left =>
    rw [after_of_error outcome] at delivered
    rwa [after_bind_of_error outcome]

/-- Ending a wait that is over looks after it. -/
theorem expireOne_attended (id : String) (now : Time.Moment) (world : World) :
    Attended engine id world (after (expireOne engine id now) world) := by
  refine holdingExecution_moves (Attended engine id) .early .late fun held _ => ?_
  have idle : Attended engine id held held := .passed (refl_of _ held)
  refine read_leaves idle fun record read => ?_
  split
  · rename_i deadline waits _
    refine ofExcept_leaves idle fun passed _ => ?_
    cases passed with
    | true =>
      simp only [if_true]
      rw [after_bind_of_ok (get_apply held)]
      refine ofExcept_leaves idle fun graph had => ?_
      rw [after_thenPure]
      exact .roused (refl_of _ held) read waits had (refl_of _ _)
    | false => exact idle
  · exact idle

end Desk

end Parley
