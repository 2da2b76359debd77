import Mathlib.Logic.Relation
import Parley.Engine.Tick
import Parley.Proofs.Computation

/-!
# Steps of sessions

What the small steps of a visit do to the execution in hand and to the world around it. While
observers and capabilities are called, others may be cancelled: the world is stirred, and the
execution in hand stays as it is. A visit ends when the execution is offered to the store, which may
refuse it.
-/

namespace Parley

open Parley.Computation

/-- Outside parts that ask for no executions to be cancelled. -/
structure Capabilities.Aloof (capabilities : Capabilities) : Prop where
  /-- The sender asks for none. -/
  send : ∀ count subject text, (capabilities.send count subject text).cancels = []
  /-- The observers ask for none. -/
  watch : ∀ notice, (capabilities.watch notice).cancels = []

namespace World

/-- The worlds differ only in what is beside clock, store, flows and requests to save. -/
structure Beside (before after : World) : Prop where
  /-- The time is the same. -/
  clock : after.clock = before.clock
  /-- The store is the same. -/
  store : after.store = before.store
  /-- The flows are the same. -/
  flows : after.flows = before.flows
  /-- The requests to save are the same. -/
  saves : after.saves = before.saves

instance : IsPreorder World Beside where
  refl _ := ⟨rfl, rfl, rfl, rfl⟩
  trans _ _ _ first second :=
    ⟨second.clock.trans first.clock, second.store.trans first.store,
      second.flows.trans first.flows, second.saves.trans first.saves⟩

/-- An execution is offered to the store, which takes it or refuses. -/
inductive Offered (execution : Execution String) (before : World) : Bool → World → Prop where
  /-- The store takes it. -/
  | taken {store : Store String} (saved : before.store.save execution = .ok store) :
    Offered execution before true
      { before with saves := before.saves ++ [⟨execution, true⟩], store }
  /-- The store refuses it, and stays as it is. -/
  | refused :
    Offered execution before false { before with saves := before.saves ++ [⟨execution, false⟩] }

/-- What happens to the world while an execution is in hand. -/
inductive Stir : World → World → Prop where
  /-- Something beside the executions changes. -/
  | beside {before after : World} (same : Beside before after) : Stir before after
  /-- An execution that has not ended is cancelled. -/
  | cancelled {before after : World} {id : String} {record ended : Execution String} {taken : Bool}
    (read : before.store.get id = .ok record)
    (moved : record.transition .cancelled before.clock = .ok ended)
    (offered : Offered ended before taken after) : Stir before after

/-- The world is stirred any number of times. -/
def Stirred : World → World → Prop := Relation.ReflTransGen Stir

instance : IsPreorder World Stirred := inferInstanceAs (IsPreorder _ (Relation.ReflTransGen Stir))

/-- A change beside the executions stirs the world. -/
theorem Beside.stirred {before after : World} (same : Beside before after) :
    Stirred before after := .single (.beside same)

/-- The world around an engine is stirred, and nothing but what is beside the executions changes if
the outside parts ask for no executions to be cancelled. -/
structure Astir (engine : Engine) (before after : World) : Prop where
  /-- The world is stirred. -/
  stirred : Stirred before after
  /-- Aloof parts change nothing of the executions. -/
  calm : engine.capabilities.Aloof → Beside before after

instance (engine : Engine) : IsPreorder World (Astir engine) where
  refl world := ⟨refl_of _ world, fun _ => refl_of _ world⟩
  trans _ _ _ first second :=
    ⟨trans_of _ first.stirred second.stirred,
      fun aloof => trans_of _ (first.calm aloof) (second.calm aloof)⟩

/-- A change beside the executions is one around every engine. -/
theorem Beside.astir {before after : World} (same : Beside before after) (engine : Engine) :
    Astir engine before after := ⟨same.stirred, fun _ => same⟩

/-- An offer leaves the time. -/
theorem Offered.clock {execution : Execution String} {before after : World} {taken : Bool}
    (offered : Offered execution before taken after) : after.clock = before.clock := by
  cases offered <;> rfl

/-- An offer is one more request to save. -/
theorem Offered.saves {execution : Execution String} {before after : World} {taken : Bool}
    (offered : Offered execution before taken after) :
    after.saves = before.saves ++ [⟨execution, taken⟩] := by
  cases offered <;> rfl

/-- A stirred world has the same time. -/
theorem Stirred.clock {before after : World} (stirred : Stirred before after) :
    after.clock = before.clock := by
  induction stirred with
  | refl => rfl
  | tail _ stir same =>
    rw [← same]
    cases stir with
    | beside beside => exact beside.clock
    | cancelled _ _ offered => exact offered.clock

/-- A world that is astir has the same time. -/
theorem Astir.clock {engine : Engine} {before after : World} (astir : Astir engine before after) :
    after.clock = before.clock := astir.stirred.clock

/-- An execution is handed over to be kept: it is offered to the store if the engine keeps
executions there, and else nothing can refuse it. -/
inductive Kept (engine : Engine) (execution : Execution String) (before : World) :
    Bool → World → Prop where
  /-- It is offered to the store. -/
  | offered {taken : Bool} {after : World} (stored : engine.keeping = .stored)
    (offered : Offered execution before taken after) : Kept engine execution before taken after
  /-- It is kept elsewhere. -/
  | elsewhere {after : World} (unstored : engine.keeping ≠ .stored) (same : Beside before after) :
    Kept engine execution before true after

/-- Keeping an execution leaves the time. -/
theorem Kept.clock {engine : Engine} {execution : Execution String} {before after : World}
    {taken : Bool} (kept : Kept engine execution before taken after) :
    after.clock = before.clock := by
  cases kept with
  | offered _ offered => exact offered.clock
  | elsewhere _ same => exact same.clock

/-- An engine that keeps executions in the store offers them to it. -/
theorem Kept.offer {engine : Engine} {execution : Execution String} {before after : World}
    {taken : Bool} (kept : Kept engine execution before taken after)
    (stored : engine.keeping = .stored) : Offered execution before taken after := by
  cases kept with
  | offered _ offered => exact offered
  | elsewhere unstored => exact absurd stored unstored

end World

open World

namespace Execution

/-- An execution that ended at a time. -/
def ended (execution : Execution String) (status : Status) (now : Time.Moment) :
    Execution String :=
  { execution with status, updatedAt := now, deadline := none, keywords := [], node := none }

/-- An execution that moved to a node at a time. -/
def movedTo (execution : Execution String) (node : String) (now : Time.Moment) :
    Execution String :=
  { execution with node := some node, updatedAt := now }

/-- An execution whose log tells one thing more. -/
def told (execution : Execution String) (node : Option String) (event : Event)
    (now : Time.Moment) (payload : Entries) : Execution String :=
  execution.append ⟨node, event, some now.text, some (.dict payload)⟩

/-- A move to a final status that is allowed ends the execution. -/
theorem transition_final {execution : Execution String} {status : Status} {now : Time.Moment}
    (final : status.isFinal) (allowed : status ∈ execution.status.next) :
    execution.transition status now = .ok (execution.ended status now) := by
  have parked : status ≠ .waiting := by
    rintro rfl
    cases final
  simp only [transition, if_pos allowed, if_neg parked, if_pos final, ended]

/-- A move to a final status was allowed, and ended the execution. -/
theorem transition_final_eq {execution moved : Execution String} {status : Status}
    {now : Time.Moment} (final : status.isFinal)
    (done : execution.transition status now = .ok moved) :
    status ∈ execution.status.next ∧ moved = execution.ended status now := by
  by_cases allowed : status ∈ execution.status.next
  · rw [transition_final final allowed] at done
    exact ⟨allowed, (Except.ok.inj done).symm⟩
  · simp only [transition, if_neg allowed] at done
    cases done

end Execution

namespace Desk

/-- An attempt leaves what the computation leaves. -/
theorem after_attempt {α : Type} (action : Desk α) (world : World) :
    after (attempt action) world = after action world := by
  unfold after attempt
  cases action world <;> rfl

/-- An attempt whose outcome does not matter ends well. -/
theorem attempt_only {α : Type} (action : Desk α) (world : World) :
    (attempt action >>= fun _ => pure () : Desk Unit) world = .ok () (after action world) := by
  rw [bind_apply]
  unfold after attempt
  cases action world <;> rfl

/-- A computation while a subject is held does what it does in the world where it is held. -/
theorem holdingSubject_apply {α : Type} (subject : String) (action : Desk α) (world : World) :
    holdingSubject subject action world =
      match action { world with subjects := world.subjects.enter subject } with
      | .ok value left => .ok value { left with subjects := left.subjects.leave subject }
      | .error failure left =>
        .error failure { left with subjects := left.subjects.leave subject } := by
  simp only [holdingSubject, bind_apply, modify_apply, attempt]
  cases action { world with subjects := world.subjects.enter subject } <;> rfl

/-- A computation while an execution is held does what it does in the world where it is held. -/
theorem holdingExecution_apply {α : Type} (id : String) (action : Desk α) (world : World) :
    holdingExecution id action world =
      match action { world with executions := world.executions.enter id } with
      | .ok value left => .ok value { left with executions := left.executions.leave id }
      | .error failure left =>
        .error failure { left with executions := left.executions.leave id } := by
  simp only [holdingExecution, bind_apply, modify_apply, attempt]
  cases action { world with executions := world.executions.enter id } <;> rfl

/-- A computation that ends well while an execution is held does so in the world where it is
held. -/
theorem holdingExecution_ended {α : Type} {id : String} {action : Desk α} {world left : World}
    {value : α} (ended : holdingExecution id action world = .ok value left) :
    ∃ middle, action { world with executions := world.executions.enter id } = .ok value middle ∧
      left = { middle with executions := middle.executions.leave id } := by
  rw [holdingExecution_apply] at ended
  cases done : action { world with executions := world.executions.enter id } with
  | ok given middle =>
    rw [done] at ended
    cases ended
    exact ⟨middle, rfl, rfl⟩
  | error failure middle =>
    rw [done] at ended
    cases ended

/-- Reading gives what the store gives. -/
theorem read_apply (id : String) (world : World) :
    read id world = match world.store.get id with
      | .ok record => .ok record world
      | .error failure => .error failure world := by
  simp only [read, bind_apply, get_apply]
  cases world.store.get id <;> rfl

/-- Saving offers the execution to the store, and fails if it is refused. -/
theorem save_offers (engine : Engine) (execution : Execution String) (world : World) :
    ∃ taken left, Offered execution world taken left ∧
      (taken = true → save engine execution world = .ok () left) ∧
      (taken = false → ∃ failure, saved engine execution world = .error failure ∧
        save engine execution world = .error failure left) := by
  cases outcome : saved engine execution world with
  | ok store =>
    have took : world.store.save execution = .ok store := by
      simp only [saved] at outcome
      split at outcome
      · cases outcome
      · exact outcome
    refine ⟨true, _, .taken took, ?_, by rintro ⟨⟩⟩
    intro _
    simp only [save, bind_apply, get_apply, modify_apply, outcome]
    rfl
  | error failure =>
    refine ⟨false, _, .refused, by rintro ⟨⟩, ?_⟩
    intro _
    refine ⟨failure, rfl, ?_⟩
    simp only [save, bind_apply, get_apply, modify_apply, outcome]
    rfl

/-- Saving leaves a world in which the execution was offered to the store. -/
theorem save_after (engine : Engine) (execution : Execution String) (world : World) :
    ∃ taken, Offered execution world taken (after (save engine execution) world) := by
  obtain ⟨taken, left, offered, took, refused⟩ := save_offers engine execution world
  refine ⟨taken, ?_⟩
  cases taken with
  | true => rwa [after_of_ok (took rfl)]
  | false =>
    obtain ⟨failure, _, ended⟩ := refused rfl
    rwa [after_of_error ended]

/-- Holding an execution leaves what is done meanwhile, and the execution free again. -/
theorem after_holdingExecution {α : Type} (id : String) (action : Desk α) (world : World) :
    after (holdingExecution id action) world =
      let left := after action { world with executions := world.executions.enter id }
      { left with executions := left.executions.leave id } := by
  simp only [after, holdingExecution_apply]
  cases action { world with executions := world.executions.enter id } <;> rfl

section Holding

variable {α : Type} (rel : World → World → Prop)
  (early : ∀ {first second third}, Beside first second → rel second third → rel first third)
  (late : ∀ {first second third}, rel first second → Beside second third → rel first third)
  {action : Desk α} {world : World}

include early late

/-- Holding a subject moves the world as what is done meanwhile does. -/
theorem holdingSubject_moves {subject : String}
    (body : ∀ held, Beside world held → rel held (after action held)) :
    rel world (after (holdingSubject subject action) world) := by
  let held := { world with subjects := world.subjects.enter subject }
  have entered : Beside world held := ⟨rfl, rfl, rfl, rfl⟩
  have whole : after (holdingSubject subject action) world =
      { after action held with subjects := (after action held).subjects.leave subject } := by
    simp only [after, holdingSubject_apply]
    cases action held <;> rfl
  rw [whole]
  exact late (early entered (body held entered)) ⟨rfl, rfl, rfl, rfl⟩

/-- Holding an execution moves the world as what is done meanwhile does. -/
theorem holdingExecution_moves {id : String}
    (body : ∀ held, Beside world held → rel held (after action held)) :
    rel world (after (holdingExecution id action) world) := by
  let held := { world with executions := world.executions.enter id }
  have entered : Beside world held := ⟨rfl, rfl, rfl, rfl⟩
  rw [after_holdingExecution]
  exact late (early entered (body held entered)) ⟨rfl, rfl, rfl, rfl⟩

end Holding

/-- An execution that has not ended may be cancelled. -/
theorem cancelled_allowed {status : Status} (unfinished : ¬ status.isFinal = true) :
    Status.cancelled ∈ status.next := by
  cases status <;> simp [Status.isFinal, Status.next] at unfinished ⊢

/-- What cancelling the execution of an id leaves: the executions as they were, or the one offered
as cancelled. -/
inductive Cancels (id : String) (before : World) : World → Prop where
  /-- Nothing but what is beside the executions has changed. -/
  | unasked {after : World} (same : Beside before after) : Cancels id before after
  /-- The execution had not ended, and was offered as cancelled. -/
  | asked {stood met after : World} {record : Execution String} {taken : Bool}
    (raised : Beside before stood) (read : stood.store.get id = .ok record)
    (unfinished : record.status.isFinal = false)
    (offered : Offered (record.ended .cancelled stood.clock) stood taken met)
    (closed : Beside met after) : Cancels id before after

/-- More may happen beside the executions before they are cancelled. -/
theorem Cancels.before {id : String} {first second third : World} (same : Beside first second)
    (cancels : Cancels id second third) : Cancels id first third := by
  cases cancels with
  | unasked later => exact .unasked (trans_of _ same later)
  | asked raised read unfinished offered closed =>
    exact .asked (trans_of _ same raised) read unfinished offered closed

/-- More may happen beside the executions after they were cancelled. -/
theorem Cancels.afterwards {id : String} {first second third : World}
    (cancels : Cancels id first second) (same : Beside second third) : Cancels id first third := by
  cases cancels with
  | unasked earlier => exact .unasked (trans_of _ earlier same)
  | asked raised read unfinished offered closed =>
    exact .asked raised read unfinished offered (trans_of _ closed same)

/-- Cancelling an execution offers it as cancelled if it has not ended. -/
theorem cancel_cancels (engine : Engine) (id : String) (world : World) :
    Cancels id world (after (cancel engine id) world) := by
  cases found : world.store.get id with
  | error failure =>
    have missing : read id world = .error failure world := by rw [read_apply, found]
    rw [cancel, after_bind_of_error missing]
    exact .unasked (refl_of _ world)
  | ok record =>
    have given : read id world = .ok record world := by rw [read_apply, found]
    rw [cancel, after_bind_of_ok given]
    split
    · exact .unasked (refl_of _ world)
    rename_i unfinished
    rw [after_bind_of_ok (modify_apply _ world)]
    have raised : Beside world (world.raiseSignal id) := ⟨rfl, rfl, rfl, rfl⟩
    refine .before raised (holdingExecution_moves (Cancels id) .before .afterwards ?_)
    intro held beside
    have reread : read id held = .ok record held := by
      rw [read_apply, beside.store, raised.store, found]
    have kept : held.store.get id = .ok record := by rw [beside.store, raised.store, found]
    rw [after_bind_of_ok reread]
    simp only [if_neg unfinished]
    have moved : ofExcept (record.transition .cancelled held.clock) held =
        .ok (record.ended .cancelled held.clock) held := by
      rw [Execution.transition_final rfl (cancelled_allowed unfinished)]
      rfl
    rw [after_bind_of_ok (get_apply held), after_bind_of_ok moved]
    obtain ⟨taken, left, offered, took, refused⟩ :=
      save_offers engine (record.ended .cancelled held.clock) held
    have open? : record.status.isFinal = false := by simpa using unfinished
    cases taken with
    | true =>
      rw [after_bind_of_ok (took rfl)]
      exact .asked (refl_of _ held) kept open? offered ⟨rfl, rfl, rfl, rfl⟩
    | false =>
      obtain ⟨failure, -, ended⟩ := refused rfl
      rw [after_bind_of_error ended]
      exact .asked (refl_of _ held) kept open? offered (refl_of _ left)

/-- Cancelling an execution stirs the world. -/
theorem cancel_stirs (engine : Engine) (id : String) : Along Stirred (cancel engine id) := by
  intro world
  have cancels := cancel_cancels engine id world
  generalize after (cancel engine id) world = left at cancels
  cases cancels with
  | unasked same => exact same.stirred
  | @asked stood met left record taken raised read unfinished offered closed =>
    have moved : record.transition .cancelled stood.clock =
        .ok (record.ended .cancelled stood.clock) :=
      Execution.transition_final rfl (cancelled_allowed (by simp [unfinished]))
    have stir : Stirred stood met := .single (.cancelled read moved offered)
    exact trans_of Stirred raised.stirred (trans_of Stirred stir closed.stirred)

end Desk

/-- The execution stays, and the world around it is astir. -/
structure Session.Steady (engine : Engine) (before after : Session) : Prop where
  /-- The execution is the same. -/
  execution : after.execution = before.execution
  /-- The world is astir. -/
  world : Astir engine before.world after.world

instance (engine : Engine) : IsPreorder Session (Session.Steady engine) where
  refl session := ⟨rfl, refl_of _ session.world⟩
  trans _ _ _ first second :=
    ⟨second.execution.trans first.execution, trans_of _ first.world second.world⟩

/-- A change beside the executions is steady. -/
theorem Session.Steady.beside {engine : Engine} {before after : Session}
    (execution : after.execution = before.execution) (same : Beside before.world after.world) :
    Session.Steady engine before after := ⟨execution, same.astir engine⟩

namespace Run

/-- An attempt leaves what the computation leaves. -/
theorem after_attempt {α : Type} (action : Run α) (session : Session) :
    after (attempt action) session = after action session := by
  unfold after attempt
  cases action session <;> rfl

/-- A computation on the world leaves the execution. -/
theorem after_onWorld {α : Type} (action : Desk α) (session : Session) :
    after (onWorld action) session = { session with world := after action session.world } := by
  simp only [after, onWorld]
  cases action session.world <;> rfl

section Along

variable {α : Type} {rel : Session → Session → Prop}

/-- An attempt moves a session as the computation does. -/
theorem attempt_along {action : Run α} (moves : Along rel action) : Along rel (attempt action) := by
  intro session
  rw [after_attempt]
  exact moves session

variable [IsPreorder Session rel]

/-- Giving the value of a result or its failure moves nothing. -/
theorem ofExcept_along (result : Except Failure α) : Along rel (ofExcept result) := by
  cases result with
  | ok value => exact along_pure value
  | error failure => exact along_throw failure

/-- Reading the execution moves nothing. -/
theorem execution_along : Along rel execution := along_bind along_get fun _ => along_pure _

/-- Reading the time moves nothing. -/
theorem now_along : Along rel now := along_bind along_get fun _ => along_pure _

end Along

/-- The journal is beside the executions. -/
theorem note_steady {engine : Engine} (effect : Effect) :
    Along (Session.Steady engine) (note effect) :=
  along_modify fun _ => .beside rfl ⟨rfl, rfl, rfl, rfl⟩

/-- The value that is given is that of the result, and the session stays. -/
theorem ofExcept_eq_ok {α : Type} {result : Except Failure α} {value : α} {session left : Session}
    (given : ofExcept result session = .ok value left) : result = .ok value ∧ left = session := by
  cases result <;> cases given
  exact ⟨rfl, rfl⟩

/-- Executions that others ask to cancel are cancelled around the one in hand. -/
theorem cancelAll_steady (engine : Engine) {ids : List String}
    (calm : engine.capabilities.Aloof → ids = []) :
    Along (Session.Steady engine) (cancelAll engine ids) := by
  induction ids with
  | nil => exact along_pure _
  | cons id rest ih =>
    have meddles : ¬ engine.capabilities.Aloof := fun aloof => nomatch calm aloof
    have later := ih fun aloof => absurd aloof meddles
    rw [cancelAll]
    split
    · refine along_bind ?_ fun _ => later
      intro session
      rw [after_onWorld]
      exact ⟨rfl, Desk.cancel_stirs engine id session.world, fun aloof => absurd aloof meddles⟩
    · exact along_bind (along_modify fun _ => .beside rfl ⟨rfl, rfl, rfl, rfl⟩) fun _ => later

/-- A reaction takes place around the execution in hand. -/
theorem react_steady (engine : Engine) {reaction : Reaction}
    (calm : engine.capabilities.Aloof → reaction.cancels = []) :
    Along (Session.Steady engine) (react engine reaction) := by
  refine along_bind (cancelAll_steady engine calm) fun _ => ?_
  split
  · exact along_throw _
  · exact along_pure _

/-- Telling observers stirs the world and does not fail. -/
theorem tell_apply (engine : Engine) (notice : Notice) (session : Session) :
    ∃ stirred, Astir engine session.world stirred ∧
      tell engine notice session = .ok () { session with world := stirred } := by
  have steady : Along (Session.Steady engine) (tell engine notice) :=
    along_bind (note_steady _) fun _ =>
      along_bind (attempt_along (react_steady engine fun aloof => aloof.watch notice)) fun _ =>
        along_pure _
  have moved := steady session
  have ends : ∃ left, tell engine notice session = .ok () left := by
    simp only [tell, bind_apply, note, modify_apply, attempt]
    cases react engine (engine.capabilities.watch notice)
      { session with world := session.world.note (.told notice) } with
    | ok value left => exact ⟨left, rfl⟩
    | error failure left => exact ⟨left, rfl⟩
  obtain ⟨left, ended⟩ := ends
  rw [after_of_ok ended] at moved
  refine ⟨left.world, moved.world, ?_⟩
  rw [ended, ← moved.execution]

/-- Writing the log adds an entry with the time. -/
theorem log_apply (node : Option String) (event : Event) (payload : Entries)
    (execution : Execution String) (world : World) :
    log node event payload ⟨execution, world⟩ =
      .ok () ⟨execution.told node event world.clock payload, world⟩ := rfl

/-- A move between statuses that is allowed stirs the world. -/
theorem setStatus_apply (engine : Engine) {status : Status} {execution moved : Execution String}
    {world : World} (allowed : execution.transition status world.clock = .ok moved) :
    ∃ stirred, Astir engine world stirred ∧
      setStatus engine status ⟨execution, world⟩ = .ok () ⟨moved, stirred⟩ := by
  obtain ⟨stirred, stir, told⟩ :=
    tell_apply engine (.status execution.id execution.status status) ⟨moved, world⟩
  refine ⟨stirred, stir, ?_⟩
  rw [← told]
  simp only [setStatus, bind_apply, now, Run.execution, get_apply, pure_apply, allowed]
  rfl

end Run

/-- How a computation ends that hands an execution over to be kept: with a value, or if the store
refuses it, with the failure of the store. -/
inductive Hands {α : Type} (engine : Engine) (handed : Execution String) (value : α)
    (world : World) : EStateM.Result Failure Session α → Prop where
  /-- It is kept. -/
  | taken {stirred left : World} (stir : Astir engine world stirred)
    (kept : Kept engine handed stirred true left) :
    Hands engine handed value world (.ok value ⟨handed, left⟩)
  /-- The store refused it. -/
  | refused {stirred left : World} {failure : Failure} (stir : Astir engine world stirred)
    (kept : Kept engine handed stirred false left)
    (raised : Desk.saved engine handed stirred = .error failure) :
    Hands engine handed value world (.error failure ⟨handed, left⟩)

namespace Hands

variable {α β : Type} {engine : Engine} {handed : Execution String} {world : World}

/-- The world may have been stirred before. -/
theorem before {value : α} {result : EStateM.Result Failure Session α} {stirred : World}
    (stir : Astir engine world stirred) (hands : Hands engine handed value stirred result) :
    Hands engine handed value world result := by
  cases hands with
  | taken more kept => exact .taken (trans_of _ stir more) kept
  | refused more kept raised => exact .refused (trans_of _ stir more) kept raised

/-- What stirs the world may come first. -/
theorem andThen {first : Run α} {rest : α → Run β} {execution : Execution String} {left : Session}
    {value : α} {last : β} (ended : first ⟨execution, world⟩ = .ok value left)
    (stir : Astir engine world left.world)
    (hands : Hands engine handed last left.world (rest value left)) :
    Hands engine handed last world ((first >>= rest) ⟨execution, world⟩) := by
  rw [bind_apply, ended]
  exact hands.before stir

/-- The execution may be read first. -/
theorem afterReading {rest : Execution String → Run β} {execution : Execution String} {last : β}
    (hands : Hands engine handed last world (rest execution ⟨execution, world⟩)) :
    Hands engine handed last world ((Run.execution >>= rest) ⟨execution, world⟩) := hands

/-- After the execution was handed over, another value may be returned. -/
theorem thenReturn {first value : _} {action : Run α} {session : Session}
    (hands : Hands engine handed first world (action session)) :
    Hands engine handed (value : β) world
      ((do let _ ← action; return value : Run β) session) := by
  rw [bind_apply]
  generalize action session = result at hands
  cases hands with
  | taken stir kept => exact .taken stir kept
  | refused stir kept raised => exact .refused stir kept raised

end Hands

namespace Run

variable (engine : Engine)

/-- The execution is handed over with the time. -/
theorem persist_hands (execution : Execution String) (world : World) :
    Hands engine { execution with updatedAt := world.clock } () world
      (persist engine ⟨execution, world⟩) := by
  let handed := { execution with updatedAt := world.clock }
  cases keeping : engine.keeping with
  | nowhere =>
    have opened : persist engine ⟨execution, world⟩ = .ok () ⟨handed, world⟩ := by
      simp only [persist, bind_apply, now, change, Run.execution, get_apply, pure_apply,
        modify_apply, keeping]
      rfl
    rw [opened]
    exact .taken (refl_of _ world) (.elsewhere (by simp [keeping]) ⟨rfl, rfl, rfl, rfl⟩)
  | noted =>
    have opened : persist engine ⟨execution, world⟩ = .ok ()
        ⟨handed, world.note (.kept handed.status handed.node handed.log.length)⟩ := by
      simp only [persist, bind_apply, now, change, Run.execution, get_apply, pure_apply,
        modify_apply, keeping]
      rfl
    rw [opened]
    exact .taken (refl_of _ world) (.elsewhere (by simp [keeping]) ⟨rfl, rfl, rfl, rfl⟩)
  | stored =>
    have opened : persist engine ⟨execution, world⟩ =
        onWorld (Desk.save engine handed) ⟨handed, world⟩ := by
      simp only [persist, bind_apply, now, change, Run.execution, get_apply, pure_apply,
        modify_apply, keeping]
      rfl
    obtain ⟨taken, left, offered, took, refused⟩ := Desk.save_offers engine handed world
    rw [opened]
    cases taken with
    | true =>
      simp only [onWorld, took rfl]
      exact .taken (refl_of _ world) (.offered keeping offered)
    | false =>
      obtain ⟨failure, raised, ended⟩ := refused rfl
      simp only [onWorld, ended]
      exact .refused (refl_of _ world) (.offered keeping offered) raised

/-- An execution that moves to a node is handed over there. -/
theorem moveTo_hands (node : String) (execution : Execution String) (world : World) :
    Hands engine (execution.movedTo node world.clock) () world
      (moveTo engine node ⟨execution, world⟩) :=
  persist_hands engine { execution with node := some node } world

/-- An execution that comes to an end is handed over with the final status. -/
theorem ended_hands {status : Status} (final : status.isFinal) {execution : Execution String}
    (allowed : status ∈ execution.status.next) (world : World) :
    Hands engine (execution.ended status world.clock) () world
      ((do setStatus engine status; persist engine : Run Unit) ⟨execution, world⟩) := by
  have moved : execution.transition status world.clock =
      .ok (execution.ended status world.clock) := Execution.transition_final final allowed
  obtain ⟨stirred, stir, set⟩ := setStatus_apply engine moved
  rw [bind_apply, set]
  have hands := persist_hands engine (execution.ended status world.clock) stirred
  rw [stir.clock] at hands
  exact hands.before stir

end Run

end Parley
