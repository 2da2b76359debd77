import Parley.Proofs.Ties
import Parley.Proofs.Visits

/-!
# Calls, pauses and what is beside them

The world keeps count of the calls of generators, and its journal tells of them and of the pauses
between them. Saving, cancelling, telling observers and moving executions are beside that: they
leave the count, and add to the journal neither calls nor pauses. So does what follows the handler
of a node.
-/

namespace Parley

open Parley.Computation World

/-- The call of a generator that an effect is, with the prompt and the knowledge. -/
def Effect.call? : Effect → Option (String × Value)
  | .generated prompt context => some (prompt, context)
  | _ => none

/-- The seconds of the pause that an effect is. -/
def Effect.pause? : Effect → Option Number
  | .slept seconds => some seconds
  | _ => none

/-- An effect is neither a call of a generator nor a pause. -/
def Effect.Quiet (effect : Effect) : Prop := effect.call? = none ∧ effect.pause? = none

namespace World

/-- The worlds differ only in what is beside generators, knowledge and pauses. -/
structure Aside (before after : World) : Prop where
  /-- Generators can be asked as before. -/
  closed : after.closed = before.closed
  /-- They were not asked. -/
  generations : after.generations = before.generations
  /-- Neither was knowledge. -/
  retrievals : after.retrievals = before.retrievals
  /-- What the journal gained is quiet. -/
  journal : ∃ more, after.journal = before.journal ++ more ∧ ∀ effect ∈ more, effect.Quiet

instance : IsPreorder World Aside where
  refl world := ⟨rfl, rfl, rfl, [], (List.append_nil _).symm, nofun⟩
  trans first second third before after := by
    obtain ⟨more, told, quiet⟩ := before.journal
    obtain ⟨others, later, still⟩ := after.journal
    refine ⟨after.closed.trans before.closed, after.generations.trans before.generations,
      after.retrievals.trans before.retrievals, more ++ others, ?_, ?_⟩
    · rw [later, told, List.append_assoc]
    · exact List.forall_mem_append.mpr ⟨quiet, still⟩

/-- Worlds that agree on generators, knowledge and the journal differ only in what is beside
them. -/
theorem Aside.of_eq {before after : World} (closed : after.closed = before.closed)
    (generations : after.generations = before.generations)
    (retrievals : after.retrievals = before.retrievals)
    (journal : after.journal = before.journal) : Aside before after :=
  ⟨closed, generations, retrievals, [], by rw [journal, List.append_nil], nofun⟩

/-- A generator was called some times, always in the same way, and there were some pauses. -/
structure Asks (request : String × Value) (calls : Nat) (pauses : List Number)
    (before after : World) : Prop where
  /-- Generators can be asked as before. -/
  closed : after.closed = before.closed
  /-- The calls were counted. -/
  generations : after.generations = before.generations + calls
  /-- The journal tells of the calls and the pauses. -/
  journal : ∃ more, after.journal = before.journal ++ more ∧
    more.filterMap Effect.call? = List.replicate calls request ∧
    more.filterMap Effect.pause? = pauses

section Asks

variable {request : String × Value} {calls others : Nat} {pauses more : List Number}
  {first second third : World}

/-- Where nothing happens but beside generators and pauses, there are no calls and no pauses. -/
theorem Aside.asks (aside : Aside first second) : Asks request 0 [] first second := by
  obtain ⟨added, told, quiet⟩ := aside.journal
  refine ⟨aside.closed, aside.generations, added, told, ?_, ?_⟩
  · exact List.filterMap_eq_nil_iff.mpr fun effect member => (quiet effect member).1
  · exact List.filterMap_eq_nil_iff.mpr fun effect member => (quiet effect member).2

/-- Calls and pauses come one after another. -/
theorem Asks.trans (before : Asks request calls pauses first second)
    (after : Asks request others more second third) :
    Asks request (calls + others) (pauses ++ more) first third := by
  obtain ⟨added, told, called, paused⟩ := before.journal
  obtain ⟨later, retold, recalled, repaused⟩ := after.journal
  refine ⟨after.closed.trans before.closed, ?_, added ++ later, ?_, ?_, ?_⟩
  · rw [after.generations, before.generations, Nat.add_assoc]
  · rw [retold, told, List.append_assoc]
  · rw [List.filterMap_append, called, recalled, List.replicate_append_replicate]
  · rw [List.filterMap_append, paused, repaused]

end Asks

end World

/-- The world around the execution in hand differs only in what is beside generators, knowledge and
pauses. -/
def Session.Aside (before after : Session) : Prop := World.Aside before.world after.world

instance : IsPreorder Session Session.Aside where
  refl session := refl_of World.Aside session.world
  trans _ _ _ first second := trans_of World.Aside first second

namespace Desk

/-- Saving is beside generators and pauses. -/
theorem save_aside (engine : Engine) (execution : Execution String) :
    Along World.Aside (save engine execution) := by
  intro world
  obtain ⟨taken, offered⟩ := save_after engine execution world
  generalize after (save engine execution) world = left at offered
  cases offered <;> exact .of_eq rfl rfl rfl rfl

/-- Cancelling is beside generators and pauses. -/
theorem cancel_aside (engine : Engine) (id : String) : Along World.Aside (cancel engine id) := by
  intro world
  rw [after, cancel_apply]
  cases world.store.get id with
  | error failure => exact refl_of World.Aside world
  | ok record =>
    by_cases final : record.status.isFinal
    · simp only [if_pos final]
      exact refl_of World.Aside world
    simp only [if_neg final]
    let held := { world.raiseSignal id with
      executions := (world.raiseSignal id).executions.enter id }
    have raised : World.Aside world held := .of_eq rfl rfl rfl rfl
    have saved := save_aside engine (record.ended .cancelled world.clock) held
    unfold after at saved
    cases ended : save engine (record.ended .cancelled world.clock) held with
    | ok _ left =>
      rw [ended] at saved
      have closed : World.Aside left
        { left.dropSignal id with executions := left.executions.leave id } := .of_eq rfl rfl rfl rfl
      exact trans_of World.Aside raised (trans_of World.Aside saved closed)
    | error _ left =>
      rw [ended] at saved
      have closed : World.Aside left { left with executions := left.executions.leave id } :=
        .of_eq rfl rfl rfl rfl
      exact trans_of World.Aside raised (trans_of World.Aside saved closed)

end Desk

namespace Run

/-- Changing the execution is beside generators and pauses. -/
theorem change_aside (change : Execution String → Execution String) :
    Along Session.Aside (Run.change change) :=
  along_modify fun session => refl_of World.Aside session.world

/-- Noting an effect that is neither a call nor a pause is beside them. -/
theorem note_aside {effect : Effect} (quiet : effect.Quiet) : Along Session.Aside (note effect) :=
  along_modify fun _ => ⟨rfl, rfl, rfl, [effect], rfl, List.forall_mem_singleton.mpr quiet⟩

/-- Writing the log is beside generators and pauses. -/
theorem log_aside (node : Option String) (event : Event) (payload : Entries) :
    Along Session.Aside (log node event payload) :=
  along_bind now_along fun _ => change_aside _

variable (engine : Engine)

/-- Reactions are beside generators and pauses. -/
theorem react_aside (reaction : Reaction) : Along Session.Aside (react engine reaction) := by
  have cancels (ids : List String) : Along Session.Aside (cancelAll engine ids) := by
    induction ids with
    | nil => exact along_pure _
    | cons id rest ih =>
      rw [cancelAll]
      split
      · refine along_bind (fun session => ?_) fun _ => ih
        rw [after_onWorld]
        exact Desk.cancel_aside engine id session.world
      · exact along_bind (along_modify fun _ => World.Aside.of_eq rfl rfl rfl rfl) fun _ => ih
  refine along_bind (cancels _) fun _ => ?_
  split
  · exact along_throw _
  · exact along_pure _

/-- Observers are told beside generators and pauses. -/
theorem tell_aside (notice : Notice) : Along Session.Aside (tell engine notice) :=
  along_bind (note_aside ⟨rfl, rfl⟩) fun _ =>
    along_bind (attempt_along (react_aside engine _)) fun _ => along_pure _

/-- Handing the execution over is beside generators and pauses. -/
theorem persist_aside : Along Session.Aside (persist engine) := by
  refine along_bind now_along fun time => along_bind (change_aside _) fun _ => ?_
  refine along_bind execution_along fun execution => ?_
  split
  · exact along_pure _
  · exact note_aside ⟨rfl, rfl⟩
  · intro session
    rw [after_onWorld]
    exact Desk.save_aside engine execution session.world

/-- A move between statuses is beside generators and pauses. -/
theorem setStatus_aside (status : Status) : Along Session.Aside (setStatus engine status) :=
  along_bind execution_along fun _ => along_bind now_along fun _ =>
    along_bind (ofExcept_along _) fun _ => along_bind (change_aside _) fun _ => tell_aside engine _

/-- The end of an execution for a reason is beside generators and pauses. -/
theorem fail_aside (reason : String) : Along Session.Aside (fail engine reason) :=
  along_bind (change_aside _) fun _ =>
    along_bind (setStatus_aside engine _) fun _ => persist_aside engine

/-- The end of an execution that is complete is beside generators and pauses. -/
theorem complete_aside : Along Session.Aside (complete engine) :=
  along_bind (setStatus_aside engine _) fun _ => persist_aside engine

/-- A move to a node is beside generators and pauses. -/
theorem moveTo_aside (node : String) : Along Session.Aside (moveTo engine node) :=
  along_bind (change_aside _) fun _ => persist_aside engine

end Run

/-- An attempt that gives a value is one that ended well. -/
theorem Run.attempt_eq_ok {α : Type} {action : Run α} {session left : Session} {value : α}
    (done : attempt action session = .ok (.ok value) left) : action session = .ok value left := by
  unfold attempt at done
  cases ended : action session with
  | ok _ _ =>
    rw [ended] at done
    cases done
    rfl
  | error _ _ =>
    rw [ended] at done
    cases done

/-- An attempt that gives a failure is one that failed. -/
theorem Run.attempt_eq_error {α : Type} {action : Run α} {session left : Session}
    {failure : Failure} (done : attempt action session = .ok (.error failure) left) :
    action session = .error failure left := by
  unfold attempt at done
  cases ended : action session with
  | ok _ _ =>
    rw [ended] at done
    cases done
  | error _ _ =>
    rw [ended] at done
    cases done
    rfl

namespace Tick

variable (engine : Engine) (graph : Flow.Graph)

/-- What follows a visit that ended well is beside generators and pauses. -/
theorem afterAction_aside (node : String) (action : Action) :
    Along Session.Aside (afterAction engine graph node action) := by
  cases action with
  | suspend =>
    refine along_bind ?_ fun _ => along_pure _
    refine along_bind (Run.setStatus_aside engine _) fun _ => ?_
    refine along_bind Run.execution_along fun _ => ?_
    exact along_bind (Run.log_aside _ _ _) fun _ => Run.persist_aside engine
  | finish => exact along_bind (Run.complete_aside engine) fun _ => along_pure _
  | jump target => exact along_bind (Run.moveTo_aside engine target) fun _ => along_pure _
  | follow label =>
    simp only [afterAction]
    split
    · exact along_bind (Run.moveTo_aside engine _) fun _ => along_pure _
    · exact along_bind (Run.complete_aside engine) fun _ => along_pure _

/-- What follows the handler of a node is beside generators and pauses. -/
theorem conclude_aside (node : Flow.Node String) (result : Except Failure (Action × Entries)) :
    Along Session.Aside (conclude engine graph node result) := by
  cases result with
  | error failure =>
    refine along_bind (Run.log_aside _ _ _) fun _ => along_bind Run.execution_along fun _ => ?_
    refine along_bind (Run.tell_aside engine _) fun _ => ?_
    split
    · exact along_bind (Run.moveTo_aside engine _) fun _ => along_pure _
    · exact along_bind (Run.fail_aside engine _) fun _ => along_pure _
  | ok ending =>
    refine along_bind (Run.log_aside _ _ _) fun _ => along_bind Run.execution_along fun _ => ?_
    exact along_bind (Run.tell_aside engine _) fun _ => afterAction_aside engine graph _ _

end Tick

end Parley
