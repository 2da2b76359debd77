import Parley.Proofs.Containment
import Parley.Proofs.Courses
import Parley.Proofs.Deliveries

/-!
# Requests that are heeded

Whoever has an execution saved as cancelled while its nodes are visited also asks it to stop: a
visit that is over without such a request has not had it saved so. A visit itself never cancels the
execution in hand.
-/

namespace Parley

open Parley.Computation World

/-- The requests to save executions of an id as cancelled. -/
def cancellations (id : String) (asked : List Save) : List Save :=
  (requestsFor id asked).filter fun save => save.execution.status == .cancelled

section cancellations

variable {id : String}

/-- Requests to save as cancelled, one after another. -/
theorem cancellations_append (asked more : List Save) :
    cancellations id (asked ++ more) = cancellations id asked ++ cancellations id more := by
  simp only [cancellations, requestsFor_append, List.filter_append]

/-- A request for another execution is none. -/
theorem cancellations_of_apart {save : Save} (apart : save.execution.id ≠ id) :
    cancellations id [save] = [] := by
  rw [cancellations, requestsFor_apart apart, List.filter_nil]

/-- A request to save an execution that is not cancelled is none. -/
theorem cancellations_of_unended {save : Save} (unended : save.execution.status ≠ .cancelled) :
    cancellations id [save] = [] := by
  simp [cancellations, requestsFor, List.filter_cons, unended]

end cancellations

namespace World

/-- The execution of an id is being stepped. -/
def Steps (world : World) (id : String) : Prop := ∃ asked, world.stepping = some ⟨id, asked⟩

/-- The execution of an id that is stepped is saved as cancelled only if it is asked to stop. -/
structure Heeds (id : String) (before after : World) : Prop where
  /-- It is stepped on. -/
  steps : before.Steps id → after.Steps id
  /-- A request to stop is not taken back. -/
  interrupted : before.interrupted = true → after.interrupted = true
  /-- Without a request to stop, nobody asked for it to be saved as cancelled. -/
  unasked : before.Steps id → after.interrupted = false →
    cancellations id after.saves = cancellations id before.saves

instance (id : String) : IsPreorder World (Heeds id) where
  refl _ := ⟨fun steps => steps, fun asked => asked, fun _ _ => rfl⟩
  trans first second third before after := by
    refine ⟨fun steps => after.steps (before.steps steps),
      fun asked => after.interrupted (before.interrupted asked), fun steps quiet => ?_⟩
    have still : second.interrupted = false := by
      by_contra asked
      have stopped := after.interrupted (Bool.eq_true_of_not_eq_false asked)
      rw [quiet] at stopped
      cases stopped
    rw [after.unasked (before.steps steps) quiet, before.unasked steps still]

/-- Requests to save that are no cancellations of the execution may be made. -/
theorem Heeds.asked {id : String} {before after : World} {more : List Save}
    (stepping : after.stepping = before.stepping) (saves : after.saves = before.saves ++ more)
    (others : cancellations id more = []) : Heeds id before after := by
  refine ⟨?_, ?_, fun _ _ => ?_⟩
  · unfold Steps
    rw [stepping]
    exact fun steps => steps
  · unfold World.interrupted
    rw [stepping]
    exact fun asked => asked
  · rw [saves, cancellations_append, others, List.append_nil]

/-- What changes neither what is stepped nor the requests to save is heeded. -/
theorem Heeds.same {id : String} {before after : World}
    (stepping : after.stepping = before.stepping) (saves : after.saves = before.saves) :
    Heeds id before after :=
  .asked stepping (by rw [saves, List.append_nil]) rfl

/-- An offer changes nothing of what is stepped. -/
theorem Offered.stepping {execution : Execution String} {before after : World} {taken : Bool}
    (offered : Offered execution before taken after) : after.stepping = before.stepping := by
  cases offered <;> rfl

variable {world : World} {id : String}

/-- An execution is stepped on when a request to cancel is raised. -/
theorem Steps.raiseSignal (steps : world.Steps id) (other : String) :
    (world.raiseSignal other).Steps id := by
  obtain ⟨asked, stepping⟩ := steps
  by_cases same : id = other
  · exact ⟨true, by simp [World.raiseSignal, stepping, same]⟩
  · exact ⟨asked, by simp [World.raiseSignal, stepping, same]⟩

/-- A request to cancel the execution that is stepped asks it to stop. -/
theorem Steps.interrupted (steps : world.Steps id) :
    (world.raiseSignal id).interrupted = true := by
  obtain ⟨asked, stepping⟩ := steps
  simp [World.interrupted, World.raiseSignal, stepping]

/-- A request to cancel takes no request to stop back. -/
theorem interrupted_raiseSignal (asked : world.interrupted = true) (other : String) :
    (world.raiseSignal other).interrupted = true := by
  cases stepping : world.stepping with
  | none => simp [World.interrupted, stepping] at asked
  | some stepped =>
    by_cases same : stepped.id = other
    · simp [World.interrupted, World.raiseSignal, stepping, same]
    · simpa [World.interrupted, World.raiseSignal, stepping, same] using asked

end World

namespace Desk

variable (engine : Engine) (id : String)

/-- Saving an execution that is not cancelled is heeded. -/
theorem save_heeds {execution : Execution String} (unended : execution.status ≠ .cancelled) :
    Along (World.Heeds id) (save engine execution) := by
  intro world
  obtain ⟨taken, offered⟩ := save_after engine execution world
  exact .asked offered.stepping offered.saves (cancellations_of_unended unended)

/-- Cancelling is heeded: the execution that is stepped is asked to stop. -/
theorem cancel_heeds (other : String) : Along (World.Heeds id) (cancel engine other) := by
  intro world
  rw [after, cancel_apply]
  cases found : world.store.get other with
  | error failure => exact refl_of _ world
  | ok record =>
    by_cases final : record.status.isFinal
    · simp only [if_pos final]
      exact refl_of _ world
    simp only [if_neg final]
    let held := { world.raiseSignal other with
      executions := (world.raiseSignal other).executions.enter other }
    obtain ⟨taken, left, offered, took, refused⟩ :=
      save_offers engine (record.ended .cancelled world.clock) held
    have heeds (last : World) (stepping : last.stepping = left.stepping)
        (saves : last.saves = left.saves) : World.Heeds id world last := by
      have same : last.stepping = (world.raiseSignal other).stepping :=
        stepping.trans offered.stepping
      refine ⟨fun steps => ?_, fun asked => ?_, fun steps quiet => ?_⟩
      · unfold World.Steps
        rw [same]
        exact steps.raiseSignal other
      · unfold World.interrupted
        rw [same]
        exact interrupted_raiseSignal asked other
      · have apart : (record.ended .cancelled world.clock).id ≠ id := by
          intro named
          have other : other = id := (Store.mem_of_get found).2.symm.trans named
          have stops := steps.interrupted
          unfold World.interrupted at quiet stops
          rw [same, other, stops] at quiet
          cases quiet
        rw [saves, offered.saves, cancellations_append, cancellations_of_apart apart,
          List.append_nil]
        rfl
    cases taken with
    | true =>
      rw [took rfl]
      exact heeds _ rfl rfl
    | false =>
      obtain ⟨failure, -, ended⟩ := refused rfl
      rw [ended]
      exact heeds _ rfl rfl

end Desk

/-- An execution in hand that is not cancelled does not become so, and is heeded in the world. -/
def Session.Heeds (id : String) (before after : Session) : Prop :=
  before.execution.status ≠ .cancelled →
    after.execution.status ≠ .cancelled ∧ before.world.Heeds id after.world

instance (id : String) : IsPreorder Session (Session.Heeds id) where
  refl session unended := ⟨unended, refl_of _ session.world⟩
  trans _ _ _ first second unended := by
    obtain ⟨still, before⟩ := first unended
    obtain ⟨ended, after⟩ := second still
    exact ⟨ended, trans_of _ before after⟩

/-- A change of the world alone is heeded in a session as in the world. -/
theorem Session.Heeds.world {id : String} {session : Session} {world : World}
    (heeds : session.world.Heeds id world) : Session.Heeds id session { session with world } :=
  fun unended => ⟨unended, heeds⟩

namespace Run

variable (engine : Engine) (id : String)

/-- A change that does not cancel the execution is heeded. -/
theorem change_heeds {change : Execution String → Execution String}
    (keeps : ∀ execution, execution.status ≠ .cancelled → (change execution).status ≠ .cancelled) :
    Along (Session.Heeds id) (Run.change change) :=
  along_modify fun session unended => ⟨keeps session.execution unended, refl_of _ session.world⟩

/-- Writing the log is heeded. -/
theorem log_heeds (node : Option String) (event : Event) (payload : Entries) :
    Along (Session.Heeds id) (log node event payload) :=
  along_bind now_along fun _ => change_heeds id fun _ unended => unended

/-- What is heeded does not depend on the journal and the counts of calls. -/
theorem heeds_indifferent : Handler.Indifferent (Session.Heeds id) :=
  fun _ _ _ _ _ => .world (.same rfl rfl)

/-- Reactions are heeded. -/
theorem react_heeds (reaction : Reaction) :
    Along (Session.Heeds id) (react engine reaction) := by
  have cancels (ids : List String) : Along (Session.Heeds id) (cancelAll engine ids) := by
    induction ids with
    | nil => exact along_pure _
    | cons other rest ih =>
      rw [cancelAll]
      split
      · refine along_bind (fun session => ?_) fun _ => ih
        rw [after_onWorld]
        exact .world (Desk.cancel_heeds engine id other session.world)
      · refine along_bind (along_modify fun session => .world ?_) fun _ => ih
        cases stepping : session.world.stepping with
        | none => exact .same stepping.symm rfl
        | some stepped =>
          refine ⟨?_, fun _ => ?_, fun _ quiet => ?_⟩
          · rintro ⟨asked, same⟩
            cases stepping.symm.trans same
            exact ⟨true, rfl⟩
          · simp [World.interrupted]
          · simp [World.interrupted] at quiet
  refine along_bind (cancels _) fun _ => ?_
  split
  · exact along_throw _
  · exact along_pure _

/-- Telling observers is heeded. -/
theorem tell_heeds (notice : Notice) : Along (Session.Heeds id) (tell engine notice) :=
  along_bind (Handler.note_along (heeds_indifferent id) _) fun _ =>
    along_bind (attempt_along (react_heeds engine id _)) fun _ => along_pure _

/-- Handing over an execution that is not cancelled is heeded. -/
theorem persist_heeds : Along (Session.Heeds id) (persist engine) := by
  refine along_bind now_along fun time => ?_
  refine along_bind (change_heeds id fun _ unended => unended) fun _ session => ?_
  refine bind_moves (execution_along session) fun kept left read => ?_
  cases read
  split
  · exact along_pure _ session
  · exact Handler.note_along (heeds_indifferent id) _ session
  · intro unended
    rw [after_onWorld]
    exact ⟨unended, Desk.save_heeds engine id unended session.world⟩

/-- A move to another status than cancelled is heeded. -/
theorem setStatus_heeds (status : Status) (other : status ≠ .cancelled) :
    Along (Session.Heeds id) (setStatus engine status) := by
  refine along_bind execution_along fun old => along_bind now_along fun time => ?_
  cases done : old.transition status time with
  | error failure => exact along_throw failure
  | ok moved =>
    have reached : moved.status = status := by
      unfold Execution.transition at done
      split at done
      · cases done
        rfl
      · cases done
    have set : Along (Session.Heeds id) (change fun _ => moved) := by
      apply change_heeds
      intro _ _
      rw [reached]
      exact other
    have moves : Along (Session.Heeds id) (do
        change fun _ => moved
        tell engine (.status old.id old.status status)) :=
      along_bind set fun _ => tell_heeds engine id _
    exact moves

/-- The end of an execution for a reason is heeded. -/
theorem fail_heeds (reason : String) : Along (Session.Heeds id) (fail engine reason) :=
  along_bind (change_heeds id fun _ unended => unended) fun _ =>
    along_bind (setStatus_heeds engine id _ (by decide)) fun _ => persist_heeds engine id

/-- The end of an execution that is complete is heeded. -/
theorem complete_heeds : Along (Session.Heeds id) (complete engine) :=
  along_bind (setStatus_heeds engine id _ (by decide)) fun _ => persist_heeds engine id

/-- A move to a node is heeded. -/
theorem moveTo_heeds (node : String) : Along (Session.Heeds id) (moveTo engine node) :=
  along_bind (change_heeds id fun _ unended => unended) fun _ => persist_heeds engine id

end Run

namespace Handler

open Run

variable (engine : Engine) (id : String)

/-- Sending is heeded. -/
theorem send_heeds (text : String) : Along (Session.Heeds id) (send engine text) := by
  refine along_bind execution_along fun execution => along_bind along_get fun session => ?_
  have calls (reaction : Reaction) : Along (Session.Heeds id) (do
      let outcome ← Run.attempt (Run.react engine reaction)
      modify fun session => { session with
        world := session.world.sent ⟨execution.id, execution.subject, text, outcome.isOk⟩ }
      Run.ofExcept outcome
      return some () : Run (Option Unit)) :=
    along_bind (attempt_along (react_heeds engine id _)) fun outcome =>
      along_bind (along_modify fun _ => .world (.same rfl rfl)) fun _ =>
        along_bind (ofExcept_along outcome) fun _ => along_pure _
  dsimp only
  split
  · exact along_bind (note_along (heeds_indifferent id) _) fun _ => calls _
  · exact calls _

/-- The visit of a node is heeded. -/
theorem perform_heeds (node : Flow.Node String) :
    Along (Session.Heeds id) (perform engine node) := by
  have lax := heeds_indifferent id
  have changes {change : Execution String → Execution String} {ending : Action × Entries}
      (keeps : ∀ execution, (change execution).status = execution.status) :
      Along (Session.Heeds id) (do Run.change change; return ending) :=
    along_bind (change_heeds id fun execution unended => by rwa [keeps execution])
      fun _ => along_pure _
  unfold perform
  split
  · exact along_pure _
  · exact along_pure _
  · exact along_bind execution_along fun _ =>
      along_bind (retry_along lax _ _ _ _ (send_heeds engine id _)) fun _ => along_pure _
  · exact along_bind execution_along fun _ => along_pure _
  · exact along_bind now_along fun _ => along_bind (ofExcept_along _) fun _ => changes fun _ => rfl
  · unfold generate
    split
    · exact along_throw _
    · refine along_bind execution_along fun _ => along_bind (context_along lax engine _) fun _ => ?_
      refine along_bind (retry_along lax _ _ _ _ (ask_along lax _ _ _)) fun _ => ?_
      exact changes fun _ => rfl
  · exact along_pure _
  · split
    · refine along_bind (retry_along lax _ _ _ _ (call_along lax _ _)) fun _ => ?_
      split
      · exact along_throw _
      · exact changes fun _ => rfl
    · exact along_throw _

end Handler

namespace Tick

open Run

variable (engine : Engine) (id : String)

/-- What follows a visit that failed is heeded. -/
theorem afterFailure_heeds (node : Flow.Node String) (failure : Failure) :
    Along (Session.Heeds id) (afterFailure engine node failure) := by
  refine along_bind (log_heeds id _ _ _) fun _ => along_bind execution_along fun execution => ?_
  refine along_bind (tell_heeds engine id _) fun _ => ?_
  split
  · exact along_bind (moveTo_heeds engine id _) fun _ => along_pure _
  · exact along_bind (fail_heeds engine id _) fun _ => along_pure _

/-- What follows a visit that ended well is heeded. -/
theorem afterAction_heeds (graph : Flow.Graph) (node : String) (action : Action) :
    Along (Session.Heeds id) (afterAction engine graph node action) := by
  have completes : Along (Session.Heeds id) (do complete engine; return false) :=
    along_bind (complete_heeds engine id) fun _ => along_pure _
  have moves (target : String) : Along (Session.Heeds id) (do moveTo engine target; return true) :=
    along_bind (moveTo_heeds engine id target) fun _ => along_pure _
  cases action with
  | suspend =>
    refine along_bind ?_ fun _ => along_pure _
    refine along_bind (setStatus_heeds engine id _ (by decide)) fun _ => ?_
    refine along_bind execution_along fun execution => along_bind (log_heeds id _ _ _) fun _ => ?_
    exact persist_heeds engine id
  | finish => exact completes
  | jump target => exact moves target
  | follow label =>
    unfold afterAction
    dsimp only
    split
    · exact moves _
    · exact completes

/-- A visit is heeded. -/
theorem visit_heeds (graph : Flow.Graph) (node : Flow.Node String) :
    Along (Session.Heeds id) (visit engine graph node) := by
  refine along_bind (log_heeds id _ _ _) fun _ => along_bind execution_along fun execution => ?_
  refine along_bind (tell_heeds engine id _) fun _ => ?_
  refine along_bind (attempt_along (Handler.perform_heeds engine id node)) fun result => ?_
  cases result with
  | error failure => exact afterFailure_heeds engine id node failure
  | ok ending =>
    refine along_bind (log_heeds id _ _ _) fun _ => along_bind execution_along fun execution => ?_
    exact along_bind (tell_heeds engine id _) fun _ => afterAction_heeds engine id graph _ _

end Tick

end Parley
