import Parley.Proofs.Steps

/-!
# What handlers do

The handler of a node tries its effect, which leaves the execution in hand and stirs the world, and
only at its end may it change the execution: a wait sets deadline and keywords, and a generator or a
registered type sets a variable. A handler that fails changes nothing.
-/

namespace Parley

open Parley.Computation World

namespace Handler

/-- A relation of sessions does not depend on the journal, and not on how often generators,
knowledge and registered types were asked. -/
def Indifferent (rel : Session → Session → Prop) : Prop :=
  ∀ session journal generations retrievals calls, rel session { session with
    world := { session.world with journal, generations, retrievals, calls } }

section Indifferent

variable {rel : Session → Session → Prop} (indifferent : Indifferent rel)
include indifferent

/-- Noting an effect moves nothing that counts. -/
theorem note_along (effect : Effect) : Along rel (Run.note effect) :=
  along_modify fun session => indifferent session _ _ _ _

variable [IsPreorder Session rel]

/-- Trying again moves a session as what is tried does. -/
theorem retryFrom_along {α : Type} (node : String) (attempts : Number)
    (timeout : Option Binary64) {effect : Run (Option α)} (moves : Along rel effect)
    (left count : Nat) (delay : Number) (last : Option Failure) :
    Along rel (retryFrom node attempts timeout effect left count delay last) := by
  induction left generalizing count delay last with
  | zero => exact along_throw _
  | succ left ih =>
    rw [retryFrom]
    refine along_bind (Run.attempt_along moves) fun outcome => ?_
    split
    · exact along_pure _
    · exact along_throw _
    · split
      · exact along_throw _
      · refine along_bind (Run.ofExcept_along _) fun late => ?_
        split
        · exact along_throw _
        · split
          · exact along_bind (note_along indifferent _) fun _ => ih _ _ _
          · exact along_bind (along_pure _) fun _ => ih _ _ _

/-- Trying as often as allowed moves a session as what is tried does. -/
theorem retry_along {α : Type} (node : String) (attempts delay : Number)
    (timeout : Option Number) {effect : Run (Option α)} (moves : Along rel effect) :
    Along rel (retry node attempts delay timeout effect) :=
  along_bind (Run.ofExcept_along _) fun _ =>
    along_bind (Run.ofExcept_along _) fun _ =>
      retryFrom_along indifferent node attempts _ moves _ _ _ _

/-- Asking for knowledge moves nothing that counts. -/
theorem context_along (engine : Engine) (useKnowledge : Bool) :
    Along rel (context engine useKnowledge) := by
  unfold context
  split
  · refine along_bind Run.execution_along fun execution => along_bind along_get fun session => ?_
    refine along_bind (along_modify fun session => indifferent session _ _ _ _) fun _ => ?_
    refine along_bind (note_along indifferent _) fun _ => ?_
    split <;> exact along_pure _
  · exact along_pure _

/-- Asking the generator moves nothing that counts. -/
theorem ask_along (generate : Nat → String → Value → Generation) (prompt : String)
    (context : Value) : Along rel (ask generate prompt context) := by
  refine along_bind along_get fun session => ?_
  split
  · exact fun session => refl_of _ session
  · refine along_bind along_get fun _ => ?_
    refine along_bind (along_modify fun session => indifferent session _ _ _ _) fun _ => ?_
    refine along_bind (note_along indifferent _) fun _ => ?_
    split
    · exact along_pure _
    · exact along_throw _
    · exact along_pure _

/-- Calling a registered type moves nothing that counts. -/
theorem call_along (type : String) (extension : Extension) : Along rel (call type extension) := by
  refine along_bind along_get fun session => ?_
  refine along_bind (along_modify fun session => indifferent session _ _ _ _) fun _ => ?_
  split
  · exact along_throw _
  · exact along_pure _

end Indifferent

/-- What is steady does not depend on what is beside the executions. -/
theorem steady_indifferent (engine : Engine) : Indifferent (Session.Steady engine) :=
  fun _ _ _ _ _ => .beside rfl ⟨rfl, rfl, rfl, rfl⟩

/-- Sending is steady: the sender may only ask to cancel. -/
theorem send_steady (engine : Engine) (text : String) :
    Along (Session.Steady engine) (send engine text) := by
  refine along_bind Run.execution_along fun execution => along_bind along_get fun session => ?_
  have calls (count : Nat) : Along (Session.Steady engine) (do
      let outcome ← Run.attempt
        (Run.react engine (engine.capabilities.send count execution.subject text))
      modify fun session => { session with
        world := session.world.sent ⟨execution.id, execution.subject, text, outcome.isOk⟩ }
      Run.ofExcept outcome
      return some ()) :=
    along_bind (Run.attempt_along (Run.react_steady engine fun aloof => aloof.send _ _ _))
      fun outcome => along_bind (along_modify fun _ => .beside rfl ⟨rfl, rfl, rfl, rfl⟩)
        fun _ => along_bind (Run.ofExcept_along outcome) fun _ => along_pure _
  dsimp only
  split
  · exact along_bind (Run.note_steady _) fun _ => calls _
  · exact calls _

/-- A handler ends in a way, and the world was stirred meanwhile. -/
def Comes (engine : Engine) (handler : Run (Action × Entries)) (session : Session)
    (way : Except Failure (Action × Entries) → Execution String → Prop) : Prop :=
  ∃ result left, Run.attempt handler session = .ok result left ∧
    Astir engine session.world left.world ∧ way result left.execution

section Comes

variable {α : Type} {engine : Engine} {session : Session}
  {way : Except Failure (Action × Entries) → Execution String → Prop}

/-- A handler that returns has come to its end. -/
theorem comes_pure {ending : Action × Entries} (holds : way (.ok ending) session.execution) :
    Comes engine (pure ending) session way :=
  ⟨.ok ending, session, rfl, refl_of _ session.world, holds⟩

/-- A handler that fails has come to its end. -/
theorem comes_throw {failure : Failure} (holds : way (.error failure) session.execution) :
    Comes engine (throw failure) session way :=
  ⟨.error failure, session, rfl, refl_of _ session.world, holds⟩

/-- What is steady may come first. -/
theorem comes_bind {first : Run α} {rest : α → Run (Action × Entries)}
    (steady : Along (Session.Steady engine) first)
    (fails : ∀ failure, way (.error failure) session.execution)
    (later : ∀ value left, first session = .ok value left → Session.Steady engine session left →
      Comes engine (rest value) left way) : Comes engine (first >>= rest) session way := by
  have moved := steady session
  cases ended : first session with
  | ok value left =>
    rw [after_of_ok ended] at moved
    obtain ⟨result, last, done, stirred, holds⟩ := later value left ended moved
    refine ⟨result, last, ?_, trans_of _ moved.world stirred, holds⟩
    rw [← done]
    simp only [Run.attempt, bind_apply, ended]
  | error failure left =>
    rw [after_of_error ended] at moved
    refine ⟨.error failure, left, ?_, moved.world, ?_⟩
    · simp only [Run.attempt, bind_apply, ended]
    · rw [moved.execution]
      exact fails failure

/-- The execution may be read first. -/
theorem comes_execution {rest : Execution String → Run (Action × Entries)}
    (later : Comes engine (rest session.execution) session way) :
    Comes engine (Run.execution >>= rest) session way := later

/-- The time may be read first. -/
theorem comes_now {rest : Time.Moment → Run (Action × Entries)}
    (later : Comes engine (rest session.world.clock) session way) :
    Comes engine (Run.now >>= rest) session way := later

/-- The execution may be changed at the end. -/
theorem comes_change {change : Execution String → Execution String} {ending : Action × Entries}
    (holds : way (.ok ending) (change session.execution)) :
    Comes engine (do Run.change change; return ending) session way :=
  ⟨.ok ending, { session with execution := change session.execution }, rfl,
    refl_of _ session.world, holds⟩

end Comes

/-- The seconds of a wait: what the node sets, or else the usual. -/
def waitSeconds (engine : Engine) (timeout : Option Binary64) : Value :=
  match timeout with
  | some seconds => .float seconds
  | none => engine.settings.waitTimeout

/-- How the handler of a node ends for an execution at a time, and the execution that it leaves. -/
inductive Handled (engine : Engine) (node : Flow.Node String) (now : Time.Moment)
    (execution : Execution String) :
    Except Failure (Action × Entries) → Execution String → Prop where
  /-- It fails, and leaves the execution as it was. -/
  | failed (failure : Failure) : Handled engine node now execution (.error failure) execution
  /-- A start leads on. -/
  | start (kind : node.content = .start) :
    Handled engine node now execution (.ok (.follow none, [])) execution
  /-- An end ends the run. -/
  | finish (kind : node.content = .finish) :
    Handled engine node now execution (.ok (.finish, [])) execution
  /-- A message was sent. -/
  | message {template : String} (kind : node.content = .message template) :
    Handled engine node now execution
      (.ok (.follow none, [(.text "text", .text (Template.render execution.vars template))]))
      execution
  /-- A condition chose a branch. -/
  | condition {asked : Condition} {holds : Bool} (kind : node.content = .condition asked)
    (answer : asked.holds execution.vars = holds) :
    Handled engine node now execution
      (.ok (.follow (some (if holds then Flow.yes else Flow.no)),
        [(.text "expression", .text asked.text), (.text "result", .bool holds)]))
      execution
  /-- A wait set deadline and keywords. -/
  | wait {timeout : Option Binary64} {keywords : List String} {hold : Bool} {ends : Time.Moment}
    (kind : node.content = .wait timeout keywords hold)
    (later : deadline now (waitSeconds engine timeout) = .ok ends) :
    Handled engine node now execution
      (.ok (.suspend, [(.text "timeout", waitSeconds engine timeout)]))
      { execution with deadline := some ends, keywords }
  /-- A generator replied. -/
  | generate {template output : String} {useKnowledge used : Bool} {text : String}
    (kind : node.content = .generate template output useKnowledge) :
    Handled engine node now execution
      (.ok (.follow none,
        [(.text "output_variable", .text output), (.text "context_used", .bool used)]))
      { execution with vars := execution.vars.set output (.text text) }
  /-- A jump leads to its target. -/
  | goTo {target : String} (kind : node.content = .goTo target) :
    Handled engine node now execution (.ok (.jump target, [])) execution
  /-- A registered type did what it does. -/
  | tag {text : String} {extension : Extension} {count : Nat} (kind : node.content = .tag text)
    (known : engine.capabilities.extensions.lookup node.type = some (some extension)) :
    Handled engine node now execution (.ok (extension.action, [(.text "calls", .int count)]))
      { execution with vars := execution.vars.set "tag" (.text text) }

variable (engine : Engine) (node : Flow.Node String) (session : Session)

/-- A message node sends, or fails. -/
theorem message_comes {template : String} (kind : node.content = .message template) :
    Comes engine (message engine node.id template) session
      (Handled engine node session.world.clock session.execution) := by
  apply comes_execution
  apply comes_bind (retry_along (steady_indifferent engine) _ _ _ _ (send_steady engine _))
    (.failed ·)
  intro _ left _ moved
  apply comes_pure
  rw [moved.execution]
  exact .message kind

/-- A wait node sets deadline and keywords, or fails. -/
theorem wait_comes {timeout : Option Binary64} {keywords : List String} {hold : Bool}
    (kind : node.content = .wait timeout keywords hold) :
    Comes engine (wait engine timeout keywords) session
      (Handled engine node session.world.clock session.execution) := by
  apply comes_now
  apply comes_bind (Run.ofExcept_along _) (.failed ·)
  intro ends left given moved
  have found : deadline session.world.clock (waitSeconds engine timeout) = .ok ends :=
    (Run.ofExcept_eq_ok given).1
  apply comes_change
  rw [moved.execution]
  exact .wait kind found

/-- A node that asks a generator sets its variable, or fails. -/
theorem generate_comes {template output : String} {useKnowledge : Bool}
    (kind : node.content = .generate template output useKnowledge) :
    Comes engine (generate engine node.id template output useKnowledge) session
      (Handled engine node session.world.clock session.execution) := by
  unfold generate
  split
  · exact comes_throw (.failed _)
  · apply comes_execution
    apply comes_bind (context_along (steady_indifferent engine) engine useKnowledge) (.failed ·)
    intro context asked _ before
    apply comes_bind (retry_along (steady_indifferent engine) _ _ _ _
      (ask_along (steady_indifferent engine) _ _ _))
    · intro failure
      rw [before.execution]
      exact .failed failure
    intro reply left _ moved
    apply comes_change
    rw [moved.execution, before.execution]
    exact .generate kind

/-- A node of a registered type sets its variable, or fails. -/
theorem extended_comes {text : String} {extension : Extension} (kind : node.content = .tag text)
    (known : engine.capabilities.extensions.lookup node.type = some (some extension)) :
    Comes engine (extended extension node.id node.type text) session
      (Handled engine node session.world.clock session.execution) := by
  apply comes_bind (retry_along (steady_indifferent engine) _ _ _ _
    (call_along (steady_indifferent engine) _ _)) (.failed ·)
  intro count left _ moved
  split
  · apply comes_throw
    rw [moved.execution]
    exact .failed _
  · apply comes_change
    rw [moved.execution]
    exact .tag kind known

/-- A handler ends as the kind of its node says. -/
theorem perform_comes :
    Comes engine (perform engine node) session
      (Handled engine node session.world.clock session.execution) := by
  unfold perform
  split
  · rename_i kind
    exact comes_pure (.start kind)
  · rename_i kind
    exact comes_pure (.finish kind)
  · rename_i kind
    exact message_comes engine node session kind
  · rename_i kind
    apply comes_execution
    exact comes_pure (.condition kind rfl)
  · rename_i kind
    exact wait_comes engine node session kind
  · rename_i kind
    exact generate_comes engine node session kind
  · rename_i kind
    exact comes_pure (.goTo kind)
  · rename_i kind
    split
    · rename_i known
      exact extended_comes engine node session kind known
    · exact comes_throw (.failed _)

end Handler

end Parley
