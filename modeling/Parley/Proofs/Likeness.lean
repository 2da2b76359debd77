import Parley.Proofs.Parallel

/-!
# Work on an execution in two worlds

A likeness relates worlds in which the engine cannot tell the difference while it works on certain
executions: what it reads of the world is the same, the outside parts answer the same, and what it
changes keeps the worlds alike. Work on such an execution then runs in parallel in both worlds. It
is shown once, for every likeness, from the small steps of a session up to guarded work. A visit
does not read which execution is being stepped, so up to visits a semblance is enough, which does
not say that it is the same.
-/

namespace Parley

open Parley.Computation

/-- What an execution keeps as long as it runs. -/
structure Execution.Origin where
  /-- Its id. -/
  id : String
  /-- The flow of which it is a run. -/
  flow : String
  /-- The version of the flow. -/
  version : Int
  /-- The subject to which it talks. -/
  subject : String

/-- The origin of an execution. -/
def Execution.origin (execution : Execution String) : Origin :=
  ⟨execution.id, execution.flow, execution.version, execution.subject⟩

/-- A move between statuses keeps the origin. -/
theorem Execution.origin_of_transition {execution moved : Execution String} {status : Status}
    {now : Time.Moment} (done : execution.transition status now = .ok moved) :
    moved.origin = execution.origin := by
  unfold transition at done
  split at done
  · cases done
    split <;> split <;> rfl
  · cases done

/-- While an execution of an origin is in hand, an outside part may ask for an id to be
cancelled. -/
inductive Capabilities.Asks (capabilities : Capabilities) (origin : Execution.Origin)
    (id : String) : Prop where
  /-- The sender asks for it. -/
  | sender {count : Nat} {text : String}
    (asked : id ∈ (capabilities.send count origin.subject text).cancels)
  /-- The observers ask for it. -/
  | observer {notice : Notice} (about : notice.execution = origin.id)
    (asked : id ∈ (capabilities.watch notice).cancels)

/-- The execution that is being stepped is asked to stop. -/
def World.interrupt (world : World) : World :=
  { world with
    stepping := world.stepping.map fun stepping => { stepping with interrupted := true } }

/-- Worlds are alike for the engine while it works on executions of certain origins. -/
structure World.Likeness (engine : Engine) (own : Execution.Origin → Prop)
    (rel : World → World → Prop) : Prop where
  /-- The engine keeps executions in the store. -/
  stored : engine.keeping = .stored
  /-- The time is the same. -/
  clock : ∀ {left right}, rel left right → right.clock = left.clock
  /-- The execution that is being stepped is the same. -/
  stepping : ∀ {left right}, rel left right → right.stepping = left.stepping
  /-- Generators can be asked in both or in none. -/
  closed : ∀ {left right}, rel left right → right.closed = left.closed
  /-- Effects may be noted. -/
  noted : ∀ {left right} (effect : Effect), rel left right →
    rel (left.note effect) (right.note effect)
  /-- The sender reacts in the same way. -/
  reacts : ∀ {origin left right} (text : String), own origin → rel left right →
    engine.capabilities.send (right.sends.length + 1) origin.subject text =
      engine.capabilities.send (left.sends.length + 1) origin.subject text
  /-- The sender may have been called. -/
  sent : ∀ {origin left right} (text : String) (returned : Bool), own origin → rel left right →
    rel (left.sent ⟨origin.id, origin.subject, text, returned⟩)
      (right.sent ⟨origin.id, origin.subject, text, returned⟩)
  /-- The generator replies in the same way. -/
  replies : ∀ {generate left right}, engine.capabilities.generate = some generate →
    rel left right → generate (right.generations + 1) = generate (left.generations + 1)
  /-- The generator may have been asked. -/
  generated : ∀ {left right}, rel left right →
    rel { left with generations := left.generations + 1 }
      { right with generations := right.generations + 1 }
  /-- The same knowledge is found. -/
  finds : ∀ {retrieve left right}, engine.capabilities.retrieve = some retrieve →
    rel left right → retrieve (right.retrievals + 1) = retrieve (left.retrievals + 1)
  /-- Knowledge may have been asked for. -/
  retrieved : ∀ {left right}, rel left right →
    rel { left with retrievals := left.retrievals + 1 }
      { right with retrievals := right.retrievals + 1 }
  /-- The calls of a registered type that can run have the same numbers. -/
  numbers : ∀ {type extension left right},
    engine.capabilities.extensions.lookup type = some (some extension) → rel left right →
    (countCall right.calls type).1 = (countCall left.calls type).1
  /-- A registered type may have been called. -/
  called : ∀ {left right} (type : String), rel left right →
    rel { left with calls := (countCall left.calls type).2 }
      { right with calls := (countCall right.calls type).2 }
  /-- Executions of the origins are saved in parallel. -/
  saved : ∀ {execution : Execution String}, own execution.origin →
    Parallel rel (Desk.save engine execution)
  /-- Executions that outside parts ask for meanwhile are cancelled in parallel. -/
  cancelled : ∀ {origin id}, own origin → engine.capabilities.Asks origin id →
    Parallel rel (Desk.cancel engine id)

/-- Worlds are alike for the engine during visits of executions of certain origins. The execution
that is being stepped matters only between visits, and outside parts may ask it to stop. -/
structure World.Semblance (engine : Engine) (own : Execution.Origin → Prop)
    (rel : World → World → Prop) : Prop where
  /-- The time is the same. -/
  clock : ∀ {left right}, rel left right → right.clock = left.clock
  /-- Generators can be asked in both or in none. -/
  closed : ∀ {left right}, rel left right → right.closed = left.closed
  /-- Effects may be noted. -/
  noted : ∀ {left right} (effect : Effect), rel left right →
    rel (left.note effect) (right.note effect)
  /-- The sender reacts in the same way. -/
  reacts : ∀ {origin left right} (text : String), own origin → rel left right →
    engine.capabilities.send (right.sends.length + 1) origin.subject text =
      engine.capabilities.send (left.sends.length + 1) origin.subject text
  /-- The sender may have been called. -/
  sent : ∀ {origin left right} (text : String) (returned : Bool), own origin → rel left right →
    rel (left.sent ⟨origin.id, origin.subject, text, returned⟩)
      (right.sent ⟨origin.id, origin.subject, text, returned⟩)
  /-- The generator replies in the same way. -/
  replies : ∀ {generate left right}, engine.capabilities.generate = some generate →
    rel left right → generate (right.generations + 1) = generate (left.generations + 1)
  /-- The generator may have been asked. -/
  generated : ∀ {left right}, rel left right →
    rel { left with generations := left.generations + 1 }
      { right with generations := right.generations + 1 }
  /-- The same knowledge is found. -/
  finds : ∀ {retrieve left right}, engine.capabilities.retrieve = some retrieve →
    rel left right → retrieve (right.retrievals + 1) = retrieve (left.retrievals + 1)
  /-- Knowledge may have been asked for. -/
  retrieved : ∀ {left right}, rel left right →
    rel { left with retrievals := left.retrievals + 1 }
      { right with retrievals := right.retrievals + 1 }
  /-- The calls of a registered type that can run have the same numbers. -/
  numbers : ∀ {type extension left right},
    engine.capabilities.extensions.lookup type = some (some extension) → rel left right →
    (countCall right.calls type).1 = (countCall left.calls type).1
  /-- A registered type may have been called. -/
  called : ∀ {left right} (type : String), rel left right →
    rel { left with calls := (countCall left.calls type).2 }
      { right with calls := (countCall right.calls type).2 }
  /-- Executions of the origins that are kept in the store are saved in parallel. -/
  saved : ∀ {execution : Execution String}, engine.keeping = .stored → own execution.origin →
    Parallel rel (Desk.save engine execution)
  /-- Stored executions that outside parts ask for meanwhile are cancelled in parallel. -/
  cancelled : ∀ {origin id}, engine.keeping = .stored → own origin →
    engine.capabilities.Asks origin id → Parallel rel (Desk.cancel engine id)
  /-- Where executions are not stored, outside parts may ask the one that is stepped to stop. -/
  stopped : ∀ {origin id left right}, engine.keeping ≠ .stored → own origin →
    engine.capabilities.Asks origin id → rel left right → rel left.interrupt right.interrupt

/-- Worlds that are alike for work are alike for visits. -/
theorem World.Likeness.semblance {engine : Engine} {own : Execution.Origin → Prop}
    {rel : World → World → Prop} (like : Likeness engine own rel) : Semblance engine own rel where
  clock := like.clock
  closed := like.closed
  noted := like.noted
  reacts := like.reacts
  sent := like.sent
  replies := like.replies
  generated := like.generated
  finds := like.finds
  retrieved := like.retrieved
  numbers := like.numbers
  called := like.called
  saved _ owned := like.saved owned
  cancelled _ owned asked := like.cancelled owned asked
  stopped unstored := absurd like.stored unstored

/-- The same execution of one of some origins is in hand in two worlds that are related. -/
structure Session.Alike (own : Execution.Origin → Prop) (rel : World → World → Prop)
    (left right : Session) : Prop where
  /-- The execution in hand is the same. -/
  execution : right.execution = left.execution
  /-- It is of one of the origins. -/
  owned : own left.execution.origin
  /-- The worlds are related. -/
  world : rel left.world right.world

variable {engine : Engine} {own : Execution.Origin → Prop} {rel : World → World → Prop}

namespace Run

variable {α : Type}

/-- What is done with the execution in hand runs in parallel if it does for every execution of the
origins. -/
theorem execution_parallel {rest : Execution String → Run α}
    (afterwards : ∀ execution : Execution String, own execution.origin →
      Parallel (Session.Alike own rel) (rest execution)) :
    Parallel (Session.Alike own rel) (Run.execution >>= rest) := by
  intro left right alike
  have same : (Run.execution >>= rest) right = rest left.execution right := by
    rw [← alike.execution]
    rfl
  rw [same]
  exact afterwards left.execution alike.owned left right alike

/-- Changes that keep the origin run in parallel. -/
theorem change_parallel {change : Execution String → Execution String}
    (keeps : ∀ execution, own execution.origin → own (change execution).origin) :
    Parallel (Session.Alike own rel) (Run.change change) :=
  parallel_modify fun left _ alike =>
    ⟨congrArg change alike.execution, keeps left.execution alike.owned, alike.world⟩

/-- A computation on the world runs in parallel in sessions if it does in worlds. -/
theorem onWorld_parallel {action : Desk α} (parallel : Parallel rel action) :
    Parallel (Session.Alike own rel) (onWorld action) := by
  intro left right alike
  have ended := parallel left.world right.world alike.world
  unfold onWorld
  generalize action left.world = one, action right.world = other at ended
  cases ended with
  | ok related => exact .ok ⟨alike.execution, alike.owned, related⟩
  | error related => exact .error ⟨alike.execution, alike.owned, related⟩

variable (like : World.Semblance engine own rel)
include like

/-- What is done with the time runs in parallel. -/
theorem now_parallel : Parallel (Session.Alike own rel) now :=
  parallel_get fun left right alike => by
    rw [like.clock alike.world]
    exact .ok alike

/-- Noting an effect runs in parallel. -/
theorem note_parallel (effect : Effect) : Parallel (Session.Alike own rel) (note effect) :=
  parallel_modify fun _ _ alike =>
    ⟨alike.execution, alike.owned, like.noted effect alike.world⟩

/-- Writing the log runs in parallel. -/
theorem log_parallel (node : Option String) (event : Event) (payload : Entries) :
    Parallel (Session.Alike own rel) (log node event payload) :=
  parallel_bind (now_parallel like) fun _ => change_parallel fun _ owned => owned

/-- Executions that outside parts ask for are cancelled in parallel. -/
theorem cancelAll_parallel {origin : Execution.Origin} (owned : own origin) {ids : List String}
    (asked : ∀ id ∈ ids, engine.capabilities.Asks origin id) :
    Parallel (Session.Alike own rel) (cancelAll engine ids) := by
  induction ids with
  | nil => exact parallel_pure ()
  | cons id rest ih =>
    obtain ⟨first, others⟩ := List.forall_mem_cons.mp asked
    rw [cancelAll]
    split
    · rename_i stored
      exact parallel_bind (onWorld_parallel (like.cancelled stored owned first)) fun _ => ih others
    · rename_i unstored
      refine parallel_bind (parallel_modify fun left right alike => ?_) fun _ => ih others
      exact ⟨alike.execution, alike.owned, like.stopped unstored owned first alike.world⟩

/-- A reaction takes place in parallel. -/
theorem react_parallel {origin : Execution.Origin} (owned : own origin) {reaction : Reaction}
    (asked : ∀ id ∈ reaction.cancels, engine.capabilities.Asks origin id) :
    Parallel (Session.Alike own rel) (react engine reaction) := by
  refine parallel_bind (cancelAll_parallel like owned asked) fun _ => ?_
  split
  · exact parallel_throw _
  · exact parallel_pure ()

/-- Observers are told in parallel. -/
theorem tell_parallel {execution : Execution String} (owned : own execution.origin)
    {notice : Notice} (about : notice.execution = execution.id) :
    Parallel (Session.Alike own rel) (tell engine notice) :=
  parallel_bind (note_parallel like _) fun _ =>
    parallel_bind (attempt_parallel (react_parallel like owned fun _ => .observer about))
      fun _ => parallel_pure ()

/-- The execution is handed over in parallel. -/
theorem persist_parallel : Parallel (Session.Alike own rel) (persist engine) := by
  refine parallel_bind (now_parallel like) fun time => ?_
  refine parallel_bind (change_parallel fun _ owned => owned) fun _ => ?_
  refine execution_parallel fun execution owned => ?_
  cases keeping : engine.keeping with
  | nowhere => exact parallel_pure ()
  | noted => exact note_parallel like _
  | stored => exact onWorld_parallel (like.saved keeping owned)

/-- The execution moves between statuses in parallel. -/
theorem setStatus_parallel (status : Status) :
    Parallel (Session.Alike own rel) (setStatus engine status) := by
  refine execution_parallel fun old owned => parallel_bind (now_parallel like) fun time => ?_
  cases done : old.transition status time with
  | error failure => exact fun _ _ alike => .error alike
  | ok moved =>
    have same : own moved.origin := by rwa [Execution.origin_of_transition done]
    have told : Parallel (Session.Alike own rel) (do
        change fun _ => moved
        tell engine (.status old.id old.status status)) :=
      parallel_bind (change_parallel fun _ _ => same) fun _ => tell_parallel like owned rfl
    exact told

/-- The execution fails in parallel. -/
theorem fail_parallel (reason : String) : Parallel (Session.Alike own rel) (fail engine reason) :=
  parallel_bind (change_parallel fun _ owned => owned) fun _ =>
    parallel_bind (setStatus_parallel like .failed) fun _ => persist_parallel like

/-- The execution completes in parallel. -/
theorem complete_parallel : Parallel (Session.Alike own rel) (complete engine) :=
  parallel_bind (setStatus_parallel like .completed) fun _ => persist_parallel like

/-- The execution moves to a node in parallel. -/
theorem moveTo_parallel (node : String) : Parallel (Session.Alike own rel) (moveTo engine node) :=
  parallel_bind (change_parallel fun _ owned => owned) fun _ => persist_parallel like

end Run

namespace Handler

variable (like : World.Semblance engine own rel)
include like

/-- Trying again runs in parallel if what is tried does. -/
theorem retryFrom_parallel {α : Type} (node : String) (attempts : Number)
    (timeout : Option Binary64) {effect : Run (Option α)}
    (parallel : Parallel (Session.Alike own rel) effect) (left count : Nat) (delay : Number)
    (last : Option Failure) :
    Parallel (Session.Alike own rel)
      (retryFrom node attempts timeout effect left count delay last) := by
  -- On the tries that are left; count, delay and last failure differ from try to try.
  induction left generalizing count delay last with
  | zero => exact parallel_throw _
  | succ left ih =>
    rw [retryFrom]
    refine parallel_bind (Run.attempt_parallel parallel) fun outcome => ?_
    split
    · exact parallel_pure _
    · exact parallel_throw _
    · split
      · exact parallel_throw _
      · refine parallel_bind (Run.ofExcept_parallel _) fun late => ?_
        split
        · exact parallel_throw _
        · split
          · exact parallel_bind (Run.note_parallel like _) fun _ => ih _ _ _
          · exact parallel_bind (parallel_pure _) fun _ => ih _ _ _

/-- Trying as often as allowed runs in parallel if what is tried does. -/
theorem retry_parallel {α : Type} (node : String) (attempts delay : Number)
    (timeout : Option Number) {effect : Run (Option α)}
    (parallel : Parallel (Session.Alike own rel) effect) :
    Parallel (Session.Alike own rel) (retry node attempts delay timeout effect) :=
  parallel_bind (Run.ofExcept_parallel _) fun _ => parallel_bind (Run.ofExcept_parallel _)
    fun _ => retryFrom_parallel like node attempts _ parallel _ _ _ _

/-- The sender is called in parallel. -/
theorem send_parallel (text : String) : Parallel (Session.Alike own rel) (send engine text) := by
  refine Run.execution_parallel fun execution owned => parallel_get fun left right alike => ?_
  have reaction : engine.capabilities.send (right.world.sends.length + 1) execution.subject text =
      engine.capabilities.send (left.world.sends.length + 1) execution.subject text :=
    like.reacts text owned alike.world
  rw [reaction]
  -- The count is the same in both from here on, so the rest is one computation.
  have calls (count : Nat) : Parallel (Session.Alike own rel) (do
      let outcome ← Run.attempt
        (Run.react engine (engine.capabilities.send count execution.subject text))
      modify fun session => { session with
        world := session.world.sent ⟨execution.id, execution.subject, text, outcome.isOk⟩ }
      Run.ofExcept outcome
      return some ()) :=
    parallel_bind
        (Run.attempt_parallel (Run.react_parallel like owned fun _ asked => .sender asked))
      fun outcome => parallel_bind
        (parallel_modify fun _ _ alike =>
          ⟨alike.execution, alike.owned, like.sent text outcome.isOk owned alike.world⟩)
        fun _ => parallel_bind (Run.ofExcept_parallel outcome) fun _ => parallel_pure _
  dsimp only
  split
  · exact parallel_bind (Run.note_parallel like _) (fun _ => calls _) left right alike
  · exact calls _ left right alike

/-- A message node is visited in parallel. -/
theorem message_parallel (node template : String) :
    Parallel (Session.Alike own rel) (message engine node template) :=
  Run.execution_parallel fun _ _ =>
    parallel_bind (retry_parallel like _ _ _ _ (send_parallel like _)) fun _ => parallel_pure _

/-- A wait node is visited in parallel. -/
theorem wait_parallel (timeout : Option Binary64) (keywords : List String) :
    Parallel (Session.Alike own rel) (wait engine timeout keywords) :=
  parallel_bind (Run.now_parallel like) fun _ => parallel_bind (Run.ofExcept_parallel _) fun _ =>
    parallel_bind (Run.change_parallel fun _ owned => owned) fun _ => parallel_pure _

/-- Knowledge is asked for in parallel. -/
theorem context_parallel (useKnowledge : Bool) :
    Parallel (Session.Alike own rel) (context engine useKnowledge) := by
  unfold context
  split
  · rename_i retrieve known
    refine Run.execution_parallel fun execution owned => parallel_get fun left right alike => ?_
    rw [like.finds known alike.world]
    refine (Alike.bind ?_ ?_)
    · exact .ok ⟨alike.execution, alike.owned, like.retrieved alike.world⟩
    · intro _
      refine parallel_bind (Run.note_parallel like _) fun _ => ?_
      split <;> exact parallel_pure _
  · exact parallel_pure _

/-- The generator is asked in parallel. -/
theorem ask_parallel {generate : Nat → String → Value → Generation}
    (known : engine.capabilities.generate = some generate) (prompt : String) (context : Value) :
    Parallel (Session.Alike own rel) (ask generate prompt context) := by
  refine parallel_get fun left right alike => ?_
  rw [like.closed alike.world]
  split
  · exact .error alike
  · refine parallel_get (fun left right alike => ?_) left right alike
    rw [like.replies known alike.world]
    refine Alike.bind ?_ fun _ => ?_
    · exact .ok ⟨alike.execution, alike.owned, like.generated alike.world⟩
    · refine parallel_bind (Run.note_parallel like _) fun _ => ?_
      split
      · exact parallel_pure _
      · exact parallel_throw _
      · exact parallel_pure _

/-- A node that asks a generator is visited in parallel. -/
theorem generate_parallel (node template output : String) (useKnowledge : Bool) :
    Parallel (Session.Alike own rel) (generate engine node template output useKnowledge) := by
  unfold generate
  split
  · exact parallel_throw _
  · rename_i generator known
    refine Run.execution_parallel fun execution _ => ?_
    refine parallel_bind (context_parallel like useKnowledge) fun context => ?_
    refine parallel_bind (retry_parallel like _ _ _ _ (ask_parallel like known _ _)) fun reply => ?_
    exact parallel_bind (Run.change_parallel fun _ owned => owned) fun _ => parallel_pure _

/-- A registered type that can run is called in parallel. -/
theorem call_parallel {type : String} {extension : Extension}
    (known : engine.capabilities.extensions.lookup type = some (some extension)) :
    Parallel (Session.Alike own rel) (call type extension) := by
  refine parallel_get fun left right alike => ?_
  dsimp only
  rw [like.numbers known alike.world]
  refine Alike.bind ?_ fun _ => ?_
  · exact .ok ⟨alike.execution, alike.owned, like.called type alike.world⟩
  · cases extension.outcome _ with
    | some failure => exact parallel_throw failure
    | none => exact parallel_pure _

/-- A node of a registered type is visited in parallel. -/
theorem extended_parallel {type : String} {extension : Extension}
    (known : engine.capabilities.extensions.lookup type = some (some extension))
    (node tag : String) :
    Parallel (Session.Alike own rel) (extended extension node type tag) := by
  refine parallel_bind (retry_parallel like _ _ _ _ (call_parallel like known)) fun count => ?_
  split
  · exact parallel_throw _
  · exact parallel_bind (Run.change_parallel fun _ owned => owned) fun _ => parallel_pure _

/-- A node is visited in parallel. -/
theorem perform_parallel (node : Flow.Node String) :
    Parallel (Session.Alike own rel) (perform engine node) := by
  unfold perform
  split
  · exact parallel_pure _
  · exact parallel_pure _
  · exact message_parallel like _ _
  · exact Run.execution_parallel fun _ _ => parallel_pure _
  · exact wait_parallel like _ _
  · exact generate_parallel like _ _ _ _
  · exact parallel_pure _
  · split
    · rename_i known
      exact extended_parallel like known _ _
    · exact parallel_throw _

end Handler

namespace Tick

section Visits

variable (like : World.Semblance engine own rel)
include like

/-- What follows a visit that failed runs in parallel. -/
theorem afterFailure_parallel (node : Flow.Node String) (failure : Failure) :
    Parallel (Session.Alike own rel) (afterFailure engine node failure) := by
  refine parallel_bind (Run.log_parallel like _ _ _) fun _ => ?_
  refine Run.execution_parallel fun execution owned => ?_
  refine parallel_bind (Run.tell_parallel like owned rfl) fun _ => ?_
  split
  · exact parallel_bind (Run.moveTo_parallel like _) fun _ => parallel_pure _
  · exact parallel_bind (Run.fail_parallel like _) fun _ => parallel_pure _

/-- The execution is parked in parallel. -/
theorem suspend_parallel (node : String) :
    Parallel (Session.Alike own rel) (suspend engine node) :=
  parallel_bind (Run.setStatus_parallel like _) fun _ =>
    Run.execution_parallel fun _ _ =>
      parallel_bind (Run.log_parallel like _ _ _) fun _ => Run.persist_parallel like

/-- What follows a visit that ended well runs in parallel. -/
theorem afterAction_parallel (graph : Flow.Graph) (node : String) (action : Action) :
    Parallel (Session.Alike own rel) (afterAction engine graph node action) := by
  have completes : Parallel (Session.Alike own rel) (do Run.complete engine; return false) :=
    parallel_bind (Run.complete_parallel like) fun _ => parallel_pure _
  have moves (target : String) :
      Parallel (Session.Alike own rel) (do Run.moveTo engine target; return true) :=
    parallel_bind (Run.moveTo_parallel like target) fun _ => parallel_pure _
  cases action with
  | suspend => exact parallel_bind (suspend_parallel like node) fun _ => parallel_pure _
  | finish => exact completes
  | jump target => exact moves target
  | follow label =>
    unfold afterAction
    dsimp only
    split
    · exact moves _
    · exact completes

/-- A visit runs in parallel. -/
theorem visit_parallel (graph : Flow.Graph) (node : Flow.Node String) :
    Parallel (Session.Alike own rel) (visit engine graph node) := by
  refine parallel_bind (Run.log_parallel like _ _ _) fun _ => ?_
  refine Run.execution_parallel fun execution owned => ?_
  refine parallel_bind (Run.tell_parallel like owned rfl) fun _ => ?_
  refine parallel_bind (Run.attempt_parallel (Handler.perform_parallel like node)) fun result => ?_
  split
  · exact afterFailure_parallel like node _
  · refine parallel_bind (Run.log_parallel like _ _ _) fun _ => ?_
    refine Run.execution_parallel fun execution owned => ?_
    refine parallel_bind (Run.tell_parallel like owned rfl) fun _ => ?_
    exact afterAction_parallel like graph node.id _

/-- An execution that visited as many nodes as it may is ended in parallel. -/
theorem exhaust_parallel (node : Option String) :
    Parallel (Session.Alike own rel) (exhaust engine node) :=
  parallel_bind (Run.log_parallel like _ _ _) fun _ => Run.fail_parallel like _

end Visits

variable (like : World.Likeness engine own rel)
include like

/-- A request to stop is seen in parallel. -/
theorem isInterrupted_parallel (watched : Bool) :
    Parallel (Session.Alike own rel) (isInterrupted watched) :=
  parallel_get fun left right alike => by
    rw [like.stepping alike.world]
    exact .ok alike

/-- Nodes are visited in parallel. -/
theorem visits_parallel (graph : Flow.Graph) (watched : Bool) (fuel steps : Nat) :
    Parallel (Session.Alike own rel) (visits engine graph watched fuel steps) := by
  -- On the fuel: a visit leaves the same execution in hand, so the next one begins alike.
  induction fuel generalizing steps with
  | zero => exact parallel_pure ()
  | succ fuel ih =>
    rw [visits]
    refine parallel_bind (isInterrupted_parallel like watched) fun stops => ?_
    split
    · exact parallel_bind (Run.setStatus_parallel like.semblance _) fun _ =>
        Run.persist_parallel like.semblance
    · refine Run.execution_parallel fun execution _ => ?_
      dsimp only
      split
      · exact exhaust_parallel like.semblance _
      · split
        · exact parallel_throw _
        · refine parallel_bind (visit_parallel like.semblance graph _) fun goesOn => ?_
          split
          · exact ih _
          · exact parallel_pure ()

/-- A tick runs in parallel. -/
theorem tick_parallel (graph : Flow.Graph) (watched : Bool) :
    Parallel (Session.Alike own rel) (tick engine graph watched) := by
  refine Run.execution_parallel fun execution _ => ?_
  split
  · exact parallel_bind (visits_parallel like graph watched _ _) fun _ =>
      Run.execution_parallel fun _ _ => parallel_pure _
  · exact Run.execution_parallel fun _ _ => parallel_pure _

/-- An execution that was made is run in parallel. -/
theorem start_parallel (graph : Flow.Graph) (watched : Bool) :
    Parallel (Session.Alike own rel) (start engine graph watched) :=
  parallel_bind (Run.moveTo_parallel like.semblance _) fun _ => tick_parallel like graph watched

/-- A wait is taken up in parallel. -/
theorem resume_parallel (graph : Flow.Graph) (label reason reply : Value) (watched : Bool) :
    Parallel (Session.Alike own rel) (resume engine graph label reason reply watched) := by
  refine Run.execution_parallel fun execution _ => ?_
  refine parallel_bind (Run.log_parallel like.semblance _ _ _) fun _ => ?_
  refine parallel_bind (Run.setStatus_parallel like.semblance _) fun _ => ?_
  refine parallel_bind (Run.ofExcept_parallel _) fun target => ?_
  split
  · exact parallel_bind (Run.complete_parallel like.semblance) fun _ =>
      Run.execution_parallel fun _ _ => parallel_pure _
  · refine parallel_bind (Run.moveTo_parallel like.semblance _) fun _ => ?_
    exact parallel_bind (tick_parallel like graph watched) fun _ =>
      Run.execution_parallel fun _ _ => parallel_pure _

end Tick

end Parley
