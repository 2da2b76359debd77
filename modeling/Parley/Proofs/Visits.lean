import Parley.Proofs.Handling

/-!
# Visits

What a visit makes of the execution in hand, as a function: it adds the entries of the visit to the
log and moves the execution to the next node, parks it or ends it. The visit hands over what this
function gives, and goes on as long as the execution runs. Taking up a wait, ending an execution
that visited too many nodes, and ending one on which working failed are told in the same way.
-/

namespace Parley

open Parley.Computation World

/-- The node to which a wait goes on along a label: an edge of the label is taken before the one
without a label, unless it leads to the node of the empty name. -/
def Flow.Graph.onward (graph : Flow.Graph) (node label : String) : Option String :=
  ((graph.successor node (some label)).filter (· != "")).or (graph.successor node none)

namespace Execution

/-- Whether an execution runs. -/
def runs (execution : Execution String) : Bool := execution.status == .running

/-- An execution runs if its status says so. -/
theorem runs_iff {execution : Execution String} :
    execution.runs = true ↔ execution.status = .running := by
  simp [runs]

/-- What the log tells when an execution is parked. -/
def parking (deadline : Option Time.Moment) (keywords : List String) : Entries :=
  [(.text "wait_deadline", match deadline with
      | some deadline => .text deadline.text
      | none => .null),
    (.text "expected_keywords", .list (keywords.map .text))]

/-- An execution that was parked at a node at a time. -/
def parked (execution : Execution String) (node : String) (now : Time.Moment) :
    Execution String :=
  { execution with status := .waiting, updatedAt := now }.told (some node) .suspended now
    (parking execution.deadline execution.keywords)

/-- An execution that moved to the next node at a time, or came to its end where there is none. -/
def advanced (execution : Execution String) (next : Option String) (now : Time.Moment) :
    Execution String :=
  match next with
  | some target => execution.movedTo target now
  | none => execution.ended .completed now

/-- An execution that failed for a reason at a time. -/
def failedFor (execution : Execution String) (reason : String) (now : Time.Moment) :
    Execution String :=
  { execution with error := some reason }.ended .failed now

/-- An execution at the beginning of a visit. -/
def opened (execution : Execution String) (node : Flow.Node String) (now : Time.Moment) :
    Execution String :=
  execution.told (some node.id) .nodeStart now [(.text "type", .text node.type)]

/-- An execution at the end of a visit, by the result of the handler. -/
def closed (execution : Execution String) (graph : Flow.Graph) (node : Flow.Node String)
    (now : Time.Moment) : Except Failure (Action × Entries) → Execution String
  | .error failure =>
    let told := execution.told (some node.id) .nodeError now (Tick.failurePayload failure)
    match node.onError with
    | some fallback => told.movedTo fallback now
    | none =>
      told.failedFor (failure.kind ++ " at node '" ++ node.id ++ "': " ++ failure.message) now
  | .ok (action, payload) =>
    let told := execution.told (some node.id) .nodeEnd now
      (payload ++ [(.text "elapsed_ms", .float .zero)])
    match action with
    | .suspend => told.parked node.id now
    | .finish => told.ended .completed now
    | .jump target => told.movedTo target now
    | .follow label => told.advanced (graph.successor node.id label) now

/-- An execution that visited as many nodes as it may. -/
def exhausted (execution : Execution String) (budget : Number) (now : Time.Moment) :
    Execution String :=
  let failure := Failure.budgetExceeded budget execution.node
  (execution.told execution.node .nodeError now
    (Tick.failurePayload failure ++ [(.text "budget", .ofNumber budget)])).failedFor
    (failure.kind ++ ": " ++ failure.message) now

/-- What the log tells when a wait is taken up. -/
def taking (label reason : String) (reply : Value) : Entries :=
  [(.text "reason", .text reason), (.text "edge", .text label)]
    ++ (match reply with
      | .null => []
      | reply => [(.text "message", reply)])

/-- An execution that runs again after its wait was taken up along a label. -/
def rerun (execution : Execution String) (label reason : String) (reply : Value)
    (now : Time.Moment) : Execution String :=
  { execution.told execution.node .resumed now (taking label reason reply) with
    status := .running, updatedAt := now, deadline := none, keywords := [] }

/-- An execution whose wait was taken up along a label. -/
def resumed (execution : Execution String) (graph : Flow.Graph) (label reason : String)
    (reply : Value) (now : Time.Moment) : Execution String :=
  let told := execution.told execution.node .resumed now (taking label reason reply)
  { told with status := .running, deadline := none, keywords := [] }.advanced
    (execution.node.bind (graph.onward · label)) now

/-- A stored execution whose log tells that working on it failed, if it stands at a node. -/
def blamed (execution : Execution String) (failure : Failure) (now : Time.Moment) :
    Execution String :=
  match execution.node with
  | some node => execution.told (some node) .nodeError now
      [(.text "error", .text failure.kind), (.text "message", .text failure.message)]
  | none => execution

/-- A stored execution on which working failed. -/
def crashed (execution : Execution String) (failure : Failure) (now : Time.Moment) :
    Execution String :=
  (execution.blamed failure now).failedFor (failure.kind ++ ": " ++ failure.message) now

/-- An execution goes on: it is the same run, and its log only grows. -/
structure Continues (before after : Execution String) : Prop where
  /-- It has the same id. -/
  id : after.id = before.id
  /-- It is of the same flow. -/
  flow : after.flow = before.flow
  /-- It is of the same version. -/
  version : after.version = before.version
  /-- It talks to the same subject. -/
  subject : after.subject = before.subject
  /-- It began at the same time. -/
  createdAt : after.createdAt = before.createdAt
  /-- Its log tells what it told. -/
  log : before.log <+: after.log

/-- An execution goes on in steps. -/
theorem Continues.trans {first second third : Execution String} (before : Continues first second)
    (after : Continues second third) : Continues first third :=
  ⟨after.id.trans before.id, after.flow.trans before.flow, after.version.trans before.version,
    after.subject.trans before.subject, after.createdAt.trans before.createdAt,
    before.log.trans after.log⟩

variable (execution : Execution String)

/-- An execution goes on when its log tells more. -/
theorem told_continues (node : Option String) (event : Event) (now : Time.Moment)
    (payload : Entries) : Continues execution (execution.told node event now payload) :=
  ⟨rfl, rfl, rfl, rfl, rfl, List.prefix_append _ _⟩

/-- An execution goes on when it ends. -/
theorem ended_continues (status : Status) (now : Time.Moment) :
    Continues execution (execution.ended status now) :=
  ⟨rfl, rfl, rfl, rfl, rfl, List.prefix_rfl⟩

/-- An execution goes on when it fails. -/
theorem failedFor_continues (reason : String) (now : Time.Moment) :
    Continues execution (execution.failedFor reason now) :=
  ⟨rfl, rfl, rfl, rfl, rfl, List.prefix_rfl⟩

/-- An execution goes on when it moves. -/
theorem movedTo_continues (node : String) (now : Time.Moment) :
    Continues execution (execution.movedTo node now) :=
  ⟨rfl, rfl, rfl, rfl, rfl, List.prefix_rfl⟩

/-- An execution goes on when it advances. -/
theorem advanced_continues (next : Option String) (now : Time.Moment) :
    Continues execution (execution.advanced next now) := by
  cases next with
  | some target => exact movedTo_continues execution target now
  | none => exact ended_continues execution .completed now

/-- An execution goes on when it is parked. -/
theorem parked_continues (node : String) (now : Time.Moment) :
    Continues execution (execution.parked node now) :=
  ⟨rfl, rfl, rfl, rfl, rfl, List.prefix_append _ _⟩

/-- An execution goes on when a visit ends. -/
theorem closed_continues (graph : Flow.Graph) (node : Flow.Node String) (now : Time.Moment)
    (result : Except Failure (Action × Entries)) :
    Continues execution (execution.closed graph node now result) := by
  cases result with
  | error failure =>
    simp only [closed]
    have told := execution.told_continues (some node.id) .nodeError now
      (Tick.failurePayload failure)
    cases node.onError with
    | some fallback => exact told.trans (movedTo_continues _ fallback now)
    | none => exact told.trans (failedFor_continues _ _ now)
  | ok ending =>
    obtain ⟨action, payload⟩ := ending
    have told := execution.told_continues (some node.id) .nodeEnd now
      (payload ++ [(.text "elapsed_ms", .float .zero)])
    cases action with
    | suspend => exact told.trans (parked_continues _ node.id now)
    | finish => exact told.trans (ended_continues _ .completed now)
    | jump target => exact told.trans (movedTo_continues _ target now)
    | follow label => exact told.trans (advanced_continues _ _ now)

/-- An execution goes on when it is ended for visiting too many nodes. -/
theorem exhausted_continues (budget : Number) (now : Time.Moment) :
    Continues execution (execution.exhausted budget now) :=
  (told_continues execution _ _ _ _).trans (failedFor_continues _ _ now)

/-- An execution goes on when its wait is taken up. -/
theorem resumed_continues (graph : Flow.Graph) (label reason : String) (reply : Value)
    (now : Time.Moment) :
    Continues execution (execution.resumed graph label reason reply now) := by
  refine Continues.trans ?_ (advanced_continues _ _ now)
  exact ⟨rfl, rfl, rfl, rfl, rfl, List.prefix_append _ _⟩

/-- The log of an execution whose wait was taken up tells that at its end. -/
theorem resumed_log (graph : Flow.Graph) (label reason : String) (reply : Value)
    (now : Time.Moment) : (execution.resumed graph label reason reply now).log = execution.log ++
      [⟨execution.node, .resumed, some now.text, some (.dict (taking label reason reply))⟩] := by
  simp only [resumed]
  cases execution.node.bind (graph.onward · label) <;> rfl

/-- Taking up a wait leaves the variables. -/
theorem resumed_vars (graph : Flow.Graph) (label reason : String) (reply : Value)
    (now : Time.Moment) :
    (execution.resumed graph label reason reply now).vars = execution.vars := by
  simp only [resumed]
  cases execution.node.bind (graph.onward · label) <;> rfl

/-- An execution goes on when working on it failed. -/
theorem crashed_continues (failure : Failure) (now : Time.Moment) :
    Continues execution (execution.crashed failure now) := by
  unfold crashed blamed
  cases execution.node with
  | some node => exact (told_continues execution _ _ _ _).trans (failedFor_continues _ _ now)
  | none => exact failedFor_continues _ _ now

end Execution

/-- A handler changes at most variables, deadline and keywords. -/
theorem Handler.Handled.changes {engine : Engine} {node : Flow.Node String} {now : Time.Moment}
    {execution left : Execution String} {result : Except Failure (Action × Entries)}
    (handled : Handled engine node now execution result left) :
    ∃ vars deadline keywords, left = { execution with vars, deadline, keywords } := by
  cases handled <;> exact ⟨_, _, _, rfl⟩

/-- An execution goes on when a visit is made. -/
theorem Handler.Handled.continues {engine : Engine} {node : Flow.Node String} {now : Time.Moment}
    {execution left : Execution String} {result : Except Failure (Action × Entries)}
    (handled : Handled engine node now (execution.opened node now) result left)
    (graph : Flow.Graph) : execution.Continues (left.closed graph node now result) := by
  refine Execution.Continues.trans ?_ (Execution.closed_continues left graph node now result)
  obtain ⟨vars, deadline, keywords, rfl⟩ := handled.changes
  exact ⟨rfl, rfl, rfl, rfl, rfl, List.prefix_append _ _⟩

namespace Run

variable (engine : Engine)

/-- A running execution that comes to its end is handed over as complete. -/
theorem complete_hands {execution : Execution String} (running : execution.status = .running)
    (world : World) :
    Hands engine (execution.ended .completed world.clock) () world
      (complete engine ⟨execution, world⟩) := by
  apply ended_hands engine rfl
  rw [running]
  decide

/-- A running execution that fails is handed over with the reason. -/
theorem fail_hands {execution : Execution String} (running : execution.status = .running)
    (reason : String) (world : World) :
    Hands engine (execution.failedFor reason world.clock) () world
      (fail engine reason ⟨execution, world⟩) := by
  have hands : Hands engine ({ execution with error := some reason }.ended .failed world.clock) ()
      world ((do setStatus engine .failed; persist engine : Run Unit)
        ⟨{ execution with error := some reason }, world⟩) := by
    apply ended_hands engine rfl
    change Status.failed ∈ execution.status.next
    rw [running]
    decide
  exact hands

end Run

namespace Tick

variable (engine : Engine)

/-- A running execution is parked and handed over. -/
theorem suspend_hands {execution : Execution String} (running : execution.status = .running)
    (node : String) (world : World) :
    Hands engine (execution.parked node world.clock) () world
      (suspend engine node ⟨execution, world⟩) := by
  let waiting := { execution with status := .waiting, updatedAt := world.clock }
  have moved : execution.transition .waiting world.clock = .ok waiting := by
    have allowed : Status.waiting ∈ execution.status.next := by
      rw [running]
      decide
    simp only [Execution.transition, if_pos allowed]
    rfl
  obtain ⟨stirred, stir, set⟩ := Run.setStatus_apply engine moved
  have rest : suspend engine node ⟨execution, world⟩ =
      Run.persist engine ⟨waiting.told (some node) .suspended stirred.clock
        (Execution.parking execution.deadline execution.keywords), stirred⟩ := by
    simp only [suspend, bind_apply, set]
    rfl
  have hands := Run.persist_hands engine (waiting.told (some node) .suspended stirred.clock
    (Execution.parking execution.deadline execution.keywords)) stirred
  rw [rest]
  rw [stir.clock] at hands ⊢
  exact hands.before stir

/-- After an action that leads on, the execution is handed over at the next node, or as complete
where there is none. -/
theorem advance_hands {execution : Execution String} (running : execution.status = .running)
    (next : Option String) (world : World) :
    Hands engine (execution.advanced next world.clock)
      (execution.advanced next world.clock).runs world
      ((match next with
        | some target => do
          Run.moveTo engine target
          return true
        | none => do
          Run.complete engine
          return false : Run Bool) ⟨execution, world⟩) := by
  cases next with
  | some target =>
    have going : (execution.movedTo target world.clock).runs = true := by
      simp [Execution.runs, Execution.movedTo, running]
    simp only [Execution.advanced, going]
    exact (Run.moveTo_hands engine target execution world).thenReturn
  | none => exact (Run.complete_hands engine running world).thenReturn

/-- What follows a visit that ended well hands the execution over as its action says. -/
theorem afterAction_hands (graph : Flow.Graph) (node : Flow.Node String)
    {execution : Execution String} (running : execution.status = .running) (action : Action)
    (world : World) :
    let handed := match action with
      | .suspend => execution.parked node.id world.clock
      | .finish => execution.ended .completed world.clock
      | .jump target => execution.movedTo target world.clock
      | .follow label => execution.advanced (graph.successor node.id label) world.clock
    Hands engine handed handed.runs world
      (afterAction engine graph node.id action ⟨execution, world⟩) := by
  cases action with
  | suspend => exact (suspend_hands engine running node.id world).thenReturn
  | finish => exact (Run.complete_hands engine running world).thenReturn
  | jump target => exact advance_hands engine running (some target) world
  | follow label => exact advance_hands engine running (graph.successor node.id label) world

/-- What follows a visit that failed hands the execution over at the fallback, or as failed. -/
theorem afterFailure_hands (graph : Flow.Graph) (node : Flow.Node String)
    {execution : Execution String} (running : execution.status = .running) (failure : Failure)
    (world : World) :
    let handed := execution.closed graph node world.clock (.error failure)
    Hands engine handed handed.runs world
      (afterFailure engine node failure ⟨execution, world⟩) := by
  let told := execution.told (some node.id) .nodeError world.clock (failurePayload failure)
  have still : told.status = .running := running
  obtain ⟨stirred, stir, heard⟩ :=
    Run.tell_apply engine (.nodeError told.id node.id failure.kind) ⟨told, world⟩
  refine .andThen (Run.log_apply ..) (refl_of _ world) ?_
  refine .afterReading (.andThen heard stir ?_)
  have clock : stirred.clock = world.clock := stir.clock
  simp only [Execution.closed]
  cases node.onError with
  | some fallback =>
    have hands := advance_hands engine still (some fallback) stirred
    rw [clock] at hands
    exact hands
  | none =>
    have hands := Run.fail_hands engine still
      (failure.kind ++ " at node '" ++ node.id ++ "': " ++ failure.message) stirred
    rw [clock] at hands
    exact hands.thenReturn

/-- What follows the handler of a node, by the way in which it ended. -/
def conclude (graph : Flow.Graph) (node : Flow.Node String) :
    Except Failure (Action × Entries) → Run Bool
  | .error failure => afterFailure engine node failure
  | .ok (action, payload) => do
    Run.log (some node.id) .nodeEnd (payload ++ [(.text "elapsed_ms", .float .zero)])
    Run.tell engine (.nodeEnd (← Run.execution).id node.id action)
    afterAction engine graph node.id action

/-- A visit is concluded from where its handler came to its end, which began when observers had
heard of the visit. -/
theorem visit_apply (graph : Flow.Graph) {node : Flow.Node String} {execution : Execution String}
    {world stirred : World} {result : Except Failure (Action × Entries)} {left : Session}
    (heard : Run.tell engine (.nodeStart execution.id node.id)
      ⟨execution.opened node world.clock, world⟩ =
        .ok () ⟨execution.opened node world.clock, stirred⟩)
    (performed : Run.attempt (Handler.perform engine node)
      ⟨execution.opened node world.clock, stirred⟩ = .ok result left) :
    visit engine graph node ⟨execution, world⟩ = conclude engine graph node result left := by
  have begins : visit engine graph node ⟨execution, world⟩ = (do
      Run.tell engine (.nodeStart execution.id node.id)
      conclude engine graph node (← Run.attempt (Handler.perform engine node)) : Run Bool)
        ⟨execution.opened node world.clock, world⟩ := by
    unfold visit conclude
    rfl
  rw [begins, bind_of_ok heard, bind_of_ok performed]

/-- What follows the handler of a node hands over what the way in which it ended makes of the
execution, and goes on if that runs. -/
theorem conclude_hands (graph : Flow.Graph) (node : Flow.Node String)
    (result : Except Failure (Action × Entries)) {execution : Execution String}
    (running : execution.status = .running) (world : World) :
    let handed := execution.closed graph node world.clock result
    Hands engine handed handed.runs world
      (conclude engine graph node result ⟨execution, world⟩) := by
  cases result with
  | error failure => exact afterFailure_hands engine graph node running failure world
  | ok ending =>
    obtain ⟨action, payload⟩ := ending
    let told := execution.told (some node.id) .nodeEnd world.clock
      (payload ++ [(.text "elapsed_ms", .float .zero)])
    have goes : told.status = .running := running
    obtain ⟨last, rest, noticed⟩ :=
      Run.tell_apply engine (.nodeEnd told.id node.id action) ⟨told, world⟩
    refine .andThen (Run.log_apply ..) (refl_of _ world) ?_
    refine .afterReading (.andThen noticed rest ?_)
    have hands := afterAction_hands engine graph node goes action last
    have time : last.clock = world.clock := rest.clock
    rw [time] at hands
    exact hands

/-- A visit hands over what the way in which its handler ends makes of the execution, and goes on if
that runs. -/
theorem visit_comes {graph : Flow.Graph} {node : Flow.Node String} {execution : Execution String}
    {world : World} {way : Except Failure (Action × Entries) → Execution String → Prop}
    (comes : ∀ stirred, Astir engine world stirred → Handler.Comes engine
      (Handler.perform engine node) ⟨execution.opened node world.clock, stirred⟩ way)
    (running : ∀ result left, way result left → left.status = .running) :
    ∃ result left, way result left ∧
      let handed := left.closed graph node world.clock result
      Hands engine handed handed.runs world (visit engine graph node ⟨execution, world⟩) := by
  let opened := execution.opened node world.clock
  obtain ⟨stirred, stir, heard⟩ :=
    Run.tell_apply engine (.nodeStart opened.id node.id) ⟨opened, world⟩
  obtain ⟨result, ⟨left, after⟩, performed, more, ended⟩ := comes stirred stir
  have clock : after.clock = world.clock := more.clock.trans stir.clock
  refine ⟨result, left, ended, ?_⟩
  have hands := conclude_hands engine graph node result (running result left ended) after
  rw [clock] at hands
  rw [visit_apply engine graph heard performed]
  exact hands.before (trans_of _ stir more)

/-- A visit hands over what its handler's result makes of the execution, and goes on if it runs. -/
theorem visit_hands (graph : Flow.Graph) (node : Flow.Node String) {execution : Execution String}
    (running : execution.status = .running) (world : World) :
    ∃ result left, Handler.Handled engine node world.clock
        (execution.opened node world.clock) result left ∧
      let handed := left.closed graph node world.clock result
      Hands engine handed handed.runs world (visit engine graph node ⟨execution, world⟩) := by
  apply visit_comes engine
  · intro stirred stir
    have comes := Handler.perform_comes engine node ⟨execution.opened node world.clock, stirred⟩
    simp only [stir.clock] at comes
    exact comes
  · intro result left handled
    obtain ⟨vars, deadline, keywords, rfl⟩ := handled.changes
    exact running

end Tick

end Parley
