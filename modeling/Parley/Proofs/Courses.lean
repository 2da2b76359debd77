import Parley.Proofs.Deliveries
import Parley.Proofs.Progress

/-!
# Courses of ticks

The course of a tick is its visits, one after another. A visit looks neither at the budget nor at a
request to stop; these are looked at between visits, and decide only how far along its course a tick
comes. The course of an execution is the same under every budget, and every visit tells a chapter of
its log: that it began, and how it ended.
-/

namespace Parley

open Parley.Computation World

/-- The engine with another budget. -/
def Engine.allowing (engine : Engine) (budget : Nat) : Engine :=
  { engine with settings := { engine.settings with budget := .int budget } }

/-- A quiet engine that does not keep executions. -/
def Engine.keepless : Engine := { Engine.quiet with keeping := .nowhere }

/-- Whether the execution that is being stepped was asked to stop. -/
def World.interrupted (world : World) : Bool := world.stepping.any Stepping.interrupted

section Allowing

variable (engine : Engine) (budget : Nat)

namespace Run

/-- Cancelling others does not depend on the budget. -/
theorem cancelAll_allowing : cancelAll (engine.allowing budget) = cancelAll engine := by
  funext ids
  induction ids with
  | nil => rfl
  | cons id rest ih =>
    rw [cancelAll, ih]
    rfl

/-- A reaction does not depend on the budget. -/
theorem react_allowing : react (engine.allowing budget) = react engine := by
  funext reaction
  rw [react, cancelAll_allowing]
  rfl

/-- Telling observers does not depend on the budget. -/
theorem tell_allowing : tell (engine.allowing budget) = tell engine := by
  funext notice
  rw [tell, react_allowing]
  rfl

/-- Moving between statuses does not depend on the budget. -/
theorem setStatus_allowing : setStatus (engine.allowing budget) = setStatus engine := by
  funext status
  unfold setStatus
  rw [tell_allowing]

end Run

/-- What a handler does does not depend on the budget. -/
theorem Handler.perform_allowing : perform (engine.allowing budget) = perform engine := by
  have sends : send (engine.allowing budget) = send engine := by
    funext text
    unfold send
    rw [Run.react_allowing]
    rfl
  funext node
  unfold perform message
  rw [sends]
  rfl

/-- A visit does not depend on the budget. -/
theorem Tick.visit_allowing : visit (engine.allowing budget) = visit engine := by
  have moves : Run.moveTo (engine.allowing budget) = Run.moveTo engine := rfl
  have fails : Run.fail (engine.allowing budget) = Run.fail engine := by
    funext reason
    rw [Run.fail, Run.setStatus_allowing]
    rfl
  have completes : Run.complete (engine.allowing budget) = Run.complete engine := by
    rw [Run.complete, Run.setStatus_allowing]
    rfl
  have suspends : suspend (engine.allowing budget) = suspend engine := by
    funext node
    rw [suspend, Run.setStatus_allowing]
    rfl
  funext graph node
  simp only [visit, afterFailure, afterAction, Run.tell_allowing, Handler.perform_allowing, moves,
    fails, completes, suspends]

end Allowing

namespace Tick

/-- The entries that a visit of a node adds to the log: that it began, and then how it ended. -/
inductive Chapter (node : Flow.Node String) (now : Time.Moment) : List (Entry String) → Prop where
  /-- It ended well. -/
  | ended (payload : Entries) : Chapter node now [
      ⟨some node.id, .nodeStart, some now.text, some (.dict [(.text "type", .text node.type)])⟩,
      ⟨some node.id, .nodeEnd, some now.text, some (.dict payload)⟩]
  /-- It ended well, and the execution was parked. -/
  | parked (payload parking : Entries) : Chapter node now [
      ⟨some node.id, .nodeStart, some now.text, some (.dict [(.text "type", .text node.type)])⟩,
      ⟨some node.id, .nodeEnd, some now.text, some (.dict payload)⟩,
      ⟨some node.id, .suspended, some now.text, some (.dict parking)⟩]
  /-- It failed. -/
  | failed (failure : Failure) : Chapter node now [
      ⟨some node.id, .nodeStart, some now.text, some (.dict [(.text "type", .text node.type)])⟩,
      ⟨some node.id, .nodeError, some now.text, some (.dict (failurePayload failure))⟩]

/-- What the log tells of an execution that visited as many nodes as it may. -/
def exhaustion (budget : Number) (node : Option String) : Entries :=
  failurePayload (.budgetExceeded budget node) ++ [(.text "budget", .ofNumber budget)]

/-- No other failure is told like a budget that was used up. -/
theorem failurePayload_ne_exhaustion (failure : Failure) (budget : Number)
    (node : Option String) : failurePayload failure ≠ exhaustion budget node := by
  intro same
  have tails := (List.append_inj same rfl).2
  cases failure <;> simp [Failure.attempts?] at tails

namespace Chapter

variable {node : Flow.Node String} {now : Time.Moment} {entries : List (Entry String)}

/-- A visit begins once. -/
theorem starts (chapter : Chapter node now entries) :
    entries.countP (fun entry => entry.event == .nodeStart) = 1 := by
  cases chapter <;> rfl

/-- The first entry tells that the visit begins, and the others do not. -/
theorem outcome (chapter : Chapter node now entries) :
    ∃ opening outcome, entries = opening :: outcome ∧ opening.node = some node.id ∧
      opening.event = .nodeStart ∧ outcome ≠ [] ∧
      ∀ entry ∈ outcome, entry.node = some node.id ∧ entry.event ≠ .nodeStart := by
  cases chapter <;> exact ⟨_, _, rfl, rfl, rfl, by simp, by simp⟩

/-- No entry tells of a budget that was used up. -/
theorem affords (chapter : Chapter node now entries) (budget : Number) (place : Option String) :
    ∀ entry ∈ entries, entry.event = .nodeError →
      entry.payload ≠ some (.dict (exhaustion budget place)) := by
  cases chapter with
  | ended payload => simp
  | parked payload parking => simp
  | failed failure => simpa using failurePayload_ne_exhaustion failure budget place

end Chapter

/-- What a visit makes of an execution has a chapter more in its log. -/
theorem closed_chapter {engine : Engine} (graph : Flow.Graph) {node : Flow.Node String}
    {now : Time.Moment} {execution left : Execution String}
    {result : Except Failure (Action × Entries)}
    (handled : Handler.Handled engine node now (execution.opened node now) result left) :
    ∃ entries, Chapter node now entries ∧
      (left.closed graph node now result).log = execution.log ++ entries := by
  obtain ⟨vars, deadline, keywords, rfl⟩ := handled.changes
  cases result with
  | error failure =>
    refine ⟨_, .failed failure, ?_⟩
    cases fallback : node.onError <;>
      simp [Execution.closed, fallback, Execution.told, Execution.opened, Execution.append,
        Execution.movedTo, Execution.failedFor, Execution.ended]
  | ok ending =>
    obtain ⟨action, payload⟩ := ending
    let told : Entries := payload ++ [(.text "elapsed_ms", .float .zero)]
    cases action with
    | suspend =>
      refine ⟨_, .parked told (Execution.parking deadline keywords), ?_⟩
      simp [Execution.closed, Execution.told, Execution.opened, Execution.append,
        Execution.parked, told]
    | finish => exact ⟨_, .ended told, List.append_assoc ..⟩
    | jump target => exact ⟨_, .ended told, List.append_assoc ..⟩
    | follow label =>
      refine ⟨_, .ended told, ?_⟩
      cases next : graph.successor node.id label <;>
        simp [Execution.closed, next, Execution.told, Execution.opened, Execution.append,
          Execution.advanced, Execution.movedTo, Execution.ended, told]

/-- An execution that runs on after a visit stands at a further node. -/
theorem closed_onward {graph : Flow.Graph} {node : Flow.Node String} {now : Time.Moment}
    {left : Execution String} {result : Except Failure (Action × Entries)}
    (runs : (left.closed graph node now result).runs) :
    ∃ next, (left.closed graph node now result).node = some next := by
  cases result with
  | error failure =>
    cases fallback : node.onError with
    | some target => exact ⟨target, by simp [Execution.closed, fallback, Execution.movedTo]⟩
    | none => simp [Execution.closed, fallback, Execution.runs, Execution.failedFor,
        Execution.ended] at runs
  | ok ending =>
    obtain ⟨action, payload⟩ := ending
    cases action with
    | suspend => simp [Execution.closed, Execution.runs, Execution.parked, Execution.told,
        Execution.append] at runs
    | finish => simp [Execution.closed, Execution.runs, Execution.ended] at runs
    | jump target => exact ⟨target, rfl⟩
    | follow label =>
      cases leads : graph.successor node.id label with
      | some target => exact ⟨target, by simp [Execution.closed, leads, Execution.advanced,
          Execution.movedTo]⟩
      | none => simp [Execution.closed, leads, Execution.runs, Execution.advanced,
          Execution.ended] at runs

variable (engine : Engine) (graph : Flow.Graph)

/-- The body of the loop of a tick where nothing cuts it off. Tells whether the tick goes on. -/
def proceed : Run Bool := do
  let id := (← Run.execution).node
  match id.bind graph.node? with
  | none => throw (.missingNode graph.id id)
  | some node => visit engine graph node

/-- Where there is a node, it is visited. -/
theorem proceed_of_found {node : Flow.Node String} {session : Session}
    (found : session.execution.node.bind graph.node? = some node) :
    proceed engine graph session = visit engine graph node session := by
  have read : Run.execution session = .ok session.execution session := rfl
  rw [proceed, bind_of_ok read]
  simp only [found]

/-- Where there is no node, the tick fails. -/
theorem proceed_of_lost {session : Session}
    (lost : session.execution.node.bind graph.node? = none) :
    proceed engine graph session =
      .error (.missingNode graph.id session.execution.node) session := by
  have read : Run.execution session = .ok session.execution session := rfl
  rw [proceed, bind_of_ok read]
  simp only [lost]
  rfl

/-- The budget is not looked at in a visit. -/
theorem proceed_allowing (budget : Nat) :
    proceed (engine.allowing budget) graph = proceed engine graph := by
  unfold proceed
  rw [visit_allowing]

section Round

variable (watched : Bool) {steps : Nat} {session : Session}

/-- A round in which a request to stop is seen cancels the execution. -/
theorem round_of_interrupted (asked : (watched && session.world.interrupted) = true) :
    round engine graph watched steps session =
      (do
        Run.setStatus engine .cancelled
        Run.persist engine
        return false : Run Bool) session := by
  have seen : isInterrupted watched session = .ok true session := by
    rw [← asked]
    rfl
  rw [round, bind_of_ok seen, if_pos rfl]

/-- A round in which no request to stop is seen, and which the budget does not allow, ends the
execution for that. -/
theorem round_of_exhausted (unasked : (watched && session.world.interrupted) = false)
    (spent : engine.settings.budget.le (.int steps)) :
    round engine graph watched steps session =
      (do
        exhaust engine session.execution.node
        return false : Run Bool) session := by
  have seen : isInterrupted watched session = .ok false session := by
    rw [← unasked]
    rfl
  have read : Run.execution session = .ok session.execution session := rfl
  rw [round, bind_of_ok seen, if_neg Bool.false_ne_true, bind_of_ok read, if_pos spent]

/-- Any other round makes a visit. -/
theorem round_of_affordable (unasked : (watched && session.world.interrupted) = false)
    (affordable : ¬ engine.settings.budget.le (.int steps)) :
    round engine graph watched steps session = proceed engine graph session := by
  have seen : isInterrupted watched session = .ok false session := by
    rw [← unasked]
    rfl
  have read : Run.execution session = .ok session.execution session := rfl
  rw [round, bind_of_ok seen, if_neg Bool.false_ne_true, bind_of_ok read, if_neg affordable]
  cases found : session.execution.node.bind graph.node? with
  | none => exact (proceed_of_lost engine graph found).symm
  | some node => exact (proceed_of_found engine graph found).symm

end Round

variable {engine graph}

/-- What a visit makes of the execution in hand: its log has a chapter more, and if it runs on, it
stands at a further node. -/
structure Visited (graph : Flow.Graph) (session : Session) (handed : Execution String) : Prop where
  /-- A node was visited, as the log tells. -/
  told : ∃ node entries, session.execution.node.bind graph.node? = some node ∧
    Chapter node session.world.clock entries ∧ handed.log = session.execution.log ++ entries
  /-- An execution that runs on stands at a node. -/
  onward : handed.runs → ∃ next, handed.node = some next

/-- How the body of the loop of a tick ends where nothing cuts it off. -/
inductive Proceeds (graph : Flow.Graph) (session : Session) :
    EStateM.Result Failure Session Bool → Prop where
  /-- There is no node to visit. -/
  | lost (missing : session.execution.node.bind graph.node? = none) :
    Proceeds graph session (.error (.missingNode graph.id session.execution.node) session)
  /-- A node is visited, and the execution is kept. -/
  | visited {handed : Execution String} {left : World} (visited : Visited graph session handed) :
    Proceeds graph session (.ok handed.runs ⟨handed, left⟩)
  /-- A node is visited, and the execution is refused. -/
  | refused {handed : Execution String} {left : World} {failure : Failure}
    (visited : Visited graph session handed) :
    Proceeds graph session (.error failure ⟨handed, left⟩)

/-- Where a running execution stands at a node, it is visited. -/
theorem proceed_proceeds (engine : Engine) (graph : Flow.Graph) {session : Session}
    (running : session.execution.status = .running) :
    Proceeds graph session (proceed engine graph session) := by
  cases found : session.execution.node.bind graph.node? with
  | none =>
    rw [proceed_of_lost engine graph found]
    exact .lost found
  | some node =>
    rw [proceed_of_found engine graph found]
    obtain ⟨result, left, handled, hands⟩ := visit_hands engine graph node running session.world
    obtain ⟨entries, chapter, log⟩ := closed_chapter graph handled
    have visited : Visited graph session (left.closed graph node session.world.clock result) :=
      ⟨⟨node, entries, found, chapter, log⟩, closed_onward⟩
    generalize visit engine graph node ⟨session.execution, session.world⟩ = ended at hands
    cases hands with
    | taken => exact .visited visited
    | refused => exact .refused visited

/-- A tick of an execution that does not run leaves it as it is. -/
theorem tick_of_resting (engine : Engine) (graph : Flow.Graph) (watched : Bool)
    {session : Session} (rests : session.execution.status ≠ .running) :
    tick engine graph watched session = .ok session.execution.status session := by
  have read : Run.execution session = .ok session.execution session := rfl
  rw [tick, bind_of_ok read]
  simp only [if_neg rests]
  rfl

/-- Where the loop of a tick does not go on, the tick leaves what the round leaves. -/
theorem after_tick_of_stops {α : Type} {first : Run α} {session : Session} :
    after (do let _ ← first; return (← Run.execution).status : Run Status) session =
      after first session := by
  unfold after
  rw [bind_apply]
  cases first session <;> rfl

namespace Stands

variable {watched : Bool} {start middle : Session} {steps : Nat}

/-- A tick goes on from where its loop stands. -/
theorem tick_eq (stands : Stands engine graph watched start steps middle)
    (running : start.execution.status = .running)
    (within : steps < fuelOf engine.settings.budget) :
    tick engine graph watched start =
      (do
        visits engine graph watched (fuelOf engine.settings.budget - steps) steps
        return (← Run.execution).status : Run Status) middle := by
  rw [tick_of_running engine graph watched running, bind_apply, bind_apply,
    stands.visits_eq within.le]

/-- A tick is over where its loop does not go on. -/
theorem tick_stops (stands : Stands engine graph watched start steps middle)
    (running : start.execution.status = .running)
    (within : steps < fuelOf engine.settings.budget)
    (stops : ∀ next, Tick.round engine graph watched steps middle ≠ .ok true next) :
    tick engine graph watched start =
      (do
        let _ ← Tick.round engine graph watched steps
        return (← Run.execution).status : Run Status) middle := by
  have fuel : fuelOf engine.settings.budget - steps =
      fuelOf engine.settings.budget - (steps + 1) + 1 := by omega
  rw [stands.tick_eq running within, fuel, visits_succ, bind_assoc, bind_apply, bind_apply]
  cases ended : Tick.round engine graph watched steps middle with
  | error failure left => rfl
  | ok goesOn next =>
    cases goesOn with
    | true => exact absurd ended (stops next)
    | false => rfl

end Stands

end Tick

end Parley
