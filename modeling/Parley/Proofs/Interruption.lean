import Parley.Proofs.Budgets

/-!
# Requests to stop

A request to stop is looked for before each visit, and before the budget. Where it is found the
execution is cancelled as it stands. A visit goes on as if it had not been made: what a visit does
is the same with the request and without, so a visit that has begun is finished and told, whenever
meanwhile the request was made.
-/

namespace Parley

open Parley.Computation World

/-- The execution in hand is asked to stop. -/
def Session.interrupt (session : Session) : Session :=
  { session with world := session.world.interrupt }

namespace World

/-- It does not matter whether an execution is asked to stop before or after another request. -/
theorem raiseSignal_interrupt (world : World) (id : String) :
    world.interrupt.raiseSignal id = (world.raiseSignal id).interrupt := by
  unfold interrupt raiseSignal
  cases world.stepping with
  | none => rfl
  | some stepped => by_cases same : stepped.id = id <;> simp [same]

end World

namespace Desk

variable (engine : Engine)

/-- Saving does not depend on a request to stop. -/
theorem save_interrupt (execution : Execution String) :
    Parallel (fun left right => right = left.interrupt) (save engine execution) := by
  rintro world _ rfl
  have same : saved engine execution world.interrupt = saved engine execution world := rfl
  rw [save_apply, save_apply, same]
  cases saved engine execution world with
  | ok store => exact .ok rfl
  | error failure => exact .error rfl

/-- Cancelling an execution does not depend on a request to stop. -/
theorem cancel_interrupt (id : String) :
    Parallel (fun left right => right = left.interrupt) (cancel engine id) := by
  rintro world _ rfl
  have held : ({ world.interrupt.raiseSignal id with
      executions := (world.interrupt.raiseSignal id).executions.enter id } : World) =
      World.interrupt { world.raiseSignal id with
        executions := (world.raiseSignal id).executions.enter id } := by
    rw [raiseSignal_interrupt]
    rfl
  rw [cancel_apply, cancel_apply, held]
  have same : world.interrupt.store.get id = world.store.get id := rfl
  rw [same]
  cases world.store.get id with
  | error failure => exact .error rfl
  | ok record =>
    by_cases final : record.status.isFinal
    · simp only [if_pos final]
      exact .ok rfl
    simp only [if_neg final]
    have ended := save_interrupt engine (record.ended .cancelled world.clock)
      { world.raiseSignal id with executions := (world.raiseSignal id).executions.enter id } _ rfl
    have clock : world.interrupt.clock = world.clock := rfl
    rw [clock]
    revert ended
    generalize save engine (record.ended .cancelled world.clock)
      { world.raiseSignal id with
        executions := (world.raiseSignal id).executions.enter id } = one
    generalize save engine (record.ended .cancelled world.clock) (World.interrupt
      { world.raiseSignal id with
        executions := (world.raiseSignal id).executions.enter id }) = other
    intro ended
    cases ended with
    | ok related =>
      subst related
      exact .ok rfl
    | error related =>
      subst related
      exact .error rfl

end Desk

/-- A world and the same with a request to stop are alike for visits. -/
theorem interrupt_semblance (engine : Engine) :
    Semblance engine (fun _ => True) (fun left right => right = left.interrupt) where
  clock related := related ▸ rfl
  closed related := related ▸ rfl
  noted _ related := related ▸ rfl
  reacts _ _ related := related ▸ rfl
  sent _ _ _ related := related ▸ rfl
  replies _ related := related ▸ rfl
  generated related := related ▸ rfl
  finds _ related := related ▸ rfl
  retrieved related := related ▸ rfl
  numbers _ related := related ▸ rfl
  called _ related := related ▸ rfl
  saved _ _ := Desk.save_interrupt engine _
  cancelled _ _ _ := Desk.cancel_interrupt engine _
  stopped _ _ _ related := related ▸ rfl

/-- What ended well handed over what it was to, and returned what it was to. -/
theorem Hands.of_ok {α : Type} {engine : Engine} {handed : Execution String} {value answer : α}
    {world : World} {left : Session} (hands : Hands engine handed value world (.ok answer left)) :
    answer = value ∧ left.execution = handed := by
  cases hands with
  | taken => exact ⟨rfl, rfl⟩

namespace Tick

/-- The result of a computation, with a request to stop made meanwhile. -/
def interruptResult {α : Type} :
    EStateM.Result Failure Session α → EStateM.Result Failure Session α
  | .ok value left => .ok value left.interrupt
  | .error failure left => .error failure left.interrupt

variable (engine : Engine) (graph : Flow.Graph)

/-- A visit does the same when a request to stop is made before it as when it is made after it. -/
theorem visit_interrupt (node : Flow.Node String) (session : Session) :
    visit engine graph node session.interrupt =
      interruptResult (visit engine graph node session) := by
  have alike := visit_parallel (interrupt_semblance engine) graph node session session.interrupt
    ⟨rfl, trivial, rfl⟩
  revert alike
  generalize visit engine graph node session = one, visit engine graph node session.interrupt =
    other
  intro alike
  cases alike with
  | @ok value left right related =>
    rw [interruptResult, Session.interrupt, ← related.world, ← related.execution]
  | @error failure left right related =>
    rw [interruptResult, Session.interrupt, ← related.world, ← related.execution]

/-- Where a request to stop is found, the loop of a tick ends with the execution cancelled as it
stands, whatever is left of the budget. -/
theorem visits_of_interrupted (fuel steps : Nat) {session : Session}
    (running : session.execution.status = .running) (asked : session.world.interrupted = true) :
    Hands engine (session.execution.ended .cancelled session.world.clock) () session.world
      (visits engine graph true (fuel + 1) steps session) := by
  have allowed : Status.cancelled ∈ session.execution.status.next := by
    rw [running]
    decide
  have seen : round engine graph true steps session = _ :=
    round_of_interrupted engine graph true asked
  rw [visits_succ, bind_apply, seen, ← bind_apply]
  simp only [bind_assoc, pure_bind, Bool.false_eq_true, if_false, bind_pure_unit]
  exact Run.ended_hands engine rfl allowed session.world

namespace Stands

variable {engine : Engine} {graph : Flow.Graph} {watched : Bool} {start middle : Session}
  {steps : Nat}

/-- A loop stands where it has fuel. -/
theorem within (stands : Stands engine graph watched start steps middle)
    (running : start.execution.status = .running)
    (bounded : engine.settings.budget.ceiling?.isSome) :
    steps < fuelOf engine.settings.budget := by
  obtain ⟨ceiling, found⟩ := Option.isSome_iff_exists.mp bounded
  obtain ⟨-, -, spent⟩ := stands.rounds running
  by_contra beyond
  have fuel : fuelOf engine.settings.budget = ceiling + 1 := by simp [fuelOf, found]
  exact spent ceiling (by omega) (Number.le_ceiling found)

/-- A tick whose loop finds a request to stop ends with the execution cancelled as it stands. -/
theorem tick_interrupted (stands : Stands engine graph true start steps middle)
    (running : start.execution.status = .running)
    (bounded : engine.settings.budget.ceiling?.isSome)
    (asked : middle.world.interrupted = true) :
    Hands engine (middle.execution.ended .cancelled middle.world.clock) .cancelled middle.world
      (tick engine graph true start) := by
  have within := stands.within running bounded
  obtain ⟨fuel, more⟩ : ∃ fuel, fuelOf engine.settings.budget - steps = fuel + 1 :=
    ⟨fuelOf engine.settings.budget - steps - 1, by omega⟩
  have hands := visits_of_interrupted engine graph fuel steps (stands.rounds running).2.1 asked
  rw [stands.tick_eq running within, more, bind_apply]
  generalize visits engine graph true (fuel + 1) steps middle = result at hands
  cases hands with
  | taken stir kept => exact .taken stir kept
  | refused stir kept raised => exact .refused stir kept raised

/-- The last session at which the loop of a tick stands. -/
theorem last (engine : Engine) (graph : Flow.Graph) (watched : Bool)
    (running : start.execution.status = .running)
    (bounded : engine.settings.budget.ceiling?.isSome) :
    ∃ steps middle, Stands engine graph watched start steps middle ∧
      ∀ next, Tick.round engine graph watched steps middle ≠ .ok true next := by
  by_contra endless
  have goes (steps : Nat) : ∃ middle, Stands engine graph watched start steps middle := by
    induction steps with
    | zero => exact ⟨start, .start⟩
    | succ steps ih =>
      obtain ⟨middle, stands⟩ := ih
      by_contra stops
      exact endless ⟨steps, middle, stands, fun next went => stops ⟨next, .round stands went⟩⟩
  obtain ⟨middle, stands⟩ := goes (fuelOf engine.settings.budget)
  exact absurd (stands.within running bounded) (lt_irrefl _)

/-- Where the loop of a tick stands for the last time, the tick leaves what the round leaves. -/
theorem after_tick (stands : Stands engine graph true start steps middle)
    (running : start.execution.status = .running)
    (bounded : engine.settings.budget.ceiling?.isSome)
    (stops : ∀ next, Tick.round engine graph true steps middle ≠ .ok true next) :
    after (tick engine graph true) start = after (Tick.round engine graph true steps) middle := by
  rw [Computation.after, stands.tick_stops running (stands.within running bounded) stops]
  exact after_tick_of_stops

end Stands

/-- A visit of a node was begun and finished: an entry tells that it began, and those after it how
it ended. -/
def Recounted (node : Flow.Node String) (before after : Execution String) : Prop :=
  ∃ opening outcome, after.log = before.log ++ opening :: outcome ∧
    opening.node = some node.id ∧ opening.event = .nodeStart ∧ outcome ≠ [] ∧
    ∀ entry ∈ outcome, entry.node = some node.id ∧ entry.event ≠ .nodeStart

/-- How a tick ends that was asked to stop while a node was visited: no more entries follow those of
the visit. If the visit led on, the execution is cancelled where it came to. Otherwise it stays as
the visit left it, which parked or ended it, or whose end the store refused. -/
structure Complies (engine : Engine) (graph : Flow.Graph) (start middle : Session)
    (node : Flow.Node String) (visited : Session) : Prop where
  /-- The visit is finished and told. -/
  told : Recounted node middle.execution visited.execution
  /-- The log tells nothing more. -/
  log : (after (tick engine graph true) start).execution.log = visited.execution.log
  /-- A visit that leads on is followed by the end of the execution. -/
  onward : visit engine graph node middle = .ok true visited →
    Hands engine (visited.execution.ended .cancelled visited.world.clock) .cancelled visited.world
      (tick engine graph true start)
  /-- A visit that does not is the last thing done. -/
  rests : visit engine graph node middle = .ok false visited →
    visited.execution.status ≠ .running ∧
      tick engine graph true start = .ok visited.execution.status visited
  /-- If the store refuses the execution after the visit, that is the last thing done. -/
  refused : ∀ failure, visit engine graph node middle = .error failure visited →
    (∃ world, Desk.saved engine visited.execution world = .error failure) ∧
      tick engine graph true start = .error failure visited

variable {engine : Engine} {graph : Flow.Graph} {start middle : Session} {steps : Nat}

/-- A tick that is asked to stop during a visit ends after it. -/
theorem Stands.complies (stands : Stands engine graph true start steps middle)
    (running : start.execution.status = .running)
    (bounded : engine.settings.budget.ceiling?.isSome)
    (unasked : middle.world.interrupted = false)
    (affordable : ¬ engine.settings.budget.le (.int steps)) {node : Flow.Node String}
    (found : middle.execution.node.bind graph.node? = some node)
    (asked : (after (visit engine graph node) middle).world.interrupted = true) :
    Complies engine graph start middle node (after (visit engine graph node) middle) := by
  have runs := (stands.rounds running).2.1
  have within := stands.within running bounded
  have same : Tick.round engine graph true steps middle = visit engine graph node middle := by
    rw [round_of_affordable engine graph true unasked affordable,
      proceed_of_found engine graph found]
  obtain ⟨result, left, handled, hands⟩ := visit_hands engine graph node runs middle.world
  obtain ⟨entries, chapter, log⟩ := closed_chapter graph handled
  obtain ⟨opening, outcome, rfl, shape⟩ := chapter.outcome
  have told : Recounted node middle.execution (left.closed graph node middle.world.clock result) :=
    ⟨opening, outcome, log, shape⟩
  cases visited : visit engine graph node middle with
  | error failure last =>
    have stops : tick engine graph true start = .error failure last := by
      rw [stands.tick_stops running within (by simp [same, visited]), bind_apply, same, visited]
    rw [after_of_error visited]
    rw [visited] at hands
    cases hands with
    | refused stir kept raised =>
      refine ⟨told, by rw [after_of_error stops], by simp [visited], by simp [visited], ?_⟩
      intro cause given
      rw [visited] at given
      cases given
      exact ⟨⟨_, raised⟩, stops⟩
  | ok goesOn last =>
    rw [after_of_ok visited] at asked ⊢
    rw [visited] at hands
    cases goesOn with
    | true =>
      have goes : Stands engine graph true start (steps + 1) last :=
        .round stands (by rw [same, visited])
      have ended := goes.tick_interrupted running bounded asked
      refine ⟨hands.of_ok.2 ▸ told, ?_, fun _ => ended, by simp [visited], by simp [visited]⟩
      rw [Computation.after]
      generalize tick engine graph true start = result at ended
      cases ended with
      | taken => rfl
      | refused => rfl
    | false =>
      have stops : tick engine graph true start = .ok last.execution.status last := by
        rw [stands.tick_stops running within (by simp [same, visited]), bind_apply, same, visited]
        rfl
      obtain ⟨answer, handed⟩ := hands.of_ok
      refine ⟨handed ▸ told, by rw [after_of_ok stops], by simp [visited], fun _ => ⟨?_, stops⟩,
        by simp [visited]⟩
      intro runs
      rw [← handed, Execution.runs_iff.mpr runs] at answer
      cases answer

/-- A request to stop that is found after a tick was found before, was made during a visit, or was
made while the execution was ended for its budget. -/
theorem interrupted_cases (running : start.execution.status = .running)
    (bounded : engine.settings.budget.ceiling?.isSome)
    (asked : (after (tick engine graph true) start).world.interrupted = true) :
    ∃ steps middle, Stands engine graph true start steps middle ∧
      (middle.world.interrupted = true ∨ middle.world.interrupted = false ∧
        ((¬ engine.settings.budget.le (.int steps) ∧ ∃ node,
            middle.execution.node.bind graph.node? = some node ∧
            (after (visit engine graph node) middle).world.interrupted = true) ∨
          (engine.settings.budget.le (.int steps) ∧
            (after (tick engine graph true) start).execution =
              middle.execution.exhausted engine.settings.budget middle.world.clock))) := by
  obtain ⟨steps, middle, stands, stops⟩ := Stands.last engine graph true running bounded
  have runs := (stands.rounds running).2.1
  have left := stands.after_tick running bounded stops
  refine ⟨steps, middle, stands, ?_⟩
  cases unasked : middle.world.interrupted with
  | true => exact .inl rfl
  | false =>
    refine .inr ⟨rfl, ?_⟩
    by_cases spent : engine.settings.budget.le (.int steps)
    · refine .inr ⟨spent, ?_⟩
      have hands := exhaust_hands engine runs middle.world
      rw [left, Computation.after, round_of_exhausted engine graph true unasked spent, bind_apply]
      generalize exhaust engine middle.execution.node ⟨middle.execution, middle.world⟩ = result
        at hands
      cases hands with
      | taken => rfl
      | refused => rfl
    · refine .inl ⟨spent, ?_⟩
      rw [left, Computation.after, round_of_affordable engine graph true unasked spent] at asked
      cases found : middle.execution.node.bind graph.node? with
      | none =>
        rw [proceed_of_lost engine graph found, unasked] at asked
        cases asked
      | some node =>
        rw [proceed_of_found engine graph found] at asked
        exact ⟨node, rfl, asked⟩

/-- A tick stops at the next safe point. One whose execution does not run does nothing. Where the
loop finds a request to stop, the execution is cancelled as it stands, whatever is left of the
budget. A node during whose visit the request is made is finished and told, and then the execution
is cancelled if the visit led on. Only when the execution is being ended for its budget does a
request come too late. What a visit does is the same with the request and without. -/
theorem stops_at_safe_points (engine : Engine) (graph : Flow.Graph)
    (bounded : engine.settings.budget.ceiling?.isSome) (start : Session) :
    (start.execution.status ≠ .running →
      tick engine graph true start = .ok start.execution.status start) ∧
    (start.execution.status = .running →
      (∀ steps middle, Stands engine graph true start steps middle →
        middle.world.interrupted = true →
        Hands engine (middle.execution.ended .cancelled middle.world.clock) .cancelled
          middle.world (tick engine graph true start)) ∧
      (∀ steps middle node, Stands engine graph true start steps middle →
        middle.world.interrupted = false → ¬ engine.settings.budget.le (.int steps) →
        middle.execution.node.bind graph.node? = some node →
        (after (visit engine graph node) middle).world.interrupted = true →
        Complies engine graph start middle node (after (visit engine graph node) middle)) ∧
      ((after (tick engine graph true) start).world.interrupted = true →
        ∃ steps middle, Stands engine graph true start steps middle ∧
          (middle.world.interrupted = true ∨ middle.world.interrupted = false ∧
            ((¬ engine.settings.budget.le (.int steps) ∧ ∃ node,
                middle.execution.node.bind graph.node? = some node ∧
                (after (visit engine graph node) middle).world.interrupted = true) ∨
              (engine.settings.budget.le (.int steps) ∧
                (after (tick engine graph true) start).execution =
                  middle.execution.exhausted engine.settings.budget middle.world.clock))))) ∧
    ∀ node session, visit engine graph node session.interrupt =
      interruptResult (visit engine graph node session) := by
  refine ⟨tick_of_resting engine graph true, fun running => ⟨?_, ?_, ?_⟩,
    visit_interrupt engine graph⟩
  · intro steps middle stands asked
    exact stands.tick_interrupted running bounded asked
  · intro steps middle node stands unasked affordable found asked
    exact stands.complies running bounded unasked affordable found asked
  · exact interrupted_cases running bounded

/-- An engine that does not keep executions, whose observers ask an execution to stop when they are
told of a notice. -/
def hushing (told : Notice) : Engine := { Engine.keepless with
  capabilities := { Capabilities.quiet with
    watch := fun notice => if notice = told then ⟨["ex0001"], none⟩ else .none } }

/-- The flow that says the same over and over at its beginning, while it is stepped. -/
def ramblingStepped : Session := { ramblingStart with
  world := { ramblingStart.world with stepping := some ⟨"ex0001", false⟩ } }

/-- The same after the visit of its start. -/
def ramblingGreeted : Session :=
  after (round (hushing (.nodeEnd "ex0001" "say" (.follow none))) ramblingGraph true 0)
    ramblingStepped

/-- The node at which it then stands. -/
def ramblingNode : Flow.Node String :=
  (ramblingGreeted.execution.node.bind ramblingGraph.node?).getD default

/-- A flow that is asked to stop while it says something says it once. -/
theorem rambling_stops :
    let engine := hushing (.nodeEnd "ex0001" "say" (.follow none))
    engine.settings.budget.ceiling?.isSome ∧ ramblingStepped.execution.status = .running ∧
      Stands engine ramblingGraph true ramblingStepped 1 ramblingGreeted ∧
      ramblingGreeted.world.interrupted = false ∧ ¬ engine.settings.budget.le (.int 1) ∧
      ramblingGreeted.execution.node.bind ramblingGraph.node? = some ramblingNode ∧
      (after (visit engine ramblingGraph ramblingNode) ramblingGreeted).world.interrupted = true ∧
      Complies engine ramblingGraph ramblingStepped ramblingGreeted ramblingNode
        (after (visit engine ramblingGraph ramblingNode) ramblingGreeted) ∧
      (after (tick engine ramblingGraph true) ramblingStepped).execution.status = .cancelled := by
  intro engine
  have stands : Stands engine ramblingGraph true ramblingStepped 1 ramblingGreeted := by
    have goes : (match round engine ramblingGraph true 0 ramblingStepped with
        | .ok goesOn _ => goesOn
        | .error _ _ => false) = true := by decide +kernel
    refine .round .start ?_
    unfold ramblingGreeted Computation.after
    cases ended : round engine ramblingGraph true 0 ramblingStepped with
    | ok goesOn left =>
      rw [ended] at goes
      simp only at goes
      rw [goes]
    | error failure left =>
      rw [ended] at goes
      cases goes
  have found : ramblingGreeted.execution.node.bind ramblingGraph.node? = some ramblingNode := by
    have some? : (ramblingGreeted.execution.node.bind ramblingGraph.node?).isSome = true := by
      decide +kernel
    exact (Option.getD_of_ne_none (Option.isSome_iff_ne_none.mp some?) default).symm
  have unasked : ramblingGreeted.world.interrupted = false := by decide +kernel
  have affordable : ¬ engine.settings.budget.le (.int 1) := by decide +kernel
  have asked : (after (visit engine ramblingGraph ramblingNode)
      ramblingGreeted).world.interrupted = true := by decide +kernel
  have safe := (stops_at_safe_points engine ramblingGraph rfl ramblingStepped).2.1 rfl
  exact ⟨rfl, rfl, stands, unasked, affordable, found, asked,
    safe.2.1 1 ramblingGreeted ramblingNode stands unasked affordable found asked,
    by decide +kernel⟩

/-- The flow that says the same over and over at its beginning, kept in a store and stepped. -/
def ramblingStored : Session := { ramblingStepped with
  world := { ramblingStepped.world with
    store := ((Store.memory .empty).create ramblingStepped.execution).toOption.getD
      (.memory .empty) } }

/-- A request to stop does not cancel the execution if it is made when that fails for its budget,
though every visit ended well and led on; nor if it was made before the tick of an execution that
waits; nor if the store refuses the execution after the visit. -/
theorem rambling_not_cancelled :
    let engine := (hushing (.status "ex0001" .running .failed)).allowing 3
    let left := after (tick engine ramblingGraph true) ramblingStepped
    let parked : Session := ⟨{ ramblingStepped.execution with status := .waiting },
      ramblingStepped.world.interrupt⟩
    let refusing := { hushing (.nodeEnd "ex0001" "hello" (.follow none)) with
      keeping := .stored
      refusal := fun _ _ => some (.raised "OSError" "disk full") }
    let refused := after (tick refusing ramblingGraph true) ramblingStored
    (left.world.interrupted = true ∧ left.execution.status = .failed ∧
      left.execution.log.map Entry.event =
        [.nodeStart, .nodeEnd, .nodeStart, .nodeEnd, .nodeStart, .nodeEnd, .nodeError] ∧
      left.execution.error =
        some "StepBudgetExceeded: Step budget of 3 node visits exceeded at node 'say'") ∧
    (parked.world.interrupted = true ∧
      (after (tick engine ramblingGraph true) parked).execution.status = .waiting) ∧
    (refused.world.interrupted = true ∧ refused.execution.status = .running ∧
      refused.execution.log.map Entry.event = [.nodeStart, .nodeEnd]) := by
  decide +kernel

end Tick

end Parley
