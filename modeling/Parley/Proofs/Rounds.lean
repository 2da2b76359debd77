import Mathlib.Tactic.Positivity
import Parley.Proofs.Visits

/-!
# Rounds of ticks

A tick goes in rounds. In a round a node is visited, or the execution in hand is cancelled or ended
for having visited too many nodes, and after it the execution is handed over to be kept. Rounds
follow each other while the execution runs. Work on an execution hands it over once and then goes on
in rounds, and a failure leaves it in two ways only: there is no node to visit, or what was handed
over is refused.
-/

namespace Parley

open Parley.Computation World

namespace Number

/-- A number is at most another if their order says so. -/
theorem le_eq (a b : Number) : a.le b = (order a b).any Ordering.isLE := by
  simp only [le]
  rcases order a b with _ | _ | _ | _ <;> rfl

/-- A quotient of a finite number has a positive denominator. -/
theorem quotient_pos (significand : Nat) (exponent : Int) :
    0 < (Binary64.quotient significand exponent).2 := by
  cases exponent with
  | ofNat power => exact Nat.one_pos
  | negSucc power => simp [Binary64.quotient, Binary64.scaled]

/-- A number is at most its ceiling. -/
theorem le_ceiling {number : Number} {ceiling : Nat} (bounded : number.ceiling? = some ceiling) :
    number.le (.int ceiling) = true := by
  have whole (value : Int) : (compare value value.toNat).isLE :=
    Int.isLE_compare.mpr (Int.self_le_toNat value)
  rw [le_eq]
  match number, bounded with
  | .int value, rfl => exact whole value
  | .truth value, rfl => exact whole (ofTruth value)
  | .float (.infinite true), rfl => rfl
  | .float (.finite negative significand exponent), found =>
    simp only [order, counted, orderInt, Option.map_some, Option.any_some, Ordering.isLE_swap,
      Binary64.compareQuotients, Int.isGE_compare]
    rcases fraction : Binary64.quotient significand exponent with ⟨num, den⟩
    have positive : 0 < den := by
      have pos := quotient_pos significand exponent
      rwa [fraction] at pos
    simp only [Binary64.signedQuotient, fraction]
    cases negative with
    | true =>
      have nonnegative : 0 ≤ (ceiling : Int) * den := by positivity
      simp only [if_true]
      omega
    | false =>
      simp only [ceiling?, Binary64.ceiling?, fraction, Option.some.injEq] at found
      have above : num ≤ ceiling * den := by
        have rest := Nat.div_add_mod' (num + den - 1) den
        have small := Nat.mod_lt (num + den - 1) positive
        rw [← found]
        omega
      simp only [Bool.false_eq_true, if_false]
      omega

end Number

namespace Tick

/-- What a round makes of a running execution at a time. -/
inductive Round (engine : Engine) (graph : Flow.Graph) (now : Time.Moment)
    (execution : Execution String) : Execution String → Prop where
  /-- The node at which it stands is visited. -/
  | visited {node : Flow.Node String} {result : Except Failure (Action × Entries)}
    {handled : Execution String} (found : execution.node.bind graph.node? = some node)
    (handling : Handler.Handled engine node now (execution.opened node now) result handled) :
    Round engine graph now execution (handled.closed graph node now result)
  /-- It is cancelled. -/
  | interrupted : Round engine graph now execution (execution.ended .cancelled now)
  /-- It has visited as many nodes as it may. -/
  | exhausted :
    Round engine graph now execution (execution.exhausted engine.settings.budget now)

/-- A session goes one round further, after which the execution is kept. -/
structure Goes (engine : Engine) (graph : Flow.Graph) (before after : Session) : Prop where
  /-- The execution runs. -/
  runs : before.execution.status = .running
  /-- The round makes of it what is in hand after it. -/
  round : Round engine graph before.world.clock before.execution after.execution
  /-- The world is stirred during the round, and then the execution is kept. -/
  kept : ∃ stirred, Astir engine before.world stirred ∧
    Kept engine after.execution stirred true after.world

/-- How a round from a session ends, after a number of steps. -/
inductive Rounded (engine : Engine) (graph : Flow.Graph) (steps : Nat) (before : Session) :
    EStateM.Result Failure Session Bool → Prop where
  /-- The execution is kept. It runs on only if the budget was not used up. -/
  | went {left : Session} (goes : Goes engine graph before left)
    (afforded : left.execution.runs → ¬ engine.settings.budget.le (.int steps)) :
    Rounded engine graph steps before (.ok left.execution.runs left)
  /-- There is no node to visit. -/
  | lost (missing : before.execution.node.bind graph.node? = none) :
    Rounded engine graph steps before
      (.error (.missingNode graph.id before.execution.node) before)
  /-- What is handed over is refused. -/
  | refused {stirred left : World} {handed : Execution String} {failure : Failure}
    (round : Round engine graph before.world.clock before.execution handed)
    (stir : Astir engine before.world stirred) (kept : Kept engine handed stirred false left)
    (raised : Desk.saved engine handed stirred = .error failure) :
    Rounded engine graph steps before (.error failure ⟨handed, left⟩)

/-- A session goes any number of rounds further. -/
def Rounds (engine : Engine) (graph : Flow.Graph) : Session → Session → Prop :=
  Relation.ReflTransGen (Goes engine graph)

/-- How rounds from a session end. -/
inductive Tours {α : Type} (engine : Engine) (graph : Flow.Graph) (start : Session) :
    EStateM.Result Failure Session α → Prop where
  /-- The execution is left where it came to, and if the rounds have a bound, it does not run. -/
  | rested {value : α} {left : Session} (rounds : Rounds engine graph start left)
    (rests : engine.settings.budget.ceiling?.isSome → left.execution.status ≠ .running) :
    Tours engine graph start (.ok value left)
  /-- A round fails. -/
  | failed {steps : Nat} {middle left : Session} {failure : Failure}
    (rounds : Rounds engine graph start middle) (runs : middle.execution.status = .running)
    (round : Rounded engine graph steps middle (.error failure left)) :
    Tours engine graph start (.error failure left)

/-- How work ends that hands an execution over, and then goes on in rounds. -/
inductive Works {α : Type} (engine : Engine) (graph : Flow.Graph) (handed : Execution String)
    (world : World) : EStateM.Result Failure Session α → Prop where
  /-- The execution is kept, and rounds follow. -/
  | taken {stirred left : World} {result : EStateM.Result Failure Session α}
    (stir : Astir engine world stirred) (kept : Kept engine handed stirred true left)
    (tours : Tours engine graph ⟨handed, left⟩ result) : Works engine graph handed world result
  /-- The execution is refused. -/
  | refused {stirred left : World} {failure : Failure} (stir : Astir engine world stirred)
    (kept : Kept engine handed stirred false left)
    (raised : Desk.saved engine handed stirred = .error failure) :
    Works engine graph handed world (.error failure ⟨handed, left⟩)

namespace Rounded

variable {engine : Engine} {graph : Flow.Graph} {steps : Nat} {before : Session}

/-- A round ends as its last part does, which hands an execution over. -/
theorem ofHands {handed : Execution String} {goes : Bool}
    {result : EStateM.Result Failure Session Bool}
    (hands : Hands engine handed goes before.world result)
    (runs : before.execution.status = .running)
    (round : Round engine graph before.world.clock before.execution handed)
    (same : goes = handed.runs)
    (afforded : handed.runs → ¬ engine.settings.budget.le (.int steps)) :
    Rounded engine graph steps before result := by
  subst same
  cases hands with
  | @taken stirred left stir kept =>
    have goes : Goes engine graph before ⟨handed, left⟩ := ⟨runs, round, stirred, stir, kept⟩
    exact .went goes afforded
  | refused stir kept raised => exact .refused round stir kept raised

/-- A round that ends well went, and says whether the execution runs on. -/
theorem goes {goesOn : Bool} {left : Session}
    (rounded : Rounded engine graph steps before (.ok goesOn left)) :
    Goes engine graph before left ∧ goesOn = left.execution.runs ∧
      (left.execution.runs → ¬ engine.settings.budget.le (.int steps)) := by
  cases rounded with
  | went goes afforded => exact ⟨goes, rfl, afforded⟩

end Rounded

variable (engine : Engine) (graph : Flow.Graph)

/-- A running execution that visited as many nodes as it may is handed over as failed. -/
theorem exhaust_hands {execution : Execution String} (running : execution.status = .running)
    (world : World) :
    Hands engine (execution.exhausted engine.settings.budget world.clock) () world
      (exhaust engine execution.node ⟨execution, world⟩) := by
  let failure := Failure.budgetExceeded engine.settings.budget execution.node
  let told := execution.told execution.node .nodeError world.clock
    (failurePayload failure ++ [(.text "budget", .ofNumber engine.settings.budget)])
  have still : told.status = .running := running
  refine .andThen (Run.log_apply ..) (refl_of _ world) ?_
  exact Run.fail_hands engine still (failure.kind ++ ": " ++ failure.message) world

/-- The body of the loop of a tick, after a number of steps. Tells whether the tick goes on. -/
def round (watched : Bool) (steps : Nat) : Run Bool := do
  if ← isInterrupted watched then
    Run.setStatus engine .cancelled
    Run.persist engine
    return false
  else
    let id := (← Run.execution).node
    if engine.settings.budget.le (.int steps) then
      exhaust engine id
      return false
    else
      match id.bind graph.node? with
      | none => throw (.missingNode graph.id id)
      | some node => visit engine graph node

/-- Visiting nodes is a round, and then visiting on. -/
theorem visits_succ (watched : Bool) (fuel steps : Nat) :
    visits engine graph watched (fuel + 1) steps = (do
      if ← round engine graph watched steps then
        visits engine graph watched fuel (steps + 1)) := by
  funext session
  have asked : isInterrupted watched session =
      .ok (watched && session.world.stepping.any Stepping.interrupted) session := rfl
  have node : Run.execution session = .ok session.execution session := rfl
  rw [visits, round, bind_of_ok asked, bind_assoc, bind_of_ok asked]
  split
  · simp only [bind_assoc, pure_bind, Bool.false_eq_true, if_false, bind_pure_unit]
  · rw [bind_of_ok node, bind_assoc, bind_of_ok node]
    dsimp only
    split
    · simp only [bind_assoc, pure_bind, Bool.false_eq_true, if_false, bind_pure_unit]
    · cases session.execution.node.bind graph.node? with
      | none => rfl
      | some node => rfl

/-- A round hands the execution over, or finds no node. -/
theorem round_rounded (watched : Bool) (steps : Nat) {execution : Execution String}
    (running : execution.status = .running) (world : World) :
    Rounded engine graph steps ⟨execution, world⟩
      (round engine graph watched steps ⟨execution, world⟩) := by
  have asked : isInterrupted watched ⟨execution, world⟩ =
      .ok (watched && world.stepping.any Stepping.interrupted) ⟨execution, world⟩ := rfl
  have node : Run.execution ⟨execution, world⟩ = .ok execution ⟨execution, world⟩ := rfl
  rw [round, bind_of_ok asked]
  split
  · have allowed : Status.cancelled ∈ execution.status.next := by
      rw [running]
      decide
    have hands : Hands engine (execution.ended .cancelled world.clock) false world
        ((do
          Run.setStatus engine .cancelled
          Run.persist engine
          return false : Run Bool) ⟨execution, world⟩) := by
      rw [← bind_assoc]
      exact (Run.ended_hands engine rfl allowed world).thenReturn
    exact .ofHands hands running .interrupted rfl nofun
  · rw [bind_of_ok node]
    split
    · exact .ofHands (exhaust_hands engine running world).thenReturn running .exhausted rfl nofun
    · rename_i affordable
      cases found : execution.node.bind graph.node? with
      | none => exact .lost found
      | some node =>
        obtain ⟨result, handled, handling, hands⟩ := visit_hands engine graph node running world
        exact .ofHands hands running (.visited found handling) rfl fun _ => affordable

namespace Tours

variable {α β : Type} {engine : Engine} {graph : Flow.Graph} {start : Session}

/-- There may have been rounds before. -/
theorem before {middle : Session} {result : EStateM.Result Failure Session α}
    (rounds : Rounds engine graph start middle) (tours : Tours engine graph middle result) :
    Tours engine graph start result := by
  cases tours with
  | rested more rests => exact .rested (rounds.trans more) rests
  | failed more runs round => exact .failed (rounds.trans more) runs round

/-- Another value may be returned at the end. -/
theorem thenReturn {action : Run α} {last : α → Run β}
    (tours : Tours engine graph start (action start))
    (returns : ∀ value left, ∃ last', last value left = .ok last' left) :
    Tours engine graph start ((action >>= last) start) := by
  rw [bind_apply]
  generalize action start = result at tours
  cases tours with
  | @rested value left rounds rests =>
    obtain ⟨last, done⟩ := returns value left
    simp only [done]
    exact .rested rounds rests
  | failed rounds runs round => exact .failed rounds runs round

end Tours

/-- Visiting nodes goes in rounds. Before the fuel is used up a number of steps is reached that is
no less than the budget, since the fuel and the steps go beyond it. -/
theorem visits_tours (watched : Bool) (fuel steps : Nat)
    (fuelled : ∀ ceiling, engine.settings.budget.ceiling? = some ceiling → ceiling < steps + fuel)
    (spent : ∀ step < steps, ¬ engine.settings.budget.le (.int step))
    {execution : Execution String} (running : execution.status = .running) (world : World) :
    Tours engine graph ⟨execution, world⟩
      (visits engine graph watched fuel steps ⟨execution, world⟩) := by
  induction fuel generalizing steps execution world with
  | zero =>
    refine .rested .refl fun bounded => ?_
    obtain ⟨ceiling, found⟩ := Option.isSome_iff_exists.mp bounded
    exact absurd (Number.le_ceiling found) (spent ceiling (fuelled ceiling found))
  | succ fuel ih =>
    have rounded := round_rounded engine graph watched steps running world
    rw [visits_succ, bind_apply]
    generalize round engine graph watched steps ⟨execution, world⟩ = result at rounded
    cases result with
    | error failure left => exact .failed .refl running rounded
    | ok goesOn left =>
      cases rounded with
      | went goes afforded =>
        refine .before (.single goes) ?_
        simp only
        split
        · rename_i runs
          refine ih (steps + 1) ?_ ?_ (Execution.runs_iff.mp runs) left.world
          · intro ceiling bounded
            have beyond := fuelled ceiling bounded
            omega
          · intro step below
            rcases Nat.lt_succ_iff_lt_or_eq.mp below with before | rfl
            · exact spent step before
            · exact afforded runs
        · rename_i rests
          exact .rested .refl fun _ running => rests (Execution.runs_iff.mpr running)

/-- A tick of a running execution visits nodes. -/
theorem tick_of_running (watched : Bool) {session : Session}
    (running : session.execution.status = .running) :
    tick engine graph watched session =
      (do
        visits engine graph watched (fuelOf engine.settings.budget) 0
        return (← Run.execution).status : Run Status) session := by
  have read : Run.execution session = .ok session.execution session := rfl
  rw [tick, bind_of_ok read]
  simp only [running, if_true]

/-- A tick of a running execution goes in rounds. -/
theorem tick_tours (watched : Bool) {execution : Execution String}
    (running : execution.status = .running) (world : World) :
    Tours engine graph ⟨execution, world⟩ (tick engine graph watched ⟨execution, world⟩) := by
  rw [tick_of_running engine graph watched running]
  have visited := visits_tours engine graph watched (fuelOf engine.settings.budget) 0
    (fun ceiling bounded => by simp [fuelOf, bounded]) (fun step below => absurd below (by omega))
    running world
  exact visited.thenReturn fun _ left => ⟨left.execution.status, rfl⟩

namespace Works

variable {α β : Type} {engine : Engine} {graph : Flow.Graph} {handed : Execution String}
  {world : World}

/-- The world may have been stirred before. -/
theorem before {stirred : World} {result : EStateM.Result Failure Session α}
    (stir : Astir engine world stirred) (works : Works engine graph handed stirred result) :
    Works engine graph handed world result := by
  cases works with
  | taken more kept tours => exact .taken (trans_of _ stir more) kept tours
  | refused more kept raised => exact .refused (trans_of _ stir more) kept raised

/-- After an execution was handed over comes what is done with it. -/
theorem andThen {value : α} {action : Run α} {rest : α → Run β} {execution : Execution String}
    (hands : Hands engine handed value world (action ⟨execution, world⟩))
    (later : ∀ left, Tours engine graph ⟨handed, left⟩ (rest value ⟨handed, left⟩)) :
    Works engine graph handed world ((action >>= rest) ⟨execution, world⟩) := by
  rw [bind_apply]
  generalize action ⟨execution, world⟩ = result at hands
  cases hands with
  | taken stir kept => exact .taken stir kept (later _)
  | refused stir kept raised => exact .refused stir kept raised

end Works

/-- Starting an execution hands it over at the start of its flow, and goes on in rounds. -/
theorem start_works (watched : Bool) {execution : Execution String}
    (running : execution.status = .running) (world : World) :
    Works engine graph (execution.movedTo graph.start world.clock) world
      (start engine graph watched ⟨execution, world⟩) := by
  have still : (execution.movedTo graph.start world.clock).status = .running := running
  exact .andThen (Run.moveTo_hands engine graph.start execution world) fun left =>
    tick_tours engine graph watched still left

/-- Where a wait goes on. -/
theorem resumeTarget_eq (node : Option String) (label : String) :
    resumeTarget graph node (.text label) = .ok (node.bind (graph.onward · label)) := by
  have fixed : (Value.text label).requireFixed = .ok () := rfl
  cases node with
  | none => rfl
  | some node =>
    simp only [resumeTarget, successor, fixed, pure, Except.pure, Computation.ok_bind,
      Flow.Graph.onward, Option.bind_some]
    cases (graph.successor node (some label)).filter (· != "") <;> rfl

/-- Taking up a wait lets the execution run again, and then complete or go on to a node. -/
theorem resume_opens (label reason : String) (reply : Value) (watched : Bool)
    {execution : Execution String} (waiting : execution.status = .waiting) (world : World) :
    ∃ stirred, Astir engine world stirred ∧
      Run.setStatus engine .running
        ⟨execution.told execution.node .resumed world.clock
          (Execution.taking label reason reply), world⟩ =
        .ok () ⟨execution.rerun label reason reply world.clock, stirred⟩ ∧
      (execution.node.bind (graph.onward · label) = none →
        resume engine graph (.text label) (.text reason) reply watched ⟨execution, world⟩ =
          (do
            Run.complete engine
            return (← Run.execution).status : Run Status)
            ⟨execution.rerun label reason reply world.clock, stirred⟩) ∧
      ∀ target, execution.node.bind (graph.onward · label) = some target →
        resume engine graph (.text label) (.text reason) reply watched ⟨execution, world⟩ =
          (do
            Run.moveTo engine target
            let _ ← tick engine graph watched
            return (← Run.execution).status : Run Status)
            ⟨execution.rerun label reason reply world.clock, stirred⟩ := by
  let told := execution.told execution.node .resumed world.clock
    (Execution.taking label reason reply)
  let running := execution.rerun label reason reply world.clock
  have moved : told.transition .running world.clock = .ok running := by
    have allowed : Status.running ∈ told.status.next := by
      have still : told.status = .waiting := waiting
      rw [still]
      decide
    simp only [Execution.transition, if_pos allowed]
    rfl
  obtain ⟨stirred, stir, set⟩ := Run.setStatus_apply engine moved
  have read : Run.execution ⟨execution, world⟩ = .ok execution ⟨execution, world⟩ := rfl
  have logged := Run.log_apply execution.node .resumed (Execution.taking label reason reply)
    execution world
  have given : Run.ofExcept (resumeTarget graph execution.node (.text label)) ⟨running, stirred⟩ =
      .ok (execution.node.bind (graph.onward · label)) ⟨running, stirred⟩ := by
    rw [resumeTarget_eq]
    rfl
  refine ⟨stirred, stir, set, ?_, ?_⟩
  · intro ends
    rw [ends] at given
    exact (bind_of_ok read).trans ((bind_of_ok logged).trans ((bind_of_ok set).trans
      (bind_of_ok given)))
  · intro target leads
    rw [leads] at given
    exact (bind_of_ok read).trans ((bind_of_ok logged).trans ((bind_of_ok set).trans
      (bind_of_ok given)))

/-- Taking up a wait hands the execution over at the node to which the wait leads, or as complete,
and goes on in rounds. -/
theorem resume_works (label reason : String) (reply : Value) (watched : Bool)
    {execution : Execution String} (waiting : execution.status = .waiting) (world : World) :
    Works engine graph (execution.resumed graph label reason reply world.clock) world
      (resume engine graph (.text label) (.text reason) reply watched ⟨execution, world⟩) := by
  obtain ⟨stirred, stir, -, completes, goes⟩ :=
    resume_opens engine graph label reason reply watched waiting world
  have clock : stirred.clock = world.clock := stir.clock
  let running := execution.rerun label reason reply world.clock
  apply Works.before stir
  cases found : execution.node.bind (graph.onward · label) with
  | none =>
    have completed : execution.resumed graph label reason reply world.clock =
        running.ended .completed stirred.clock := by
      simp only [Execution.resumed, found, clock]
      rfl
    rw [completes found, completed]
    exact .andThen (Run.complete_hands engine rfl stirred) fun left =>
      .rested .refl fun _ runs => by cases runs
  | some target =>
    have moved : execution.resumed graph label reason reply world.clock =
        running.movedTo target stirred.clock := by
      simp only [Execution.resumed, found, clock]
      rfl
    have still : (running.movedTo target stirred.clock).status = .running := rfl
    rw [goes target found, moved]
    refine .andThen (Run.moveTo_hands engine target running stirred) fun left => ?_
    exact (tick_tours engine graph watched still left).thenReturn fun _ after =>
      ⟨after.execution.status, rfl⟩

end Tick

end Parley
