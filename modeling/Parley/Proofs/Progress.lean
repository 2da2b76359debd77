import Parley.Proofs.Laws

/-!
# Progress of ticks

A tick of a running execution of a flow whose nodes are of built-in types comes to rest. At the
beginning of each of its rounds the execution runs and stands at a node of the flow, so no round
lacks a node to visit; and the budget bounds the rounds. What can make a tick fail is only that the
store refuses the execution.
-/

namespace Parley

open Parley.Computation World

namespace Flow

/-- The nodes of a graph are of no registered type. -/
def Graph.BuiltIn (graph : Graph) : Prop :=
  ∀ node ∈ graph.nodes, ∀ text, node.content ≠ .tag text

/-- A graph that is loaded where no types are registered has built-in types only. -/
theorem load_builtIn {raw : Value} {graph : Graph} (loaded : load [] raw = .ok graph) :
    graph.BuiltIn := by
  intro node member text holds
  obtain ⟨entries, read⟩ := readContent_of_load loaded member
  rw [holds] at read
  have registered : ([] : Extensions).contains node.type = true := read.1
  simp at registered

end Flow

namespace Tick

/-- An execution stands where its status has it: at a node of the graph until it has ended, and one
that failed tells of a failure last. -/
structure Seated (graph : Flow.Graph) (execution : Execution String) : Prop where
  /-- It stands at a node as long as it has not ended. -/
  placed : execution.status.isFinal = false → execution.Placed graph
  /-- It stands nowhere when it has ended. -/
  ended : execution.status.isFinal = true → execution.node = none
  /-- Its log tells of the failure last if it failed. -/
  told : execution.status = .failed →
    ∃ entry, execution.log.getLast? = some entry ∧ entry.event = .nodeError

variable {engine : Engine} {graph : Flow.Graph}

/-- The last of a log that was written to is what was written. -/
theorem told_last (execution : Execution String) (node : Option String) (event : Event)
    (now : Time.Moment) (payload : Entries) :
    ∃ entry, (execution.told node event now payload).log.getLast? = some entry ∧
      entry.event = event :=
  ⟨_, List.getLast?_concat, rfl⟩

/-- An execution that runs at a node is seated. -/
theorem Seated.running {execution : Execution String} (running : execution.status = .running)
    (placed : execution.Placed graph) : Seated graph execution :=
  ⟨fun _ => placed, fun final => by simp [running, Status.isFinal] at final,
    fun failed => by simp [running] at failed⟩

/-- An execution that completed is seated. -/
theorem Seated.completed (execution : Execution String) (now : Time.Moment) :
    Seated graph (execution.ended .completed now) := ⟨nofun, fun _ => rfl, nofun⟩

/-- The end of a visit leaves the execution seated. -/
theorem closed_seated {node : Flow.Node String} {now : Time.Moment}
    {execution left : Execution String} {result : Except Failure (Action × Entries)}
    (sound : graph.Sound) (builtIn : graph.BuiltIn) (running : execution.status = .running)
    (found : execution.node.bind graph.node? = some node)
    (handling : Handler.Handled engine node now (execution.opened node now) result left) :
    Seated graph (left.closed graph node now result) := by
  obtain ⟨id, -, there⟩ := Option.bind_eq_some_iff.mp found
  have member := (Flow.Graph.node?_eq_some there).1
  have goes (runs : (left.closed graph node now result).status = .running) :
      Seated graph (left.closed graph node now result) := by
    have plain (text : String) (kind : node.content = .tag text) :
        engine.capabilities.extensions.lookup node.type = none :=
      absurd kind (builtIn node member text)
    exact .running runs (handling.stands plain sound member (Execution.runs_iff.mpr runs))
  obtain ⟨vars, deadline, keywords, rfl⟩ := handling.changes
  cases result with
  | error failure =>
    cases fallback : node.onError with
    | some target =>
      apply goes
      simp only [Execution.closed, fallback]
      exact running
    | none =>
      simp only [Execution.closed, fallback]
      exact ⟨by rintro ⟨⟩, fun _ => rfl, fun _ => told_last ..⟩
  | ok ending =>
    obtain ⟨action, payload⟩ := ending
    cases action with
    | suspend => exact ⟨fun _ => ⟨node, found⟩, by rintro ⟨⟩, by rintro ⟨⟩⟩
    | finish => exact .completed _ now
    | jump target => exact goes running
    | follow label =>
      cases leads : graph.successor node.id label with
      | some target =>
        apply goes
        simp only [Execution.closed, leads]
        exact running
      | none =>
        simp only [Execution.closed, leads]
        exact .completed _ now

/-- After a round the execution is seated. -/
theorem Round.seated {now : Time.Moment} {execution handed : Execution String}
    (sound : graph.Sound) (builtIn : graph.BuiltIn) (running : execution.status = .running)
    (round : Round engine graph now execution handed) : Seated graph handed := by
  cases round with
  | visited found handling => exact closed_seated sound builtIn running found handling
  | interrupted => exact ⟨nofun, fun _ => rfl, nofun⟩
  | exhausted => exact ⟨nofun, fun _ => rfl, fun _ => told_last ..⟩

/-- After rounds from a seated execution the execution is seated. -/
theorem Rounds.seated {start left : Session} (sound : graph.Sound) (builtIn : graph.BuiltIn)
    (seated : Seated graph start.execution) (rounds : Rounds engine graph start left) :
    Seated graph left.execution := by
  induction rounds with
  | refl => exact seated
  | tail _ goes _ => exact goes.round.seated sound builtIn goes.runs

/-- The sessions at which the loop of a tick stands, with the number of rounds before. -/
inductive Stands (engine : Engine) (graph : Flow.Graph) (watched : Bool) (start : Session) :
    Nat → Session → Prop where
  /-- It begins at the start. -/
  | start : Stands engine graph watched start 0 start
  /-- It goes on after a round that says so. -/
  | round {steps : Nat} {middle next : Session}
    (stands : Stands engine graph watched start steps middle)
    (went : Tick.round engine graph watched steps middle = .ok true next) :
    Stands engine graph watched start (steps + 1) next

namespace Stands

variable {watched : Bool} {start middle : Session} {steps : Nat}

/-- Where the loop stands it came in rounds, the execution runs, and the budget was not used up
before. -/
theorem rounds (stands : Stands engine graph watched start steps middle)
    (running : start.execution.status = .running) :
    Rounds engine graph start middle ∧ middle.execution.status = .running ∧
      ∀ step < steps, ¬ engine.settings.budget.le (.int step) := by
  induction stands with
  | start => exact ⟨.refl, running, by simp⟩
  | @round steps middle next _ went before =>
    obtain ⟨rounds, runs, spent⟩ := before
    have rounded := round_rounded engine graph watched steps runs middle.world
    rw [went] at rounded
    obtain ⟨goes, onward, afforded⟩ := rounded.goes
    refine ⟨rounds.tail goes, Execution.runs_iff.mp onward.symm, fun step below => ?_⟩
    rcases Nat.lt_succ_iff_lt_or_eq.mp below with earlier | rfl
    · exact spent step earlier
    · exact afforded onward.symm

/-- Visiting nodes from the start is visiting on from where the loop stands. -/
theorem visits_eq (stands : Stands engine graph watched start steps middle) {fuel : Nat}
    (fuelled : steps ≤ fuel) :
    visits engine graph watched fuel 0 start =
      visits engine graph watched (fuel - steps) steps middle := by
  induction stands with
  | start => rfl
  | @round steps middle next _ went before =>
    have left : fuel - steps = (fuel - (steps + 1)) + 1 := by omega
    rw [before (by omega), left, visits_succ, bind_of_ok went, if_pos rfl]

/-- The next round of a loop that ends well does not fail. -/
theorem round_ok (stands : Stands engine graph watched start steps middle)
    (running : start.execution.status = .running)
    (bounded : engine.settings.budget.ceiling?.isSome) {left : Session}
    (done : visits engine graph watched (fuelOf engine.settings.budget) 0 start = .ok () left) :
    ∃ goesOn next, Tick.round engine graph watched steps middle = .ok goesOn next := by
  obtain ⟨ceiling, found⟩ := Option.isSome_iff_exists.mp bounded
  obtain ⟨-, -, spent⟩ := stands.rounds running
  have within : steps ≤ ceiling := by
    by_contra beyond
    exact spent ceiling (by omega) (Number.le_ceiling found)
  have fuel : fuelOf engine.settings.budget = ceiling + 1 := by simp [fuelOf, found]
  have more : ceiling + 1 - steps = (ceiling - steps) + 1 := by omega
  rw [fuel, stands.visits_eq (by omega), more, visits_succ] at done
  cases outcome : Tick.round engine graph watched steps middle with
  | ok goesOn next => exact ⟨goesOn, next, rfl⟩
  | error failure next =>
    rw [bind_of_error outcome] at done
    cases done

end Stands

end Tick

namespace World

/-- The request to save that came last between two worlds, if there was one, was not refused. -/
def Unrefused (before after : World) : Prop :=
  ∀ save, (after.saves.drop before.saves.length).getLast? = some save → save.taken = true

/-- Keeping an execution adds to the requests to save. -/
theorem Kept.saves {engine : Engine} {execution : Execution String} {before after : World}
    {taken : Bool} (kept : Kept engine execution before taken after) :
    before.saves <+: after.saves := by
  cases kept with
  | offered _ offered => exact offered.saves ▸ List.prefix_append _ _
  | elsewhere _ same => exact same.saves ▸ List.prefix_rfl

/-- What is refused between two worlds shows. -/
theorem Kept.not_unrefused {engine : Engine} {execution : Execution String}
    {start before after : World} (grows : start.saves <+: before.saves)
    (kept : Kept engine execution before false after) : ¬ start.Unrefused after := by
  intro unrefused
  cases kept with
  | offered _ offered =>
    have last : (after.saves.drop start.saves.length).getLast? = some ⟨execution, false⟩ := by
      rw [offered.saves, List.drop_append_of_le_length grows.length_le]
      exact List.getLast?_concat
    cases unrefused _ last

end World

namespace Tick

variable {engine : Engine} {graph : Flow.Graph}

/-- Rounds add to the requests to save. -/
theorem Rounds.saves {start left : Session} (rounds : Rounds engine graph start left) :
    start.world.saves <+: left.world.saves := by
  induction rounds with
  | refl => exact List.prefix_rfl
  | tail _ goes before =>
    obtain ⟨stirred, stir, kept⟩ := goes.kept
    exact before.trans (stir.stirred.saves.trans kept.saves)

/-- A round from a seated execution does not fail unless the store refuses. -/
theorem Rounded.not_failed {start before left : Session} {steps : Nat} {failure : Failure}
    (rounded : Rounded engine graph steps before (.error failure left))
    (grows : start.world.saves <+: before.world.saves) (placed : before.execution.Placed graph) :
    ¬ start.world.Unrefused left.world := by
  cases rounded with
  | lost missing =>
    obtain ⟨node, found⟩ := placed
    rw [missing] at found
    cases found
  | refused round stir kept raised => exact kept.not_unrefused (grows.trans stir.stirred.saves)

/-- The graph of the flow that asks. -/
def greetingGraph : Flow.Graph := (Flow.load [] Flow.greeting).toOption.getD default

/-- The session at the beginning of the flow that asks, over a store that has the execution. -/
def greetingStart : Session :=
  ⟨{ Execution.new "ex0001" "greeting" 1 "+31 6" (.empty (.text "ex0001")) default with
      node := some "hello" }, World.asked⟩

end Tick

end Parley
