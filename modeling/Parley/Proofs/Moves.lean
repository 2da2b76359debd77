import Parley.Desk
import Parley.Proofs.Rounds

/-!
# Moves of the desk

The desk as a machine. It has at most one execution in hand: one that was just made, one whose wait
is taken up, one that goes on from node to node, or one on which working failed. Every move that
concerns an execution offers it to the store once. Ticks, and the work that they do for the desk,
are sequences of moves during which time stands still.
-/

namespace Parley

open Parley.Computation World

/-- What the desk has in hand. -/
inductive Hand where
  /-- Nothing. -/
  | empty
  /-- An execution that was just made. -/
  | made (graph : Flow.Graph) (execution : Execution String)
  /-- An execution whose wait is taken up along a label, for a reason and with a reply. -/
  | roused (graph : Flow.Graph) (execution : Execution String) (label reason : String)
    (reply : Value)
  /-- An execution that goes on from node to node. -/
  | going (graph : Flow.Graph) (execution : Execution String)
  /-- The id of an execution on which working failed. -/
  | broken (id : String) (failure : Failure)

/-- What the desk has in hand after it offered an execution to the store. -/
def Hand.offered (graph : Flow.Graph) (execution : Execution String) :
    (taken : Bool) → Failure → Hand
  | true, _ => if execution.runs then .going graph execution else .empty
  | false, failure => .broken execution.id failure

/-- The world, and what the desk has in hand. -/
structure Scene where
  /-- The world. -/
  world : World
  /-- What the desk has in hand. -/
  hand : Hand

/-- A move of the desk. -/
inductive Move (engine : Engine) : Scene → Scene → Prop where
  /-- The world is stirred. -/
  | stirred {world left : World} {hand : Hand} (stir : Stir world left) :
    Move engine ⟨world, hand⟩ ⟨left, hand⟩
  /-- Time passes. -/
  | timed {world : World} (moment : Time.Moment) :
    Move engine ⟨world, .empty⟩ ⟨{ world with clock := moment }, .empty⟩
  /-- A flow is registered. -/
  | registered {world : World} {raw : Value} {graph : Flow.Graph}
    (loaded : Flow.load (engine.capabilities.extensions.map Prod.fst) raw = .ok graph) :
    Move engine ⟨world, .empty⟩ ⟨{ world with flows := world.flows.add graph }, .empty⟩
  /-- An execution of the newest version of a flow is made for a subject that nothing waits for. -/
  | created {world : World} {flow id : String} {graph : Flow.Graph} {version : Nat} {key : Value}
    {vars : Variables} {store : Store String}
    (newest : world.flows.latest flow = .ok (graph, version))
    (free : world.store.findWaiting (Subject.ofValue key) = .ok none)
    (made : world.store.create
      (.new id graph.id version (Subject.ofValue key) vars world.clock) = .ok store) :
    Move engine ⟨world, .empty⟩
      ⟨{ world with store }, .made graph
        (.new id graph.id version (Subject.ofValue key) vars world.clock)⟩
  /-- An execution that was made enters the start of its flow. -/
  | entered {world left : World} {graph : Flow.Graph} {execution : Execution String} {taken : Bool}
    (offered : Offered (execution.movedTo graph.start world.clock) world taken left)
    (failure : Failure) :
    Move engine ⟨world, .made graph execution⟩
      ⟨left, .offered graph (execution.movedTo graph.start world.clock) taken failure⟩
  /-- The wait of a stored execution is taken up. -/
  | roused {world : World} {id : String} {record : Execution String} {graph : Flow.Graph}
    {vars : Variables} {label reason : String} {reply : Value}
    (read : world.store.get id = .ok record) (waits : record.status = .waiting)
    (had : world.flows.get record.flow record.version = .ok graph) :
    Move engine ⟨world, .empty⟩ ⟨world, .roused graph { record with vars } label reason reply⟩
  /-- An execution whose wait was taken up goes on along the label. -/
  | resumed {world left : World} {graph : Flow.Graph} {execution : Execution String}
    {label reason : String} {reply : Value} {taken : Bool}
    (offered : Offered (execution.resumed graph label reason reply world.clock) world taken left)
    (failure : Failure) :
    Move engine ⟨world, .roused graph execution label reason reply⟩
      ⟨left, .offered graph (execution.resumed graph label reason reply world.clock) taken failure⟩
  /-- A node is visited. -/
  | visited {world left : World} {graph : Flow.Graph} {execution handled : Execution String}
    {node : Flow.Node String} {result : Except Failure (Action × Entries)} {taken : Bool}
    (found : execution.node.bind graph.node? = some node)
    (handling : Handler.Handled engine node world.clock (execution.opened node world.clock) result
      handled)
    (offered : Offered (handled.closed graph node world.clock result) world taken left)
    (failure : Failure) :
    Move engine ⟨world, .going graph execution⟩
      ⟨left, .offered graph (handled.closed graph node world.clock result) taken failure⟩
  /-- The execution in hand is cancelled between two visits. -/
  | interrupted {world left : World} {graph : Flow.Graph} {execution : Execution String}
    {taken : Bool} (offered : Offered (execution.ended .cancelled world.clock) world taken left)
    (failure : Failure) :
    Move engine ⟨world, .going graph execution⟩
      ⟨left, .offered graph (execution.ended .cancelled world.clock) taken failure⟩
  /-- The execution in hand visited as many nodes as it may. -/
  | exhausted {world left : World} {graph : Flow.Graph} {execution : Execution String}
    {taken : Bool}
    (offered : Offered (execution.exhausted engine.settings.budget world.clock) world taken left)
    (failure : Failure) :
    Move engine ⟨world, .going graph execution⟩
      ⟨left, .offered graph (execution.exhausted engine.settings.budget world.clock) taken failure⟩
  /-- The execution in hand is at no node. -/
  | lost {world : World} {graph : Flow.Graph} {execution : Execution String}
    (missing : execution.node.bind graph.node? = none) (failure : Failure) :
    Move engine ⟨world, .going graph execution⟩ ⟨world, .broken execution.id failure⟩
  /-- The execution in hand is left where it is. -/
  | left {world : World} {graph : Flow.Graph} {execution : Execution String} :
    Move engine ⟨world, .going graph execution⟩ ⟨world, .empty⟩
  /-- A reply that does not match is put into a variable of an execution that goes on waiting. -/
  | held {world left : World} {id : String} {record : Execution String} {reply : Value}
    {taken : Bool} (read : world.store.get id = .ok record) (waits : record.status = .waiting)
    (offered : Offered
      { record with vars := record.vars.set Handler.lastMessage reply, updatedAt := world.clock }
      world taken left) :
    Move engine ⟨world, .empty⟩ ⟨left, .empty⟩
  /-- An execution on which working failed, and which runs in the store, is ended there. -/
  | crashed {world left : World} {id : String} {failure : Failure} {record : Execution String}
    {taken : Bool} (read : world.store.get id = .ok record) (runs : record.status = .running)
    (offered : Offered (record.crashed failure world.clock) world taken left) :
    Move engine ⟨world, .broken id failure⟩ ⟨left, .empty⟩
  /-- An execution on which working failed, and which does not run in the store, stays there. -/
  | spared {world : World} {id : String} {failure : Failure}
    (spare : ∀ record, world.store.get id = .ok record → record.status ≠ .running) :
    Move engine ⟨world, .broken id failure⟩ ⟨world, .empty⟩

/-- Moves of the desk one after another. -/
def Moves (engine : Engine) : Scene → Scene → Prop := Relation.ReflTransGen (Move engine)

instance (engine : Engine) : IsPreorder Scene (Moves engine) :=
  inferInstanceAs (IsPreorder _ (Relation.ReflTransGen (Move engine)))

/-- What every move keeps is kept by moves one after another. -/
theorem Moves.keep {engine : Engine} {invariant : Scene → Prop}
    (keeps : ∀ scene next, Move engine scene next → invariant scene → invariant next)
    {scene last : Scene} (moves : Moves engine scene last) (holds : invariant scene) :
    invariant last := by
  induction moves with
  | refl => exact holds
  | tail _ move held => exact keeps _ _ move held

/-- Moves of the desk one after another while time stands still. -/
def Still (engine : Engine) : Scene → Scene → Prop :=
  Relation.ReflTransGen fun scene next =>
    Move engine scene next ∧ next.world.clock = scene.world.clock

instance (engine : Engine) : IsPreorder Scene (Still engine) :=
  inferInstanceAs (IsPreorder _ (Relation.ReflTransGen _))

/-- A move while time stands still. -/
theorem Move.still {engine : Engine} {scene next : Scene} (move : Move engine scene next)
    (clock : next.world.clock = scene.world.clock) : Still engine scene next :=
  .single ⟨move, clock⟩

/-- What every move keeps while time stands still is kept by moves one after another. -/
theorem Still.keep {engine : Engine} {invariant : Scene → Prop}
    (keeps : ∀ scene next, Move engine scene next → next.world.clock = scene.world.clock →
      invariant scene → invariant next)
    {scene last : Scene} (still : Still engine scene last) (holds : invariant scene) :
    invariant last := by
  induction still with
  | refl => exact holds
  | tail _ move held => exact keeps _ _ move.1 move.2 held

/-- While time stands still, the desk moves. -/
theorem Still.moves {engine : Engine} {scene last : Scene} (still : Still engine scene last) :
    Moves engine scene last :=
  Relation.ReflTransGen.mono (fun _ _ => And.left) _ _ still

/-- The world can be stirred whatever is in hand. -/
theorem World.Stirred.still {world left : World} (stirred : Stirred world left) (engine : Engine)
    (hand : Hand) : Still engine ⟨world, hand⟩ ⟨left, hand⟩ :=
  Relation.ReflTransGen.lift (fun world : World => Scene.mk world hand)
    (fun _ _ stir => ⟨.stirred stir, Stirred.clock (.single stir)⟩) _ _ stirred

/-- How work on an execution ends for the desk: with nothing in hand, or with a failure. -/
def Ends {α : Type} (engine : Engine) (scene : Scene) (id : String) :
    EStateM.Result Failure Session α → Prop
  | .ok _ left => Still engine scene ⟨left.world, .empty⟩
  | .error failure left => Still engine scene ⟨left.world, .broken id failure⟩

/-- A session as a scene: the execution is in hand as long as it runs. -/
def Session.scene (session : Session) (graph : Flow.Graph) : Scene :=
  ⟨session.world, if session.execution.runs then .going graph session.execution else .empty⟩

/-- A session whose execution runs has it in hand. -/
theorem Session.scene_of_runs {session : Session} (runs : session.execution.status = .running)
    (graph : Flow.Graph) :
    session.scene graph = ⟨session.world, .going graph session.execution⟩ := by
  rw [scene, if_pos (Execution.runs_iff.mpr runs)]

namespace Tick

variable {engine : Engine} {graph : Flow.Graph}

/-- An execution goes on in a round. -/
theorem Round.continues {now : Time.Moment} {execution handed : Execution String}
    (round : Round engine graph now execution handed) : execution.Continues handed := by
  cases round with
  | visited _ handling => exact handling.continues graph
  | interrupted => exact execution.ended_continues .cancelled now
  | exhausted => exact execution.exhausted_continues engine.settings.budget now

/-- An execution goes on in rounds. -/
theorem Rounds.continues {start left : Session} (rounds : Rounds engine graph start left) :
    start.execution.Continues left.execution := by
  induction rounds with
  | refl => exact ⟨rfl, rfl, rfl, rfl, rfl, List.prefix_rfl⟩
  | tail _ goes before => exact before.trans goes.round.continues

variable (stored : engine.keeping = .stored)
include stored

/-- A round is a sequence of moves, whether the execution is taken or refused after it. -/
theorem Round.still {world stirred left : World} {execution handed : Execution String}
    {taken : Bool} (round : Round engine graph world.clock execution handed)
    (stir : Astir engine world stirred) (kept : Kept engine handed stirred taken left)
    (failure : Failure) :
    Still engine ⟨world, .going graph execution⟩ ⟨left, .offered graph handed taken failure⟩ := by
  refine trans_of _ (stir.stirred.still engine _) (Move.still ?_ kept.clock)
  have offered := kept.offer stored
  rw [← stir.clock] at round
  cases round with
  | visited found handling => exact .visited found handling offered failure
  | interrupted => exact .interrupted offered failure
  | exhausted => exact .exhausted offered failure

/-- Rounds are a sequence of moves. -/
theorem Rounds.still {start left : Session} (rounds : Rounds engine graph start left) :
    Still engine (start.scene graph) (left.scene graph) := by
  induction rounds with
  | refl => exact refl_of _ _
  | @tail middle left _ goes before =>
    obtain ⟨stirred, stir, kept⟩ := goes.kept
    have moved := goes.round.still stored stir kept default
    rw [← Session.scene_of_runs goes.runs] at moved
    exact trans_of _ before moved

/-- How rounds end is how they end for the desk. -/
theorem Tours.ends {α : Type} {start : Session} {result : EStateM.Result Failure Session α}
    (tours : Tours engine graph start result) :
    Ends engine (start.scene graph) start.execution.id result := by
  cases tours with
  | @rested value left rounds rests =>
    refine trans_of (Still engine) (rounds.still stored) ?_
    unfold Session.scene
    split
    · exact Move.left.still rfl
    · exact refl_of _ _
  | @failed steps middle left failure rounds runs round =>
    have moved := rounds.still stored
    rw [Session.scene_of_runs runs] at moved
    have same : middle.execution.id = start.execution.id := rounds.continues.id
    rw [← same]
    cases round with
    | lost missing => exact trans_of (Still engine) moved ((Move.lost missing _).still rfl)
    | @refused stirred left handed failure round stir kept raised =>
      have own : handed.id = middle.execution.id := round.continues.id
      rw [← own]
      exact trans_of (Still engine) moved (round.still stored stir kept failure)

/-- How work ends is how it ends for the desk, if its first offer is a move. -/
theorem Works.ends {α : Type} {handed : Execution String} {world : World} {hand : Hand}
    {result : EStateM.Result Failure Session α} (works : Works engine graph handed world result)
    (moves : ∀ {stirred left taken}, stirred.clock = world.clock →
      Offered handed stirred taken left →
      ∀ failure, Move engine ⟨stirred, hand⟩ ⟨left, .offered graph handed taken failure⟩) :
    Ends engine ⟨world, hand⟩ handed.id result := by
  cases works with
  | @taken stirred left result stir kept tours =>
    have opened : Still engine ⟨world, hand⟩ ((⟨handed, left⟩ : Session).scene graph) :=
      trans_of _ (stir.stirred.still engine hand)
        ((moves stir.clock (kept.offer stored) default).still kept.clock)
    have ended := tours.ends stored
    cases result with
    | ok value last => exact trans_of (Still engine) opened ended
    | error failure last => exact trans_of (Still engine) opened ended
  | @refused stirred left failure stir kept raised =>
    exact trans_of (Still engine) (stir.stirred.still engine hand)
      ((moves stir.clock (kept.offer stored) failure).still kept.clock)

variable (graph)

/-- Starting an execution that was made is a sequence of moves. -/
theorem start_ends (watched : Bool) {execution : Execution String}
    (running : execution.status = .running) (world : World) :
    Ends engine ⟨world, .made graph execution⟩ execution.id
      (start engine graph watched ⟨execution, world⟩) := by
  refine (start_works engine graph watched running world).ends stored ?_
  intro stirred left taken clock offered failure
  rw [← clock] at offered ⊢
  exact .entered offered failure

/-- Taking up a wait is a sequence of moves. -/
theorem resume_ends (label reason : String) (reply : Value) (watched : Bool)
    {execution : Execution String} (waiting : execution.status = .waiting) (world : World) :
    Ends engine ⟨world, .roused graph execution label reason reply⟩ execution.id
      (resume engine graph (.text label) (.text reason) reply watched ⟨execution, world⟩) := by
  have same : (execution.resumed graph label reason reply world.clock).id = execution.id :=
    (execution.resumed_continues graph label reason reply world.clock).id
  rw [← same]
  refine (resume_works engine graph label reason reply watched waiting world).ends stored ?_
  intro stirred left taken clock offered failure
  rw [← clock] at offered ⊢
  exact .resumed offered failure

end Tick

end Parley
