import Parley.Proofs.Errands
import Parley.Proofs.Moves

/-!
# Calls of the desk

The calls that reach the desk from outside, one after another, and the worlds that they reach from
an empty store. Every call is a sequence of moves that begins and ends with nothing in hand, so what
every move keeps is kept by all runs of calls.
-/

namespace Parley

open Parley.Computation World

/-- The desk serves: while time stands still, it moves from a world to another, with nothing in hand
before and after. -/
def Serves (engine : Engine) (before after : World) : Prop :=
  Still engine ⟨before, .empty⟩ ⟨after, .empty⟩

instance (engine : Engine) : IsPreorder World (Serves engine) where
  refl world := refl_of (Still engine) ⟨world, .empty⟩
  trans _ _ _ first second := trans_of (Still engine) first second

namespace Desk

variable (engine : Engine)

/-- Work on an execution, guarded, is a sequence of moves, and does not fail. -/
theorem guarded_moves {hand : Hand} {execution : Execution String} {work : Run Status}
    {world : World}
    (ends : ∀ held, Beside world held →
      Ends engine ⟨held, hand⟩ execution.id (work ⟨execution, held⟩)) :
    ∃ left, guarded engine execution work world = .ok () left ∧
      Still engine ⟨world, hand⟩ ⟨left, .empty⟩ := by
  obtain ⟨held, left, beside, done, guards⟩ := guarded_ends engine execution work world
  refine ⟨left, done, trans_of (Still engine) (beside.stirred.still engine hand) ?_⟩
  have worked := ends held beside
  generalize work ⟨execution, held⟩ = result at worked guards
  cases guards with
  | rested same => exact trans_of (Still engine) worked (same.stirred.still engine .empty)
  | @failed failure session closed noted left before noting same =>
    have broken := before.stirred.still engine (.broken execution.id failure)
    have cleared : Still engine ⟨closed, .broken execution.id failure⟩ ⟨noted, .empty⟩ := by
      cases noting with
      | spared spare => exact (Move.spared spare).still rfl
      | crashed read runs offered => exact (Move.crashed read runs offered).still offered.clock
    exact trans_of (Still engine) worked (trans_of (Still engine) broken
      (trans_of (Still engine) cleared (same.stirred.still engine .empty)))

/-- Registering a flow is a sequence of moves. -/
theorem register_serves (definition : Value) :
    Along (Serves engine) (register engine definition) := by
  intro world
  refine ofExcept_leaves (refl_of (Serves engine) world) fun graph loaded => ?_
  rw [after_bind_of_ok (get_apply world)]
  exact (Move.registered loaded).still rfl

variable {engine} (stored : engine.keeping = .stored)
include stored

/-- Starting an execution is a sequence of moves. -/
theorem start_serves (flow : String) (subject vars : Value) :
    Along (Serves engine) (start engine flow subject vars) := by
  intro world
  have begun := start_begun engine flow subject vars world
  generalize after (start engine flow subject vars) world = left at begun
  cases begun with
  | refused same => exact same.stirred.still engine .empty
  | @made stood opened left flow id graph version key vars store entered newest free created
      opening same =>
    let execution := Execution.new id graph.id version (Subject.ofValue key) vars stood.clock
    have running : execution.status = .running := rfl
    have move : Move engine ⟨stood, .empty⟩ ⟨{ stood with store }, .made graph execution⟩ :=
      .created newest free created
    obtain ⟨worked, done, moves⟩ := guarded_moves engine
      fun held (_ : Beside opened held) => Tick.start_ends graph stored true running held
    rw [after_of_ok done] at same
    calc Still engine ⟨_, .empty⟩ ⟨stood, .empty⟩ := entered.stirred.still engine .empty
      Still engine _ ⟨{ stood with store }, .made graph execution⟩ := move.still rfl
      Still engine _ ⟨opened, .made graph execution⟩ := opening.stirred.still engine _
      Still engine _ ⟨worked, .empty⟩ := moves
      Still engine _ ⟨left, .empty⟩ := same.stirred.still engine .empty

/-- What is left after a wait was looked after is reached by a sequence of moves. -/
theorem Attended.serves {id : String} {world left : World}
    (attended : Attended engine id world left) : Serves engine world left := by
  cases attended with
  | passed same => exact same.stirred.still engine .empty
  | @kept stood noted left record reply taken entered read waits offered same =>
    calc Still engine ⟨world, .empty⟩ ⟨stood, .empty⟩ := entered.stirred.still engine .empty
      Still engine _ ⟨noted, .empty⟩ := (Move.held read waits offered).still offered.clock
      Still engine _ ⟨left, .empty⟩ := same.stirred.still engine .empty
  | @roused stood left record graph vars label reason reply entered read waits had same =>
    let execution := { record with vars }
    have waiting : execution.status = .waiting := waits
    obtain ⟨worked, done, moves⟩ := guarded_moves engine fun held (_ : Beside stood held) =>
      Tick.resume_ends graph stored label reason reply true waiting held
    rw [after_of_ok done] at same
    calc Still engine ⟨world, .empty⟩ ⟨stood, .empty⟩ := entered.stirred.still engine .empty
      Still engine _ ⟨stood, .roused graph execution label reason reply⟩ :=
        (Move.roused read waits had).still rfl
      Still engine _ ⟨worked, .empty⟩ := moves
      Still engine _ ⟨left, .empty⟩ := same.stirred.still engine .empty

/-- Routing a reply is a sequence of moves. -/
theorem inbound_serves (subject reply : Value) :
    Along (Serves engine) (inbound engine subject reply) := by
  intro world
  obtain ⟨id, attended⟩ := inbound_attended engine subject reply world
  exact attended.serves stored

/-- Ending waits that are over, one after another, is a sequence of moves. -/
theorem expireEach_serves (now : Time.Moment) (ids : List String) :
    Along (Serves engine) (expireEach engine now ids) := by
  induction ids with
  | nil => exact along_pure _
  | cons id rest ih =>
    intro world
    apply bind_moves
    · rw [after_attempt]
      exact (expireOne_attended engine id now world).serves stored
    · intro resumed left _
      apply bind_moves (ih left)
      intro others last _
      split <;> exact refl_of _ last

/-- Ending all waits that are over is a sequence of moves. -/
theorem expire_serves (now : Time.Moment) : Along (Serves engine) (expire engine now) := by
  intro world
  unfold expire
  rw [after_bind_of_ok (get_apply world)]
  exact ofExcept_leaves (refl_of (Serves engine) world) fun ids _ =>
    expireEach_serves stored now ids world

omit stored in
/-- Cancelling an execution is a sequence of moves. -/
theorem cancel_serves (id : String) : Along (Serves engine) (cancel engine id) :=
  fun world => (cancel_stirs engine id world).still engine .empty

end Desk

/-- A call of the desk. -/
inductive Call where
  /-- A flow is registered. -/
  | register (definition : Value)
  /-- An execution of a flow is started for a subject, with variables. -/
  | start (flow : String) (subject vars : Value)
  /-- A reply of a subject comes in. -/
  | inbound (subject reply : Value)
  /-- Waits whose deadlines lie at or before a moment are ended. -/
  | expire (now : Time.Moment)
  /-- An execution is cancelled. -/
  | cancel (id : String)
  /-- Time passes until a moment. -/
  | wait (moment : Time.Moment)

/-- What a call is answered. -/
inductive Answer where
  /-- The version that was registered. -/
  | version (number : Nat)
  /-- The id of the execution that was started. -/
  | started (id : String)
  /-- The id of the execution that a reply resumed, if it did. -/
  | routed (id : Option String)
  /-- The ids of the executions whose waits were ended. -/
  | expired (ids : List String)
  /-- Whether the execution ended by being cancelled. -/
  | cancelled (done : Bool)
  /-- Nothing. -/
  | none

/-- An engine that keeps executions in the store, as the desk does. -/
def Engine.atDesk (engine : Engine) : Engine := { engine with keeping := .stored }

/-- At the desk executions are kept in the store. -/
theorem Engine.atDesk_keeping (engine : Engine) : engine.atDesk.keeping = .stored := rfl

namespace Call

/-- What the desk does when it is called. -/
def perform (engine : Engine) : Call → Desk Answer
  | register definition => do return .version (← Desk.register engine.atDesk definition)
  | start flow subject vars => do return .started (← Desk.start engine.atDesk flow subject vars)
  | inbound subject reply => do return .routed (← Desk.inbound engine.atDesk subject reply)
  | expire now => do return .expired (← Desk.expire engine.atDesk now)
  | cancel id => do return .cancelled (← Desk.cancel engine.atDesk id)
  | wait moment => do
    modify fun world => { world with clock := moment }
    return .none

/-- A call is a sequence of moves while time stands still, unless it lets time pass. -/
theorem perform_still (engine : Engine) (call : Call) (world : World) :
    (∃ moment, call = .wait moment ∧
      after (call.perform engine) world = { world with clock := moment }) ∨
    Serves engine.atDesk world (after (call.perform engine) world) := by
  cases call with
  | register definition =>
    rw [perform, after_thenPure]
    exact .inr (Desk.register_serves engine.atDesk definition world)
  | start flow subject vars =>
    rw [perform, after_thenPure]
    exact .inr (Desk.start_serves rfl flow subject vars world)
  | inbound subject reply =>
    rw [perform, after_thenPure]
    exact .inr (Desk.inbound_serves rfl subject reply world)
  | expire now =>
    rw [perform, after_thenPure]
    exact .inr (Desk.expire_serves rfl now world)
  | cancel id =>
    rw [perform, after_thenPure]
    exact .inr (Desk.cancel_serves id world)
  | wait moment => exact .inl ⟨moment, rfl, rfl⟩

/-- Every call is a sequence of moves. -/
theorem perform_serves (engine : Engine) (call : Call) (world : World) :
    Moves engine.atDesk ⟨world, .empty⟩ ⟨after (call.perform engine) world, .empty⟩ := by
  rcases perform_still engine call world with ⟨moment, -, passed⟩ | serves
  · rw [passed]
    exact .single (.timed moment)
  · exact serves.moves

/-- The world after calls, one after another, whether they succeed or fail. -/
def runs (engine : Engine) (calls : List Call) (world : World) : World :=
  calls.foldl (fun world call => after (call.perform engine) world) world

/-- A run of calls is a sequence of moves. -/
theorem runs_serves (engine : Engine) (calls : List Call) (world : World) :
    Moves engine.atDesk ⟨world, .empty⟩ ⟨runs engine calls world, .empty⟩ := by
  induction calls generalizing world with
  | nil => exact refl_of _ _
  | cons call rest ih =>
    exact trans_of (Moves engine.atDesk) (perform_serves engine call world) (ih _)

end Call

/-- A store without executions, of either kind. -/
inductive Store.Unused : Store String → Prop where
  /-- A store in memory. -/
  | memory : Unused (.memory .empty)
  /-- A store in tables. -/
  | table : Unused (.table .empty)

/-- An unused store has no records. -/
theorem Store.Unused.records {store : Store String} (unused : store.Unused) :
    store.records = [] := by
  cases unused <;> rfl

/-- A world that a run of calls reaches from an unused store. -/
def World.Reached (engine : Engine) (world : World) : Prop :=
  ∃ clock store calls, Store.Unused store ∧ world = Call.runs engine calls (.start clock store)

/-- What every move keeps holds in every world that is reached. -/
theorem World.Reached.induct {engine : Engine} (invariant : Scene → Prop)
    (starts : ∀ clock store, Store.Unused store → invariant ⟨.start clock store, .empty⟩)
    (keeps : ∀ scene next, Move engine.atDesk scene next → invariant scene → invariant next)
    {world : World} (reached : Reached engine world) : invariant ⟨world, .empty⟩ := by
  obtain ⟨clock, store, calls, unused, rfl⟩ := reached
  exact Moves.keep keeps (Call.runs_serves engine calls (.start clock store))
    (starts clock store unused)

/-- Outside parts that do nothing. -/
def Capabilities.quiet : Capabilities where
  send _ _ _ := .none
  generate := none
  retrieve := none
  watch _ := .none
  extensions := []

/-- An engine with the usual limits, quiet outside parts and a store that refuses nothing. -/
def Engine.quiet : Engine where
  settings := .standard
  capabilities := .quiet
  keeping := .stored
  refusal _ _ := none

/-- The definition of a flow that asks, waits for an answer and ends. -/
def Flow.greeting : Value :=
  let part (texts : List (String × String)) : Value :=
    .dict (texts.map fun (key, text) => (.text key, .text text))
  let node (id type key text : String) : Value :=
    .dict [(.text "id", .text id), (.text "type", .text type), (.text "data", part [(key, text)])]
  let edge (source target : String) : Value := part [("source", source), ("target", target)]
  .dict [
    (.text "id", .text "greeting"),
    (.text "nodes", .list [
      part [("id", "hello"), ("type", "start")],
      node "ask" "message" "text" "How are you?",
      node "answer" "wait" "keywords" "fine, well",
      part [("id", "bye"), ("type", "end")]]),
    (.text "edges", .list [edge "hello" "ask", edge "ask" "answer", edge "answer" "bye"])]

/-- The world in which a subject was asked and has not answered. -/
def World.asked : World :=
  Call.runs .quiet [.register Flow.greeting, .start "greeting" (.text "+31 6") .null]
    (.start default (.memory .empty))

/-- A run of calls reaches the world in which a subject was asked. -/
theorem World.asked_reached : Reached .quiet asked := ⟨_, _, _, .memory, rfl⟩

end Parley
