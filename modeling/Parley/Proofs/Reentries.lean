import Parley.Proofs.Agreement
import Parley.Proofs.Timeouts
import Parley.Proofs.Walks

/-!
# How waits are left

A wait is taken up along a label. The execution goes on at the target of the edge of that label, or
else of the edge without a label, and where there is neither it is complete. An edge of the label
that leads to the node of the empty name is passed over, as if there were none.
-/

namespace Parley

open Parley.Computation World

namespace Flow.Graph

variable {graph : Graph} {node label target : String}

/-- An edge of the label is taken, if it leads to a node that has a name. -/
theorem Sound.onward_labelled (sound : graph.Sound) (joins : graph.Joins node (some label) target)
    (named : target ≠ "") : graph.onward node label = some target := by
  have leads : graph.successor node (some label) = some target := sound.successor_eq_some.mpr joins
  simp [onward, leads, named]

/-- Without such an edge the edge without a label is taken. -/
theorem Sound.onward_plain (sound : graph.Sound)
    (passed : ∀ target, graph.Joins node (some label) target → target = "") :
    graph.onward node label = graph.successor node none := by
  cases found : graph.successor node (some label) with
  | none => simp [onward, found]
  | some target =>
    have nameless : target = "" := passed target (sound.successor_eq_some.mp found)
    rw [onward, found, nameless]
    rfl

/-- An edge leads to a node of the graph. -/
theorem Sound.joins_mem (sound : graph.Sound) {label : Option String}
    (joins : graph.Joins node label target) : ∃ own ∈ graph.nodes, own.id = target := by
  obtain ⟨edge, member, -, -, rfl⟩ := joins
  exact List.mem_map.mp (sound.ends edge member).2

end Flow.Graph

namespace Tick

variable {engine : Engine} {graph : Flow.Graph} {watched : Bool}

/-- How an execution goes on from where it is handed over: with a tick if it is kept, and else with
the failure of the store. -/
inductive GoesOn (engine : Engine) (graph : Flow.Graph) (watched : Bool)
    (handed : Execution String) (world : World) : EStateM.Result Failure Session Status → Prop where
  /-- It is kept. -/
  | kept {stirred left : World} (stir : Astir engine world stirred)
    (kept : Kept engine handed stirred true left) :
    GoesOn engine graph watched handed world (tick engine graph watched ⟨handed, left⟩)
  /-- It is refused. -/
  | refused {stirred left : World} {failure : Failure} (stir : Astir engine world stirred)
    (kept : Kept engine handed stirred false left)
    (raised : Desk.saved engine handed stirred = .error failure) :
    GoesOn engine graph watched handed world (.error failure ⟨handed, left⟩)

/-- The tick of a session visits a node before others, unless the session was asked to stop or the
budget allows no visit. -/
def Begins (engine : Engine) (graph : Flow.Graph) (watched : Bool) (node : Flow.Node String)
    (session : Session) : Prop :=
  (watched && session.world.interrupted) = false → ¬engine.settings.budget.le (.int 0) →
    tick engine graph watched session = (do
      if ← visit engine graph node then
        visits engine graph watched (fuelOf engine.settings.budget - 1) 1
      return (← Run.execution).status : Run Status) session

/-- An execution that runs again goes on at a node of the graph, which is visited before others. -/
structure Reenters (engine : Engine) (graph : Flow.Graph) (watched : Bool)
    (running : Execution String) (target : String) (world : World)
    (result : EStateM.Result Failure Session Status) : Prop where
  /-- It goes on from there. -/
  goesOn : GoesOn engine graph watched (running.movedTo target world.clock) world result
  /-- The node is visited before others. -/
  begins : ∃ own ∈ graph.nodes, own.id = target ∧
    ∀ left, Begins engine graph watched own ⟨running.movedTo target world.clock, left⟩

/-- The tick of a running execution visits the node at which it stands before others. -/
theorem tick_begins {node : Flow.Node String} {session : Session}
    (running : session.execution.status = .running)
    (found : session.execution.node.bind graph.node? = some node) :
    Begins engine graph watched node session := by
  intro unasked affordable
  have visited : Tick.round engine graph watched 0 session = visit engine graph node session := by
    rw [round_of_affordable engine graph watched unasked affordable,
      proceed_of_found engine graph found]
  rw [tick_of_running engine graph watched running]
  change ((visits engine graph watched (fuelOf engine.settings.budget - 1 + 1) 0 >>= _) session) = _
  rw [visits_succ, bind_assoc, bind_apply, bind_apply, visited]
  cases visit engine graph node session with
  | error => rfl
  | ok goesOn left => cases goesOn <;> rfl

/-- A tick ends with the status of the execution. -/
theorem tick_status {session left : Session} {status : Status}
    (ended : tick engine graph watched session = .ok status left) :
    status = left.execution.status := by
  by_cases running : session.execution.status = .running
  · rw [tick_of_running engine graph watched running] at ended
    obtain ⟨_, last, -, returned⟩ := bind_ended ended
    cases returned
    rfl
  · rw [tick_of_resting engine graph watched running] at ended
    cases ended
    rfl

/-- What hands an execution over, and is followed by a tick, lets the execution go on. -/
theorem goesOn_of_hands {handed : Execution String} {world : World} {action : Run Unit}
    {session : Session} (hands : Hands engine handed () world (action session)) :
    GoesOn engine graph watched handed world
      ((do
        action
        let _ ← tick engine graph watched
        return (← Run.execution).status : Run Status) session) := by
  rw [bind_apply]
  generalize action session = result at hands
  cases hands with
  | refused stir kept raised => exact .refused stir kept raised
  | @taken stirred left stir kept =>
    have same : (do
        let _ ← tick engine graph watched
        return (← Run.execution).status : Run Status) ⟨handed, left⟩ =
        tick engine graph watched ⟨handed, left⟩ := by
      rw [bind_apply]
      cases ended : tick engine graph watched ⟨handed, left⟩ with
      | error => rfl
      | ok status last =>
        rw [tick_status ended]
        rfl
    simp only [same]
    exact .kept stir kept

section Resuming

variable {execution : Execution String} {node : String}

/-- An execution goes on at the node where its wait leads. -/
theorem resume_reenters (sound : graph.Sound) (waits : execution.status = .waiting)
    (stands : execution.node = some node) {label : String} {edge : Option String} {target : String}
    (joins : graph.Joins node edge target) (leads : graph.onward node label = some target)
    (engine : Engine) (reason : String) (reply : Value) (watched : Bool) (world : World) :
    Reenters engine graph watched (execution.rerun label reason reply world.clock) target world
      (resume engine graph (.text label) (.text reason) reply watched ⟨execution, world⟩) := by
  obtain ⟨stirred, stir, -, -, goes⟩ :=
    resume_opens engine graph label reason reply watched waits world
  have along : execution.node.bind (graph.onward · label) = some target := by
    rw [stands, Option.bind_some, leads]
  obtain ⟨own, member, named⟩ := sound.joins_mem joins
  refine ⟨?_, own, member, named, fun left => tick_begins rfl ?_⟩
  · have hands := Run.moveTo_hands engine target
      (execution.rerun label reason reply world.clock) stirred
    rw [stir.clock] at hands
    rw [goes target along]
    exact goesOn_of_hands (hands.before stir)
  · rw [← named]
    exact sound.node?_self member

/-- An execution whose wait leads nowhere is complete. -/
theorem resume_completes (waits : execution.status = .waiting)
    (stands : execution.node = some node) {label : String}
    (ends : graph.onward node label = none) (engine : Engine) (reason : String) (reply : Value)
    (watched : Bool) (world : World) :
    Hands engine ((execution.rerun label reason reply world.clock).ended .completed world.clock)
      .completed world
      (resume engine graph (.text label) (.text reason) reply watched ⟨execution, world⟩) := by
  obtain ⟨stirred, stir, -, completes, -⟩ :=
    resume_opens engine graph label reason reply watched waits world
  have nowhere : execution.node.bind (graph.onward · label) = none := by
    rw [stands, Option.bind_some, ends]
  let running := execution.rerun label reason reply world.clock
  have hands : Hands engine (running.ended .completed stirred.clock) () stirred
      (Run.complete engine ⟨running, stirred⟩) := Run.complete_hands engine rfl stirred
  rw [stir.clock] at hands
  rw [completes nowhere, bind_apply]
  generalize Run.complete engine ⟨_, stirred⟩ = completed at hands ⊢
  cases hands.before stir with
  | taken more kept => exact .taken more kept
  | refused more kept raised => exact .refused more kept raised

/-- A wait of a graph that was loaded is taken up along a label. If the edge of the label leads to a
node that has a name, the execution goes on there. Else it goes on where the edge without a label
leads, and is complete if there is no such edge. -/
theorem resume_takes_edge {extensions : Flow.Extensions} {raw : Value}
    (loaded : Flow.load extensions raw = .ok graph) {execution : Execution String} {node : String}
    (waits : execution.status = .waiting) (stands : execution.node = some node) (engine : Engine)
    (label reason : String) (reply : Value) (watched : Bool) (world : World) :
    let running := execution.rerun label reason reply world.clock
    let result :=
      resume engine graph (.text label) (.text reason) reply watched ⟨execution, world⟩
    (∀ target, graph.Joins node (some label) target → target ≠ "" →
      Reenters engine graph watched running target world result) ∧
    ((∀ target, graph.Joins node (some label) target → target = "") →
      (∀ target, graph.Joins node none target →
        Reenters engine graph watched running target world result) ∧
      ((∀ target, ¬graph.Joins node none target) →
        Hands engine (running.ended .completed world.clock) .completed world result)) := by
  intro running result
  have sound := Flow.load_sound loaded
  refine ⟨fun target joins named => ?_, fun passed => ⟨fun target joins => ?_, fun alone => ?_⟩⟩
  · have leads : graph.onward node label = some target := sound.onward_labelled joins named
    exact resume_reenters sound waits stands joins leads engine reason reply watched world
  · have leads : graph.onward node label = some target :=
      (sound.onward_plain passed).trans (sound.successor_eq_some.mpr joins)
    exact resume_reenters sound waits stands joins leads engine reason reply watched world
  · have ends : graph.onward node label = none := by
      rw [sound.onward_plain passed, Option.eq_none_iff_forall_not_mem]
      exact fun target leads => alone target (sound.successor_eq_some.mp leads)
    exact resume_completes waits stands ends engine reason reply watched world

end Resuming

/-- A flow that asks, and goes on at a node along yes, at another without a label, or at none. -/
def forking (target : String) (plain : Bool) : Value :=
  .dict [(.text "id", .text "forking"),
    (.text "nodes", .list [
      .dict [(.text "id", .text "in"), (.text "type", .text "start")],
      .dict [(.text "id", .text "ask"), (.text "type", .text "wait")],
      .dict [(.text "id", .text target), (.text "type", .text "end")],
      .dict [(.text "id", .text "else"), (.text "type", .text "end")]]),
    (.text "edges", .list ([
      .dict [(.text "source", .text "in"), (.text "target", .text "ask")],
      .dict [(.text "source", .text "ask"), (.text "target", .text target),
        (.text "label", .text Flow.yes)]] ++
      if plain then [.dict [(.text "source", .text "ask"), (.text "target", .text "else")]]
      else []))]

/-- An execution that waits at the question. -/
def asker : Session where
  execution := Store.waitingRun
  world := sleeper.world

/-- Along yes the execution goes on at the target of yes, along no at the other target, and without
that it is complete. -/
theorem forking_reentered :
    ∃ graph other, Flow.load [] (forking "said" true) = .ok graph ∧
      Flow.load [] (forking "said" false) = .ok other ∧
      asker.execution.status = .waiting ∧ asker.execution.node = some "ask" ∧
      Reenters .keepless graph false
        (asker.execution.rerun Flow.yes "reply" (.text "hi") asker.world.clock) "said" asker.world
        (resume .keepless graph (.text Flow.yes) (.text "reply") (.text "hi") false asker) ∧
      Reenters .keepless graph false
        (asker.execution.rerun Flow.no "timeout" .null asker.world.clock) "else" asker.world
        (resume .keepless graph (.text Flow.no) (.text "timeout") .null false asker) ∧
      Hands .keepless ((asker.execution.rerun Flow.no "timeout" .null
        asker.world.clock).ended .completed asker.world.clock) .completed asker.world
        (resume .keepless other (.text Flow.no) (.text "timeout") .null false asker) := by
  let graph := (Flow.load [] (forking "said" true)).toOption.getD default
  let other := (Flow.load [] (forking "said" false)).toOption.getD default
  have loaded : Flow.load [] (forking "said" true) = .ok graph :=
    ok_of_toOption (by decide +kernel)
  have otherLoaded : Flow.load [] (forking "said" false) = .ok other :=
    ok_of_toOption (by decide +kernel)
  have said : graph.Joins "ask" (some Flow.yes) "said" :=
    ⟨⟨"e1-ask-said", "ask", "said", some Flow.yes⟩, by decide +kernel⟩
  have spared : ∀ edge ∈ graph.edges, edge.source = "ask" → edge.label ≠ some Flow.no := by
    decide +kernel
  have unspoken : ∀ edge ∈ other.edges, edge.source = "ask" → edge.label = some Flow.yes := by
    decide +kernel
  have plain : graph.Joins "ask" none "else" :=
    ⟨⟨"e2-ask-else", "ask", "else", none⟩, by decide +kernel⟩
  have waits : asker.execution.status = .waiting := rfl
  have stands : asker.execution.node = some "ask" := rfl
  obtain ⟨along, -⟩ := resume_takes_edge loaded waits stands .keepless Flow.yes "reply"
    (.text "hi") false asker.world
  obtain ⟨-, without⟩ := resume_takes_edge loaded waits stands .keepless Flow.no "timeout" .null
    false asker.world
  obtain ⟨-, alone⟩ := resume_takes_edge otherLoaded waits stands .keepless Flow.no "timeout"
    .null false asker.world
  refine ⟨graph, other, loaded, otherLoaded, waits, stands, along "said" said (by decide), ?_, ?_⟩
  · refine (without ?_).1 "else" plain
    rintro target ⟨edge, member, source, label, -⟩
    exact absurd label (spared edge member source)
  · refine (alone ?_).2 ?_
    · rintro target ⟨edge, member, source, label, -⟩
      rw [unspoken edge member source] at label
      exact absurd label (by decide)
    · rintro target ⟨edge, member, source, label, -⟩
      rw [unspoken edge member source] at label
      cases label

/-- The status of a result, and the nodes of which the log tells that their visits began. -/
def outcome (result : EStateM.Result Failure Session Status) :
    Option (Status × List (Option String)) :=
  match result with
  | .ok status left => some (status,
      (left.execution.log.filter fun entry => entry.event == .nodeStart).map Entry.node)
  | .error _ _ => none

/-- The edge of yes leads to the node of the empty name, but the execution is complete without a
visit there, or goes on where the edge without a label leads. -/
theorem nameless_target_passed_over :
    ([false, true].map fun plain => (Flow.load [] (forking "" plain)).toOption.map fun graph =>
      (graph.successor "ask" (some Flow.yes), outcome
        (resume .keepless graph (.text Flow.yes) (.text "reply") (.text "hi") false asker))) =
      [some (some "", some (.completed, [])),
        some (some "", some (.completed, [some "else"]))] := by
  decide +kernel

end Tick

end Parley
