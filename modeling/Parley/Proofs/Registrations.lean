import Parley.Proofs.Twins
import Parley.Proofs.Upkeep

/-!
# Registering flows while executions run

A flow that is registered gets the next version of its id, and keeps it whatever is called later.
The worlds with and without it are twins, since every record is of a version that was registered
before. So replies, expired waits and cancellations come to the same in both.
-/

namespace Parley

open Parley.Computation World

namespace Flow.Registry

/-- The versions of an id after graphs were added one after another. -/
theorem versionsOf_foldl (graphs : List Graph) (registry : Registry) (id : String) :
    (graphs.foldl add registry).versionsOf id =
      registry.versionsOf id ++ graphs.filter fun graph => graph.id == id := by
  induction graphs generalizing registry with
  | nil => simp
  | cons graph rest ih =>
    rw [List.foldl_cons, ih, versionsOf_add, List.append_assoc, List.filter_cons]
    by_cases same : graph.id = id
    · simp [same]
    · simp [same, Ne.symm same]

/-- A version stays when graphs are added one after another. -/
theorem get_foldl {registry : Registry} {id : String} {version : Int} {graph : Graph}
    (had : registry.get id version = .ok graph) (graphs : List Graph) :
    (graphs.foldl add registry).get id version = .ok graph := by
  induction graphs generalizing registry with
  | nil => exact had
  | cons added rest ih => exact ih (get_add had added)

/-- The version that is told for a graph is the one in which it can be had. -/
theorem get_register (registry : Registry) (graph : Graph) :
    (registry.register graph).2.get graph.id (registry.register graph).1 = .ok graph := by
  have newest : (registry.add graph).latest graph.id =
      .ok (graph, ((registry.add graph).versionsOf graph.id).length) := by
    have last : ((registry.add graph).versionsOf graph.id).getLast? = some graph := by
      rw [versionsOf_add, if_pos rfl]
      simp
    simp only [latest, last]
  exact (get_latest newest).2

end Flow.Registry

namespace Call

variable (engine : Engine)

/-- How a call ends: with an answer, or with a failure. -/
def outcome (call : Call) (world : World) : Except Failure Answer :=
  match call.perform engine world with
  | .ok answer _ => .ok answer
  | .error failure _ => .error failure

variable {engine} in
/-- Calls that end alike end in the same way. -/
theorem outcome_eq {rel : World → World → Prop} {call : Call} {left right : World}
    (alike : Alike rel (call.perform engine left) (call.perform engine right)) :
    call.outcome engine right = call.outcome engine left := by
  unfold outcome
  generalize call.perform engine left = one, call.perform engine right = other at alike
  cases alike <;> rfl

/-- A call takes stored executions further: it routes a reply, ends waits or cancels. -/
inductive Onward : Call → Prop where
  /-- It routes a reply. -/
  | inbound (subject reply : Value) : Onward (.inbound subject reply)
  /-- It ends waits. -/
  | expire (now : Time.Moment) : Onward (.expire now)
  /-- It cancels an execution. -/
  | cancel (id : String) : Onward (.cancel id)

/-- Calls that take stored executions further run in parallel in twins. -/
theorem onward_parallel {call : Call} (onward : Onward call) (flows others : Flow.Registry) :
    Parallel (Twin flows others) (call.perform engine) := by
  have ties := twin_ties engine.atDesk_keeping flows others
  cases onward with
  | inbound subject reply =>
    exact fun left right twin =>
      (Desk.inbound_alike ties .empty .empty twin (by rw [twin.store]) (fun _ _ => trivial)
        reply).thenPure
  | expire now =>
    exact fun left right twin =>
      (Desk.expire_parallel ties .empty .empty (fun _ => trivial)
        (fun twin => by rw [twin.store]) left right twin).thenPure
  | cancel id =>
    exact fun left right twin => (twin_cancels engine.atDesk id left right twin).thenPure

/-- A registered flow stays in its version whatever is called later. -/
theorem get_runs {flows : Flow.Registry} {world : World}
    (calm : Calm flows none .empty .empty world) {id : String} {version : Int} {graph : Flow.Graph}
    (had : flows.get id version = .ok graph) (calls : List Call) :
    (runs engine calls world).flows.get id version = .ok graph := by
  rw [(runs_calm engine calls calm).flows]
  exact Flow.Registry.get_foldl had _

/-- What comes of a call that takes stored executions further is the same with a flow that is
registered before it: the answer, the store, the calls of the sender and the effects. -/
theorem onward_registered {world : World} (reached : Reached engine world) (graph : Flow.Graph)
    {call : Call} (onward : Onward call) :
    let registered := { world with flows := world.flows.add graph }
    call.outcome engine registered = call.outcome engine world ∧
      (after (call.perform engine) registered).store = (after (call.perform engine) world).store ∧
      (after (call.perform engine) registered).sends = (after (call.perform engine) world).sends ∧
      (after (call.perform engine) registered).journal =
        (after (call.perform engine) world).journal := by
  intro registered
  -- Every record is of a version that was registered before, and that one stays what it was.
  have twin : Twin world.flows (world.flows.add graph) world registered := by
    refine ⟨fun record member => ?_, rfl, ⟨world.signals, rfl⟩, fun _ => rfl⟩
    obtain ⟨known, had⟩ := reached.upheld.known record member
    exact (Flow.Registry.get_add had graph).trans had.symm
  have alike := onward_parallel engine onward world.flows (world.flows.add graph) world registered
    twin
  obtain ⟨signals, same⟩ := alike.after.same
  rw [same]
  exact ⟨outcome_eq alike, rfl, rfl, rfl⟩

/-- Registering a definition after calls over an unused store: one that is rejected changes nothing.
One that is accepted is the next version of its id, counted over the calls, and that version is it
whatever is called later; and replies, expired waits and cancellations come to the same with and
without it. -/
theorem register_spares_runs (clock : Time.Moment) (store : Store String) (unused : store.Unused)
    (calls : List Call) (definition : Value) :
    let world := runs engine calls (.start clock store)
    match Flow.load (engine.capabilities.extensions.map Prod.fst) definition with
    | .error failure => (register definition).perform engine world = .error failure world
    | .ok graph =>
      let version := ((registered engine calls).filter fun other => other.id == graph.id).length + 1
      let added := { world with flows := world.flows.add graph }
      (register definition).perform engine world = .ok (.version version) added ∧
      (∀ later, (runs engine later added).flows.get graph.id version = .ok graph) ∧
      ∀ call, Onward call →
        call.outcome engine added = call.outcome engine world ∧
        (after (call.perform engine) added).store = (after (call.perform engine) world).store ∧
        (after (call.perform engine) added).sends = (after (call.perform engine) world).sends ∧
        (after (call.perform engine) added).journal =
          (after (call.perform engine) world).journal := by
  intro world
  have calm : Calm ((registered engine calls).foldl Flow.Registry.add .empty) none .empty .empty
      world := runs_calm engine calls (start_calm clock store)
  have registers : (register definition).perform engine world =
      ((do return .version (← Desk.register engine.atDesk definition) : Desk Answer)) world := rfl
  rw [registers, bind_apply, Desk.register_apply]
  simp only [Engine.atDesk]
  cases Flow.load (engine.capabilities.extensions.map Prod.fst) definition with
  | error failure => rfl
  | ok graph =>
    have before : world.flows.versionsOf graph.id =
        (registered engine calls).filter fun other => other.id == graph.id := by
      rw [calm.flows, Flow.Registry.versionsOf_foldl]
      rfl
    have counted : (world.flows.register graph).1 =
        ((registered engine calls).filter fun other => other.id == graph.id).length + 1 := by
      change ((world.flows.add graph).versionsOf graph.id).length = _
      rw [Flow.Registry.versionsOf_add, if_pos rfl, before, List.length_append]
      rfl
    dsimp only
    rw [← counted]
    refine ⟨rfl, fun later => ?_, fun call onward =>
      onward_registered engine ⟨clock, store, calls, unused, rfl⟩ graph onward⟩
    have grown : Calm (world.flows.add graph) none .empty .empty
        { world with flows := world.flows.add graph } :=
      ⟨calm.counted, rfl, calm.closed, calm.subjects, calm.executions, calm.idle, calm.stored,
        calm.unset, calm.unended⟩
    exact get_runs engine grown (Flow.Registry.get_register world.flows graph) later

end Call

/-- The flow of a subject that was asked is registered again as its second version; the answer still
completes the execution of the first. -/
theorem World.asked_register_spares_runs :
    Store.Unused (.memory .empty) ∧
      ∃ graph, Flow.load [] Flow.greeting = .ok graph ∧
        let added := { asked with flows := asked.flows.add graph }
        (Call.register Flow.greeting).perform .quiet asked = .ok (.version 2) added ∧
        ∃ record ∈ (after (Call.perform .quiet (.inbound (.text "316") (.text "Fine!")))
          added).store.records, record.status = .completed ∧ record.version = 1 := by
  have spares := Call.register_spares_runs .quiet default (.memory .empty) .memory
    [.register Flow.greeting, .start "greeting" (.text "+31 6") .null] Flow.greeting
  have completed : ∃ record ∈ (after (Call.perform .quiet (.inbound (.text "316") (.text "Fine!")))
      asked).store.records, record.status = .completed ∧ record.version = 1 := by decide +kernel
  have extensions : Engine.quiet.capabilities.extensions.map Prod.fst = [] := rfl
  cases loaded : Flow.load [] Flow.greeting with
  | error failure =>
    have accepted : (Flow.load [] Flow.greeting).isOk = true := by decide +kernel
    rw [loaded] at accepted
    cases accepted
  | ok graph =>
    simp only [extensions, loaded] at spares
    obtain ⟨registers, -, onward⟩ := spares
    have counted : ((Call.registered .quiet [.register Flow.greeting,
        .start "greeting" (.text "+31 6") .null]).filter fun other =>
          other.id == graph.id).length = 1 := by
      simp [Call.registered, Call.graph?, extensions, loaded, Except.toOption]
    rw [counted] at registers
    refine ⟨.memory, graph, rfl, registers, ?_⟩
    have stored := (onward (.inbound (.text "316") (.text "Fine!")) (.inbound _ _)).2.1
    exact stored ▸ completed

end Parley
