import Parley.Proofs.Registrations

/-!
# Opening the desk anew between calls

Between calls the desk holds nothing, steps nothing, and no request to cancel is made: only the
store and the flows matter for what comes later. So a desk that is opened anew over the same store,
with the same flows registered in the same order, answers every later call as the old one would
have.
-/

namespace Parley

open Parley.Computation World

/-- The world after the desk was opened anew with flows: requests to cancel and holds are
forgotten. -/
def World.anew (world : World) (flows : Flow.Registry) : World :=
  { world with
    flows
    signals := []
    subjects := .empty
    executions := .empty
    closed := false }

/-- Opening the desk anew registers the flows that the definitions describe. -/
theorem Desk.reopen_apply {engine : Engine} {definitions : List Value} {flows : Flow.Registry}
    (described : flowsOf engine definitions = .ok flows) (world : World) :
    reopen engine definitions world = .ok () (world.anew flows) := by
  unfold reopen
  rw [described]
  rfl

/-- A world in which nothing is left over is a twin of the world after the desk was opened anew with
the same flows, if the store took what it was given. -/
theorem World.Calm.twin_anew {flows : Flow.Registry} {world : World}
    (calm : Calm flows none .empty .empty world) (taken : world.Taken) :
    Twin flows flows world (world.anew flows) := by
  refine ⟨fun _ _ => rfl, calm.flows, ⟨[], ?_⟩, fun id => (calm.raised_eq taken id).symm⟩
  simp only [anew, calm.subjects, calm.executions, calm.closed]

namespace Call

variable (engine : Engine)

/-- The definition that a call registers, if it is accepted. -/
def definition? : Call → Option Value
  | register definition =>
    if (Flow.load (engine.capabilities.extensions.map Prod.fst) definition).isOk then
      some definition
    else Option.none
  | _ => Option.none

/-- The definitions that calls register, in order. -/
def definitions (calls : List Call) : List Value := calls.filterMap (definition? engine)

/-- How calls end, one after another. -/
def outcomes : List Call → World → List (Except Failure Answer)
  | [], _ => []
  | call :: rest, world =>
    call.outcome engine world :: outcomes rest (after (call.perform engine) world)

/-- The definitions that calls register describe the flows that they register. -/
theorem flowsOf_definitions (calls : List Call) :
    Desk.flowsOf engine.atDesk (definitions engine calls) =
      .ok ((registered engine calls).foldl Flow.Registry.add .empty) := by
  unfold Desk.flowsOf
  generalize Flow.Registry.empty = flows
  induction calls generalizing flows with
  | nil => rfl
  | cons call rest ih =>
    simp only [definitions, registered] at ih ⊢
    cases call with
    | register definition =>
      rw [List.filterMap_cons, List.filterMap_cons, definition?, graph?]
      cases loaded : Flow.load (engine.capabilities.extensions.map Prod.fst) definition with
      | error failure => exact ih flows
      | ok graph =>
        have loads : Flow.load (engine.atDesk.capabilities.extensions.map Prod.fst) definition =
            .ok graph := loaded
        simp only [Except.isOk, Except.toBool, if_pos, List.foldlM_cons, loads]
        exact ih (flows.add graph)
    | start | inbound | expire | cancel | wait => exact ih flows

/-- Every call runs in parallel in twins with the same flows. -/
theorem perform_parallel (call : Call) :
    Parallel (fun left right => ∃ flows, Twin flows flows left right) (call.perform engine) := by
  rintro left right ⟨flows, twin⟩
  have onwards (onward : Onward call) :=
    (onward_parallel engine onward flows flows left right twin).weaken fun _ _ related =>
      (⟨flows, related⟩ : ∃ flows, Twin flows flows _ _)
  cases call with
  | register definition =>
    refine Alike.thenPure ?_
    rw [Desk.register_apply, Desk.register_apply]
    obtain ⟨-, rfl, ⟨signals, rfl⟩, raised⟩ := twin
    cases Flow.load (engine.atDesk.capabilities.extensions.map Prod.fst) definition with
    | error failure => exact .error ⟨left.flows, fun _ _ => rfl, rfl, ⟨signals, rfl⟩, raised⟩
    | ok graph => exact .ok ⟨left.flows.add graph, fun _ _ => rfl, rfl, ⟨signals, rfl⟩, raised⟩
  | start flow subject vars =>
    have started := Desk.start_parallel (twin_footing flows flows)
      (twin_births engine.atDesk_keeping flows) .empty .empty flow subject vars trivial
      left right twin
    exact (started.weaken fun _ _ related => ⟨flows, related⟩).thenPure
  | inbound subject reply => exact onwards (.inbound subject reply)
  | expire now => exact onwards (.expire now)
  | cancel id => exact onwards (.cancel id)
  | wait moment => exact .ok ⟨flows, twin.congr rfl rfl rfl fun _ alike => by rw [alike]⟩

/-- Calls end alike in twins with the same flows, one after another, and leave twins. -/
theorem outcomes_twin (calls : List Call) {left right : World}
    (twin : ∃ flows, Twin flows flows left right) :
    outcomes engine calls right = outcomes engine calls left ∧
      ∃ flows, Twin flows flows (runs engine calls left) (runs engine calls right) := by
  induction calls generalizing left right with
  | nil => exact ⟨rfl, twin⟩
  | cons call rest ih =>
    have alike := perform_parallel engine call left right twin
    obtain ⟨same, later⟩ := ih alike.after
    refine ⟨?_, later⟩
    rw [outcomes, outcomes, outcome_eq alike, same]

end Call

end Parley
