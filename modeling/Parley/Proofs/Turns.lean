import Parley.Proofs.History

/-!
# Turns of executions

While the desk works on one execution, guarded, it offers nothing but that execution to the store.
So what the rest of the world is like withstands the turn of an execution, up to what the outside
parts ask to be cancelled meanwhile.
-/

namespace Parley

open Parley.Computation World

/-- The session that a result leaves. -/
def leftBy {α : Type} : EStateM.Result Failure Session α → Session
  | .ok _ left => left
  | .error _ left => left

/-- What a computation leaves is left by its result. -/
theorem leftBy_apply {α : Type} (action : Run α) (session : Session) :
    leftBy (action session) = after action session := by
  unfold after leftBy
  cases action session <;> rfl

/-- What holds of a world is kept when the world is astir, and when executions of other ids than one
are offered. -/
structure World.Withstands (engine : Engine) (id : String) (holds : World → Prop) : Prop where
  /-- It is kept when the world is astir. -/
  astir : ∀ {before after}, Astir engine before after → holds before → holds after
  /-- It is kept when executions of other ids are offered. -/
  offered : ∀ {execution before taken after}, execution.id ≠ id →
    Offered execution before taken after → holds before → holds after

namespace World.Withstands

variable {engine : Engine} {graph : Flow.Graph} {id : String} {holds : World → Prop}
  (withstands : Withstands engine id holds) (stored : engine.keeping = .stored)
include withstands

/-- It is kept by what is beside the executions. -/
theorem beside {before after : World} (same : Beside before after) (held : holds before) :
    holds after := withstands.astir (same.astir engine) held

include stored

/-- It is kept when executions of other ids are kept. -/
theorem kept {execution : Execution String} {before stirred after : World} {taken : Bool}
    (apart : execution.id ≠ id) (stir : Astir engine before stirred)
    (kept : Kept engine execution stirred taken after) (held : holds before) : holds after :=
  withstands.offered apart (kept.offer stored) (withstands.astir stir held)

/-- It is kept by rounds of other executions. -/
theorem rounds {start left : Session} (rounds : Tick.Rounds engine graph start left)
    (apart : start.execution.id ≠ id) (held : holds start.world) : holds left.world := by
  induction rounds with
  | refl => exact held
  | @tail middle left before goes ih =>
    obtain ⟨stirred, stir, kept⟩ := goes.kept
    have named : left.execution.id = start.execution.id :=
      goes.round.continues.id.trans (Tick.Rounds.continues before).id
    exact withstands.kept stored (named ▸ apart) stir kept ih

/-- It is kept by work on other executions, however it ends. -/
theorem works {α : Type} {handed : Execution String} {world : World}
    {result : EStateM.Result Failure Session α}
    (works : Tick.Works engine graph handed world result) (apart : handed.id ≠ id)
    (held : holds world) : holds (leftBy result).world := by
  cases works with
  | @taken stirred left result stir kept tours =>
    have opened := withstands.kept stored apart stir kept held
    cases tours with
    | rested rounds rests => exact withstands.rounds stored rounds apart opened
    | @failed steps middle left failure rounds runs round =>
      have met := withstands.rounds stored rounds apart opened
      cases round with
      | lost missing => exact met
      | refused round stir kept raised =>
        have named := round.continues.id.trans (Tick.Rounds.continues rounds).id
        exact withstands.kept stored (named ▸ apart) stir kept met
  | refused stir kept raised => exact withstands.kept stored apart stir kept held

/-- It is kept by guarded work on other executions. -/
theorem guarded {execution handed : Execution String} {work : Run Status} {world : World}
    (works : ∀ held, Beside world held →
      Tick.Works engine graph handed held (work ⟨execution, held⟩))
    (same : handed.id = execution.id) (apart : execution.id ≠ id) (holding : holds world) :
    holds (after (Desk.guarded engine execution work) world) := by
  obtain ⟨held, left, beside, done, guards⟩ := Desk.guarded_ends engine execution work world
  rw [after_of_ok done]
  have worked := withstands.works stored (works held beside) (same ▸ apart)
    (withstands.beside beside holding)
  generalize work ⟨execution, held⟩ = result at worked guards
  cases guards with
  | rested same => exact withstands.beside same worked
  | @failed failure session closed noted left before noting same =>
    refine withstands.beside same ?_
    have met := withstands.beside before worked
    cases noting with
    | spared spare => exact met
    | @crashed record taken noted read runs offered =>
      have named : (record.crashed failure closed.clock).id = execution.id :=
        (record.crashed_continues failure closed.clock).id.trans (Store.mem_of_get read).2
      exact withstands.offered (named ▸ apart) offered met

/-- It is kept when the waits of other executions are looked after. -/
theorem attended {other : String} {world left : World} (apart : other ≠ id)
    (attended : Desk.Attended engine other world left) (held : holds world) : holds left := by
  cases attended with
  | passed same => exact withstands.beside same held
  | @kept stood noted left record reply taken entered read waits offered same =>
    have named : record.id = other := (Store.mem_of_get read).2
    have met := withstands.beside entered held
    exact withstands.beside same (withstands.offered (named ▸ apart) offered met)
  | @roused stood left record graph vars label reason reply entered read waits had same =>
    have named : record.id = other := (Store.mem_of_get read).2
    let execution := { record with vars }
    have waiting : execution.status = .waiting := waits
    have works (standing : World) (beside : Beside stood standing) :
        Tick.Works engine graph (execution.resumed graph label reason reply stood.clock) standing
          (Tick.resume engine graph (.text label) (.text reason) reply true
            ⟨execution, standing⟩) := by
      rw [← beside.clock]
      exact Tick.resume_works engine graph label reason reply true waiting standing
    have went := execution.resumed_continues graph label reason reply stood.clock
    have met := withstands.beside entered held
    exact withstands.beside same (withstands.guarded stored works went.id (named ▸ apart) met)

end World.Withstands

end Parley
