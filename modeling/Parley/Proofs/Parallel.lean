import Parley.Desk
import Parley.Proofs.Computation

/-!
# Computations side by side

A computation is run twice, from two states that are related. It runs in parallel if both runs end
alike, with the same value or the same failure, in states that are related again. The rules here
take such a pair of runs apart; a property of one run is the case of two runs from one state that
has the property.
-/

namespace Parley.Computation

variable {σ α β : Type} {rel weaker : σ → σ → Prop}

/-- Two runs end alike: with the same value or the same failure, in related states. -/
inductive Alike (rel : σ → σ → Prop) :
    EStateM.Result Failure σ α → EStateM.Result Failure σ α → Prop where
  /-- Both end with a value. -/
  | ok {value : α} {left right : σ} (related : rel left right) :
    Alike rel (.ok value left) (.ok value right)
  /-- Both fail. -/
  | error {failure : Failure} {left right : σ} (related : rel left right) :
    Alike rel (.error failure left) (.error failure right)

/-- A computation ends alike from related states. -/
def Parallel (rel : σ → σ → Prop) (action : EStateM Failure σ α) : Prop :=
  ∀ left right, rel left right → Alike rel (action left) (action right)

/-- Runs end alike for a relation that says less. -/
theorem Alike.weaken {one other : EStateM.Result Failure σ α} (alike : Alike rel one other)
    (implies : ∀ left right, rel left right → weaker left right) : Alike weaker one other := by
  cases alike with
  | ok related => exact .ok (implies _ _ related)
  | error related => exact .error (implies _ _ related)

/-- Sequences end alike if their first parts do, and the rests do from what those leave. -/
theorem Alike.bind {first second : EStateM Failure σ α} {rest others : α → EStateM Failure σ β}
    {one other : σ} (before : Alike rel (first one) (second other))
    (afterwards : ∀ value left right, rel left right →
      Alike rel (rest value left) (others value right)) :
    Alike rel ((first >>= rest) one) ((second >>= others) other) := by
  rw [bind_apply, bind_apply]
  generalize first one = ended, second other = otherEnded at before
  cases before with
  | ok related => exact afterwards _ _ _ related
  | error related => exact .error related

/-- Sequences that begin by reading the state end alike if what follows does. -/
theorem Alike.get {rest others : σ → EStateM Failure σ α} {one other : σ}
    (afterwards : Alike rel (rest one one) (others other other)) :
    Alike rel ((get >>= rest) one) ((get >>= others) other) := afterwards

/-- Runs that end alike still do so when another value is returned at the end. -/
theorem Alike.thenPure {first second : EStateM Failure σ α} {last : α → β} {one other : σ}
    (alike : Alike rel (first one) (second other)) :
    Alike rel ((first >>= fun value => pure (last value)) one)
      ((second >>= fun value => pure (last value)) other) :=
  alike.bind fun _ _ _ related => .ok related

/-- Runs that end alike leave related states. -/
theorem Alike.after {action : EStateM Failure σ α} {one other : σ}
    (alike : Alike rel (action one) (action other)) :
    rel (after action one) (after action other) := by
  unfold Computation.after
  generalize action one = ended, action other = otherEnded at alike
  cases alike with
  | ok related => exact related
  | error related => exact related

/-- Returning runs in parallel. -/
theorem parallel_pure (value : α) : Parallel rel (pure value) :=
  fun _ _ related => .ok related

/-- Failing runs in parallel. -/
theorem parallel_throw (failure : Failure) :
    Parallel rel (throw failure : EStateM Failure σ α) :=
  fun _ _ related => .error related

/-- A sequence runs in parallel if its parts do. -/
theorem parallel_bind {first : EStateM Failure σ α} {rest : α → EStateM Failure σ β}
    (before : Parallel rel first) (afterwards : ∀ value, Parallel rel (rest value)) :
    Parallel rel (first >>= rest) :=
  fun one other related => (before one other related).bind fun value => afterwards value

/-- A change runs in parallel if it keeps states related. -/
theorem parallel_modify {change : σ → σ}
    (keeps : ∀ left right, rel left right → rel (change left) (change right)) :
    Parallel rel (modify change : EStateM Failure σ PUnit) :=
  fun left right related => .ok (keeps left right related)

/-- What is done with the state that is read runs in parallel if it does from related states. -/
theorem parallel_get {rest : σ → EStateM Failure σ α}
    (afterwards : ∀ left right, rel left right → Alike rel (rest left left) (rest right right)) :
    Parallel rel (get >>= rest) := afterwards

/-- The states are one, which has a property. -/
def Alone (holds : σ → Prop) (left right : σ) : Prop := right = left ∧ holds left

/-- A computation ends alike from one state if it leaves one that has the property. -/
theorem alike_alone {holds : σ → Prop} {action : EStateM Failure σ α} {state : σ}
    (kept : holds (after action state)) :
    Alike (Alone holds) (action state) (action state) := by
  unfold after at kept
  cases ended : action state <;> rw [ended] at kept
  · exact .ok ⟨rfl, kept⟩
  · exact .error ⟨rfl, kept⟩

/-- A computation runs in parallel from one state with a property if it keeps the property. -/
theorem parallel_alone {holds : σ → Prop} {action : EStateM Failure σ α}
    (keeps : ∀ state, holds state → holds (after action state)) :
    Parallel (Alone holds) action := by
  rintro _ state ⟨rfl, held⟩
  exact alike_alone (keeps state held)

/-- A computation that runs in parallel from one state with a property keeps the property. -/
theorem Parallel.keeps {holds : σ → Prop} {action : EStateM Failure σ α}
    (parallel : Parallel (Alone holds) action) {state : σ} (held : holds state) :
    holds (after action state) :=
  (parallel state state ⟨rfl, held⟩).after.2

end Parley.Computation

namespace Parley

open Parley.Computation

namespace Desk

variable {α : Type} {rel : World → World → Prop}

/-- Attempts end alike if the computations do. -/
theorem attempt_alike {action : Desk α} {left right : World}
    (alike : Alike rel (action left) (action right)) :
    Alike rel (attempt action left) (attempt action right) := by
  unfold attempt
  generalize action left = ended, action right = otherEnded at alike
  cases alike with
  | ok related => exact .ok related
  | error related => exact .ok related

/-- An attempt runs in parallel if the computation does. -/
theorem attempt_parallel {action : Desk α} (parallel : Parallel rel action) :
    Parallel rel (attempt action) :=
  fun left right related => attempt_alike (parallel left right related)

end Desk

namespace Run

variable {α : Type} {rel : Session → Session → Prop}

/-- An attempt runs in parallel if the computation does. -/
theorem attempt_parallel {action : Run α} (parallel : Parallel rel action) :
    Parallel rel (attempt action) := by
  intro left right related
  have alike := parallel left right related
  unfold attempt
  generalize action left = ended, action right = otherEnded at alike
  cases alike with
  | ok related => exact .ok related
  | error related => exact .ok related

/-- Giving the value of a result or its failure runs in parallel. -/
theorem ofExcept_parallel (result : Except Failure α) : Parallel rel (ofExcept result) := by
  cases result with
  | ok value => exact parallel_pure value
  | error failure => exact parallel_throw failure

end Run

end Parley
