import Mathlib.Order.Defs.Unbundled
import Parley.Engine.Session

/-!
# What computations do to their state

A computation on a state leaves a state however it ends. A relation that holds between the states
around each part of a computation, and that is kept along sequences, holds between the states
around the whole. The rules here take a computation apart; the relations are those of the engine.
A computation without a state is taken apart by its success, and told by the ways in which it may
fail.
-/

namespace Parley.Computation

variable {σ α β : Type}

/-- The state that a computation leaves, however it ends. -/
def after (action : EStateM Failure σ α) (state : σ) : σ :=
  match action state with
  | .ok _ left => left
  | .error _ left => left

section Parts

variable {ε : Type}

/-- A computation in sequence runs the rest from the state that its first part leaves. -/
theorem bind_apply (first : EStateM ε σ α) (rest : α → EStateM ε σ β) (state : σ) :
    (first >>= rest) state = match first state with
      | .ok value left => rest value left
      | .error failure left => .error failure left := by
  simp only [bind, EStateM.bind]
  cases first state <;> rfl

/-- After a part that ends well comes the rest. -/
theorem bind_of_ok {first : EStateM ε σ α} {rest : α → EStateM ε σ β} {state left : σ}
    {value : α} (ended : first state = .ok value left) :
    (first >>= rest) state = rest value left := by
  rw [bind_apply, ended]

/-- After a part that fails nothing comes. -/
theorem bind_of_error {first : EStateM ε σ α} {rest : α → EStateM ε σ β}
    {state left : σ} {failure : ε} (ended : first state = .error failure left) :
    (first >>= rest) state = .error failure left := by
  rw [bind_apply, ended]

/-- What ends well in sequence ends well in its first part, and in the rest after it. -/
theorem bind_ended {first : EStateM ε σ α} {rest : α → EStateM ε σ β} {state left : σ}
    {value : β} (ended : (first >>= rest) state = .ok value left) :
    ∃ given middle, first state = .ok given middle ∧ rest given middle = .ok value left := by
  rw [bind_apply] at ended
  cases done : first state with
  | ok given middle =>
    rw [done] at ended
    exact ⟨given, middle, rfl, ended⟩
  | error failure middle =>
    rw [done] at ended
    cases ended

/-- Returning leaves the state. -/
theorem pure_apply (value : α) (state : σ) :
    (pure value : EStateM ε σ α) state = .ok value state := rfl

/-- Reading the state leaves it. -/
theorem get_apply (state : σ) : (get : EStateM ε σ σ) state = .ok state state := rfl

/-- Changing the state leaves its image. -/
theorem modify_apply (change : σ → σ) (state : σ) :
    (modify change : EStateM ε σ PUnit) state = .ok ⟨⟩ (change state) := rfl

end Parts

/-- A computation that ends well leaves the state that it reports. -/
theorem after_of_ok {action : EStateM Failure σ α} {state left : σ} {value : α}
    (ended : action state = .ok value left) : after action state = left := by
  rw [after, ended]

/-- A computation that fails leaves the state that it reports. -/
theorem after_of_error {action : EStateM Failure σ α} {state left : σ} {failure : Failure}
    (ended : action state = .error failure left) : after action state = left := by
  rw [after, ended]

/-- A sequence whose first part ends well leaves what the rest leaves. -/
theorem after_bind_of_ok {first : EStateM Failure σ α} {rest : α → EStateM Failure σ β}
    {state left : σ} {value : α} (ended : first state = .ok value left) :
    after (first >>= rest) state = after (rest value) left := by
  simp only [after, bind_apply, ended]

/-- A sequence whose first part fails leaves what that leaves. -/
theorem after_bind_of_error {first : EStateM Failure σ α} {rest : α → EStateM Failure σ β}
    {state left : σ} {failure : Failure} (ended : first state = .error failure left) :
    after (first >>= rest) state = left := by
  simp only [after, bind_apply, ended]

/-- Returning another value at the end leaves the same. -/
theorem after_thenPure {first : EStateM Failure σ α} {last : α → β} (state : σ) :
    after (first >>= fun value => pure (last value)) state = after first state := by
  simp only [after, bind_apply]
  cases first state <;> rfl

/-- A computation moves its state along a relation, however it ends. -/
def Along (rel : σ → σ → Prop) (action : EStateM Failure σ α) : Prop :=
  ∀ state, rel state (after action state)

section Preorder

variable {rel : σ → σ → Prop} [IsPreorder σ rel]

/-- Returning moves nothing. -/
theorem along_pure (value : α) : Along rel (pure value) :=
  fun state => refl_of rel state

/-- Failing moves nothing. -/
theorem along_throw (failure : Failure) : Along rel (throw failure : EStateM Failure σ α) :=
  fun state => refl_of rel state

/-- Reading moves nothing. -/
theorem along_get : Along rel (get : EStateM Failure σ σ) :=
  fun state => refl_of rel state

omit [IsPreorder σ rel] in
/-- A change moves the state as it moves each state. -/
theorem along_modify {change : σ → σ} (moves : ∀ state, rel state (change state)) :
    Along rel (modify change : EStateM Failure σ PUnit) :=
  fun state => moves state

/-- A sequence moves a state as its parts move the states that they are run from. -/
theorem bind_moves {first : EStateM Failure σ α} {rest : α → EStateM Failure σ β} {state : σ}
    (before : rel state (after first state))
    (afterwards : ∀ value left, first state = .ok value left →
      rel left (after (rest value) left)) :
    rel state (after (first >>= rest) state) := by
  cases ended : first state with
  | ok value left =>
    rw [after_of_ok ended] at before
    rw [after_bind_of_ok ended]
    exact trans_of rel before (afterwards value left ended)
  | error failure left =>
    rw [after_of_error ended] at before
    rw [after_bind_of_error ended]
    exact before

/-- A sequence moves the state as its parts do. -/
theorem along_bind {first : EStateM Failure σ α} {rest : α → EStateM Failure σ β}
    (before : Along rel first) (afterwards : ∀ value, Along rel (rest value)) :
    Along rel (first >>= rest) :=
  fun state => bind_moves (before state) fun value left _ => afterwards value left

end Preorder

/-- After a success comes the rest. -/
theorem ok_bind (value : α) (rest : α → Except Failure β) :
    ((.ok value : Except Failure α) >>= rest) = rest value := rfl

/-- A sequence succeeds when its parts do in turn. -/
theorem bind_eq_ok {first : Except Failure α} {rest : α → Except Failure β} {value : β} :
    (first >>= rest) = .ok value ↔ ∃ middle, first = .ok middle ∧ rest middle = .ok value := by
  cases first <;> simp [bind, Except.bind]

/-- An image is had when there is something to map. -/
theorem map_eq_ok {first : Except Failure α} {change : α → β} {value : β} :
    change <$> first = .ok value ↔ ∃ middle, first = .ok middle ∧ change middle = value := by
  cases first <;> simp [Functor.map, Except.map]

/-- Returning succeeds with what is returned. -/
theorem pure_eq_ok {given value : α} :
    (pure given : Except Failure α) = .ok value ↔ given = value := by
  simp [pure, Except.pure]

/-- Failing does not succeed. -/
theorem throw_eq_ok {failure : Failure} {value : α} :
    (throw failure : Except Failure α) = .ok value ↔ False := by
  simp [throw, throwThe, MonadExceptOf.throw]

/-- A computation without a state that has a result ends in it. -/
theorem ok_of_toOption {ε : Type} {result : Except ε α} {value : α}
    (given : result.toOption = some value) : result = .ok value := by
  cases result with
  | ok found =>
    cases given
    rfl
  | error failure => cases given

/-- A computation without a state fails, if it does, only as is allowed. -/
def FailsAs (allowed : Failure → Prop) (result : Except Failure α) : Prop :=
  ∀ failure, result = .error failure → allowed failure

section FailsAs

variable {allowed wider : Failure → Prop}

/-- A success does not fail. -/
theorem failsAs_ok (value : α) : FailsAs allowed (.ok value : Except Failure α) := by
  rintro _ ⟨⟩

/-- A failure that is allowed fails so. -/
theorem failsAs_error {failure : Failure} (fits : allowed failure) :
    FailsAs allowed (.error failure : Except Failure α) := by
  rintro _ ⟨⟩
  exact fits

/-- A sequence fails as its parts do. -/
theorem failsAs_bind {first : Except Failure α} {rest : α → Except Failure β}
    (before : FailsAs allowed first)
    (afterwards : ∀ value, first = .ok value → FailsAs allowed (rest value)) :
    FailsAs allowed (first >>= rest) := by
  cases first with
  | ok value => exact afterwards value rfl
  | error failure => exact failsAs_error (before failure rfl)

/-- An image fails as what is mapped does. -/
theorem failsAs_map {first : Except Failure α} {change : α → β} (before : FailsAs allowed first) :
    FailsAs allowed (change <$> first) := by
  cases first with
  | ok value => exact failsAs_ok (change value)
  | error failure => exact failsAs_error (before failure rfl)

/-- What fails as is allowed fails so where more is allowed. -/
theorem FailsAs.mono {result : Except Failure α} (fails : FailsAs allowed result)
    (more : ∀ failure, allowed failure → wider failure) : FailsAs wider result :=
  fun failure failed => more failure (fails failure failed)

end FailsAs

end Parley.Computation
