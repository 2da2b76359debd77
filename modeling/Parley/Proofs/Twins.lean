import Parley.Proofs.Tidiness

/-!
# Worlds over one store

Two worlds are twins if they differ only in the flows that are registered, and in how the requests
to cancel are listed: the same requests were made, and the flows of all records are the same. All
that is done with the executions of the store is done alike by the desks of both.
-/

namespace Parley

open Parley.Computation World

namespace World

/-- What is found among requests after one was put. -/
theorem lookup_putSignal (signals : List (String × Bool)) (id other : String) (set : Bool) :
    (putSignal signals id set).lookup other =
      if other = id then some set else signals.lookup other := by
  induction signals with
  | nil =>
    by_cases same : other = id
    · simp [putSignal, same]
    · simp [putSignal, List.lookup_cons, same, beq_false_of_ne same]
  | cons signal rest ih =>
    obtain ⟨key, old⟩ := signal
    unfold putSignal
    by_cases named : key = id
    · subst named
      by_cases same : other = key
      · simp [same]
      · simp [List.lookup_cons, same, beq_false_of_ne same]
    · simp only [if_neg named, List.lookup_cons, ih]
      by_cases same : other = key
      · subst same
        simp [named]
      · simp [beq_false_of_ne same]

/-- What is found among requests after those of an execution were closed. -/
theorem lookup_filter (signals : List (String × Bool)) (id other : String) :
    (signals.filter fun signal => signal.1 != id).lookup other =
      if other = id then none else signals.lookup other := by
  induction signals with
  | nil => simp
  | cons signal rest ih =>
    obtain ⟨key, set⟩ := signal
    by_cases named : key = id
    · subst named
      rw [List.filter_cons_of_neg (by simp), ih, List.lookup_cons]
      by_cases same : other = key
      · simp only [if_pos same]
      · simp only [if_neg same, beq_false_of_ne same]
    · rw [List.filter_cons_of_pos (by simpa using named), List.lookup_cons, List.lookup_cons, ih]
      by_cases same : other = key
      · subst same
        simp [named]
      · simp [beq_false_of_ne same]

/-- Making a request makes that one. -/
theorem raised_raiseSignal (world : World) (id other : String) :
    (world.raiseSignal id).raised other = if other = id then true else world.raised other := by
  unfold raised raiseSignal
  rw [lookup_putSignal]
  split <;> rfl

/-- Closing a request takes it back. -/
theorem raised_dropSignal (world : World) (id other : String) :
    (world.dropSignal id).raised other = if other = id then false else world.raised other := by
  unfold raised dropSignal
  rw [lookup_filter]
  split <;> rfl

/-- Opening a request makes none. -/
theorem raised_openSignal (world : World) (id other : String) :
    (world.openSignal id).raised other = world.raised other := by
  unfold raised openSignal
  rw [lookup_putSignal]
  split
  · rename_i same
    rw [same]
    rfl
  · rfl

/-- The worlds differ only in the flows and in the list of requests to cancel. The same requests
were made, and the flows of all records are the same. -/
structure Twin (flows others : Flow.Registry) (left right : World) : Prop where
  /-- The flows of all records are the same. -/
  known : ∀ record ∈ left.store.records,
    others.get record.flow record.version = flows.get record.flow record.version
  /-- These flows are registered in the one. -/
  flows : left.flows = flows
  /-- The other differs only in the flows and in the list of requests. -/
  same : ∃ signals, right = { left with flows := others, signals }
  /-- The same requests were made. -/
  raised : ∀ id, right.raised id = left.raised id

/-- An origin is of a version that is the same in two registries. -/
def Shared (flows others : Flow.Registry) (origin : Execution.Origin) : Prop :=
  origin.version ≠ 0 ∧ others.get origin.flow origin.version = flows.get origin.flow origin.version

section Twin

variable {engine : Engine} {flows others : Flow.Registry} {left right : World}
  {execution record : Execution String} {id : String}

namespace Twin

/-- Twins stay twins when both change in what is beside flows, requests to cancel and store. -/
theorem congr (twin : Twin flows others left right) {nextLeft nextRight : World}
    (sameFlows : nextLeft.flows = left.flows) (sameStore : nextLeft.store = left.store)
    (sameSignals : nextLeft.signals = left.signals)
    (same : ∀ signals, right = { left with flows := others, signals } →
      nextRight = { nextLeft with flows := others, signals }) :
    Twin flows others nextLeft nextRight := by
  obtain ⟨known, rfl, ⟨signals, alike⟩, raised⟩ := twin
  refine ⟨sameStore ▸ known, sameFlows, ⟨signals, same signals alike⟩, fun id => ?_⟩
  have before := raised id
  rw [alike] at before
  rw [same signals alike]
  simp only [World.raised, sameSignals] at before ⊢
  exact before

/-- What is stored is of versions that are the same. -/
theorem shares (twin : Twin flows others left right) (read : left.store.get id = .ok record) :
    Shared flows others record.origin :=
  have member := (Store.mem_of_get read).1
  ⟨Store.version_ne_zero member, twin.known record member⟩

/-- The store is the same. -/
theorem store (twin : Twin flows others left right) : right.store = left.store := by
  obtain ⟨signals, rfl⟩ := twin.same
  rfl

/-- The time is the same. -/
theorem clock (twin : Twin flows others left right) : right.clock = left.clock := by
  obtain ⟨signals, rfl⟩ := twin.same
  rfl

/-- Executions of versions that are the same are saved in parallel. -/
theorem saves (engine : Engine) (owned : Shared flows others execution.origin) :
    Parallel (Twin flows others) (Desk.save engine execution) := by
  intro left right twin
  have outcome : Desk.saved engine execution right = Desk.saved engine execution left := by
    obtain ⟨signals, rfl⟩ := twin.same
    rfl
  rw [Desk.save_apply, Desk.save_apply, outcome]
  cases ended : Desk.saved engine execution left with
  | error failure =>
    refine .error (twin.congr rfl rfl rfl ?_)
    rintro signals rfl
    rfl
  | ok store =>
    obtain ⟨-, -, -, new, -, recorded, -, records⟩ :=
      Store.save_records (Desk.store_of_saved ended)
    obtain ⟨known, rfl, ⟨signals, rfl⟩, raised⟩ := twin
    refine .ok ⟨fun other member => ?_, rfl, ⟨signals, rfl⟩, raised⟩
    -- The record that was put in place is of the version that the execution shares.
    rw [records] at member
    rcases Store.mem_rewritten member with rfl | ⟨old, -⟩
    · rw [recorded.flow, recorded.version owned.1]
      exact owned.2
    · exact known other old

/-- Requests to cancel an execution may be made. -/
theorem raise (twin : Twin flows others left right) (id : String) :
    Twin flows others (left.raiseSignal id) (right.raiseSignal id) := by
  refine ⟨twin.known, twin.flows, ?_, fun other => ?_⟩
  · obtain ⟨signals, rfl⟩ := twin.same
    exact ⟨_, rfl⟩
  · rw [raised_raiseSignal, raised_raiseSignal, twin.raised]

/-- Requests to cancel an execution may be closed. -/
theorem drop (twin : Twin flows others left right) (id : String) :
    Twin flows others (left.dropSignal id) (right.dropSignal id) := by
  refine ⟨twin.known, twin.flows, ?_, fun other => ?_⟩
  · obtain ⟨signals, rfl⟩ := twin.same
    exact ⟨_, rfl⟩
  · rw [raised_dropSignal, raised_dropSignal, twin.raised]

/-- An execution may be about to be worked on. -/
theorem opens (twin : Twin flows others left right) (id : String) :
    Twin flows others (Desk.opened id left) (Desk.opened id right) := by
  have shown (world : World) : Desk.opened id world = { world.openSignal id with
      stepping := some ⟨id, world.raised id⟩ } := by
    rw [← raised_openSignal world id id]
    rfl
  refine ⟨twin.known, twin.flows, ?_, fun other => ?_⟩
  · rw [shown, shown, twin.raised]
    obtain ⟨signals, rfl⟩ := twin.same
    exact ⟨_, rfl⟩
  · exact (raised_openSignal right id other).trans
      ((twin.raised other).trans (raised_openSignal left id other).symm)

end Twin

/-- Calls are made on firm ground in twins. -/
theorem twin_footing (flows others : Flow.Registry) :
    Desk.Footing (fun _ => True) fun _ _ => Twin flows others where
  clock := Twin.clock
  enters _ twin := twin.congr rfl rfl rfl fun _ alike => by rw [alike]
  leaves _ _ twin := twin.congr rfl rfl rfl fun _ alike => by rw [alike]
  holds _ twin := twin.congr rfl rfl rfl fun _ alike => by rw [alike]
  frees _ _ twin := twin.congr rfl rfl rfl fun _ alike => by rw [alike]
  reads _ twin := by rw [twin.store]

/-- Executions are cancelled in parallel in twins. -/
theorem twin_cancels (engine : Engine) (id : String) :
    Parallel (Twin flows others) (Desk.cancel engine id) :=
  Desk.cancel_parallel (twin_footing flows others) trivial (fun twin => twin.raise id)
    (fun twin => twin.drop id) (fun twin read _ => by
      have shared := twin.shares read
      refine Twin.saves engine ?_ _ _ twin
      exact shared) .empty .empty

/-- Twins are alike for an engine that works on executions of versions that are the same. -/
theorem twin_like (stored : engine.keeping = .stored) :
    Likeness engine (Shared flows others) (Twin flows others) where
  stored := stored
  clock := Twin.clock
  stepping twin := by
    obtain ⟨signals, rfl⟩ := twin.same
    rfl
  closed twin := by
    obtain ⟨signals, rfl⟩ := twin.same
    rfl
  noted _ twin := twin.congr rfl rfl rfl fun _ alike => by rw [alike]; rfl
  reacts _ _ twin := by
    obtain ⟨signals, rfl⟩ := twin.same
    rfl
  sent _ _ _ twin := twin.congr rfl rfl rfl fun _ alike => by rw [alike]; rfl
  replies _ twin := by
    obtain ⟨signals, rfl⟩ := twin.same
    rfl
  generated twin := twin.congr rfl rfl rfl fun _ alike => by rw [alike]
  finds _ twin := by
    obtain ⟨signals, rfl⟩ := twin.same
    rfl
  retrieved twin := twin.congr rfl rfl rfl fun _ alike => by rw [alike]
  numbers _ twin := by
    obtain ⟨signals, rfl⟩ := twin.same
    rfl
  called _ twin := twin.congr rfl rfl rfl fun _ alike => by rw [alike]
  saved := Twin.saves engine
  cancelled _ _ := twin_cancels engine _

/-- Twins stay twins when a stored execution is worked on, guarded. -/
theorem twin_guards (stored : engine.keeping = .stored) (id : String) :
    Desk.Guards engine (Shared flows others) id (Twin flows others) (Twin flows others) where
  like := twin_like stored
  opens _ _ twin := twin.opens id
  rests _ _ twin := twin.congr rfl rfl rfl fun _ alike => by rw [alike]
  reads _ _ twin := by rw [twin.store]
  owned _ _ _ twin := twin.shares
  ends _ _ _ twin _ _ _ := twin.drop id
  stays _ _ twin _ _ := twin

/-- Guarded work on an execution of a version that is the same ends alike in twins. -/
theorem twin_guarded (stored : engine.keeping = .stored)
    (shared : Shared flows others execution.origin) {work : Run Status}
    (works : ∀ {own rel}, Likeness engine own rel → Parallel (Session.Alike own rel) work)
    (twin : Twin flows others left right) :
    Alike (Twin flows others) (Desk.guarded engine execution work left)
      (Desk.guarded engine execution work right) :=
  Desk.guarded_parallel (twin_guards stored execution.id) shared (works (twin_like stored))
    left right twin

/-- Twins stay twins when calls look after waits. -/
theorem twin_ties (stored : engine.keeping = .stored) (flows others : Flow.Registry) :
    Desk.Ties engine (fun _ => True) fun _ _ => Twin flows others where
  toFooting := twin_footing flows others
  flows _ twin read := by
    have shared := (twin.shares read).2
    obtain ⟨-, rfl, ⟨signals, rfl⟩, -⟩ := twin
    exact shared
  keeps _ _ twin read _ := by
    have shared := twin.shares read
    rw [twin.clock]
    refine Twin.saves engine ?_ _ _ twin
    exact shared
  rouses _ _ _ _ _ twin read _ _ := by
    have shared := twin.shares read
    refine twin_guarded stored ?_ (fun like => Tick.resume_parallel like _ _ _ _ true) twin
    exact shared

/-- Twins with the same flows stay twins when executions are made. -/
theorem twin_births (stored : engine.keeping = .stored) (flows : Flow.Registry) :
    Desk.Births engine (fun _ => True) fun _ _ => Twin flows flows where
  store := Twin.store
  flows twin := by
    obtain ⟨-, rfl, ⟨signals, rfl⟩, -⟩ := twin
    rfl
  created twin := by
    obtain ⟨signals, rfl⟩ := twin.same
    rfl
  counts twin := twin.congr rfl rfl rfl fun _ alike => by rw [alike]
  begins {_ _ left right _ graph version key vars id store} _ twin newest _ := by
    have born : Twin flows flows { left with store } { right with store } := by
      obtain ⟨-, rfl, ⟨signals, rfl⟩, raised⟩ := twin
      exact ⟨fun _ _ => rfl, rfl, ⟨signals, rfl⟩, raised⟩
    refine Desk.holdingExecution_alike
      (born.congr rfl rfl rfl fun _ alike => by rw [alike])
      (fun _ _ twin => twin.congr rfl rfl rfl fun _ alike => by rw [alike])
      fun held other _ _ twin => ?_
    refine twin_guarded stored ⟨?_, rfl⟩ (fun like => Tick.start_parallel like graph true) twin
    have counts := (Flow.Registry.get_latest newest).1
    simp only [Execution.origin, Execution.new]
    omega

end Twin

end World

end Parley
