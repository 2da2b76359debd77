import Parley.Proofs.Laws
import Parley.Proofs.Ties

/-!
# What calls leave behind

Beside the store the desk keeps holds of subjects and executions, and requests to cancel. All holds
that a call takes are given back, however the call ends. A request is open only while the execution
is worked on or as long as its record has not ended, and a request that was made is closed again if
the store takes what it is given. Only the execution that is being worked on is exempt meanwhile.
-/

namespace Parley

open Parley.Computation World

namespace Locks

/-- Every held key has been taken at least once. -/
def Counted (locks : Locks String) : Prop := ∀ slot ∈ locks.slots, 0 < slot.2

/-- A hold that is taken is counted. -/
theorem Counted.enter {locks : Locks String} (counted : locks.Counted) (key : String) :
    (locks.enter key).Counted := by
  obtain ⟨slots⟩ := locks
  unfold Counted Locks.enter at *
  dsimp only at *
  induction slots with
  | nil => simp [enterSlots]
  | cons slot rest ih =>
    obtain ⟨first, others⟩ := List.forall_mem_cons.mp counted
    unfold enterSlots
    split
    · exact List.forall_mem_cons.mpr ⟨Nat.succ_pos _, others⟩
    · exact List.forall_mem_cons.mpr ⟨first, ih others⟩

/-- Giving back a hold that was just taken restores the holds. -/
theorem leave_enter {locks : Locks String} (counted : locks.Counted) (key : String) :
    (locks.enter key).leave key = locks := by
  obtain ⟨slots⟩ := locks
  unfold Counted at counted
  simp only [Locks.enter, leave, mk.injEq]
  dsimp only at counted
  induction slots with
  | nil => simp [enterSlots, leaveSlots]
  | cons slot rest ih =>
    obtain ⟨first, others⟩ := List.forall_mem_cons.mp counted
    obtain ⟨held, users⟩ := slot
    unfold enterSlots
    split
    · rename_i same
      have several : ¬ users + 1 ≤ 1 := by
        have taken : 0 < users := first
        omega
      simp only [leaveSlots, if_pos same, if_neg several, Nat.add_sub_cancel]
    · rename_i apart
      simp only [leaveSlots, if_neg apart, ih others]

end Locks

namespace World

/-- Whether the request to cancel an execution was made. -/
def raised (world : World) (id : String) : Bool := (world.signals.lookup id).getD false

/-- A request that is put is the new one or was there. -/
theorem mem_putSignal {signals : List (String × Bool)} {id : String} {set : Bool}
    {signal : String × Bool} (member : signal ∈ putSignal signals id set) :
    signal = (id, set) ∨ signal ∈ signals := by
  induction signals with
  | nil => simpa [putSignal] using member
  | cons first rest ih =>
    obtain ⟨other, old⟩ := first
    unfold putSignal at member
    split at member
    · rcases List.mem_cons.mp member with new | later
      · exact .inl new
      · exact .inr (List.mem_cons_of_mem _ later)
    · rcases List.mem_cons.mp member with same | later
      · exact .inr (same ▸ List.mem_cons_self)
      · exact (ih later).imp_right (List.mem_cons_of_mem _)

/-- A request that is left once one was put and closed was there, and is of another id. -/
theorem mem_putSignal_dropped {signals : List (String × Bool)} {id : String} {set : Bool}
    {signal : String × Bool}
    (member : signal ∈ (putSignal signals id set).filter fun signal => signal.1 != id) :
    signal.1 ≠ id ∧ signal ∈ signals := by
  obtain ⟨put, apart⟩ := List.mem_filter.mp member
  have apart : signal.1 ≠ id := by simpa using apart
  refine ⟨apart, (mem_putSignal put).resolve_left ?_⟩
  rintro rfl
  exact apart rfl

/-- A request that was made is in the list. -/
theorem mem_of_raised {world : World} {id : String} (raised : world.raised id = true) :
    (id, true) ∈ world.signals := by
  unfold World.raised at raised
  cases found : world.signals.lookup id with
  | none => rw [found] at raised; cases raised
  | some set =>
    rw [found] at raised
    cases raised
    obtain ⟨before, later, split, -⟩ := List.lookup_eq_some_iff.mp found
    rw [split]
    simp

/-- Nothing is left over but what is held. The request to cancel an execution that is being worked
on may be open although its record has ended. -/
structure Calm (flows : Flow.Registry) (handled : Option String)
    (subjects executions : Locks String) (world : World) : Prop where
  /-- The holds are counted. -/
  counted : subjects.Counted ∧ executions.Counted
  /-- These flows are registered. -/
  flows : world.flows = flows
  /-- Generators can be asked. -/
  closed : world.closed = false
  /-- These subjects are held. -/
  subjects : world.subjects = subjects
  /-- These executions are held. -/
  executions : world.executions = executions
  /-- Nothing is being stepped unless it is worked on. -/
  idle : handled = none → world.stepping = none
  /-- What is worked on is stored. -/
  stored : ∀ id ∈ handled, ∃ record, world.store.get id = .ok record
  /-- No request was made. -/
  unset : world.Taken → ∀ signal ∈ world.signals, signal.2 = false
  /-- Requests are open for records that have not ended. -/
  unended : world.Taken → ∀ signal ∈ world.signals, signal.1 ∉ handled →
    ∃ record, world.store.get signal.1 = .ok record ∧ record.status.isFinal = false

section Calm

variable {engine : Engine} {flows : Flow.Registry} {handled : Option String}
  {subjects executions : Locks String} {world left : World} {execution : Execution String}
  {id : String}

namespace Calm

/-- Nothing is left over either when something else of the world changes. -/
theorem congr (calm : Calm flows handled subjects executions world)
    (sameFlows : left.flows = world.flows) (sameClosed : left.closed = world.closed)
    (sameSubjects : left.subjects = world.subjects)
    (sameExecutions : left.executions = world.executions)
    (sameStepping : left.stepping = world.stepping) (sameStore : left.store = world.store)
    (sameSignals : left.signals = world.signals) (sameSaves : left.saves = world.saves) :
    Calm flows handled subjects executions left := by
  refine ⟨calm.counted, sameFlows.trans calm.flows, sameClosed.trans calm.closed,
    sameSubjects.trans calm.subjects, sameExecutions.trans calm.executions, ?_, ?_, ?_, ?_⟩
  · rw [sameStepping]
    exact calm.idle
  · rw [sameStore]
    exact calm.stored
  · unfold Taken
    rw [sameSignals, sameSaves]
    exact calm.unset
  · unfold Taken
    rw [sameStore, sameSignals, sameSaves]
    exact calm.unended

/-- Of what is stored only the record of an execution changes when it is saved. -/
theorem offered {taken : Bool} (calm : Calm flows handled subjects executions world)
    (allowed : execution.id ∈ handled ∨ execution.status.isFinal = false)
    (offered : Offered execution world taken left) :
    Calm flows handled subjects executions left := by
  cases offered with
  | refused =>
    -- Nothing is said of requests once the store refused a save.
    have untaken : ¬ Taken { world with saves := world.saves ++ [⟨execution, false⟩] } :=
      Offered.not_taken .refused
    exact ⟨calm.counted, calm.flows, calm.closed, calm.subjects, calm.executions, calm.idle,
      calm.stored, fun taken => absurd taken untaken, fun taken => absurd taken untaken⟩
  | @taken store saved =>
    have before (taken : Taken { world with
        saves := world.saves ++ [⟨execution, true⟩], store }) : world.Taken :=
      fun save member => taken save (List.mem_append_left _ member)
    obtain ⟨new, read, recorded⟩ := Store.get_save_self saved
    refine ⟨calm.counted, calm.flows, calm.closed, calm.subjects, calm.executions, calm.idle, ?_,
      fun taken => calm.unset (before taken), fun taken signal member unhandled => ?_⟩
    · exact fun id held => Store.readable_save saved (calm.stored id held)
    · by_cases same : execution.id = signal.1
      · rw [← same] at unhandled ⊢
        have unended := allowed.resolve_left unhandled
        exact ⟨new, read, recorded.status ▸ unended⟩
      · obtain ⟨record, found, unended⟩ := calm.unended (before taken) signal member unhandled
        exact ⟨record, (Store.get_save_of_ne saved same).trans found, unended⟩

/-- Nothing is left over when an execution is saved that is worked on or has not ended. -/
theorem save (calm : Calm flows handled subjects executions world) (engine : Engine)
    (allowed : execution.id ∈ handled ∨ execution.status.isFinal = false) :
    Calm flows handled subjects executions (after (Desk.save engine execution) world) := by
  obtain ⟨taken, offered⟩ := Desk.save_after engine execution world
  exact calm.offered allowed offered

/-- No request was made. -/
theorem raised_eq (calm : Calm flows handled subjects executions world) (taken : world.Taken)
    (id : String) : world.raised id = false := by
  by_contra made
  cases calm.unset taken _ (mem_of_raised (by simpa using made))

/-- Cancelling an execution gives back its hold and closes its request. -/
theorem cancel (calm : Calm flows handled subjects executions world) (engine : Engine)
    (id : String) :
    Calm flows handled subjects executions (after (Desk.cancel engine id) world) := by
  unfold after
  rw [Desk.cancel_apply]
  cases found : world.store.get id with
  | error failure => exact calm
  | ok record =>
    by_cases final : record.status.isFinal
    · simp only [if_pos final]
      exact calm
    simp only [if_neg final]
    obtain ⟨taken, left, offered, took, refused⟩ := Desk.save_offers engine
      (record.ended .cancelled world.clock) { world.raiseSignal id with
        executions := (world.raiseSignal id).executions.enter id }
    have idle (unhandled : handled = none) : (world.raiseSignal id).stepping = none := by
      simp only [raiseSignal, calm.idle unhandled]
      rfl
    have freed : (world.executions.enter id).leave id = executions := by
      rw [calm.executions]
      exact Locks.leave_enter calm.counted.2 id
    cases taken with
    | false =>
      obtain ⟨failure, -, ended⟩ := refused rfl
      rw [ended]
      have untaken := offered.not_taken
      cases offered with
      | refused =>
        exact ⟨calm.counted, calm.flows, calm.closed, calm.subjects, freed, idle, calm.stored,
          fun taken => absurd taken untaken, fun taken => absurd taken untaken⟩
    | true =>
      rw [took rfl]
      cases offered with
      | @taken store saved =>
        have before (taken : Taken { world with
            saves := world.saves ++ [⟨record.ended .cancelled world.clock, true⟩], store }) :
            world.Taken :=
          fun save member => taken save (List.mem_append_left _ member)
        have named : (record.ended .cancelled world.clock).id = id := (Store.mem_of_get found).2
        refine ⟨calm.counted, calm.flows, calm.closed, calm.subjects, freed, idle, ?_, ?_, ?_⟩
        · exact fun other held => Store.readable_save saved (calm.stored other held)
        · exact fun taken signal member =>
            calm.unset (before taken) signal (mem_putSignal_dropped member).2
        · intro taken signal member unhandled
          obtain ⟨apart, old⟩ := mem_putSignal_dropped member
          obtain ⟨record, read, unended⟩ := calm.unended (before taken) signal old unhandled
          have same : store.get signal.1 = world.store.get signal.1 :=
            Store.get_save_of_ne saved (named ▸ Ne.symm apart)
          exact ⟨record, same.trans read, unended⟩

end Calm

/-- Worlds in which nothing is left over are alike for an engine that works on an execution. -/
theorem calm_like (stored : engine.keeping = .stored) (id : String) :
    Likeness engine (fun origin => origin.id = id)
      (Alone (Calm flows (some id) subjects executions)) where
  stored := stored
  clock related := congrArg World.clock related.1
  stepping related := congrArg World.stepping related.1
  closed related := congrArg World.closed related.1
  noted effect related :=
    ⟨congrArg (World.note · effect) related.1, related.2.congr rfl rfl rfl rfl rfl rfl rfl rfl⟩
  reacts text owned related := by rw [related.1]
  sent text returned owned related :=
    ⟨congrArg (World.sent · _) related.1, related.2.congr rfl rfl rfl rfl rfl rfl rfl rfl⟩
  replies known related := by rw [related.1]
  generated related := by
    obtain ⟨rfl, calm⟩ := related
    exact ⟨rfl, calm.congr rfl rfl rfl rfl rfl rfl rfl rfl⟩
  finds known related := by rw [related.1]
  retrieved related := by
    obtain ⟨rfl, calm⟩ := related
    exact ⟨rfl, calm.congr rfl rfl rfl rfl rfl rfl rfl rfl⟩
  numbers known related := by rw [related.1]
  called type related := by
    obtain ⟨rfl, calm⟩ := related
    exact ⟨rfl, calm.congr rfl rfl rfl rfl rfl rfl rfl rfl⟩
  saved owned := parallel_alone fun _ calm => calm.save engine (.inl (congrArg some owned.symm))
  cancelled _ _ := parallel_alone fun _ calm => calm.cancel engine _

/-- Worlds in which nothing is left over stay so when an execution is worked on, guarded. -/
theorem calm_guards (stored : engine.keeping = .stored) (id : String) :
    Desk.Guards engine (fun origin => origin.id = id) id
      (fun left right => Alone (Calm flows none subjects executions) left right ∧
        ∃ record, left.store.get id = .ok record)
      (Alone (Calm flows (some id) subjects executions)) where
  like := calm_like stored id
  opens left right related := by
    obtain ⟨⟨rfl, calm⟩, readable⟩ := related
    refine ⟨rfl, calm.counted, calm.flows, calm.closed, calm.subjects, calm.executions, nofun, ?_,
      ?_, ?_⟩
    · rintro _ ⟨⟩
      exact readable
    · intro taken signal member
      rcases mem_putSignal member with rfl | old
      · exact calm.raised_eq taken id
      · exact calm.unset taken signal old
    · intro taken signal member unhandled
      rcases mem_putSignal member with rfl | old
      · exact absurd rfl unhandled
      · exact calm.unended taken signal old nofun
  rests left right related := by
    obtain ⟨rfl, calm⟩ := related
    exact ⟨rfl, calm.counted, calm.flows, calm.closed, calm.subjects, calm.executions, nofun,
      calm.stored, calm.unset, calm.unended⟩
  reads left right related := by rw [related.1]
  owned left right record related read := (Store.mem_of_get read).2
  ends left right record related idle read final := by
    obtain ⟨rfl, calm⟩ := related
    refine ⟨⟨rfl, calm.counted, calm.flows, calm.closed, calm.subjects, calm.executions,
      fun _ => idle, nofun, ?_, ?_⟩, record, read⟩
    · exact fun taken signal member => calm.unset taken signal (List.mem_of_mem_filter member)
    · intro taken signal member _
      obtain ⟨old, apart⟩ := List.mem_filter.mp member
      refine calm.unended taken signal old ?_
      rintro ⟨⟩
      simp at apart
  stays left right related idle unfinal := by
    obtain ⟨rfl, calm⟩ := related
    obtain ⟨record, read⟩ := calm.stored id rfl
    refine ⟨⟨rfl, calm.counted, calm.flows, calm.closed, calm.subjects, calm.executions,
      fun _ => idle, nofun, calm.unset, fun taken signal member _ => ?_⟩, record, read⟩
    -- The request that was exempt while its execution was worked on is open for a good reason.
    by_cases handled : signal.1 = id
    · exact ⟨record, handled ▸ read, unfinal record read⟩
    · exact calm.unended taken signal member fun same => handled (Option.some.inj same).symm

/-- Guarded work on a stored execution leaves nothing over. -/
theorem calm_guarded (stored : engine.keeping = .stored) {work : Run Status}
    (works : ∀ {own rel}, Likeness engine own rel → Parallel (Session.Alike own rel) work)
    {right : World} (related : Alone (Calm flows none subjects executions) left right)
    (readable : ∃ record, left.store.get execution.id = .ok record) :
    Alike (Alone (Calm flows none subjects executions))
      (Desk.guarded engine execution work left) (Desk.guarded engine execution work right) :=
  (Desk.guarded_parallel (calm_guards stored execution.id) rfl (works (calm_like stored _))
    left right ⟨related, readable⟩).weaken fun _ _ => And.left

/-- Calls are made on firm ground in worlds in which nothing is left over. -/
theorem calm_footing (flows : Flow.Registry) :
    Desk.Footing (fun _ => True) fun subjects executions =>
      Alone (Calm flows none subjects executions) where
  clock related := congrArg World.clock related.1
  enters subject related := by
    obtain ⟨rfl, calm⟩ := related
    refine ⟨rfl, ⟨calm.counted.1.enter subject, calm.counted.2⟩, calm.flows, calm.closed, ?_,
      calm.executions, calm.idle, calm.stored, calm.unset, calm.unended⟩
    rw [← calm.subjects]
  leaves subject before related := by
    obtain ⟨rfl, calm⟩ := related
    refine ⟨rfl, before.2.counted, calm.flows, calm.closed, ?_, calm.executions, calm.idle,
      calm.stored, calm.unset, calm.unended⟩
    rw [← Locks.leave_enter before.2.counted.1 subject, ← calm.subjects]
  holds id related := by
    obtain ⟨rfl, calm⟩ := related
    refine ⟨rfl, ⟨calm.counted.1, calm.counted.2.enter id⟩, calm.flows, calm.closed,
      calm.subjects, ?_, calm.idle, calm.stored, calm.unset, calm.unended⟩
    rw [← calm.executions]
  frees id before related := by
    obtain ⟨rfl, calm⟩ := related
    refine ⟨rfl, before.2.counted, calm.flows, calm.closed, calm.subjects, ?_, calm.idle,
      calm.stored, calm.unset, calm.unended⟩
    rw [← Locks.leave_enter before.2.counted.2 id, ← calm.executions]
  reads _ related := by rw [related.1]

/-- Worlds in which nothing is left over stay so when calls look after waits. -/
theorem calm_ties (stored : engine.keeping = .stored) (flows : Flow.Registry) :
    Desk.Ties engine (fun _ => True) fun subjects executions =>
      Alone (Calm flows none subjects executions) where
  toFooting := calm_footing flows
  flows _ related _ := by rw [related.1]
  keeps {subjects executions left right id record} reply _ related _ waits := by
    obtain ⟨rfl, calm⟩ := related
    have unended : record.status.isFinal = false := by rw [waits]; rfl
    exact parallel_alone (fun _ calm => calm.save engine (.inr unended)) _ _ ⟨rfl, calm⟩
  rouses {_ _ _ _ id record graph} vars label reason reply _ related read _ _ := by
    rw [← (Store.mem_of_get read).2] at read
    exact calm_guarded stored (fun like => Tick.resume_parallel like graph _ _ reply true) related
      ⟨record, read⟩

/-- Worlds in which nothing is left over stay so when executions are made. -/
theorem calm_births (stored : engine.keeping = .stored) (flows : Flow.Registry) :
    Desk.Births engine (fun _ => True) fun subjects executions =>
      Alone (Calm flows none subjects executions) where
  store related := by rw [related.1]
  flows related := by rw [related.1]
  created related := by rw [related.1]
  counts related := by
    obtain ⟨rfl, calm⟩ := related
    exact ⟨rfl, calm.congr rfl rfl rfl rfl rfl rfl rfl rfl⟩
  begins {subjects executions left right _ graph _ _ _ id store} _ related _ made := by
    obtain ⟨rfl, calm⟩ := related
    have footing := calm_footing flows
    have born : Calm flows none subjects executions { right with store } := by
      refine ⟨calm.counted, calm.flows, calm.closed, calm.subjects, calm.executions, calm.idle,
        nofun, calm.unset, fun taken signal member unhandled => ?_⟩
      obtain ⟨record, read, unended⟩ := calm.unended taken signal member unhandled
      exact ⟨record, Store.get_create made read, unended⟩
    obtain ⟨record, read, -⟩ := Store.get_create_self made
    refine Desk.holdingExecution_alike (footing.holds id ⟨rfl, born⟩)
      (fun _ _ => footing.frees id ⟨rfl, born⟩) fun held other beside _ related => ?_
    have same : held.store = store := beside.store
    rw [← same] at read
    exact calm_guarded stored (fun like => Tick.start_parallel like graph true) related
      ⟨record, read⟩

end Calm

end World

/-- Registering a flow adds it in a new version, unless the definition is rejected. -/
theorem Desk.register_apply (engine : Engine) (definition : Value) (world : World) :
    register engine definition world =
      match Flow.load (engine.capabilities.extensions.map Prod.fst) definition with
      | .ok graph => .ok (world.flows.register graph).1
        { world with flows := world.flows.add graph }
      | .error failure => .error failure world := by
  unfold register
  cases Flow.load (engine.capabilities.extensions.map Prod.fst) definition <;> rfl

namespace Call

variable (engine : Engine)

/-- The flow that a call registers, if it does. -/
def graph? : Call → Option Flow.Graph
  | register definition =>
    (Flow.load (engine.capabilities.extensions.map Prod.fst) definition).toOption
  | _ => none

/-- The flows that calls register, in order. -/
def registered (calls : List Call) : List Flow.Graph := calls.filterMap (graph? engine)

/-- A call leaves nothing over, and adds the flow that it registers. -/
theorem perform_calm (call : Call) {flows : Flow.Registry} {world : World}
    (calm : World.Calm flows none .empty .empty world) :
    World.Calm ((graph? engine call).toList.foldl Flow.Registry.add flows) none .empty .empty
      (after (call.perform engine) world) := by
  have ties := World.calm_ties engine.atDesk_keeping flows
  cases call with
  | register definition =>
    rw [perform, after_thenPure, after, Desk.register_apply, graph?]
    simp only [Engine.atDesk]
    cases Flow.load (engine.capabilities.extensions.map Prod.fst) definition with
    | error failure => exact calm
    | ok graph =>
      refine ⟨calm.counted, ?_, calm.closed, calm.subjects, calm.executions, calm.idle, calm.stored,
        calm.unset, calm.unended⟩
      rw [← calm.flows]
      rfl
  | start flow subject vars =>
    rw [perform, after_thenPure]
    exact (Desk.start_parallel (World.calm_footing flows) (World.calm_births rfl flows) _ _ flow
      subject vars trivial).keeps calm
  | inbound subject reply =>
    rw [perform, after_thenPure]
    exact (Desk.inbound_alike ties _ _ ⟨rfl, calm⟩ rfl (fun _ _ => trivial) reply).after.2
  | expire now =>
    rw [perform, after_thenPure]
    exact (Desk.expire_parallel ties _ _ (fun _ => trivial) fun related => by
      rw [related.1]).keeps calm
  | cancel id =>
    rw [perform, after_thenPure]
    exact calm.cancel engine.atDesk id
  | wait moment => exact calm.congr rfl rfl rfl rfl rfl rfl rfl rfl

/-- Runs of calls leave nothing over, and add the flows that they register. -/
theorem runs_calm (calls : List Call) {flows : Flow.Registry} {world : World}
    (calm : World.Calm flows none .empty .empty world) :
    World.Calm ((registered engine calls).foldl Flow.Registry.add flows) none .empty .empty
      (runs engine calls world) := by
  -- On the calls; the registered flows grow from call to call.
  induction calls generalizing flows world with
  | nil => exact calm
  | cons call rest ih =>
    have split : registered engine (call :: rest) =
        (graph? engine call).toList ++ registered engine rest := by
      unfold registered
      rw [List.filterMap_cons]
      cases graph? engine call <;> rfl
    rw [split, List.foldl_append]
    exact ih (perform_calm engine call calm)

/-- Nothing is left over in a world in which nothing has happened. -/
theorem start_calm (clock : Time.Moment) (store : Store String) :
    World.Calm .empty none .empty .empty (.start clock store) :=
  ⟨⟨nofun, nofun⟩, rfl, rfl, rfl, rfl, fun _ => rfl, nofun, fun _ _ => nofun, fun _ _ => nofun⟩

end Call

/-- Nothing is left over in a world that is reached. -/
theorem World.Reached.calm {engine : Engine} {world : World} (reached : Reached engine world) :
    ∃ flows, Calm flows none .empty .empty world := by
  obtain ⟨clock, store, calls, -, rfl⟩ := reached
  exact ⟨_, Call.runs_calm engine calls (Call.start_calm clock store)⟩

end Parley
