import Parley.Proofs.Upkeep

/-!
# Clocks that show their offset

If the clock that the desk reads always shows how far it is ahead of universal time, then so do all
deadlines. A deadline of what is stored can then be compared with every moment that does.
-/

namespace Parley

open Parley.Computation World Time

namespace Time.Moment

/-- The offset of the clock is known. -/
def Zoned (moment : Moment) : Prop := moment.offset.isSome = true

instance : DecidablePred Zoned := fun moment =>
  inferInstanceAs (Decidable (moment.offset.isSome = true))

variable {moment later : Moment}

/-- The offset of universal time is known. -/
theorem IsUtc.zoned (utc : moment.IsUtc) : moment.Zoned := by rw [Zoned, utc]; rfl

/-- Moments whose offsets are known can be compared. -/
theorem Zoned.comparable (zoned : moment.Zoned) (other : later.Zoned) :
    moment.comparable later = true := by
  rw [Zoned] at zoned other
  rw [Moment.comparable, zoned, other]
  rfl

/-- A later moment on a clock has its offset. -/
theorem Zoned.after (zoned : moment.Zoned) {seconds : Number}
    (passed : moment.after seconds = .ok later) : later.Zoned := by
  unfold Moment.after at passed
  cases measured : duration seconds with
  | error fault =>
    rw [measured] at passed
    cases passed
  | ok micros =>
    simp only [measured, bind, Except.bind] at passed
    split at passed <;> cases passed
    rename_i found
    unfold addMicros? ofClock? at found
    split at found <;> cases found
    exact zoned

/-- A deadline has the offset of the clock from which it is reckoned. -/
theorem Zoned.deadline (zoned : moment.Zoned) {seconds : Value}
    (reckoned : Handler.deadline moment seconds = .ok later) : later.Zoned := by
  unfold Handler.deadline at reckoned
  split at reckoned
  · cases reckoned
  · split at reckoned <;> cases reckoned
    rename_i passed
    exact zoned.after passed

end Time.Moment

namespace Execution

/-- If the execution has a deadline, its offset is known. -/
def Zoned (execution : Execution String) : Prop :=
  ∀ deadline, execution.deadline = some deadline → deadline.Zoned

variable {execution : Execution String}

/-- Nothing is to be known if there is no deadline. -/
theorem zoned_of_none (free : execution.deadline = none) : execution.Zoned := by
  intro deadline until?
  rw [free] at until?
  cases until?

/-- Advancing keeps the deadline, or drops it. -/
theorem Zoned.advanced (zoned : execution.Zoned) (next : Option String) (now : Moment) :
    (execution.advanced next now).Zoned := by
  cases next with
  | some target => exact zoned
  | none => exact zoned_of_none rfl

/-- The end of a visit keeps the deadline, or drops it. -/
theorem Zoned.closed (zoned : execution.Zoned) (graph : Flow.Graph) (node : Flow.Node String)
    (now : Moment) (result : Except Failure (Action × Entries)) :
    (execution.closed graph node now result).Zoned := by
  cases result with
  | error failure =>
    simp only [Execution.closed]
    cases node.onError with
    | some fallback => exact zoned
    | none => exact zoned_of_none rfl
  | ok ending =>
    obtain ⟨action, payload⟩ := ending
    cases action with
    | suspend => exact zoned
    | finish => exact zoned_of_none rfl
    | jump target => exact zoned
    | follow label =>
      let told := execution.told (some node.id) .nodeEnd now
        (payload ++ [(.text "elapsed_ms", .float .zero)])
      have kept : told.Zoned := zoned
      exact kept.advanced _ now

/-- Going on from a wait drops the deadline. -/
theorem resumed_zoned (execution : Execution String) (graph : Flow.Graph) (label reason : String)
    (reply : Value) (now : Moment) : (execution.resumed graph label reason reply now).Zoned :=
  Zoned.advanced (zoned_of_none rfl) _ now

end Execution

/-- A handler sets a deadline by the clock. -/
theorem Handler.Handled.zoned {engine : Engine} {node : Flow.Node String} {now : Moment}
    {execution left : Execution String} {result : Except Failure (Action × Entries)}
    (clock : now.Zoned) (zoned : execution.Zoned)
    (handled : Handled engine node now execution result left) : left.Zoned := by
  cases handled with
  | wait kind later =>
    rintro _ ⟨⟩
    exact clock.deadline later
  | _ => exact zoned

/-- The offsets of the clock and of all deadlines are known. -/
structure Scene.Zoned (scene : Scene) : Prop where
  /-- That of the clock is. -/
  clock : scene.world.clock.Zoned
  /-- Those of the deadlines in the store are. -/
  stored : scene.world.store.Dated Moment.Zoned
  /-- That of the deadline of what is in hand is. -/
  hand : ∀ execution, scene.hand.execution? = some execution → execution.Zoned

namespace Scene.Zoned

variable {engine : Engine} {world left : World} {hand : Hand} {graph : Flow.Graph}
  {record execution handed : Execution String} {taken : Bool}

/-- With nothing in hand, the clock and the store count. -/
theorem unhanded (clock : world.clock.Zoned) (stored : world.store.Dated Moment.Zoned)
    (none : hand.execution? = none) : Zoned ⟨world, hand⟩ := by
  refine ⟨clock, stored, fun execution held => ?_⟩
  rw [none] at held
  cases held

/-- An offer of an execution with a known offset leaves the offsets known. -/
theorem offer (zoned : Zoned ⟨world, hand⟩) (known : handed.Zoned)
    (offered : Offered handed world taken left) : Zoned ⟨left, hand⟩ := by
  cases offered with
  | taken saved =>
    have dates : world.store.Dates Moment.Zoned handed := ⟨fun _ => known, fun _ _ utc => utc.zoned⟩
    exact ⟨zoned.clock, zoned.stored.save dates saved, zoned.hand⟩
  | refused => exact ⟨zoned.clock, zoned.stored, zoned.hand⟩

/-- What was offered with a known offset may be in hand. -/
theorem offered (zoned : Zoned ⟨world, hand⟩) (known : handed.Zoned)
    (offered : Offered handed world taken left) (failure : Failure) :
    Zoned ⟨left, .offered graph handed taken failure⟩ := by
  have kept := zoned.offer known offered
  refine ⟨kept.clock, kept.stored, fun execution held => ?_⟩
  obtain ⟨-, rfl⟩ := Hand.execution?_offered held
  exact known

/-- Every move during which time stands still leaves the offsets known. -/
theorem move {scene next : Scene} (move : Move engine scene next)
    (still : next.world.clock = scene.world.clock) (zoned : Zoned scene) : Zoned next := by
  cases move with
  | stirred stir =>
    cases stir with
    | beside same =>
      refine ⟨still ▸ zoned.clock, ?_, zoned.hand⟩
      simp only [same.store]
      exact zoned.stored
    | cancelled read moved offered =>
      obtain ⟨-, rfl⟩ := Execution.transition_final_eq rfl moved
      exact zoned.offer (Execution.zoned_of_none rfl) offered
  | timed moment => exact .unhanded (still ▸ zoned.clock) zoned.stored rfl
  | registered loaded => exact .unhanded zoned.clock zoned.stored rfl
  | @created world flow id graph version key vars store newest free made =>
    have fresh : (Execution.new id graph.id version (Subject.ofValue key) vars world.clock).Zoned :=
      Execution.zoned_of_none rfl
    refine ⟨zoned.clock, zoned.stored.create ⟨fun _ => fresh, fun _ _ utc => utc.zoned⟩ made, ?_⟩
    rintro _ ⟨⟩
    exact fresh
  | @entered world left graph execution taken offered failure =>
    have known : execution.Zoned := zoned.hand _ rfl
    have moved : (execution.movedTo graph.start world.clock).Zoned := known
    exact zoned.offered moved offered failure
  | @roused world id record graph vars label reason reply read waits had =>
    refine ⟨zoned.clock, zoned.stored, ?_⟩
    rintro _ ⟨⟩
    exact zoned.stored record (Store.mem_of_get read).1
  | @resumed world left graph execution label reason reply taken offered failure =>
    have known := execution.resumed_zoned graph label reason reply world.clock
    exact zoned.offered known offered failure
  | @visited world left graph execution handled node result taken found handling offered failure =>
    have known : (execution.opened node world.clock).Zoned := zoned.hand execution rfl
    have ended := (handling.zoned zoned.clock known).closed graph node world.clock result
    exact zoned.offered ended offered failure
  | interrupted offered failure | exhausted offered failure =>
    exact zoned.offered (Execution.zoned_of_none rfl) offered failure
  | lost missing failure => exact .unhanded zoned.clock zoned.stored rfl
  | left => exact .unhanded zoned.clock zoned.stored rfl
  | @held world left id record reply taken read waits offered =>
    have known : Execution.Zoned { record with
        vars := record.vars.set Handler.lastMessage reply, updatedAt := world.clock } :=
      zoned.stored record (Store.mem_of_get read).1
    exact zoned.offer known offered
  | crashed read runs offered =>
    have cleared : Zoned ⟨_, .empty⟩ := .unhanded zoned.clock zoned.stored rfl
    exact cleared.offer (Execution.zoned_of_none rfl) offered
  | spared spare => exact .unhanded zoned.clock zoned.stored rfl

end Scene.Zoned

/-- A call lets time pass to moments of known offset only. -/
def Call.Zoned : Call → Prop
  | wait moment => moment.Zoned
  | _ => True

namespace World

/-- The worlds that runs of calls reach from an unused store over a clock whose offset is always
known. -/
inductive Clocked (engine : Engine) : World → Prop where
  /-- Nothing was called yet. -/
  | start {clock : Moment} {store : Store String} (unused : store.Unused) (zoned : clock.Zoned) :
    Clocked engine (.start clock store)
  /-- One more call. -/
  | call {world : World} (clocked : Clocked engine world) (call : Call) (zoned : call.Zoned) :
    Clocked engine (after (call.perform engine) world)

namespace Clocked

variable {engine : Engine} {world : World} (clocked : Clocked engine world)
include clocked

/-- Such a world is reached by a run of calls. -/
theorem reached : Reached engine world := by
  induction clocked with
  | start unused => exact ⟨_, _, [], unused, rfl⟩
  | call _ call _ ih =>
    obtain ⟨clock, store, calls, unused, rfl⟩ := ih
    exact ⟨clock, store, calls ++ [call], unused, by simp [Call.runs]⟩

/-- In such a world the offsets of the clock and of all deadlines are known. -/
theorem zoned : Scene.Zoned ⟨world, .empty⟩ := by
  induction clocked with
  | start unused zoned => exact .unhanded zoned (unused.dated _) rfl
  | @call world _ call zoned ih =>
    rcases call.perform_still engine world with ⟨moment, rfl, passed⟩ | serves
    · rw [passed]
      exact .unhanded zoned ih.stored rfl
    · exact Still.keep (fun _ _ => Scene.Zoned.move) serves ih

/-- In such a world the store can tell what is due at a moment of known offset, if tables can bring
it to universal time. -/
theorem compares {now : Moment} (aware : now.Zoned)
    (universal : world.store.inTables = true → now.toUtc?.isSome = true) :
    world.store.Compares now :=
  ⟨fun record member _ deadline until? =>
    (clocked.zoned.stored record member deadline until?).comparable aware, universal⟩

end Clocked

end World

end Parley
