import Parley.Proofs.Containment
import Parley.Proofs.Due
import Parley.Proofs.Refusals

/-!
# Calls over a store that refuses

Runs of calls in which the store may refuse any request to save, and takes only the record of a
failure that follows. The outside parts may fail, but ask for nothing to be cancelled while they are
called. Then every call is contained, replies and expired waits fail nothing, and neither does a
start for a subject that nothing waits for.
-/

namespace Parley

open Parley.Computation World

/-- The id of the execution that is made next. -/
def World.nextName (world : World) : String :=
  "ex" ++ Text.padZeros 4 (toString (world.created + 1))

/-- An execution was made in the store. -/
structure World.Made (execution : Execution String) (before after : World) : Prop where
  /-- The store has a record of it. -/
  created : before.store.create execution = .ok after.store
  /-- Nothing was asked to be saved. -/
  saves : after.saves = before.saves

/-- What is beside the executions may change after an execution was made. -/
theorem World.Made.beside {execution : Execution String} {before after left : World}
    (made : Made execution before after) (same : Beside after left) : Made execution before left :=
  ⟨by rw [same.store]; exact made.created, same.saves.trans made.saves⟩

section Made

variable {engine : Engine} {execution : Execution String} {base start left : World}
  {own : List Save}

/-- Work on an execution that was made is work since before it was made. -/
theorem Stint.made (made : World.Made execution base start)
    (stint : Stint start [execution.id] own left) : Stint base [execution.id] own left := by
  obtain ⟨-, -, new, recorded, -, records⟩ := Store.create_records made.created
  refine ⟨made.saves ▸ stint.saves, stint.owned, stint.distinct, fun record apart => ?_⟩
  rw [stint.others record apart, records, List.mem_append, List.mem_singleton, or_iff_left]
  rintro rfl
  exact apart (by simp [recorded.id])

/-- Work on an execution that was made settles since before it was made. -/
theorem Settles.made (made : World.Made execution base start)
    (settles : Settles engine true start execution.id own left) :
    Settles engine true base execution.id own left := by
  refine ⟨settles.stint.made made, settles.rests, fun _ _ _ _ => nofun, ?_⟩
  rw [← made.saves]
  exact settles.blamed

end Made

/-- What happens between two worlds is contained in work on some executions. -/
def Confines (engine : Engine) (made : Bool) (before after : World) : Prop :=
  ∃ ids, Contains engine made ids before after

namespace Confines

variable {engine : Engine} {made : Bool} {first second third : World}

/-- Nothing happens to the executions. -/
theorem beside (same : Beside first second) : Confines engine made first second :=
  ⟨[], .beside same⟩

/-- More may happen beside the executions before. -/
theorem early (same : Beside first second) (confines : Confines engine made second third) :
    Confines engine made first third :=
  confines.imp fun _ contains => contains.early same

/-- More may happen beside the executions afterwards. -/
theorem late (confines : Confines engine made first second) (same : Beside second third) :
    Confines engine made first third :=
  confines.imp fun _ contains => contains.late same

end Confines

namespace Desk

variable {engine : Engine} (stored : engine.keeping = .stored)
  (aloof : engine.capabilities.Aloof) (bounded : engine.settings.budget.ceiling?.isSome)

section

include stored aloof bounded

/-- Taking up the wait of a stored execution, guarded, is contained. -/
theorem resumed_contains {id : String} {record : Execution String} (graph : Flow.Graph)
    {world : World} (read : world.store.get id = .ok record) (waits : record.status = .waiting)
    (vars : Variables) (label reason : String) (reply : Value) :
    Contains engine false [id] world (after (guarded engine { record with vars }
      (Tick.resume engine graph (.text label) (.text reason) reply true)) world) := by
  obtain ⟨member, rfl⟩ := Store.mem_of_get read
  intro distinct
  let execution := { record with vars }
  have waiting : execution.status = .waiting := waits
  -- The clock stands still while what is beside the executions changes.
  have works (held : World) (beside : Beside world held) :
      Tick.Works engine graph (execution.resumed graph label reason reply world.clock) held
        (Tick.resume engine graph (.text label) (.text reason) reply true ⟨execution, held⟩) := by
    rw [← beside.clock]
    exact Tick.resume_works engine graph label reason reply true waiting held
  obtain ⟨left, own, done, stint, settles⟩ := guarded_settles stored aloof bounded false
    works (execution.resumed_continues graph label reason reply world.clock).id distinct member rfl
    waits
  rw [after_of_ok done]
  refine ⟨own, stint, fun rests recovered => ?_⟩
  have whole := recovered.recovered record.id
  rw [requestsFor_own stint.owned] at whole
  exact .ofSettles (settles whole) (fun other listed _ => rests other listed)
    fun _ => ⟨member, rfl, waits⟩

/-- Starting an execution that was just made, guarded, is contained. -/
theorem made_contains {execution : Execution String} (graph : Flow.Graph) {base world : World}
    (running : execution.status = .running) (made : World.Made execution base world) :
    Contains engine true [execution.id] base
      (after (guarded engine execution (Tick.start engine graph true)) world) := by
  intro distinct
  obtain ⟨-, -, record, recorded, -, records⟩ := Store.create_records made.created
  have member : record ∈ world.store.records := by simp [records]
  have works (held : World) (beside : Beside world held) :
      Tick.Works engine graph (execution.movedTo graph.start world.clock) held
        (Tick.start engine graph true ⟨execution, held⟩) := by
    rw [← beside.clock]
    exact Tick.start_works engine graph true running held
  obtain ⟨left, own, done, stint, settles⟩ := guarded_settles stored aloof bounded true works
    rfl (distinct.create made.created) member recorded.id (recorded.status.trans running)
  rw [after_of_ok done]
  refine ⟨own, stint.made made, fun rests recovered => ?_⟩
  have whole := recovered.recovered execution.id
  rw [requestsFor_own stint.owned] at whole
  have waits (resumed : true = false) : record ∈ base.store.records ∧
      record.id = execution.id ∧ record.status = .waiting := nomatch resumed
  exact .ofSettles ((settles whole).made made) (fun other listed _ => rests other listed) waits

/-- A start is contained. -/
theorem start_confines (flow : String) (subject vars : Value) (world : World) :
    Confines engine true world (after (start engine flow subject vars) world) := by
  have begun := start_begun engine flow subject vars world
  generalize after (start engine flow subject vars) world = left at begun
  cases begun with
  | refused same => exact .beside same
  | @made stood opened left flow id graph version key vars store entered newest free created
      opening same =>
    let execution := Execution.new id graph.id version (Subject.ofValue key) vars stood.clock
    have made : World.Made execution stood { stood with store } := ⟨created, rfl⟩
    have contains := made_contains stored aloof bounded graph rfl (made.beside opening)
    exact ⟨_, (contains.early entered).late same⟩

/-- Looking after a wait is contained. -/
theorem Attended.contains {id : String} {world left : World}
    (attended : Attended engine id world left) : Contains engine false [id] world left := by
  cases attended with
  | passed same => exact .beside same
  | @kept stood noted left record reply taken entered read waits offered same =>
    obtain ⟨member, rfl⟩ := Store.mem_of_get read
    have asked : Contains engine false [record.id] stood noted :=
      .offered member (fun _ => waits) (by rfl) (by simp [waits]) offered
    exact (asked.early entered).late same
  | @roused stood left record graph vars label reason reply entered read waits had same =>
    have resumed := resumed_contains stored aloof bounded graph read waits vars label reason reply
    exact (resumed.early entered).late same

/-- Routing a reply is contained. -/
theorem inbound_confines (subject reply : Value) (world : World) :
    Confines engine false world (after (inbound engine subject reply) world) := by
  obtain ⟨id, attended⟩ := inbound_attended engine subject reply world
  exact ⟨[id], attended.contains stored aloof bounded⟩

end

/-- Ending waits never fails, and ends them one after another. -/
theorem expireEach_apply (engine : Engine) (now : Time.Moment) (ids : List String)
    (world : World) :
    ∃ resumed, expireEach engine now ids world = .ok resumed
      (ids.foldl (fun world id => after (expireOne engine id now) world) world) := by
  induction ids generalizing world with
  | nil => exact ⟨[], rfl⟩
  | cons id rest ih =>
    obtain ⟨others, done⟩ := ih (after (expireOne engine id now) world)
    have attempted : ∃ outcome, attempt (expireOne engine id now) world =
        .ok outcome (after (expireOne engine id now) world) := by
      unfold attempt after
      cases expireOne engine id now world with
      | ok value left => exact ⟨.ok value, rfl⟩
      | error failure left => exact ⟨.error failure, rfl⟩
    obtain ⟨outcome, tried⟩ := attempted
    rw [expireEach, bind_of_ok tried, bind_of_ok done, List.foldl_cons]
    split <;> exact ⟨_, rfl⟩

section

include stored aloof bounded

/-- Ending waits, one after another, is contained if each is ended once. -/
theorem expireEach_contains (now : Time.Moment) {ids : List String} (once : ids.Nodup)
    (world : World) : Contains engine false ids world
      (ids.foldl (fun world id => after (expireOne engine id now) world) world) := by
  induction ids generalizing world with
  | nil => exact .beside (refl_of _ world)
  | cons id rest ih =>
    obtain ⟨apart, once⟩ := List.nodup_cons.mp once
    have turn := (expireOne_attended engine id now world).contains stored aloof bounded
    exact turn.andThen (ih once _) apart

/-- Ending all waits that are over is contained. -/
theorem expire_confines (now : Time.Moment) (world : World) :
    Confines engine false world (after (expire engine now) world) := by
  unfold expire
  rw [after_bind_of_ok (get_apply world)]
  refine ofExcept_leaves (.beside (refl_of _ world)) fun ids listed => ?_
  obtain ⟨resumed, done⟩ := expireEach_apply engine now ids world
  rw [after_of_ok done]
  refine ⟨ids, fun distinct => ?_⟩
  exact expireEach_contains stored aloof bounded now (distinct.listDue listed) world distinct

end

/-- Registering a flow is contained. -/
theorem register_confines (engine : Engine) (definition : Value) (world : World) :
    Confines engine false world (after (register engine definition) world) := by
  refine ofExcept_leaves (.beside (refl_of _ world)) fun graph _ => ?_
  exact ⟨[], .untouched rfl rfl⟩

/-- Cancelling an execution is contained. -/
theorem cancel_confines (engine : Engine) (id : String) (world : World) :
    Confines engine false world (after (cancel engine id) world) := by
  have cancels := cancel_cancels engine id world
  generalize after (cancel engine id) world = left at cancels
  cases cancels with
  | unasked same => exact .beside same
  | @asked stood met left record taken raised read unfinished offered closed =>
    obtain ⟨member, named⟩ := Store.mem_of_get read
    have waits (rests : record.status ≠ .running) : record.status = .waiting := by
      cases status : record.status with
      | waiting => rfl
      | running => exact absurd status rests
      | _ => simp [status, Status.isFinal] at unfinished
    have asked : Contains engine false [record.id] stood met :=
      .offered member waits (by rfl) (by simp [Execution.ended]) offered
    exact ⟨_, (asked.early raised).late closed⟩

section

variable (engine : Engine) {world : World} {newest : Flow.Graph × Nat} {values : Variables}
  {store : Store String} {vars : Value}
  (valued : Variables.ofValue (.text world.nextName) vars = .ok values)
include valued

/-- Starting for a subject that nothing waits for does not fail if the store takes the execution
that is made. -/
theorem startFree_starts {subject : String}
    (created : world.store.create
      (.new world.nextName newest.1.id newest.2 subject values world.clock) = .ok store) :
    ∃ left, startFree engine newest subject vars world = .ok world.nextName left := by
  let counted := { world with created := world.created + 1 }
  let execution := Execution.new world.nextName newest.1.id newest.2 subject values world.clock
  have numbered : nextId world = .ok world.nextName counted := rfl
  have known : ofExcept (Variables.ofValue (.text world.nextName) vars) counted =
      .ok values counted := by
    rw [valued]
    rfl
  have made : ofExcept (counted.store.create execution) counted = .ok store counted := by
    rw [created]
    rfl
  obtain ⟨-, left, -, done, -⟩ := guarded_ends engine execution (Tick.start engine newest.1 true)
    { counted with store, executions := counted.executions.enter world.nextName }
  refine ⟨{ left with executions := left.executions.leave world.nextName }, ?_⟩
  rw [startFree, bind_of_ok (get_apply world), bind_of_ok numbered, bind_of_ok known,
    bind_of_ok (get_apply counted), bind_of_ok made, bind_of_ok (modify_apply _ counted),
    bind_apply, holdingExecution_apply, done]
  rfl

/-- A start of a registered flow for a subject that nothing waits for does not fail if the store
takes the execution that is made. -/
theorem start_starts {flow : String} {key : Value}
    (registered : world.flows.latest flow = .ok newest)
    (free : ∀ record ∈ world.store.records,
      record.subject = Subject.ofValue key → record.status ≠ .waiting)
    (created : world.store.create
      (.new world.nextName newest.1.id newest.2 (Subject.ofValue key) values world.clock) =
        .ok store) :
    ∃ left, start engine flow key vars world = .ok world.nextName left := by
  let held := { world with subjects := world.subjects.enter (Subject.ofValue key) }
  have nobody : ofExcept (held.store.findWaiting (Subject.ofValue key)) held =
      .ok none held := by
    obtain ⟨found, search, waits, -⟩ := world.store.findWaiting_spec (Subject.ofValue key)
    cases found with
    | none =>
      rw [search]
      rfl
    | some active =>
      obtain ⟨member, subjects, waiting⟩ := waits active rfl
      exact absurd waiting (free active member subjects)
  have named : Variables.ofValue (.text held.nextName) vars = .ok values := valued
  obtain ⟨left, done⟩ := startFree_starts engine named created
  rw [start_registered key vars registered, holdingSubject_apply,
    (bind_of_ok (get_apply held)).trans (bind_of_ok nobody)]
  simp only [done]
  exact ⟨_, rfl⟩

end

/-- What never fails does not fail while a subject is held. -/
theorem holdingSubject_ends {α : Type} {subject : String} {action : Desk α}
    (ends : ∀ held, ∃ value left, action held = .ok value left) (world : World) :
    ∃ value left, holdingSubject subject action world = .ok value left := by
  obtain ⟨value, left, done⟩ := ends { world with subjects := world.subjects.enter subject }
  rw [holdingSubject_apply, done]
  exact ⟨value, _, rfl⟩

/-- Whatever becomes of it, a reply is routed. -/
theorem inbound_routes (engine : Engine) (subject reply : Value) (world : World) :
    ∃ routed left, inbound engine subject reply world = .ok routed left := by
  refine holdingSubject_ends (fun held => ?_) world
  rw [bind_apply]
  unfold attempt
  cases deliver engine (Subject.ofValue subject) reply held with
  | ok resumed left => exact ⟨resumed, left, rfl⟩
  | error failure left => exact ⟨none, left, rfl⟩

/-- If the waits that are over can be listed, they are ended in the order of the list. -/
theorem expire_apply (engine : Engine) {now : Time.Moment} {world left : World}
    {ids expired : List String} (listed : world.store.listDue now = .ok ids)
    (done : expireEach engine now ids world = .ok expired left) :
    expire engine now world = .ok expired left := by
  have given : ofExcept (world.store.listDue now) world = .ok ids world := by
    rw [listed]
    rfl
  exact (bind_of_ok (get_apply world)).trans ((bind_of_ok given).trans done)

/-- If the waits that are over can be listed, ending them does not fail. -/
theorem expire_expires (engine : Engine) {now : Time.Moment} {world : World} {ids : List String}
    (listed : world.store.listDue now = .ok ids) :
    ∃ expired left, expire engine now world = .ok expired left := by
  obtain ⟨expired, done⟩ := expireEach_apply engine now ids world
  exact ⟨expired, _, expire_apply engine listed done⟩

end Desk

namespace Call

/-- Whether the call makes an execution. -/
def makes : Call → Bool
  | start .. => true
  | _ => false

/-- Every call is contained if the outside parts ask for nothing to be cancelled. -/
theorem perform_confines {engine : Engine} (aloof : engine.capabilities.Aloof)
    (bounded : engine.settings.budget.ceiling?.isSome) (call : Call) (world : World) :
    Confines engine.atDesk call.makes world (after (call.perform engine) world) := by
  have stored : engine.atDesk.keeping = .stored := rfl
  cases call with
  | register definition =>
    rw [perform, after_thenPure]
    exact Desk.register_confines engine.atDesk definition world
  | start flow subject vars =>
    rw [perform, after_thenPure]
    exact Desk.start_confines stored aloof bounded flow subject vars world
  | inbound subject reply =>
    rw [perform, after_thenPure]
    exact Desk.inbound_confines stored aloof bounded subject reply world
  | expire now =>
    rw [perform, after_thenPure]
    exact Desk.expire_confines stored aloof bounded now world
  | cancel id =>
    rw [perform, after_thenPure]
    exact Desk.cancel_confines engine.atDesk id world
  | wait moment => exact ⟨[], .untouched rfl rfl⟩

end Call

/-- The requests to save since an earlier world. -/
def World.since (world before : World) : List Save := world.saves.drop before.saves.length

namespace Call

/-- The failures of a call could all be recorded. -/
def Recovers (engine : Engine) (call : Call) (world : World) : Prop :=
  RecoveredAll call.makes ((after (call.perform engine) world).since world)

instance (engine : Engine) (call : Call) (world : World) : Decidable (call.Recovers engine world) :=
  inferInstanceAs (Decidable (RecoveredAll _ _))

/-- If nothing runs before a call and its failures could be recorded, the call is contained. -/
theorem perform_contained {engine : Engine} (aloof : engine.capabilities.Aloof)
    (bounded : engine.settings.budget.ceiling?.isSome) (call : Call) {world : World}
    (distinct : world.store.Distinct)
    (rests : ∀ record ∈ world.store.records, record.status ≠ .running)
    (recovers : call.Recovers engine world) :
    (after (call.perform engine) world).store.Distinct ∧
      Contained engine.atDesk call.makes world ((after (call.perform engine) world).since world)
        (after (call.perform engine) world) := by
  obtain ⟨ids, contains⟩ := call.perform_confines aloof bounded world
  obtain ⟨asked, stint, contained⟩ := contains distinct
  have since : (after (call.perform engine) world).since world = asked := by
    rw [World.since, stint.saves, List.drop_left]
  unfold Recovers at recovers
  rw [since] at recovers ⊢
  exact ⟨stint.distinct, contained rests recovers⟩

end Call

namespace World

/-- The worlds that runs of calls reach from an unused store, if the failures of every call could be
recorded. -/
inductive Weathered (engine : Engine) : World → Prop where
  /-- Nothing was called yet. -/
  | start {clock : Time.Moment} {store : Store String} (unused : store.Unused) :
    Weathered engine (.start clock store)
  /-- One more call. -/
  | call {world : World} (weathered : Weathered engine world) (call : Call)
    (recovers : call.Recovers engine world) : Weathered engine (after (call.perform engine) world)

namespace Weathered

variable {engine : Engine} (aloof : engine.capabilities.Aloof)
  (bounded : engine.settings.budget.ceiling?.isSome) {world : World}
  (weathered : Weathered engine world)
include aloof bounded weathered

/-- Between calls nothing runs. -/
theorem rests :
    world.store.Distinct ∧ ∀ record ∈ world.store.records, record.status ≠ .running := by
  induction weathered with
  | start unused =>
    have none := unused.records
    exact ⟨by simp [Store.Distinct, World.start, none], by simp [World.start, none]⟩
  | call weathered call recovers ih =>
    obtain ⟨distinct, contained⟩ := call.perform_contained aloof bounded ih.1 ih.2 recovers
    exact ⟨distinct, contained.rests⟩

end Weathered

end World

/-- Outside parts that do nothing ask for nothing. -/
theorem Capabilities.quiet_aloof : quiet.Aloof := ⟨fun _ _ _ => rfl, fun _ => rfl⟩

/-- A quiet engine whose store refuses the third and the ninth request. -/
def Engine.flaky : Engine := { Engine.quiet with
  refusal := fun before _ =>
    if before.length ∈ [2, 8] then some (.badState "database is locked") else none }

namespace World

/-- The world in which a subject waits whose first execution failed for a request that was
refused. -/
def retried : World :=
  Call.runs .flaky [
    .register Flow.greeting,
    .start "greeting" (.text "+31 6") .null,
    .start "greeting" (.text "+31 6") .null] (.start default (.memory .empty))

/-- The failures before the subject waited could be recorded. -/
theorem retried_weathered : Weathered .flaky retried :=
  .call (.call (.call (.start .memory) (.register Flow.greeting) (by decide +kernel))
    (.start "greeting" (.text "+31 6") .null) (by decide +kernel))
    (.start "greeting" (.text "+31 6") .null) (by decide +kernel)

end World

end Parley
