import Parley.Proofs.Expiry
import Parley.Proofs.Views

/-!
# Conversations that do not meet

A call that concerns one subject leaves a world that agrees with the one before on every other
subject. So what is called for another subject comes to the same before and after it, and calls
that concern two subjects can change places.
-/

namespace Parley

open Parley.Computation World

/-- Stores with the same ids, in which the same is read under each, hold the same records. -/
theorem Store.records_eq {store other : Store String} (distinct : store.Distinct)
    (otherDistinct : other.Distinct)
    (ids : other.records.map Execution.id = store.records.map Execution.id)
    (reads : ∀ id ∈ store.records.map Execution.id, other.get id = store.get id) :
    other.records = store.records := by
  let given (record : Execution String) : Except Failure (Execution String) := .ok record
  have shown {store : Store String} (distinct : store.Distinct) :
      store.records.map given = (store.records.map Execution.id).map store.get := by
    rw [List.map_map]
    exact List.map_congr_left fun record member => (distinct.get member).symm
  have same : other.records.map given = store.records.map given := by
    rw [shown otherDistinct, shown distinct, ids]
    exact List.map_congr_left reads
  exact List.map_injective_iff.mpr (fun _ _ => Except.ok.inj) same

/-- Nothing is read under an id that no record has. -/
theorem Store.get_unknown {store : Store String} {id : String}
    (unknown : id ∉ store.records.map Execution.id) :
    store.get id = .error (.executionNotFound id) := by
  have none : store.records.find? (fun record => record.id == id) = none := by
    refine List.find?_eq_none.mpr fun record member => ?_
    have apart : record.id ≠ id := fun same => unknown (List.mem_map.mpr ⟨record, member, same⟩)
    simpa using apart
  rw [get_eq, none]

namespace World

/-- What a reply or a cancellation of a subject leaves of a world that is reached. -/
structure Elapsed (engine : Engine) (subject : String) (base left : World) : Prop where
  /-- The world was reached. -/
  reached : Reached engine base
  /-- The world that is left is reached. -/
  onward : Reached engine left
  /-- It keeps to the frame of the subject. -/
  framed : Framed engine.capabilities subject base left
  /-- The outside parts do not reach over to other subjects. -/
  discreet : Discreet engine.capabilities base subject
  /-- No record came or went. -/
  ids : left.store.records.map Execution.id = base.store.records.map Execution.id
  /-- The flows are the same. -/
  flows : left.flows = base.flows
  /-- Nothing is being stepped. -/
  stepping : left.stepping = base.stepping
  /-- Generators can be asked as before. -/
  closed : left.closed = base.closed

section Elapsed

variable {engine : Engine} {one other : String} {base left : World} {record : Execution String}

namespace Elapsed

/-- Records are of the same subjects as before. -/
theorem subjects (elapsed : Elapsed engine one base left) (here : record ∈ left.store.records) :
    ∃ old ∈ base.store.records, old.id = record.id ∧ old.subject = record.subject := by
  obtain ⟨old, member, named⟩ : ∃ old ∈ base.store.records, old.id = record.id :=
    List.mem_map.mp (elapsed.ids ▸ List.mem_map_of_mem here)
  have distinct := elapsed.reached.exclusive.distinct
  refine ⟨old, member, named, ?_⟩
  by_cases talks : old.subject = one
  · refine talks.trans (elapsed.framed.owned record here fun found listed same => ?_).symm
    rw [distinct.unique listed member (same.trans named.symm), talks]
  · rcases elapsed.framed.others old member talks with stays | struck
    · rw [elapsed.framed.distinct.unique stays here named]
    · obtain ⟨later, stays, recorded, -⟩ := struck.ended
      rw [← elapsed.framed.distinct.unique stays here (recorded.id.trans named), recorded.subject]
      rfl

/-- The same ids belong to a subject as before. -/
theorem belongs (elapsed : Elapsed engine one base left) (subject id : String) :
    left.Belongs subject id ↔ base.Belongs subject id := by
  have distinct := elapsed.reached.exclusive.distinct
  constructor
  · intro own record member named
    obtain ⟨later, here, same⟩ : ∃ later ∈ left.store.records, later.id = record.id :=
      List.mem_map.mp (elapsed.ids ▸ List.mem_map_of_mem member)
    obtain ⟨old, listed, sameOld, talks⟩ := elapsed.subjects here
    rw [distinct.unique member listed (same.symm.trans sameOld.symm), talks]
    exact own later here (same.trans named)
  · intro own record here named
    obtain ⟨old, listed, same, talks⟩ := elapsed.subjects here
    rw [← talks]
    exact own old listed (same.trans named)

/-- The outside parts do not reach over to other subjects as they did not before. -/
theorem stillDiscreet (elapsed : Elapsed engine one base left)
    (discreet : Discreet engine.capabilities base other) :
    Discreet engine.capabilities left other := by
  rintro id ⟨origin, owns, asks⟩
  rw [elapsed.belongs]
  exact discreet id ⟨origin, ⟨owns.talks, (elapsed.belongs _ _).mp owns.belongs⟩, asks⟩

/-- A call concerns the same subject as before. -/
theorem concerns (elapsed : Elapsed engine one base left) {call : Call}
    (concerns : call.Concerns base other) : call.Concerns left other := by
  cases concerns with
  | start flow vars own => exact .start flow vars own
  | inbound reply own => exact .inbound reply own
  | cancel own => exact .cancel ((elapsed.belongs _ _).mpr own)

/-- Records of other subjects are as they were. -/
theorem stays (elapsed : Elapsed engine one base left) (member : record ∈ base.store.records)
    (differs : record.subject ≠ one) : record ∈ left.store.records :=
  (elapsed.framed.others record member differs).resolve_right fun struck =>
    differs (elapsed.discreet record.id struck.asked record member rfl)

/-- What is left agrees with what was on every other subject. -/
theorem agrees (elapsed : Elapsed engine one base left) (apart : one ≠ other) :
    Agrees other base left base left := by
  have distinct := elapsed.reached.exclusive.distinct
  have differs {record : Execution String} (member : record ∈ base.store.records)
      (own : base.Belongs other record.id) : record.subject ≠ one :=
    own record member rfl ▸ apart.symm
  refine ⟨elapsed.framed.clock, elapsed.flows, elapsed.stepping, elapsed.closed,
    elapsed.framed.kind, rfl, fun id own => ?_, fun id record own read => ?_,
    fun id own known => ?_, [], by simp⟩
  · by_cases known : id ∈ base.store.records.map Execution.id
    · obtain ⟨record, member, rfl⟩ := List.mem_map.mp known
      have here := elapsed.stays member (differs member own)
      rw [distinct.get member, elapsed.framed.distinct.get here]
    · rw [Store.get_unknown known, Store.get_unknown (elapsed.ids ▸ known)]
  · obtain ⟨member, named⟩ := Store.mem_of_get read
    exact own record member named
  · obtain ⟨record, member, rfl⟩ := List.mem_map.mp known
    exact elapsed.framed.raised record member (differs member own) fun asked =>
      differs member own (elapsed.discreet record.id asked record member rfl)

/-- The same is stored of every other subject. -/
theorem reads (elapsed : Elapsed engine one base left) (apart : one ≠ other) {id : String}
    (own : base.Belongs other id) : left.store.get id = base.store.get id :=
  (elapsed.agrees apart).reads id own

/-- The same execution waits for every other subject as before. -/
theorem finds (elapsed : Elapsed engine one base left) (apart : one ≠ other) :
    left.store.findWaiting other = base.store.findWaiting other := by
  obtain ⟨before, search, spec, free⟩ := Store.findWaiting_spec base.store other
  obtain ⟨found, later, laterSpec, laterFree⟩ := Store.findWaiting_spec left.store other
  rw [search, later]
  -- A record of the other subject stands in both, so it waits in both or in none.
  have stands {record : Execution String} (here : record ∈ left.store.records)
      (talks : record.subject = other) : record ∈ base.store.records := by
    obtain ⟨old, listed, named, same⟩ := elapsed.subjects here
    have stays := elapsed.stays listed (by rw [same, talks]; exact apart.symm)
    rwa [← elapsed.framed.distinct.unique stays here named]
  cases before with
  | none =>
    cases found with
    | none => rfl
    | some waiting =>
      obtain ⟨here, talks, waits⟩ := laterSpec waiting rfl
      exact absurd waits (free rfl waiting (stands here talks) talks)
  | some waiting =>
    obtain ⟨member, talks, waits⟩ := spec waiting rfl
    have here := elapsed.stays member (by rw [talks]; exact apart.symm)
    cases found with
    | none => exact absurd waits (laterFree rfl waiting here talks)
    | some record =>
      obtain ⟨listed, same, alsoWaits⟩ := laterSpec record rfl
      have named := elapsed.onward.exclusive.single record listed waiting here alsoWaits waits
        (same.trans talks.symm)
      rw [elapsed.framed.distinct.unique listed here named]

/-- Calls of two subjects end with the same records in either order, if each comes to the same for
its own subject after the other as before it. -/
theorem records_swap {right leftRight rightLeft : World} (apart : one ≠ other)
    (first : Elapsed engine one base left) (second : Elapsed engine other base right)
    (secondLater : Elapsed engine other left leftRight)
    (firstLater : Elapsed engine one right rightLeft)
    (mine : ∀ id, base.Belongs one id → rightLeft.store.get id = left.store.get id)
    (theirs : ∀ id, base.Belongs other id → leftRight.store.get id = right.store.get id) :
    rightLeft.store.records = leftRight.store.records := by
  have ids := secondLater.ids.trans first.ids
  have otherIds := firstLater.ids.trans second.ids
  refine Store.records_eq secondLater.framed.distinct firstLater.framed.distinct
    (otherIds.trans ids.symm) fun id known => ?_
  obtain ⟨record, member, rfl⟩ : ∃ record ∈ base.store.records, record.id = id :=
    List.mem_map.mp (ids ▸ known)
  have own : base.Belongs record.subject record.id := fun found listed same => by
    rw [first.reached.exclusive.distinct.unique listed member same]
  have later := (first.belongs record.subject record.id).mpr own
  have otherLater := (second.belongs record.subject record.id).mpr own
  -- What is stored of a subject is settled by its own call, whichever comes first.
  by_cases ofOne : record.subject = one
  · rw [ofOne] at own later
    exact (mine _ own).trans (secondLater.reads apart.symm later).symm
  by_cases ofOther : record.subject = other
  · rw [ofOther] at own otherLater
    exact (firstLater.reads apart otherLater).trans (theirs _ own).symm
  calc
    rightLeft.store.get record.id
      = right.store.get record.id := firstLater.reads (Ne.symm ofOne) otherLater
    _ = base.store.get record.id := second.reads (Ne.symm ofOther) own
    _ = left.store.get record.id := (first.reads (Ne.symm ofOne) own).symm
    _ = leftRight.store.get record.id := (secondLater.reads (Ne.symm ofOther) later).symm

end Elapsed

/-- Every world agrees with itself on every subject. -/
theorem Agrees.refl (subject : String) (base : World) : Agrees subject base base base base :=
  ⟨rfl, rfl, rfl, rfl, rfl, rfl, fun _ _ => rfl, fun _ record own read =>
    own record (Store.mem_of_get read).1 (Store.mem_of_get read).2, fun _ _ _ => rfl, [], by simp⟩

/-- Worlds that calls reach from worlds that are reached are reached. -/
theorem Reached.perform (reached : Reached engine base) (call : Call) :
    Reached engine (after (call.perform engine) base) := by
  obtain ⟨clock, store, calls, unused, rfl⟩ := reached
  refine ⟨clock, store, calls ++ [call], unused, ?_⟩
  rw [Call.runs, Call.runs, List.foldl_append]
  rfl

/-- What is known of what a reply or a cancellation of a subject leaves of a world that is
reached. -/
theorem Reached.elapsed (reached : Reached engine base) (forgetful : engine.Forgetful)
    {call : Call} (discreet : Discreet engine.capabilities base one)
    (concerns : call.Concerns base one) (onward : Call.Onward call) :
    Elapsed engine one base (after (call.perform engine) base) := by
  have distinct := reached.exclusive.distinct
  have alike := Call.onward_agrees forgetful distinct discreet concerns onward (.refl one base) rfl
  obtain ⟨flows, calm⟩ := reached.calm
  have later := Call.perform_calm engine call calm
  have registers : Call.graph? engine call = none := by cases onward <;> rfl
  rw [registers] at later
  exact ⟨reached, reached.perform call, Call.perform_framed distinct concerns, discreet,
    alike.after.ids, later.flows.trans calm.flows.symm,
    (later.idle rfl).trans (calm.idle rfl).symm, later.closed.trans calm.closed.symm⟩

end Elapsed

end World

namespace Call

/-- Two calls can change places in a world. -/
structure Commute (engine : Engine) (world : World) (first second : Call) : Prop where
  /-- The one comes to the same after the other. -/
  firstOutcome : first.outcome engine (after (second.perform engine) world) =
    first.outcome engine world
  /-- The other comes to the same after the one. -/
  secondOutcome : second.outcome engine (after (first.perform engine) world) =
    second.outcome engine world
  /-- The same records are stored in the end. -/
  records : (runs engine [second, first] world).store.records =
    (runs engine [first, second] world).store.records
  /-- Every subject was sent the same in the end, in the same order. -/
  sends : ∀ subject, (runs engine [second, first] world).sends.filter (·.subject == subject) =
    (runs engine [first, second] world).sends.filter (·.subject == subject)

/-- What is sent to two subjects is, for each subject, the same in either order. -/
theorem sends_swap {one other : String} (apart : one ≠ other) {sends others : List Sending}
    (own : ∀ sending ∈ sends, sending.subject = one)
    (otherOwn : ∀ sending ∈ others, sending.subject = other) (subject : String) :
    (others ++ sends).filter (·.subject == subject) =
      (sends ++ others).filter (·.subject == subject) := by
  rw [List.filter_append, List.filter_append]
  by_cases same : one = subject
  · have silent : others.filter (·.subject == subject) = [] :=
      List.filter_eq_nil_iff.mpr fun sending member => by
        simp [otherOwn sending member, ← same, apart.symm]
    rw [silent, List.nil_append, List.append_nil]
  · have silent : sends.filter (·.subject == subject) = [] :=
      List.filter_eq_nil_iff.mpr fun sending member => by simp [own sending member, same]
    rw [silent, List.nil_append, List.append_nil]

/-- Replies and cancellations of two subjects can change places. -/
theorem onward_commute {engine : Engine} {world : World} (reached : Reached engine world)
    (forgetful : engine.Forgetful) {one other : String} (apart : one ≠ other)
    (discreet : Discreet engine.capabilities world one)
    (otherDiscreet : Discreet engine.capabilities world other) {first second : Call}
    (concerns : first.Concerns world one) (otherConcerns : second.Concerns world other)
    (onward : Onward first) (otherOnward : Onward second) :
    Commute engine world first second := by
  have distinct := reached.exclusive.distinct
  have left := reached.elapsed forgetful discreet concerns onward
  have right := reached.elapsed forgetful otherDiscreet otherConcerns otherOnward
  have leftRight := left.onward.elapsed forgetful (left.stillDiscreet otherDiscreet)
    (left.concerns otherConcerns) otherOnward
  have rightLeft := right.onward.elapsed forgetful (right.stillDiscreet discreet)
    (right.concerns concerns) onward
  have early := onward_agrees forgetful distinct discreet concerns onward
    (right.agrees apart.symm) (right.finds apart.symm)
  have late := onward_agrees forgetful distinct otherDiscreet otherConcerns otherOnward
    (left.agrees apart) (left.finds apart)
  -- Each call comes to the same in the world that the other leaves, and sends the same there.
  refine ⟨outcome_eq early, outcome_eq late, Elapsed.records_swap apart left right leftRight
    rightLeft early.after.reads late.after.reads, fun subject => ?_⟩
  obtain ⟨more, grown, mine⟩ := left.framed.sends
  obtain ⟨others, otherGrown, theirs⟩ := right.framed.sends
  obtain ⟨again, same, lateGrown⟩ := late.after.sends
  obtain ⟨otherAgain, otherSame, earlyGrown⟩ := early.after.sends
  obtain rfl : others = again := List.append_cancel_left (otherGrown.symm.trans same)
  obtain rfl : more = otherAgain := List.append_cancel_left (grown.symm.trans otherSame)
  have whole : (runs engine [first, second] world).sends = world.sends ++ (more ++ others) := by
    rw [← List.append_assoc, ← grown]
    exact lateGrown
  have otherWhole : (runs engine [second, first] world).sends =
      world.sends ++ (others ++ more) := by
    rw [← List.append_assoc, ← otherGrown]
    exact earlyGrown
  rw [whole, otherWhole, List.filter_append, sends_swap apart mine theirs, ← List.filter_append]

end Call

/-- Quiet outside parts and a store that refuses nothing are forgetful. -/
theorem Engine.quiet_forgetful : Engine.quiet.Forgetful :=
  ⟨fun _ _ _ _ => rfl, nofun, nofun, nofun, fun _ _ _ => rfl⟩

/-- Quiet outside parts reach over to no one. -/
theorem Capabilities.quiet_discreet (world : World) (subject : String) :
    World.Discreet .quiet world subject := by
  rintro id ⟨origin, -, asked | ⟨-, asked⟩⟩ <;> cases asked

/-- An engine with a registered type of nodes whose first call fails. -/
def Engine.faltering : Engine := { Engine.quiet with
  capabilities := { Capabilities.quiet with
    extensions := [("tally", some {
      attempts := .int 1
      delay := .float .zero
      outcome := fun count =>
        if count ≤ 1 then some (.raised "ConnectionError" "call 1") else none
      refusal := none
      action := .follow none })] } }

/-- The definition of a flow that waits for an answer, goes to a node of the registered type and
ends. -/
def Flow.tallying : Value :=
  let part (texts : List (String × String)) : Value :=
    .dict (texts.map fun (key, text) => (.text key, .text text))
  let edge (source target : String) : Value := part [("source", source), ("target", target)]
  .dict [
    (.text "id", .text "tallying"),
    (.text "nodes", .list [
      part [("id", "hello"), ("type", "start")],
      part [("id", "answer"), ("type", "wait")],
      part [("id", "count"), ("type", "tally")],
      part [("id", "bye"), ("type", "end")]]),
    (.text "edges", .list [edge "hello" "answer", edge "answer" "count", edge "count" "bye"])]

/-- The world in which the answers of two subjects are awaited. -/
def World.bothAwaited : World :=
  Call.runs .faltering [
    .register Flow.tallying,
    .start "tallying" (.text "316") .null,
    .start "tallying" (.text "317") .null] (.start .dawn (.memory .empty))

end Parley
