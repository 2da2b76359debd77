import Parley.Proofs.Stints

/-!
# Containment of failures

Between calls of the desk nothing runs, whatever the store refuses, as long as it takes the records
of failures and the outside parts ask for nothing to be cancelled. An execution of which the first
request in a call was refused still waits as before, and one of which a later request was refused
has failed for that.
-/

namespace Parley

open Parley.Computation World

/-- The requests to save executions of an id. -/
def requestsFor (id : String) (asked : List Save) : List Save :=
  asked.filter fun save => save.execution.id == id

section requestsFor

variable {id : String} {asked : List Save}

/-- Requests that are all for one execution. -/
theorem requestsFor_own (owned : ∀ save ∈ asked, save.execution.id ∈ [id]) :
    requestsFor id asked = asked := by
  simpa [requestsFor, List.filter_eq_self] using owned

/-- Requests for one execution, among requests and more of them. -/
theorem requestsFor_append (id : String) (asked more : List Save) :
    requestsFor id (asked ++ more) = requestsFor id asked ++ requestsFor id more :=
  List.filter_append ..

/-- Requests that are all for others. -/
theorem requestsFor_others {ids : List String} (owned : ∀ save ∈ asked, save.execution.id ∈ ids)
    (apart : id ∉ ids) : requestsFor id asked = [] := by
  rw [requestsFor, List.filter_eq_nil_iff]
  intro save member same
  rw [beq_iff_eq] at same
  exact apart (same ▸ owned save member)

/-- A request for an execution of the id. -/
theorem requestsFor_self {save : Save} (named : save.execution.id = id) :
    requestsFor id [save] = [save] :=
  requestsFor_own (by simp [named])

/-- A request for an execution of another id. -/
theorem requestsFor_apart {save : Save} (apart : save.execution.id ≠ id) :
    requestsFor id [save] = [] := by
  simp [requestsFor, apart]

end requestsFor

/-- One offer of an execution that did not run settles. -/
theorem Settles.offered {engine : Engine} {base left : World} {record execution : Execution String}
    {taken : Bool} (distinct : base.store.Distinct) (member : record ∈ base.store.records)
    (still : record.status ≠ .running) (named : execution.id = record.id)
    (rests : execution.status ≠ .running) (offered : Offered execution base taken left) :
    Settles engine false base record.id [⟨execution, taken⟩] left := by
  refine ⟨(Stint.refl distinct [record.id]).offered (by simp [named]) offered, ?_, ?_, ?_⟩
  · cases taken with
    | true =>
      obtain ⟨kept, listed, recorded⟩ := offered.recorded
      exact ⟨kept, listed, recorded.id.trans named, by rw [recorded.status]; exact rests⟩
    | false =>
      cases offered with
      | refused => exact ⟨record, member, rfl, still⟩
  · intro refused late split refusal _
    obtain ⟨rfl, -⟩ := List.cons.inj split
    cases offered with
    | taken => cases refusal
    | refused => rfl
  · intro early refused late split _ again
    rcases again with impossible | again
    · cases impossible
    · cases early with
      | nil => exact absurd rfl again
      | cons head tail => simp at split

/-- What a call comes to. -/
structure Contained (engine : Engine) (made : Bool) (before : World) (asked : List Save)
    (after : World) : Prop where
  /-- Nothing runs in the store. -/
  rests : ∀ record ∈ after.store.records, record.status ≠ .running
  /-- An execution that waited and of which the first request was refused stays as it was. -/
  spared : ∀ id refused late, requestsFor id asked = refused :: late → refused.taken = false →
    made = false → ∃ record ∈ before.store.records,
      record.id = id ∧ record.status = .waiting ∧ record ∈ after.store.records
  /-- An execution of which any other request was refused failed for that. -/
  blamed : ∀ id early refused late, requestsFor id asked = early ++ refused :: late →
    refused.taken = false → (made = true ∨ early ≠ []) → ∃ middle failure rest,
      after.saves = middle.saves ++ refused :: rest ∧
      Desk.saved engine refused.execution middle = .error failure ∧ after.Blames id failure

/-- Every failure of a call could be recorded. -/
def RecoveredAll (made : Bool) (asked : List Save) : Prop :=
  ∀ save ∈ asked, Recovered made (requestsFor save.execution.id asked)

instance (made : Bool) (asked : List Save) : Decidable (RecoveredAll made asked) :=
  inferInstanceAs (Decidable (∀ save ∈ asked, Recovered made _))

/-- The failures of an execution could be recorded. -/
theorem RecoveredAll.recovered {made : Bool} {asked : List Save} (all : RecoveredAll made asked)
    (id : String) : Recovered made (requestsFor id asked) := by
  intro save last
  have member := List.mem_of_getLast? last
  rw [requestsFor, List.mem_filter, beq_iff_eq] at member
  obtain ⟨member, rfl⟩ := member
  exact all save member save last

/-- The failures of some of the executions could be recorded if those of all could. -/
theorem RecoveredAll.part {made : Bool} {asked part : List Save} (all : RecoveredAll made asked)
    (same : ∀ save ∈ part, requestsFor save.execution.id part =
      requestsFor save.execution.id asked) : RecoveredAll made part := by
  intro save member
  rw [same save member]
  exact all.recovered save.execution.id

namespace Contained

variable {engine : Engine} {made : Bool} {base world left : World} {id : String}
  {own : List Save}

/-- A stint on one execution is contained if it settles. -/
theorem ofSettles (settles : Settles engine made base id own world)
    (rests : ∀ record ∈ base.store.records, record.id ≠ id → record.status ≠ .running)
    {record : Execution String} (waits : made = false →
      record ∈ base.store.records ∧ record.id = id ∧ record.status = .waiting) :
    Contained engine made base own world := by
  have apart (other : String) (differs : other ≠ id) : requestsFor other own = [] :=
    requestsFor_others settles.stint.owned (by simpa using differs)
  refine ⟨?_, ?_, ?_⟩
  · intro other member
    by_cases named : other.id = id
    · obtain ⟨resting, listed, same, status⟩ := settles.rests
      rw [settles.stint.distinct.unique member listed (named.trans same.symm)]
      exact status
    · exact rests other ((settles.stint.others other (by simpa using named)).mp member) named
  · intro other refused late split refusal resumed
    by_cases named : other = id
    · subst named
      rw [requestsFor_own settles.stint.owned] at split
      obtain ⟨member, same, waiting⟩ := waits resumed
      refine ⟨record, member, same, waiting, ?_⟩
      rw [settles.spared refused late split refusal resumed]
      exact member
    · rw [apart other named] at split
      cases split
  · intro other early refused late split refusal later
    by_cases named : other = id
    · subst named
      rw [requestsFor_own settles.stint.owned] at split
      obtain ⟨middle, failure, saves, raised, blames⟩ :=
        settles.blamed early refused late split refusal later
      refine ⟨middle, failure, late, ?_, raised, blames⟩
      rw [settles.stint.saves, split, saves, List.append_assoc]
    · rw [apart other named] at split
      simp at split

/-- A stretch without requests is contained if nothing ran. -/
theorem unasked (rests : ∀ record ∈ base.store.records, record.status ≠ .running)
    (store : world.store = base.store) : Contained engine made base [] world := by
  refine ⟨?_, ?_, ?_⟩
  · rw [store]
    exact rests
  · intro id refused late split
    cases split
  · intro id early refused late split
    simp [requestsFor] at split

end Contained

/-- What happens between two worlds is contained: it is a stretch of work on some executions, and if
nothing ran before and its failures could be recorded, it comes to what a call comes to. -/
def Contains (engine : Engine) (made : Bool) (ids : List String) (before after : World) : Prop :=
  before.store.Distinct → ∃ asked, Stint before ids asked after ∧
    ((∀ record ∈ before.store.records, record.status ≠ .running) → RecoveredAll made asked →
      Contained engine made before asked after)

namespace Contains

variable {engine : Engine} {made : Bool} {ids : List String} {first second third : World}

/-- The store is not asked for anything. -/
theorem untouched (store : second.store = first.store) (saves : second.saves = first.saves) :
    Contains engine made ids first second := by
  intro distinct
  refine ⟨[], ⟨by rw [saves, List.append_nil], by simp, ?_, ?_⟩, fun rests _ => ?_⟩
  · rwa [store]
  · intro record _
    rw [store]
  · exact .unasked rests store

/-- Nothing happens to the executions. -/
theorem beside (same : Beside first second) : Contains engine made ids first second :=
  .untouched same.store same.saves

/-- More may happen beside the executions before. -/
theorem early (same : Beside first second) (contains : Contains engine made ids second third) :
    Contains engine made ids first third := by
  intro distinct
  obtain ⟨asked, stint, contained⟩ := contains (by rw [same.store]; exact distinct)
  refine ⟨asked, ?_, fun rests recovered => ?_⟩
  · refine ⟨same.saves ▸ stint.saves, stint.owned, stint.distinct, ?_⟩
    rw [← same.store]
    exact stint.others
  · rw [← same.store] at rests
    obtain ⟨after, spared, blamed⟩ := contained rests recovered
    refine ⟨after, ?_, blamed⟩
    rw [← same.store]
    exact spared

/-- More may happen beside the executions afterwards. -/
theorem late (contains : Contains engine made ids first second) (same : Beside second third) :
    Contains engine made ids first third := by
  intro distinct
  obtain ⟨asked, stint, contained⟩ := contains distinct
  refine ⟨asked, stint.beside same, fun rests recovered => ?_⟩
  obtain ⟨after, spared, blamed⟩ := contained rests recovered
  refine ⟨?_, ?_, ?_⟩
  · rw [same.store]
    exact after
  · rw [same.store]
    exact spared
  · rw [same.saves]
    unfold World.Blames
    rw [same.store]
    exact blamed

/-- What happens to one execution may be followed by what happens to others. -/
theorem andThen {id : String} (head : Contains engine false [id] first second)
    (tail : Contains engine false ids second third) (apart : id ∉ ids) :
    Contains engine false (id :: ids) first third := by
  intro distinct
  obtain ⟨own, stint, contained⟩ := head distinct
  obtain ⟨more, later, laterContained⟩ := tail stint.distinct
  refine ⟨own ++ more, stint.trans later, fun rests recovered => ?_⟩
  have self : requestsFor id (own ++ more) = requestsFor id own := by
    rw [requestsFor_append, requestsFor_others later.owned apart, List.append_nil]
  have other (name : String) (differs : name ≠ id) :
      requestsFor name (own ++ more) = requestsFor name more := by
    have none := requestsFor_others stint.owned (by simpa using differs)
    rw [requestsFor_append, none, List.nil_append]
  have headRecovered : RecoveredAll false own := recovered.part fun save member => by
    have named : save.execution.id = id := by simpa using stint.owned save member
    rw [named, self]
  have tailRecovered : RecoveredAll false more := recovered.part fun save member => by
    have differs : save.execution.id ≠ id := by
      rintro rfl
      exact apart (later.owned save member)
    rw [other _ differs]
  have before := contained rests headRecovered
  have after := laterContained before.rests tailRecovered
  refine ⟨after.rests, ?_, ?_⟩
  · intro name refused late split refusal resumed
    by_cases named : name = id
    · subst named
      rw [self] at split
      obtain ⟨record, member, same, waits, kept⟩ :=
        before.spared name refused late split refusal resumed
      exact ⟨record, member, same, waits, (later.others record (by rwa [same])).mpr kept⟩
    · rw [other name named] at split
      obtain ⟨record, member, same, waits, kept⟩ :=
        after.spared name refused late split refusal resumed
      have outside : record.id ∉ [id] := by simpa [same] using named
      exact ⟨record, (stint.others record outside).mp member, same, waits, kept⟩
  · intro name early refused late split refusal again
    by_cases named : name = id
    · subst named
      rw [self] at split
      obtain ⟨middle, failure, rest, saves, raised, record, member, same, failed⟩ :=
        before.blamed name early refused late split refusal again
      refine ⟨middle, failure, rest ++ more, ?_, raised, record, ?_, same, failed⟩
      · rw [later.saves, saves, List.append_assoc, List.cons_append]
      · exact (later.others record (by rwa [same])).mpr member
    · rw [other name named] at split
      exact after.blamed name early refused late split refusal again

/-- One offer of an execution that waited, unless it ran, is contained. -/
theorem offered {record execution : Execution String} {taken : Bool}
    (member : record ∈ first.store.records)
    (waits : record.status ≠ .running → record.status = .waiting)
    (named : execution.id = record.id) (rests : execution.status ≠ .running)
    (offered : Offered execution first taken second) :
    Contains engine false [record.id] first second := by
  intro distinct
  have stint := (Stint.refl distinct [record.id]).offered (by simp [named]) offered
  refine ⟨_, stint, fun quiet _ => ?_⟩
  have still : record.status ≠ .running := quiet record member
  have settles : Settles engine false first record.id [⟨execution, taken⟩] second :=
    .offered distinct member still named rests offered
  exact .ofSettles settles (fun other listed _ => quiet other listed)
    fun _ => ⟨member, rfl, waits still⟩

end Contains

end Parley
