import Parley.Proofs.Heeding
import Parley.Proofs.Passes

/-!
# Grants of cancellations

A cancellation is granted when the store takes the execution as cancelled. A visit in progress does
not notice: when it is over it saves its own copy of the execution, which overrules what was granted
if the visit parks or ends the execution. If it leads on, the execution is asked to stop before the
next visit, and is cancelled there unless the store refuses it.
-/

namespace Parley

open Parley.Computation World

/-- A cancellation was granted: the store took an execution as cancelled. -/
def Save.Grants (save : Save) : Prop :=
  save.taken = true ∧ save.execution.status = .cancelled

instance : DecidablePred Save.Grants := fun _ => inferInstanceAs (Decidable (_ ∧ _))

/-- The requests to save an execution after a cancellation of it was granted overrule it. -/
inductive Overruled : List Save → Prop where
  /-- The next request parked the execution, or ended it in another way. -/
  | replaced {save : Save} {later : List Save} (taken : save.taken = true)
    (rests : save.execution.status ≠ .running) (other : save.execution.status ≠ .cancelled) :
    Overruled (save :: later)
  /-- The execution went on by the next request, and the store refused it as cancelled later. -/
  | refused {save last : Save} {later : List Save} (taken : save.taken = true)
    (runs : save.execution.status = .running) (member : last ∈ later)
    (ended : last.execution.status = .cancelled) (refusal : last.taken = false) :
    Overruled (save :: later)

/-- More requests change nothing of that. -/
theorem Overruled.append {later : List Save} (overruled : Overruled later) (more : List Save) :
    Overruled (later ++ more) := by
  cases overruled with
  | replaced taken rests other => exact .replaced taken rests other
  | refused taken runs member ended refusal =>
    exact .refused taken runs (List.mem_append_left more member) ended refusal

/-- Every cancellation that was granted by a request, of all those to save an execution, is kept or
overruled by those after it. -/
def Honoured (own : List Save) (kept : Prop) : Prop :=
  ∀ granted later, granted :: later <:+ own → granted.Grants → kept ∨ Overruled later

/-- An end of two lists after one another is an end of the second, or goes back into the first. -/
theorem cons_suffix_append {α : Type} {first : α} {rest own more : List α}
    (suffix : first :: rest <:+ own ++ more) :
    first :: rest <:+ more ∨ ∃ early, rest = early ++ more ∧ first :: early <:+ own := by
  obtain ⟨before, split⟩ := suffix
  rcases List.append_eq_append_iff.mp split with ⟨middle, same, rest⟩ | ⟨middle, same, rest⟩
  · cases middle with
    | nil =>
      left
      rw [List.nil_append] at rest
      rw [rest]
    | cons head early =>
      right
      obtain ⟨rfl, rfl⟩ := List.cons.inj rest
      exact ⟨early, rfl, before, same.symm⟩
  · left
    exact ⟨middle, rest.symm⟩

/-- The end of a single request is that request. -/
theorem cons_suffix_singleton {α : Type} {first last : α} {rest : List α}
    (suffix : first :: rest <:+ [last]) : first = last ∧ rest = [] := by
  rcases List.suffix_cons_iff.mp suffix with same | within
  · simpa using same
  · simp at within

namespace Honoured

variable {own more : List Save} {kept later : Prop}

/-- What is kept is honoured. -/
theorem of_kept (holds : kept) : Honoured own kept := fun _ _ _ _ => .inl holds

/-- Where nothing is granted, everything is honoured. -/
theorem of_none (none : ∀ save ∈ own, ¬ save.Grants) : Honoured own kept :=
  fun _ _ suffix grants => absurd grants (none _ (suffix.subset List.mem_cons_self))

/-- Where nothing is asked, everything is honoured. -/
theorem nil : Honoured [] kept := .of_none (by simp)

/-- What was honoured is so after more requests that honour their own. -/
theorem append (before : Honoured own kept) (stays : kept → later) (after : Honoured more later) :
    Honoured (own ++ more) later := by
  intro granted rest suffix grants
  rcases cons_suffix_append suffix with late | ⟨early, rfl, within⟩
  · exact after granted rest late grants
  · exact (before granted early within grants).imp stays (·.append more)

end Honoured

namespace World

/-- The execution of an id is cancelled in the store. -/
def Cancelled (world : World) (id : String) : Prop :=
  ∃ record, world.store.get id = .ok record ∧ record.status = .cancelled

/-- Between two worlds the cancellations of the execution of an id that were granted are kept or
overruled. -/
def Honours (id : String) (before after : World) : Prop :=
  ∃ asked, after.saves = before.saves ++ asked ∧
    Honoured (requestsFor id asked) (after.Cancelled id)

variable {id : String} {before after : World}

/-- What is read in the store does not change beside it. -/
theorem Cancelled.congr (cancelled : before.Cancelled id) (store : after.store = before.store) :
    after.Cancelled id := by
  unfold Cancelled
  rwa [store]

section Offered

variable {execution : Execution String} {taken : Bool}

/-- An execution that the store takes as cancelled is so. -/
theorem Offered.cancels (offered : Offered execution before true after)
    (ended : execution.status = .cancelled) : after.Cancelled execution.id := by
  cases offered with
  | taken saved =>
    obtain ⟨new, read, recorded⟩ := Store.get_save_self saved
    exact ⟨new, read, recorded.status.trans ended⟩

/-- An offer of another execution leaves what is cancelled. -/
theorem Cancelled.others (cancelled : before.Cancelled id) (apart : execution.id ≠ id)
    (offered : Offered execution before taken after) : after.Cancelled id := by
  cases offered with
  | taken saved =>
    unfold Cancelled
    rw [Store.get_save_of_ne saved apart]
    exact cancelled
  | refused => exact cancelled

/-- An offer that is refused leaves what is cancelled. -/
theorem Cancelled.refused (cancelled : before.Cancelled id)
    (offered : Offered execution before false after) : after.Cancelled id := by
  cases offered with
  | refused => exact cancelled

/-- An execution that is read and has not ended is not cancelled. -/
theorem not_cancelled {record : Execution String} (read : before.store.get id = .ok record)
    (unended : record.status.isFinal = false) : ¬ before.Cancelled id := by
  rintro ⟨other, again, ended⟩
  cases read.symm.trans again
  rw [ended] at unended
  cases unended

end Offered

namespace Honours

/-- What changes beside the executions grants nothing. -/
theorem beside (same : Beside before after) : Honours id before after :=
  ⟨[], by rw [same.saves, List.append_nil], .nil⟩

/-- Cancellations are honoured in steps, if what is cancelled on the way stays so. -/
theorem trans {middle : World} (first : Honours id before middle)
    (stays : middle.Cancelled id → after.Cancelled id) (second : Honours id middle after) :
    Honours id before after := by
  obtain ⟨asked, saves, honoured⟩ := first
  obtain ⟨more, later, honouredLater⟩ := second
  refine ⟨asked ++ more, by rw [later, saves, List.append_assoc], ?_⟩
  rw [requestsFor_append]
  exact honoured.append stays honouredLater

/-- More may happen before, as long as nothing is asked to be saved. -/
theorem early {stood : World} (same : stood.saves = before.saves)
    (honours : Honours id stood after) : Honours id before after := by
  obtain ⟨asked, saves, honoured⟩ := honours
  exact ⟨asked, by rw [saves, same], honoured⟩

/-- More may happen beside the executions afterwards. -/
theorem late {left : World} (honours : Honours id before after) (same : Beside after left) :
    Honours id before left :=
  honours.trans (·.congr same.store) (.beside same)

/-- One offer that grants nothing is honoured. -/
theorem offered {execution : Execution String} {taken : Bool}
    (offered : Offered execution before taken after) (other : execution.status ≠ .cancelled) :
    Honours id before after := by
  refine ⟨_, offered.saves, .of_none fun save member => ?_⟩
  have same := List.mem_singleton.mp (List.mem_of_mem_filter member)
  rintro ⟨-, ended⟩
  rw [same] at ended
  exact other ended

end Honours

/-- When the world is stirred, at most the last request for an execution is granted, and then it is
cancelled. -/
theorem Stirred.grants (stirred : Stirred before after) (id : String) :
    ∃ asked, after.saves = before.saves ++ asked ∧
      (before.Cancelled id → after.Cancelled id) ∧
      ∀ granted later, granted :: later <:+ requestsFor id asked → granted.Grants →
        later = [] ∧ after.Cancelled id := by
  let holds (world : World) : Prop := ∃ asked, world.saves = before.saves ++ asked ∧
    (before.Cancelled id → world.Cancelled id) ∧
    ∀ granted later, granted :: later <:+ requestsFor id asked → granted.Grants →
      later = [] ∧ world.Cancelled id
  refine @Stirred.keep before after holds stirred ?_ ?_ ?_
  · rintro stood left same ⟨asked, saves, stays, last⟩
    refine ⟨asked, same.saves.trans saves, fun kept => (stays kept).congr same.store, ?_⟩
    intro granted later suffix grants
    obtain ⟨alone, kept⟩ := last granted later suffix grants
    exact ⟨alone, kept.congr same.store⟩
  -- What is cancelled is not cancelled again, so nothing follows what was granted.
  · rintro stood left other record taken read unended offered ⟨asked, saves, stays, last⟩
    have named : other = record.id := (Store.mem_of_get read).2.symm
    refine ⟨asked ++ [⟨record.ended .cancelled stood.clock, taken⟩], ?_, ?_, ?_⟩
    · rw [offered.saves, saves, List.append_assoc]
    · intro kept
      by_cases own : (record.ended .cancelled stood.clock).id = id
      · exact absurd (stays kept) (not_cancelled (own ▸ named ▸ read) unended)
      · exact (stays kept).others own offered
    · intro granted later suffix grants
      rw [requestsFor_append] at suffix
      by_cases own : (record.ended .cancelled stood.clock).id = id
      · rw [requestsFor_self own] at suffix
        rcases cons_suffix_append suffix with alone | ⟨early, -, within⟩
        · obtain ⟨rfl, rfl⟩ := cons_suffix_singleton alone
          obtain ⟨rfl, ended⟩ := grants
          exact ⟨rfl, own ▸ offered.cancels ended⟩
        · obtain ⟨-, kept⟩ := last granted early within grants
          exact absurd kept (not_cancelled (own ▸ named ▸ read) unended)
      · rw [requestsFor_apart own, List.append_nil] at suffix
        obtain ⟨alone, kept⟩ := last granted later suffix grants
        exact ⟨alone, kept.others own offered⟩
  · exact ⟨[], (List.append_nil _).symm, fun kept => kept, by simp [requestsFor]⟩

/-- The execution of an id stands before its next visit. What was granted since a base was granted
in the visit before, which led on, and then the execution is asked to stop. -/
structure Awaits (id : String) (base world : World) : Prop where
  /-- The execution is being stepped. -/
  steps : world.Steps id
  /-- What was granted was granted in the visit before. -/
  asked : ∃ asked, world.saves = base.saves ++ asked ∧
    ∀ granted later, granted :: later <:+ requestsFor id asked → granted.Grants →
      world.interrupted = true ∧
        ∃ run, later = [run] ∧ run.taken = true ∧ run.execution.status = .running

section Handing

variable {engine : Engine} (stored : engine.keeping = .stored) {handed : Execution String}
  {world stirred left : World} {taken : Bool}

include stored in
/-- What is granted before an execution is handed over is granted just before, and the execution is
cancelled then. -/
theorem Kept.grants (kept : Kept engine handed stirred taken left)
    (stir : Astir engine world stirred) :
    ∃ asked, left.saves = world.saves ++ asked ∧
      (⟨handed, taken⟩ : Save) ∈ requestsFor handed.id asked ∧
      ∀ granted later, granted :: later <:+ requestsFor handed.id asked → granted.Grants →
        granted = ⟨handed, taken⟩ ∨
          later = [⟨handed, taken⟩] ∧ stirred.Cancelled handed.id := by
  obtain ⟨asked, saves, -, last⟩ := stir.stirred.grants handed.id
  have own : requestsFor handed.id [⟨handed, taken⟩] = [⟨handed, taken⟩] := requestsFor_self rfl
  refine ⟨asked ++ [⟨handed, taken⟩], ?_, ?_, ?_⟩
  · rw [(kept.offer stored).saves, saves, List.append_assoc]
  · rw [requestsFor_append, own]
    simp
  · intro granted later suffix grants
    rw [requestsFor_append, own] at suffix
    rcases cons_suffix_append suffix with alone | ⟨early, rfl, within⟩
    · exact .inl (cons_suffix_singleton alone).1
    · obtain ⟨rfl, cancelled⟩ := last granted early within grants
      exact .inr ⟨rfl, cancelled⟩

include stored

/-- What was granted before an execution is refused is kept. -/
theorem Kept.honours_refused (kept : Kept engine handed stirred false left)
    (stir : Astir engine world stirred) : Honours handed.id world left := by
  obtain ⟨asked, saves, -, last⟩ := kept.grants stored stir
  refine ⟨asked, saves, fun granted later suffix grants => .inl ?_⟩
  rcases last granted later suffix grants with rfl | ⟨-, cancelled⟩
  · cases grants.1
  · exact cancelled.refused (kept.offer stored)

/-- What was granted before an execution is parked, or ended in another way, is overruled. -/
theorem Kept.honours_rests (kept : Kept engine handed stirred true left)
    (stir : Astir engine world stirred) (rests : handed.status ≠ .running)
    (other : handed.status ≠ .cancelled) : Honours handed.id world left := by
  obtain ⟨asked, saves, -, last⟩ := kept.grants stored stir
  refine ⟨asked, saves, fun granted later suffix grants => .inr ?_⟩
  rcases last granted later suffix grants with rfl | ⟨rfl, -⟩
  · exact absurd grants.2 other
  · exact .replaced rfl rests other

/-- After a visit that was heeded and led on, the next one is awaited. -/
theorem Kept.awaits (kept : Kept engine handed stirred true left)
    (stir : Astir engine world stirred) (runs : handed.status = .running)
    (steps : world.Steps handed.id) (heeds : world.Heeds handed.id left) :
    Awaits handed.id world left := by
  obtain ⟨asked, saves, -, last⟩ := kept.grants stored stir
  refine ⟨heeds.steps steps, asked, saves, fun granted later suffix grants => ?_⟩
  have interrupted : left.interrupted = true := by
    by_contra quiet
    have same := heeds.unasked steps (Bool.eq_false_of_not_eq_true quiet)
    have none : cancellations handed.id asked = [] := by
      simpa [saves, cancellations_append] using same
    have member : granted ∈ cancellations handed.id asked :=
      List.mem_filter.mpr ⟨suffix.subset List.mem_cons_self, by simp [grants.2]⟩
    rw [none] at member
    cases member
  rcases last granted later suffix grants with rfl | ⟨rfl, -⟩
  · have ended : handed.status = .cancelled := grants.2
    rw [runs] at ended
    cases ended
  · exact ⟨interrupted, _, rfl, rfl, runs⟩

end Handing

namespace Awaits

variable {base middle left : World}

/-- Where the execution is not asked to stop, nothing was granted. -/
theorem ungranted (awaits : Awaits id base middle) (quiet : middle.interrupted = false) :
    ∃ asked, middle.saves = base.saves ++ asked ∧ ∀ save ∈ requestsFor id asked, ¬ save.Grants := by
  obtain ⟨asked, saves, last⟩ := awaits.asked
  refine ⟨asked, saves, fun save member grants => ?_⟩
  obtain ⟨before, later, split⟩ := List.append_of_mem member
  have stops := (last save later ⟨before, split.symm⟩ grants).1
  rw [quiet] at stops
  cases stops

/-- What is honoured after nothing was granted is honoured. -/
theorem honours (awaits : Awaits id base middle) (quiet : middle.interrupted = false)
    (later : Honours id middle left) : Honours id base left := by
  obtain ⟨asked, saves, none⟩ := awaits.ungranted quiet
  obtain ⟨more, after, honoured⟩ := later
  refine ⟨asked ++ more, by rw [after, saves, List.append_assoc], ?_⟩
  rw [requestsFor_append]
  have before : Honoured (requestsFor id asked) False := .of_none none
  exact before.append False.elim honoured

/-- The next visit is awaited if it is after nothing was granted. -/
theorem trans (awaits : Awaits id base middle) (quiet : middle.interrupted = false)
    (later : Awaits id middle left) : Awaits id base left := by
  obtain ⟨asked, saves, none⟩ := awaits.ungranted quiet
  obtain ⟨more, after, last⟩ := later.asked
  refine ⟨later.steps, asked ++ more, by rw [after, saves, List.append_assoc], ?_⟩
  intro granted rest suffix grants
  rw [requestsFor_append] at suffix
  rcases cons_suffix_append suffix with late | ⟨early, -, within⟩
  · exact last granted rest late grants
  · exact absurd grants (none granted (within.subset List.mem_cons_self))

/-- The execution is cancelled before its next visit: what was granted is kept, or overruled by that
the store refuses. -/
theorem ended {engine : Engine} (stored : engine.keeping = .stored) {handed : Execution String}
    {stirred : World} {taken : Bool} (awaits : Awaits id base middle)
    (stir : Astir engine middle stirred) (kept : Kept engine handed stirred taken left)
    (named : handed.id = id) (cancelled : handed.status = .cancelled) : Honours id base left := by
  subst named
  obtain ⟨asked, saves, last⟩ := awaits.asked
  obtain ⟨more, after, member, late⟩ := kept.grants stored stir
  refine ⟨asked ++ more, by rw [after, saves, List.append_assoc], ?_⟩
  cases taken with
  | true => exact .of_kept ((kept.offer stored).cancels cancelled)
  | false =>
    intro granted later suffix grants
    rw [requestsFor_append] at suffix
    rcases cons_suffix_append suffix with within | ⟨early, rfl, within⟩
    · rcases late granted later within grants with rfl | ⟨-, ended⟩
      · cases grants.1
      · exact .inl (ended.refused (kept.offer stored))
    · obtain ⟨-, run, rfl, took, runs⟩ := last granted early within grants
      exact .inr (.refused took runs member cancelled rfl)

end Awaits

end World

end Parley
