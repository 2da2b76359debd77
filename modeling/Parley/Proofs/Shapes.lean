import Parley.Proofs.Laws
import Parley.Proofs.Payloads

/-!
# Shapes of records

What status, node, deadline, keywords, error and log of an execution say together. An execution that
has ended stands nowhere; one that waits stands at a wait node, with the node's keywords, and its
log says so last; one that runs waits for nothing; and only one that failed has an error. Handlers
set deadline and keywords before the status changes, but nothing is offered to the store in between.
-/

namespace Parley

open Parley.Computation World Handler

namespace Execution

/-- An execution stands at a wait node, with the keywords of the node, and with the deadline and the
keywords that its log tells last. -/
structure WaitsAt (graph : Flow.Graph) (node : Flow.Node String) (told : Entry String)
    (execution : Execution String) : Prop where
  /-- The node is of the graph. -/
  member : node ∈ graph.nodes
  /-- The node waits for the keywords. -/
  kind : ∃ timeout hold, node.content = .wait timeout execution.keywords hold
  /-- The execution stands at the node. -/
  stands : execution.node = some node.id
  /-- The entry is the last of the log. -/
  last : execution.log.getLast? = some told
  /-- The entry is about the node. -/
  about : told.node = some node.id
  /-- The entry tells that the execution was parked. -/
  event : told.event = .suspended
  /-- The execution has a deadline, and the entry tells a moment of the same instant. -/
  due : ∃ moment : Time.Moment,
      execution.deadline.map Time.Moment.instant = some moment.instant ∧
      told.Tells "wait_deadline" (.text moment.text)
  /-- The entry tells the keywords. -/
  listed : told.Tells "expected_keywords" (.list (execution.keywords.map .text))

/-- The parts of an execution fit its status. -/
structure Shaped (graph : Flow.Graph) (execution : Execution String) : Prop where
  /-- One that has ended stands nowhere and waits for nothing. -/
  final : execution.status.isFinal = true →
    execution.node = none ∧ execution.deadline = none ∧ execution.keywords = []
  /-- One that waits stands at a wait node. -/
  waiting : execution.status = .waiting → ∃ node told, execution.WaitsAt graph node told
  /-- One that runs waits for nothing, and stands at a node, or nowhere if its log is empty. -/
  running : execution.status = .running → execution.deadline = none ∧ execution.keywords = [] ∧
    ((∃ node ∈ graph.nodes, execution.node = some node.id) ∨
      execution.node = none ∧ execution.log = [])
  /-- One that failed has an error, and no other has. -/
  failed : execution.error.isSome = true ↔ execution.status = .failed

variable {graph : Flow.Graph} {execution handed kept : Execution String}

/-- What a store keeps of an execution that waits waits as it does. -/
theorem WaitsAt.recorded {node : Flow.Node String} {told : Entry String}
    (waits : handed.WaitsAt graph node told) (recorded : Store.Recorded handed kept)
    (echoes : List.Forall₂ Entry.Echoes kept.log handed.log) :
    ∃ entry, kept.WaitsAt graph node entry := by
  obtain ⟨entry, last, echo⟩ : ∃ entry, kept.log.getLast? = some entry ∧ entry.Echoes told := by
    obtain ⟨before, log⟩ := List.getLast?_eq_some_iff.mp waits.last
    rw [log] at echoes
    obtain ⟨early, entry, keptLog, -, echo⟩ := Entry.echoes_concat echoes
    exact ⟨entry, by simp [keptLog], echo⟩
  obtain ⟨moment, instant, deadline⟩ := waits.due
  refine ⟨entry, waits.member, ?_, ?_, last, echo.node.trans waits.about,
    echo.event.trans waits.event, ⟨moment, ?_, echo.tells deadline rfl⟩, ?_⟩
  · rw [recorded.keywords]
    exact waits.kind
  · rw [recorded.node]
    exact waits.stands
  · rw [recorded.deadline]
    exact instant
  · rw [recorded.keywords]
    exact echo.tells waits.listed (Value.plain_texts handed.keywords)

/-- What a store keeps of an execution has a shape if the execution has. -/
theorem Shaped.recorded (shaped : handed.Shaped graph) (recorded : Store.Recorded handed kept)
    (echoes : List.Forall₂ Entry.Echoes kept.log handed.log) : kept.Shaped graph := by
  have undated (free : handed.deadline = none) : kept.deadline = none := by
    have instants := recorded.deadline
    rw [free] at instants
    exact Option.map_eq_none_iff.mp instants
  refine ⟨?_, ?_, ?_, ?_⟩
  · rw [recorded.status, recorded.node, recorded.keywords]
    intro ended
    obtain ⟨nowhere, free, unworded⟩ := shaped.final ended
    exact ⟨nowhere, undated free, unworded⟩
  · rw [recorded.status]
    intro waits
    obtain ⟨node, told, waiting⟩ := shaped.waiting waits
    exact ⟨node, waiting.recorded recorded echoes⟩
  · rw [recorded.status, recorded.node, recorded.keywords]
    intro runs
    obtain ⟨free, unworded, place⟩ := shaped.running runs
    refine ⟨undated free, unworded, place.imp_right ?_⟩
    rintro ⟨nowhere, untold⟩
    rw [untold, List.forall₂_nil_right_iff] at echoes
    exact ⟨nowhere, echoes⟩
  · rw [recorded.status, recorded.error]
    exact shaped.failed

/-- Without an error, an execution has an error as one that did not fail. -/
theorem unfailed (execution : Execution String) {status : Status} (free : execution.error = none)
    (rests : status ≠ .failed) :
    execution.error.isSome = true ↔ status = .failed := by
  rw [free]
  exact ⟨fun some => absurd some Bool.false_ne_true, fun failed => absurd failed rests⟩

/-- An execution that runs at a node and has neither error nor wait has a shape. -/
theorem shaped_running (runs : execution.status = .running) (free : execution.error = none)
    (undated : execution.deadline = none) (unworded : execution.keywords = [])
    (placed : execution.Placed graph) : execution.Shaped graph := by
  refine ⟨?_, ?_, ?_, ?_⟩
  · rw [runs]
    rintro ⟨⟩
  · rw [runs]
    rintro ⟨⟩
  · intro _
    obtain ⟨node, found⟩ := placed
    obtain ⟨id, stands, search⟩ := Option.bind_eq_some_iff.mp found
    obtain ⟨member, named⟩ := Flow.Graph.node?_eq_some search
    rw [← named] at stands
    exact ⟨undated, unworded, .inl ⟨node, member, stands⟩⟩
  · rw [runs]
    exact execution.unfailed free (by decide)

/-- An execution that ended without an error, and did not fail, has a shape. -/
theorem shaped_ended (execution : Execution String) {status : Status} (now : Time.Moment)
    (final : status.isFinal = true) (failed : execution.error.isSome = true ↔ status = .failed) :
    (execution.ended status now).Shaped graph := by
  refine ⟨fun _ => ⟨rfl, rfl, rfl⟩, ?_, ?_, failed⟩
  · rintro ⟨⟩
    cases final
  · rintro ⟨⟩
    cases final

/-- An execution that failed for a reason has a shape. -/
theorem shaped_failedFor (reason : String) (now : Time.Moment) :
    (execution.failedFor reason now).Shaped graph :=
  shaped_ended _ now rfl ⟨fun _ => rfl, fun _ => rfl⟩

/-- An execution without an error that advanced has a shape, if it stands at a node. -/
theorem shaped_advanced (execution : Execution String) (next : Option String) {now : Time.Moment}
    (runs : execution.status = .running) (free : execution.error = none)
    (undated : execution.deadline = none) (unworded : execution.keywords = [])
    (placed : (execution.advanced next now).runs = true →
      (execution.advanced next now).Placed graph) : (execution.advanced next now).Shaped graph := by
  cases next with
  | some target =>
    have going : (execution.movedTo target now).runs = true := by
      simp [Execution.runs, movedTo, runs]
    exact shaped_running runs free undated unworded (placed going)
  | none => exact execution.shaped_ended now rfl (execution.unfailed free (by decide))

/-- An execution that was not ended as failed has no error. -/
theorem Shaped.free (shaped : execution.Shaped graph) (rests : execution.status ≠ .failed) :
    execution.error = none := by
  rw [← Option.not_isSome_iff_eq_none, shaped.failed]
  exact rests

/-- An execution without an error that is parked at a wait node with what the node sets has a
shape. -/
theorem shaped_parked {node : Flow.Node String} {timeout : Option Binary64}
    {keywords : List String} {hold : Bool} {ends now : Time.Moment} (member : node ∈ graph.nodes)
    (kind : node.content = .wait timeout keywords hold) (free : execution.error = none)
    (stands : execution.node = some node.id) (dated : execution.deadline = some ends)
    (worded : execution.keywords = keywords) : (execution.parked node.id now).Shaped graph := by
  let told : Entry String :=
    ⟨some node.id, .suspended, some now.text, some (.dict (parking (some ends) keywords))⟩
  have named : Entries.Named (parking (some ends) keywords) :=
    ⟨["wait_deadline", "expected_keywords"], rfl, by decide⟩
  have logged : (execution.parked node.id now).log = execution.log ++ [told] := by
    simp only [parked, Execution.told, append, dated, worded, told]
  refine ⟨by rintro ⟨⟩, fun _ => ⟨node, told, member, ?_, stands, ?_, rfl, rfl, ?_, ?_⟩,
    by rintro ⟨⟩, ?_⟩
  · refine ⟨timeout, hold, kind.trans ?_⟩
    rw [← worded]
    rfl
  · rw [logged, List.getLast?_concat]
  · refine ⟨ends, ?_, _, rfl, named, ?_⟩
    · exact congrArg (Option.map Time.Moment.instant) dated
    · simp [parking, Entries.text?, Entries.get?, Value.same_text]
  · refine ⟨_, rfl, named, ?_⟩
    have same : (execution.parked node.id now).keywords = keywords := worded
    simp [parking, Entries.text?, Entries.get?, Value.same_text, same]
  · exact unfailed (execution.parked node.id now) free (by rintro ⟨⟩)

/-- A visit that does not park an execution leaves it with a shape. -/
theorem shaped_closed {node : Flow.Node String} {now : Time.Moment}
    {result : Except Failure (Action × Entries)} (runs : execution.status = .running)
    (free : execution.error = none) (undated : execution.deadline = none)
    (unworded : execution.keywords = []) (goes : ∀ payload, result ≠ .ok (.suspend, payload))
    (placed : (execution.closed graph node now result).runs = true →
      (execution.closed graph node now result).Placed graph) :
    (execution.closed graph node now result).Shaped graph := by
  cases result with
  | error failure =>
    let told := execution.told (some node.id) .nodeError now (Tick.failurePayload failure)
    simp only [closed] at placed ⊢
    cases fallback : node.onError with
    | some target =>
      rw [fallback] at placed
      exact told.shaped_advanced (some target) runs free undated unworded
        placed
    | none => exact shaped_failedFor _ now
  | ok ending =>
    obtain ⟨action, payload⟩ := ending
    let told := execution.told (some node.id) .nodeEnd now
      (payload ++ [(.text "elapsed_ms", .float .zero)])
    cases action with
    | suspend => exact absurd rfl (goes payload)
    | finish => exact told.shaped_ended now rfl (told.unfailed free (by decide))
    | jump target =>
      exact told.shaped_advanced (some target) runs free undated unworded
        placed
    | follow label =>
      exact told.shaped_advanced _ runs free undated unworded placed

end Execution

/-- The visit of a built-in node keeps the shape of an execution that runs at it. -/
theorem Handler.Handled.shaped {engine : Engine} {graph : Flow.Graph} {node : Flow.Node String}
    {now : Time.Moment} {execution left : Execution String}
    {result : Except Failure (Action × Entries)} (builtin : engine.capabilities.extensions = [])
    (sound : graph.Sound) (shaped : execution.Shaped graph) (runs : execution.status = .running)
    (found : execution.node.bind graph.node? = some node)
    (handled : Handled engine node now (execution.opened node now) result left) :
    (left.closed graph node now result).Shaped graph := by
  obtain ⟨id, stands, search⟩ := Option.bind_eq_some_iff.mp found
  obtain ⟨member, named⟩ := Flow.Graph.node?_eq_some search
  rw [← named] at stands
  obtain ⟨undated, unworded, -⟩ := shaped.running runs
  have free : execution.error = none := shaped.free (by simp [runs])
  have placed := handled.placed builtin sound member
  cases handled with
  | wait kind later => exact Execution.shaped_parked member kind free stands rfl rfl
  | tag kind known =>
    rw [builtin] at known
    cases known
  | failed | start | finish | message | condition | generate | goTo =>
    exact Execution.shaped_closed runs free undated unworded (by rintro _ ⟨⟩) placed

/-- Every step of an engine on built-in nodes keeps the shapes of executions. -/
theorem Execution.shaped_law {engine : Engine}
    (builtin : engine.capabilities.extensions = []) : Law.Closed engine Shaped where
  recorded shaped recorded echoes := shaped.recorded recorded echoes
  created := ⟨by rintro ⟨⟩, by rintro ⟨⟩, fun _ => ⟨rfl, rfl, .inr ⟨rfl, rfl⟩⟩,
    unfailed _ rfl (by rintro ⟨⟩)⟩
  entered sound shaped runs _ := by
    obtain ⟨undated, unworded, -⟩ := shaped.running runs
    exact shaped_running runs (shaped.free (by simp [runs])) undated unworded
      (movedTo_placed sound.start_mem _)
  set shaped waits := by
    obtain ⟨node, told, waiting⟩ := shaped.waiting waits
    exact ⟨shaped.final, fun _ => ⟨node, told, { waiting with }⟩, shaped.running, shaped.failed⟩
  resumed sound shaped waits := by
    refine shaped_advanced _ _ rfl (shaped.free (by simp [waits])) rfl rfl ?_
    refine advanced_placed ?_
    intro target leads
    obtain ⟨node, -, onward⟩ := Option.bind_eq_some_iff.mp leads
    exact sound.onward_mem onward
  visited sound shaped runs found handled := handled.shaped builtin sound shaped runs found
  cancelled shaped running := by
    refine shaped_ended _ _ rfl (unfailed _ (shaped.free ?_) (by decide))
    intro failed
    rw [failed] at running
    cases running
  exhausted _ _ _ := shaped_failedFor _ _

/-- In a world that is reached without the store refusing anything, with built-in nodes only,
the parts of every execution that was saved fit its status and the graph of its flow and version:
of those that were offered to the store, and of those that are in it, which run at a node if they
run; and of those that are just made. -/
theorem World.Reached.records_shaped {engine : Engine} {world : World}
    (builtin : engine.capabilities.extensions = []) (reached : World.Reached engine world)
    (took : world.Taken) :
    (∀ save ∈ world.saves, ∃ graph,
        world.flows.get save.execution.flow save.execution.version = .ok graph ∧
          save.execution.Shaped graph ∧
          (save.execution.status = .running → save.execution.node ≠ none)) ∧
      (∀ record ∈ world.store.records, ∃ graph,
        world.flows.get record.flow record.version = .ok graph ∧ record.Shaped graph ∧
          (record.status = .running → record.node ≠ none)) ∧
      ∀ (graph : Flow.Graph) id version subject vars now,
        (Execution.new id graph.id version subject vars now).Shaped graph := by
  have closed : Law.Closed engine.atDesk Execution.Shaped := Execution.shaped_law builtin
  have obeys := reached.obeys builtin closed took
  refine ⟨?_, ?_, fun graph id version subject vars now => closed.created⟩
  · intro save member
    obtain ⟨⟨graph, had, shaped⟩, stands⟩ := obeys.saves save member
    exact ⟨graph, had, shaped, stands⟩
  · intro record member
    obtain ⟨graph, had, shaped⟩ := obeys.records record member
    exact ⟨graph, had, shaped, obeys.unmade (by simp) record member⟩

/-- What was saved for a subject that was asked has a shape; the last of it waits. -/
theorem World.asked_records_shaped :
    Engine.quiet.capabilities.extensions = [] ∧ Reached .quiet asked ∧ asked.Taken ∧
      (∃ save ∈ asked.saves, save.execution.status = .waiting) ∧
      ∀ save ∈ asked.saves, ∃ graph,
        asked.flows.get save.execution.flow save.execution.version = .ok graph ∧
          save.execution.Shaped graph := by
  have took : asked.Taken := by
    unfold World.Taken
    decide +kernel
  refine ⟨rfl, asked_reached, took, by decide +kernel, ?_⟩
  intro save member
  have saves := (World.Reached.records_shaped rfl asked_reached took).1
  obtain ⟨graph, had, shaped, -⟩ := saves save member
  exact ⟨graph, had, shaped⟩

end Parley
