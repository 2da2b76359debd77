import Parley.Proofs.Laws
import Parley.Proofs.Payloads

/-!
# Logs are walks

The log of an execution tells a walk through the graph of its flow. The walk begins at the start.
It visits the node that is due: the visit is told by two entries, and the second decides which node
is due next, by the edges that were authored. A visit of a wait pauses the walk until it is told
that the wait was left. A node that fails leads to its fallback or stops the walk, and so does the
budget when it runs out. Status and node of the execution are where the walk stands.
-/

namespace Parley

open Parley.Computation World Handler

namespace Flow.Graph

variable (graph : Graph)

/-- An authored edge of a label leads from a node to a target. -/
def Joins (node : String) (label : Option String) (target : String) : Prop :=
  ∃ edge ∈ graph.edges, edge.source = node ∧ edge.label = label ∧ edge.target = target

/-- What is next along the edges of a label: the target of the edge, or nothing if there is no such
edge. -/
def Leads (node : String) (label : Option String) (next : Option String) : Prop :=
  ∀ target, next = some target ↔ graph.Joins node label target

/-- What is next after a wait along a label: the target of the edge of the label, or else what is
next along the edges without a label. -/
def Resumes (node label : String) (next : Option String) : Prop :=
  (∃ target, next = some target ∧ graph.Joins node (some label) target) ∨
    (∀ target, ¬ graph.Joins node (some label) target) ∧ graph.Leads node none next

/-- No node has the empty name. -/
def Named : Prop := ∀ node ∈ graph.nodes, node.id ≠ ""

variable {graph}

/-- The index of a sound graph leads along the authored edges. -/
theorem Sound.leads (sound : graph.Sound) (node : String) (label : Option String) :
    graph.Leads node label (graph.successor node label) :=
  fun _ => sound.successor_eq_some

/-- A wait of a sound graph whose nodes have names goes on along the authored edges. -/
theorem Sound.resumes (sound : graph.Sound) (named : graph.Named) (node label : String) :
    graph.Resumes node label (graph.onward node label) := by
  cases found : graph.successor node (some label) with
  | some target =>
    have joins : graph.Joins node (some label) target := sound.successor_eq_some.mp found
    obtain ⟨other, listed, same⟩ := List.mem_map.mp (sound.successor_mem found)
    have nonempty : target ≠ "" := by
      rw [← same]
      exact named other listed
    refine .inl ⟨target, ?_, joins⟩
    simp [onward, found, nonempty]
  | none =>
    refine .inr ⟨?_, ?_⟩
    · intro target joins
      have leads : graph.successor node (some label) = some target :=
        sound.successor_eq_some.mpr joins
      rw [found] at leads
      cases leads
    · have plain : graph.onward node label = graph.successor node none := by
        simp [onward, found]
      rw [plain]
      exact sound.leads node none

end Flow.Graph

/-- An entry tells an event at a node. -/
structure Entry.At (entry : Entry String) (node : String) (event : Event) : Prop where
  /-- It is about the node. -/
  node : entry.node = some node
  /-- It tells the event. -/
  event : entry.event = event

/-- An entry tells at a node what the entry that it echoes tells there. -/
theorem Entry.Echoes.at {kept handed : Entry String} {node : String} {event : Event}
    (echoes : kept.Echoes handed) (tells : handed.At node event) : kept.At node event :=
  ⟨echoes.node.trans tells.node, echoes.event.trans tells.event⟩

/-- Where a walk stands. -/
inductive Stand where
  /-- A node is due, or none: then the walk is over. -/
  | due (next : Option String)
  /-- It is paused at a wait node. -/
  | paused (node : String)
  /-- It was stopped by a failure. -/
  | stopped

/-- What is next after a visit of a node that ended well, as the entry that ended it tells. -/
def Onward (graph : Flow.Graph) (node : Flow.Node String) (ended : Entry String)
    (next : Option String) : Prop :=
  match node.content with
  | .start | .message _ | .generate .. => graph.Leads node.id none next
  | .condition _ => ∃ holds, ended.Tells "result" (.bool holds) ∧
      graph.Leads node.id (some (if holds then Flow.yes else Flow.no)) next
  | .goTo target => next = some target
  | .finish => next = none
  | .wait .. | .tag _ => False

/-- A log ends with the visit of an end, or where nothing is next: after the visit of a node that
leads nowhere, or after a wait that was left along a label which leads nowhere. -/
def Closes (graph : Flow.Graph) (log : List (Entry String)) : Prop :=
  ∃ before last, log = before ++ [last] ∧
    ((∃ node ∈ graph.nodes, last.At node.id .nodeEnd ∧
        (node.content = .finish ∨ Onward graph node last none)) ∨
      ∃ node label, last.At node .resumed ∧ last.Tells "edge" (.text label) ∧
        graph.Resumes node label none)

/-- A log tells a walk through a graph that stands somewhere. -/
inductive Walk (graph : Flow.Graph) : List (Entry String) → Stand → Prop where
  /-- At first the start is due. -/
  | start : Walk graph [] (.due (some graph.start))
  /-- The node that is due is visited, and the walk goes on. -/
  | passed {log : List (Entry String)} {node : Flow.Node String} {opened ended : Entry String}
    {next : Option String} (before : Walk graph log (.due (some node.id)))
    (member : node ∈ graph.nodes) (opens : opened.At node.id .nodeStart)
    (ends : ended.At node.id .nodeEnd) (onward : Onward graph node ended next) :
    Walk graph (log ++ [opened, ended]) (.due next)
  /-- The wait that is due is visited, and the walk is paused at once. -/
  | parked {log : List (Entry String)} {node : Flow.Node String}
    {opened ended parked : Entry String} {timeout : Option Binary64} {keywords : List String}
    {hold : Bool} (before : Walk graph log (.due (some node.id))) (member : node ∈ graph.nodes)
    (kind : node.content = .wait timeout keywords hold) (opens : opened.At node.id .nodeStart)
    (ends : ended.At node.id .nodeEnd) (parks : parked.At node.id .suspended) :
    Walk graph (log ++ [opened, ended, parked]) (.paused node.id)
  /-- The wait at which the walk is paused is left along a label. -/
  | resumed {log : List (Entry String)} {node label : String} {left : Entry String}
    {next : Option String} (before : Walk graph log (.paused node))
    (leaves : left.At node .resumed) (along : left.Tells "edge" (.text label))
    (onward : graph.Resumes node label next) : Walk graph (log ++ [left]) (.due next)
  /-- The node that is due is visited and fails; its fallback is due next, if it has one. -/
  | failed {log : List (Entry String)} {node : Flow.Node String} {opened ended : Entry String}
    (before : Walk graph log (.due (some node.id))) (member : node ∈ graph.nodes)
    (opens : opened.At node.id .nodeStart) (ends : ended.At node.id .nodeError) :
    Walk graph (log ++ [opened, ended])
      (match node.onError with
        | some fallback => .due (some fallback)
        | none => .stopped)
  /-- The budget does not allow to visit the node that is due. -/
  | exhausted {log : List (Entry String)} {node : String} {ended : Entry String}
    (before : Walk graph log (.due (some node))) (ends : ended.At node .nodeError)
    (budget : ended.Tells "error" (.text "StepBudgetExceeded")) :
    Walk graph (log ++ [ended]) .stopped

/-- An execution stands where a walk stands, by its status and node. -/
inductive Execution.Stands (graph : Flow.Graph) (execution : Execution String) : Stand → Prop where
  /-- One that was just made has not entered the start yet. -/
  | made (status : execution.status = .running) (nowhere : execution.node = none)
    (untold : execution.log = []) : Stands graph execution (.due (some graph.start))
  /-- One that runs stands at the node that is due. -/
  | running {node : String} (status : execution.status = .running)
    (stands : execution.node = some node) : Stands graph execution (.due (some node))
  /-- One that waits stands at the node where the walk is paused. -/
  | waiting {node : String} (status : execution.status = .waiting)
    (stands : execution.node = some node) : Stands graph execution (.paused node)
  /-- One that is complete has no node that is due. -/
  | completed (status : execution.status = .completed) : Stands graph execution (.due none)
  /-- One that failed was stopped. -/
  | failed (status : execution.status = .failed) : Stands graph execution .stopped
  /-- One that was cancelled may have had a node that was due. -/
  | dropped {node : String} (status : execution.status = .cancelled) :
    Stands graph execution (.due (some node))
  /-- One that was cancelled may have been paused. -/
  | interrupted {node : String} (status : execution.status = .cancelled) :
    Stands graph execution (.paused node)

/-- The log of an execution tells a walk to where the execution stands, in a graph whose nodes have
names. -/
def Execution.Walks (graph : Flow.Graph) (execution : Execution String) : Prop :=
  graph.Named → ∃ stand, Walk graph execution.log stand ∧ execution.Stands graph stand

section Echoes

variable {graph : Flow.Graph}

/-- What is next is told by what echoes the entry that told it. -/
theorem Onward.echoes {node : Flow.Node String} {kept handed : Entry String}
    {next : Option String} (onward : Onward graph node handed next)
    (echoes : kept.Echoes handed) : Onward graph node kept next := by
  unfold Onward at onward ⊢
  split at onward
  case h_4 =>
    obtain ⟨holds, tells, leads⟩ := onward
    exact ⟨holds, echoes.tells tells rfl, leads⟩
  all_goals exact onward

/-- What echoes a log of two more entries. -/
theorem Entry.echoes_pair {kept before : List (Entry String)} {first second : Entry String}
    (echoes : List.Forall₂ Entry.Echoes kept (before ++ [first, second])) :
    ∃ early one two, kept = early ++ [one, two] ∧ List.Forall₂ Entry.Echoes early before ∧
      one.Echoes first ∧ two.Echoes second := by
  have split : before ++ [first, second] = (before ++ [first]) ++ [second] := by simp
  rw [split] at echoes
  obtain ⟨others, two, rfl, rest, last⟩ := Entry.echoes_concat echoes
  obtain ⟨early, one, rfl, most, next⟩ := Entry.echoes_concat rest
  exact ⟨early, one, two, by simp, most, next, last⟩

/-- What a store keeps of a log tells the walk that the log tells. -/
theorem Walk.echoes {handed kept : List (Entry String)} {stand : Stand}
    (walk : Walk graph handed stand) (echoes : List.Forall₂ Entry.Echoes kept handed) :
    Walk graph kept stand := by
  induction walk generalizing kept with
  | start =>
    rw [List.forall₂_nil_right_iff] at echoes
    subst echoes
    exact .start
  | passed before member opens ends onward ih =>
    obtain ⟨early, one, two, rfl, rest, first, second⟩ := Entry.echoes_pair echoes
    exact .passed (ih rest) member (first.at opens) (second.at ends) (onward.echoes second)
  | @parked log node opened ended parked timeout keywords hold before member kind opens ends parks
      ih =>
    have split : log ++ [opened, ended, parked] = (log ++ [opened, ended]) ++ [parked] := by simp
    rw [split] at echoes
    obtain ⟨others, three, rfl, rest, last⟩ := Entry.echoes_concat echoes
    obtain ⟨early, one, two, rfl, rest, first, second⟩ := Entry.echoes_pair rest
    have walk : Walk graph (early ++ [one, two, three]) (.paused node.id) :=
      .parked (ih rest) member kind (first.at opens) (second.at ends) (last.at parks)
    simpa using walk
  | resumed before leaves along onward ih =>
    obtain ⟨early, entry, rfl, rest, echo⟩ := Entry.echoes_concat echoes
    exact .resumed (ih rest) (echo.at leaves) (echo.tells along rfl) onward
  | failed before member opens ends ih =>
    obtain ⟨early, one, two, rfl, rest, first, second⟩ := Entry.echoes_pair echoes
    exact .failed (ih rest) member (first.at opens) (second.at ends)
  | exhausted before ends budget ih =>
    obtain ⟨early, entry, rfl, rest, echo⟩ := Entry.echoes_concat echoes
    exact .exhausted (ih rest) (echo.at ends) (echo.tells budget rfl)

end Echoes

section Closed

variable {graph : Flow.Graph} {execution : Execution String}

/-- A walk that is over closed: its last visit was of an end, or led nowhere. -/
theorem Walk.closes {log : List (Entry String)} {stand : Stand} (walk : Walk graph log stand)
    (finished : stand = .due none) : Closes graph log := by
  cases walk with
  | start | parked | exhausted => cases finished
  | @passed log node opened ended next before member opens ends onward =>
    cases finished
    have split : log ++ [opened, ended] = (log ++ [opened]) ++ [ended] := by simp
    exact ⟨log ++ [opened], ended, split, .inl ⟨node, member, ends, .inr onward⟩⟩
  | @resumed log node label left next before leaves along onward =>
    cases finished
    exact ⟨log, left, rfl, .inr ⟨node, label, leaves, along, onward⟩⟩
  | @failed log node opened ended before member opens ends =>
    cases fallback : node.onError <;> rw [fallback] at finished <;> cases finished

/-- The log of an execution that is complete closes. -/
theorem Execution.Stands.closes {stand : Stand} (stands : execution.Stands graph stand)
    (walk : Walk graph execution.log stand) (complete : execution.status = .completed) :
    Closes graph execution.log := by
  cases stands with
  | completed => exact walk.closes rfl
  | made status | running status | waiting status | failed status | dropped status
  | interrupted status =>
    rw [complete] at status
    cases status

/-- The walk of an execution that runs stands at the node at which the execution stands. -/
theorem Execution.Stands.due {stand : Stand} {node : String}
    (stands : execution.Stands graph stand) (runs : execution.status = .running)
    (placed : execution.node = some node) : stand = .due (some node) := by
  cases stands with
  | made _ nowhere _ =>
    rw [placed] at nowhere
    cases nowhere
  | running _ stands =>
    rw [placed] at stands
    cases stands
    rfl
  | waiting status _ | completed status | failed status | dropped status | interrupted status =>
    rw [runs] at status
    cases status

/-- The walk of an execution that was just made has the start due. -/
theorem Execution.Stands.begins {stand : Stand} (stands : execution.Stands graph stand)
    (runs : execution.status = .running) (nowhere : execution.node = none) :
    stand = .due (some graph.start) := by
  cases stands with
  | made _ _ _ => rfl
  | running _ stands =>
    rw [nowhere] at stands
    cases stands
  | waiting status _ | completed status | failed status | dropped status | interrupted status =>
    rw [runs] at status
    cases status

/-- The walk of an execution that waits is paused at the node at which the execution stands. -/
theorem Execution.Stands.paused {stand : Stand} (stands : execution.Stands graph stand)
    (waits : execution.status = .waiting) :
    ∃ node, execution.node = some node ∧ stand = .paused node := by
  cases stands with
  | @waiting node _ stands => exact ⟨node, stands, rfl⟩
  | made status _ _ | running status _ | completed status | failed status | dropped status
  | interrupted status =>
    rw [waits] at status
    cases status

/-- An execution that advanced stands where the walk to the next node stands. -/
theorem Execution.advanced_stands (next : Option String) (now : Time.Moment)
    (runs : execution.status = .running) :
    (execution.advanced next now).Stands graph (.due next) := by
  cases next with
  | some target => exact .running runs rfl
  | none => exact .completed rfl

/-- Advancing leaves the log. -/
theorem Execution.advanced_log (execution : Execution String) (next : Option String)
    (now : Time.Moment) : (execution.advanced next now).log = execution.log := by
  cases next <;> rfl

section Visit

variable {node : Flow.Node String} {now : Time.Moment} {left : Execution String}

/-- What the log tells of a visit: that it began, and how it ended. -/
theorem Execution.told_log (same : left.log = (execution.opened node now).log) (event : Event)
    (payload : Entries) : (left.told (some node.id) event now payload).log = execution.log ++
      [⟨some node.id, .nodeStart, some now.text, some (.dict [(.text "type", .text node.type)])⟩,
        ⟨some node.id, event, some now.text, some (.dict payload)⟩] := by
  simp [told, append, same, opened]

variable (walk : Walk graph execution.log (.due (some node.id))) (member : node ∈ graph.nodes)
  (same : left.log = (execution.opened node now).log)
include walk member same

/-- A visit that ended well adds to the walk. -/
theorem Walk.ends {payload : Entries} {next : Option String}
    (onward : Onward graph node
      ⟨some node.id, .nodeEnd, some now.text, some (.dict payload)⟩ next) :
    Walk graph (left.told (some node.id) .nodeEnd now payload).log (.due next) := by
  rw [Execution.told_log same]
  exact .passed walk member ⟨rfl, rfl⟩ ⟨rfl, rfl⟩ onward

/-- A visit that ended well and parked the execution adds to the walk, which is paused. -/
theorem Walk.parks {timeout : Option Binary64} {keywords : List String} {hold : Bool}
    (kind : node.content = .wait timeout keywords hold) (payload : Entries) :
    Walk graph ((left.told (some node.id) .nodeEnd now payload).parked node.id now).log
      (.paused node.id) := by
  let told := left.told (some node.id) .nodeEnd now payload
  let suspended : Entry String := ⟨some node.id, .suspended, some now.text,
    some (.dict (Execution.parking told.deadline told.keywords))⟩
  have logged : (told.parked node.id now).log = told.log ++ [suspended] := rfl
  rw [logged, Execution.told_log same, List.append_assoc]
  exact .parked walk member kind ⟨rfl, rfl⟩ ⟨rfl, rfl⟩ ⟨rfl, rfl⟩

/-- A visit that failed adds to the walk. -/
theorem Walk.fails (payload : Entries) :
    Walk graph (left.told (some node.id) .nodeError now payload).log
      (match node.onError with
        | some fallback => .due (some fallback)
        | none => .stopped) := by
  rw [Execution.told_log same]
  exact .failed walk member ⟨rfl, rfl⟩ ⟨rfl, rfl⟩

/-- A visit that leads on along a label adds to the walk, if it leads on along that label. -/
theorem Walk.follows (runs : left.status = .running) {label : Option String} {payload : Entries}
    (onward : Onward graph node ⟨some node.id, .nodeEnd, some now.text,
      some (.dict (payload ++ [(.text "elapsed_ms", .float .zero)]))⟩
        (graph.successor node.id label)) :
    ∃ stand, Walk graph (left.closed graph node now (.ok (.follow label, payload))).log stand ∧
      (left.closed graph node now (.ok (.follow label, payload))).Stands graph stand := by
  refine ⟨.due (graph.successor node.id label), ?_, Execution.advanced_stands _ now runs⟩
  simp only [Execution.closed, Execution.advanced_log]
  exact walk.ends member same onward

end Visit

/-- The visit of a built-in node adds to the walk what its result says. -/
theorem Handler.Handled.walks {engine : Engine} {node : Flow.Node String} {now : Time.Moment}
    {left : Execution String} {result : Except Failure (Action × Entries)}
    (builtin : engine.capabilities.extensions = []) (sound : graph.Sound)
    (member : node ∈ graph.nodes) (runs : execution.status = .running)
    (stands : execution.node = some node.id)
    (walk : Walk graph execution.log (.due (some node.id)))
    (handled : Handled engine node now (execution.opened node now) result left) :
    ∃ stand, Walk graph (left.closed graph node now result).log stand ∧
      (left.closed graph node now result).Stands graph stand := by
  have leads (label : Option String) := sound.leads node.id label
  obtain ⟨same, still, place⟩ : left.log = (execution.opened node now).log ∧
      left.status = .running ∧ left.node = some node.id := by
    obtain ⟨vars, deadline, keywords, rfl⟩ := handled.changes
    exact ⟨rfl, runs, stands⟩
  cases handled with
  | failed failure =>
    have fails := walk.fails member same (Tick.failurePayload failure)
    simp only [Execution.closed]
    cases fallback : node.onError with
    | some target =>
      rw [fallback] at fails
      exact ⟨_, fails, .running still rfl⟩
    | none =>
      rw [fallback] at fails
      exact ⟨_, fails, .failed rfl⟩
  | start kind | message kind | generate kind =>
    refine walk.follows member same still ?_
    simp only [Onward, kind]
    exact leads none
  | finish kind =>
    refine ⟨.due none, walk.ends member same ?_, .completed rfl⟩
    simp only [Onward, kind]
  | @condition asked holds kind answer =>
    refine walk.follows member same still ?_
    simp only [Onward, kind]
    refine ⟨holds, ⟨_, rfl, ⟨["expression", "result", "elapsed_ms"], rfl, by decide⟩, ?_⟩, leads _⟩
    simp [Entries.text?, Entries.get?, Value.same_text]
  | wait kind later => exact ⟨_, walk.parks member same kind _, .waiting rfl place⟩
  | @goTo target kind =>
    refine ⟨.due (some target), walk.ends member same ?_, .running still rfl⟩
    simp only [Onward, kind]
  | tag kind known =>
    rw [builtin] at known
    cases known

/-- What a store keeps of an execution stands where the execution stands. -/
theorem Execution.Stands.recorded {kept : Execution String} {stand : Stand}
    (stands : execution.Stands graph stand) (recorded : Store.Recorded execution kept)
    (echoes : List.Forall₂ Entry.Echoes kept.log execution.log) : kept.Stands graph stand := by
  have status := recorded.status
  have node := recorded.node
  cases stands with
  | made runs nowhere untold =>
    rw [untold, List.forall₂_nil_right_iff] at echoes
    exact .made (status.trans runs) (node.trans nowhere) echoes
  | running runs stands => exact .running (status.trans runs) (node.trans stands)
  | waiting waits stands => exact .waiting (status.trans waits) (node.trans stands)
  | completed finished => exact .completed (status.trans finished)
  | failed finished => exact .failed (status.trans finished)
  | dropped finished => exact .dropped (status.trans finished)
  | interrupted finished => exact .interrupted (status.trans finished)

/-- An execution that is cancelled before it ended stands where it stood. -/
theorem Execution.Stands.cancelled {stand : Stand} (stands : execution.Stands graph stand)
    (running : execution.status.isFinal = false) (now : Time.Moment) :
    (execution.ended .cancelled now).Stands graph stand := by
  cases stands with
  | made | running => exact .dropped rfl
  | waiting => exact .interrupted rfl
  | completed finished | failed finished | dropped finished | interrupted finished =>
    rw [finished] at running
    cases running

/-- Going on from a wait adds to the walk. -/
theorem Execution.Walks.resumed (walks : execution.Walks graph) (sound : graph.Sound)
    (waits : execution.status = .waiting) (label reason : String) (reply : Value)
    (now : Time.Moment) : (execution.resumed graph label reason reply now).Walks graph := by
  intro named
  obtain ⟨stand, walk, stands⟩ := walks named
  obtain ⟨node, place, rfl⟩ := stands.paused waits
  have next : execution.node.bind (graph.onward · label) = graph.onward node label := by
    rw [place]
    rfl
  have tells : Entry.Tells ⟨some node, .resumed, some now.text,
      some (.dict (taking label reason reply))⟩ "edge" (.text label) := by
    refine ⟨_, rfl, ?_, by simp [taking, Entries.text?, Entries.get?, Value.same_text]⟩
    cases reply with
    | null => exact ⟨["reason", "edge"], rfl, by decide⟩
    | _ => exact ⟨["reason", "edge", "message"], rfl, by decide⟩
  refine ⟨.due (graph.onward node label), ?_, ?_⟩
  · simp only [Execution.resumed, advanced_log, Execution.told, append, place]
    exact .resumed walk ⟨rfl, rfl⟩ tells (sound.resumes named node label)
  · simp only [Execution.resumed, next]
    exact advanced_stands _ now rfl

/-- Being ended after too many visits stops the walk. -/
theorem Execution.Walks.exhausted (walks : execution.Walks graph)
    (runs : execution.status = .running) (placed : execution.Placed graph) (budget : Number)
    (now : Time.Moment) : (execution.exhausted budget now).Walks graph := by
  intro named
  obtain ⟨stand, walk, stands⟩ := walks named
  obtain ⟨_, found⟩ := placed
  obtain ⟨node, place, -⟩ := Option.bind_eq_some_iff.mp found
  have due := stands.due runs place
  subst due
  refine ⟨.stopped, ?_, .failed rfl⟩
  have tells : Entry.Tells ⟨some node, .nodeError, some now.text,
      some (.dict (Tick.failurePayload (.budgetExceeded budget (some node)) ++
        [(.text "budget", .ofNumber budget)]))⟩ "error" (.text "StepBudgetExceeded") := by
    refine ⟨_, rfl, ⟨["error", "message", "budget"], rfl, by decide⟩, ?_⟩
    simp [Tick.failurePayload, Entries.text?, Entries.get?, Value.same_text, Failure.kind]
  simp only [Execution.exhausted, failedFor, Execution.ended, Execution.told, append, place]
  exact .exhausted walk ⟨rfl, rfl⟩ tells

/-- Every step of an engine on built-in nodes keeps logs walks. -/
theorem Execution.walks_law {engine : Engine}
    (builtin : engine.capabilities.extensions = []) : Law.Closed engine Walks where
  recorded walks recorded echoes := by
    intro named
    obtain ⟨stand, walk, stands⟩ := walks named
    exact ⟨stand, walk.echoes echoes, stands.recorded recorded echoes⟩
  created := fun _ => ⟨_, .start, .made rfl rfl rfl⟩
  entered _ walks runs nowhere := by
    intro named
    obtain ⟨stand, walk, stands⟩ := walks named
    have due := stands.begins runs nowhere
    subst due
    exact ⟨_, walk, .running runs rfl⟩
  set walks waits := by
    intro named
    obtain ⟨stand, walk, stands⟩ := walks named
    obtain ⟨node, place, rfl⟩ := stands.paused waits
    exact ⟨_, walk, .waiting waits place⟩
  resumed sound walks waits := walks.resumed sound waits _ _ _ _
  visited sound walks runs found handled := by
    intro named
    obtain ⟨stand, walk, stands⟩ := walks named
    obtain ⟨id, place, search⟩ := Option.bind_eq_some_iff.mp found
    obtain ⟨member, rfl⟩ := Flow.Graph.node?_eq_some search
    have due := stands.due runs place
    subst due
    exact handled.walks builtin sound member runs place walk
  cancelled walks running := by
    intro named
    obtain ⟨stand, walk, stands⟩ := walks named
    exact ⟨stand, walk, stands.cancelled running _⟩
  exhausted walks runs placed := walks.exhausted runs placed _ _

end Closed

/-- In a world that is reached without the store refusing anything, with built-in nodes only,
every log that was saved tells a walk through the graph of its flow and version, if the nodes of the
graph have names: the logs that were offered to the store, those that are in it, and those of
executions that are just made. The walk stands where status and node have the execution, and it
closes if the execution is complete. -/
theorem World.Reached.logs_walk {engine : Engine} {world : World}
    (builtin : engine.capabilities.extensions = []) (reached : World.Reached engine world)
    (took : world.Taken) :
    (∀ save ∈ world.saves, ∃ graph,
        world.flows.get save.execution.flow save.execution.version = .ok graph ∧
          (graph.Named → ∃ stand, Walk graph save.execution.log stand ∧
            save.execution.Stands graph stand ∧
            (save.execution.status = .completed → Closes graph save.execution.log))) ∧
      (∀ record ∈ world.store.records, ∃ graph,
        world.flows.get record.flow record.version = .ok graph ∧
          (graph.Named → ∃ stand, Walk graph record.log stand ∧ record.Stands graph stand ∧
            (record.status = .completed → Closes graph record.log))) ∧
      ∀ (graph : Flow.Graph) id version subject vars now,
        let made := Execution.new id graph.id version subject vars now
        Walk graph made.log (.due (some graph.start)) ∧
          made.Stands graph (.due (some graph.start)) := by
  have closed : Law.Closed engine.atDesk Execution.Walks := Execution.walks_law builtin
  have obeys := reached.obeys builtin closed took
  refine ⟨?_, ?_, fun graph id version subject vars now => ⟨.start, .made rfl rfl rfl⟩⟩
  · intro save member
    obtain ⟨⟨graph, had, walks⟩, -⟩ := obeys.saves save member
    refine ⟨graph, had, fun named => ?_⟩
    obtain ⟨stand, walk, stands⟩ := walks named
    exact ⟨stand, walk, stands, stands.closes walk⟩
  · intro record member
    obtain ⟨graph, had, walks⟩ := obeys.records record member
    refine ⟨graph, had, fun named => ?_⟩
    obtain ⟨stand, walk, stands⟩ := walks named
    exact ⟨stand, walk, stands, stands.closes walk⟩

/-- The logs that were saved for a subject that was asked tell walks through a graph whose nodes
have names; the last of them pauses at a wait. -/
theorem World.asked_logs_walk :
    Engine.quiet.capabilities.extensions = [] ∧ Reached .quiet asked ∧ asked.Taken ∧
      (∃ save ∈ asked.saves, save.execution.log.length = 7) ∧
      (∃ graph ∈ asked.flows.versionsOf "greeting", ∀ node ∈ graph.nodes, node.id ≠ "") ∧
      ∀ save ∈ asked.saves, ∃ graph,
        asked.flows.get save.execution.flow save.execution.version = .ok graph ∧
          (graph.Named → ∃ stand, Walk graph save.execution.log stand) := by
  have took : asked.Taken := by
    unfold World.Taken
    decide +kernel
  refine ⟨rfl, asked_reached, took, by decide +kernel, by decide +kernel, ?_⟩
  intro save member
  have saves := (World.Reached.logs_walk rfl asked_reached took).1
  obtain ⟨graph, had, walks⟩ := saves save member
  refine ⟨graph, had, fun named => ?_⟩
  obtain ⟨stand, walk, -⟩ := walks named
  exact ⟨stand, walk⟩

end Parley
