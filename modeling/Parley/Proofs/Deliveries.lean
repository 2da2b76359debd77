import Parley.Proofs.Graphs
import Parley.Proofs.Payloads
import Parley.Proofs.Ties

/-!
# Messages and the log

Only visits of message nodes call the sender, once each. A visit in which the sender returned ends
with an entry that tells the text; a visit in which it failed has no such entry. So while an
execution is worked on, what its log gains tells the texts of the calls that returned, in order.
-/

namespace Parley

open Parley.Computation World

/-- Whether a node sends a message. -/
def Flow.Content.isMessage : Content → Bool
  | .message _ => true
  | _ => false

/-- Whether an entry tells that a visit of a message node ended well. -/
def Flow.Graph.delivers (graph : Graph) (entry : Entry String) : Bool :=
  entry.event == .nodeEnd &&
    (entry.node.bind graph.node?).any fun node => node.content.isMessage

/-- The entries of a log that tell of delivered messages tell texts, in order. -/
def Flow.Graph.Reports (graph : Graph) (log : List (Entry String)) (texts : List String) : Prop :=
  List.Forall₂ (fun entry text => Entry.Tells entry "text" (.text text))
    (log.filter graph.delivers) texts

/-- The texts for which the sender returned when an execution called it, in order. -/
def World.returned (sends : List Sending) (id : String) : List String :=
  (sends.filter fun sending => sending.execution == id && sending.returned).map Sending.text

namespace Flow.Graph.Reports

variable {graph : Graph} {log more kept : List (Entry String)} {texts others : List String}

/-- What two logs tell is told one after the other. -/
theorem append (first : graph.Reports log texts) (second : graph.Reports more others) :
    graph.Reports (log ++ more) (texts ++ others) := by
  unfold Reports at *
  rw [List.filter_append]
  exact List.rel_append first second

/-- Entries that tell of no delivered message tell no texts. -/
theorem none (silent : ∀ entry ∈ log, graph.delivers entry = false) : graph.Reports log [] := by
  unfold Reports
  rw [List.filter_eq_nil_iff.mpr fun entry member => by simp [silent entry member]]
  exact .nil

/-- What is kept of a log tells the same texts. -/
theorem echoes (reports : graph.Reports log texts)
    (echoes : List.Forall₂ Entry.Echoes kept log) : graph.Reports kept texts := by
  unfold Reports at *
  induction echoes generalizing texts with
  | nil => exact reports
  | @cons entry handed later rest echo _ ih =>
    have same : graph.delivers entry = graph.delivers handed := by
      unfold delivers
      rw [echo.event, echo.node]
    by_cases delivers : graph.delivers handed = true
    · rw [List.filter_cons_of_pos delivers] at reports
      rw [List.filter_cons_of_pos (same.trans delivers)]
      cases reports with
      | cons tells others => exact .cons (echo.tells tells rfl) (ih others)
    · rw [List.filter_cons_of_neg delivers] at reports
      rw [List.filter_cons_of_neg (same ▸ delivers)]
      exact ih reports

end Flow.Graph.Reports

/-- The texts of calls of the sender, one after another. -/
theorem World.returned_append (sends more : List Sending) (id : String) :
    returned (sends ++ more) id = returned sends id ++ returned more id := by
  simp only [returned, List.filter_append, List.map_append]

/-- The sender did not return for an execution if it was called for others only. -/
theorem World.returned_of_apart {sends : List Sending} {id : String}
    (apart : ∀ sending ∈ sends, sending.execution ≠ id) : returned sends id = [] := by
  simp only [returned, List.map_eq_nil_iff, List.filter_eq_nil_iff]
  intro sending sent
  simp [apart sending sent]

/-- The execution in hand and the calls of the sender stay. -/
structure Session.Silent (before after : Session) : Prop where
  /-- The execution is the same. -/
  execution : after.execution = before.execution
  /-- The sender was not called. -/
  sends : after.world.sends = before.world.sends

instance : IsPreorder Session Session.Silent where
  refl _ := ⟨rfl, rfl⟩
  trans _ _ _ first second :=
    ⟨second.execution.trans first.execution, second.sends.trans first.sends⟩

/-- The execution in hand keeps its origin, and what its log gains tells the texts of the calls of
the sender that returned. All calls were made for the execution. -/
structure Session.Accounts (graph : Flow.Graph) (before after : Session) : Prop where
  /-- The origin is the same. -/
  origin : after.execution.origin = before.execution.origin
  /-- The log tells of the calls. -/
  told : ∃ added more, after.execution.log = before.execution.log ++ added ∧
    after.world.sends = before.world.sends ++ more ∧
    (∀ sending ∈ more, sending.execution = before.execution.id ∧
      sending.subject = before.execution.subject) ∧
    graph.Reports added (returned more before.execution.id)

namespace Session

variable {graph : Flow.Graph} {before after : Session}

/-- The log gains entries that tell of no delivered message, and the sender is not called. -/
theorem Accounts.quiet (added : List (Entry String))
    (origin : after.execution.origin = before.execution.origin)
    (log : after.execution.log = before.execution.log ++ added)
    (silent : ∀ entry ∈ added, graph.delivers entry = false)
    (sends : after.world.sends = before.world.sends) : Accounts graph before after :=
  ⟨origin, added, [], log, by rw [sends, List.append_nil], nofun, .none silent⟩

/-- The log is the same, and the sender is not called. -/
theorem Accounts.still (origin : after.execution.origin = before.execution.origin)
    (log : after.execution.log = before.execution.log)
    (sends : after.world.sends = before.world.sends) : Accounts graph before after :=
  .quiet [] origin (by rw [log, List.append_nil]) nofun sends

/-- Nothing is told where nothing is sent. -/
theorem Silent.accounts (silent : Silent before after) : Accounts graph before after :=
  .still (congrArg Execution.origin silent.execution) (congrArg Execution.log silent.execution)
    silent.sends

end Session

instance (graph : Flow.Graph) : IsPreorder Session (Session.Accounts graph) where
  refl session := (refl_of Session.Silent session).accounts
  trans first second third before after := by
    obtain ⟨origin, added, more, log, sends, mine, reports⟩ := before
    obtain ⟨laterOrigin, others, later, laterLog, laterSends, laterMine, laterReports⟩ := after
    have id : second.execution.id = first.execution.id := congrArg Execution.Origin.id origin
    have subject : second.execution.subject = first.execution.subject :=
      congrArg Execution.Origin.subject origin
    rw [id] at laterReports
    rw [id, subject] at laterMine
    refine ⟨laterOrigin.trans origin, added ++ others, more ++ later, ?_, ?_, ?_, ?_⟩
    · rw [laterLog, log, List.append_assoc]
    · rw [laterSends, sends, List.append_assoc]
    · exact List.forall_mem_append.mpr ⟨mine, laterMine⟩
    · rw [returned_append]
      exact reports.append laterReports

/-- A computation along which nothing is sent accounts for that. -/
theorem Computation.Along.accounts {α : Type} {action : Run α} (graph : Flow.Graph)
    (silent : Along Session.Silent action) : Along (Session.Accounts graph) action :=
  fun session => (silent session).accounts

namespace Desk

/-- Saving does not call the sender. -/
theorem save_sends (engine : Engine) (execution : Execution String) (world : World) :
    (after (save engine execution) world).sends = world.sends := by
  obtain ⟨taken, offered⟩ := save_after engine execution world
  generalize after (save engine execution) world = left at offered
  cases offered <;> rfl

/-- Cancelling does not call the sender. -/
theorem cancel_sends (engine : Engine) (id : String) (world : World) :
    (after (cancel engine id) world).sends = world.sends := by
  rw [after, cancel_apply]
  cases world.store.get id with
  | error failure => rfl
  | ok record =>
    by_cases final : record.status.isFinal
    · simp only [if_pos final]
    simp only [if_neg final]
    have saved := save_sends engine (record.ended .cancelled world.clock)
      { world.raiseSignal id with executions := (world.raiseSignal id).executions.enter id }
    unfold after at saved
    cases ended : save engine (record.ended .cancelled world.clock)
        { world.raiseSignal id with executions := (world.raiseSignal id).executions.enter id } with
    | ok _ left =>
      rw [ended] at saved
      exact saved
    | error _ left =>
      rw [ended] at saved
      exact saved

end Desk

namespace Run

/-- Noting an effect is silent. -/
theorem note_silent (effect : Effect) : Along Session.Silent (note effect) :=
  along_modify fun _ => ⟨rfl, rfl⟩

variable (engine : Engine)

/-- Reactions are silent. -/
theorem react_silent (reaction : Reaction) : Along Session.Silent (react engine reaction) := by
  have cancels (ids : List String) : Along Session.Silent (cancelAll engine ids) := by
    induction ids with
    | nil => exact along_pure _
    | cons id rest ih =>
      rw [cancelAll]
      split
      · refine along_bind (fun session => ?_) fun _ => ih
        rw [after_onWorld]
        exact ⟨rfl, Desk.cancel_sends engine id session.world⟩
      · exact along_bind (along_modify fun _ => ⟨rfl, rfl⟩) fun _ => ih
  refine along_bind (cancels _) fun _ => ?_
  split
  · exact along_throw _
  · exact along_pure _

/-- Observers are told silently. -/
theorem tell_silent (notice : Notice) : Along Session.Silent (tell engine notice) :=
  along_bind (note_silent _) fun _ =>
    along_bind (attempt_along (react_silent engine _)) fun _ => along_pure _

variable (graph : Flow.Graph)

/-- A change of what is beside origin and log is accounted for. -/
theorem change_accounts {change : Execution String → Execution String}
    (keeps : ∀ execution, (change execution).origin = execution.origin ∧
      (change execution).log = execution.log) :
    Along (Session.Accounts graph) (Run.change change) :=
  along_modify fun session =>
    .still (keeps session.execution).1 (keeps session.execution).2 rfl

/-- An entry that tells of no delivered message is accounted for. -/
theorem log_accounts {node : Option String} {event : Event} {payload : Entries}
    (mute : ∀ timestamp, graph.delivers ⟨node, event, timestamp, some (.dict payload)⟩ = false) :
    Along (Session.Accounts graph) (log node event payload) := by
  intro session
  refine .quiet [⟨node, event, some session.world.clock.text, some (.dict payload)⟩] rfl rfl
    (fun entry member => ?_) rfl
  rw [List.mem_singleton.mp member]
  exact mute _

/-- Handing the execution over is accounted for. -/
theorem persist_accounts : Along (Session.Accounts graph) (persist engine) := by
  refine along_bind now_along fun time => ?_
  refine along_bind (change_accounts graph fun _ => ⟨rfl, rfl⟩) fun _ => ?_
  refine along_bind execution_along fun execution => ?_
  split
  · exact along_pure _
  · exact (note_silent _).accounts graph
  · intro session
    rw [after_onWorld]
    exact Session.Silent.accounts ⟨rfl, Desk.save_sends engine execution session.world⟩

/-- A move between statuses is accounted for. -/
theorem setStatus_accounts (status : Status) :
    Along (Session.Accounts graph) (setStatus engine status) := by
  intro session
  have read : (setStatus engine status) session = (do
      let moved ← ofExcept (session.execution.transition status session.world.clock)
      change fun _ => moved
      tell engine (.status session.execution.id session.execution.status status) : Run Unit)
        session := rfl
  unfold after
  rw [read]
  cases done : session.execution.transition status session.world.clock with
  | error failure => exact refl_of (Session.Accounts graph) session
  | ok moved =>
    have log : moved.log = session.execution.log := by
      unfold Execution.transition at done
      split at done
      · cases done
        rfl
      · cases done
    have set : Session.Accounts graph session { session with execution := moved } :=
      .still (Execution.origin_of_transition done) log rfl
    exact trans_of (Session.Accounts graph) set
      (tell_silent engine (.status session.execution.id session.execution.status status)
        { session with execution := moved }).accounts

/-- The end of an execution for a reason is accounted for. -/
theorem fail_accounts (reason : String) : Along (Session.Accounts graph) (fail engine reason) :=
  along_bind (change_accounts graph fun _ => ⟨rfl, rfl⟩) fun _ =>
    along_bind (setStatus_accounts engine graph _) fun _ => persist_accounts engine graph

/-- The end of an execution that is complete is accounted for. -/
theorem complete_accounts : Along (Session.Accounts graph) (complete engine) :=
  along_bind (setStatus_accounts engine graph _) fun _ => persist_accounts engine graph

/-- A move to a node is accounted for. -/
theorem moveTo_accounts (node : String) : Along (Session.Accounts graph) (moveTo engine node) :=
  along_bind (change_accounts graph fun _ => ⟨rfl, rfl⟩) fun _ => persist_accounts engine graph

end Run

namespace Handler

/-- What is silent does not depend on the journal and the counts of calls. -/
theorem silent_indifferent : Indifferent Session.Silent := fun _ _ _ _ _ => ⟨rfl, rfl⟩

variable (engine : Engine) (graph : Flow.Graph)

/-- The visit of a node that sends no message is accounted for. -/
theorem perform_accounts {node : Flow.Node String} (mute : node.content.isMessage = false) :
    Along (Session.Accounts graph) (perform engine node) := by
  have changes {change : Execution String → Execution String} {ending : Action × Entries}
      (keeps : ∀ execution, (change execution).origin = execution.origin ∧
        (change execution).log = execution.log) :
      Along (Session.Accounts graph) (do Run.change change; return ending) :=
    along_bind (Run.change_accounts graph keeps) fun _ => along_pure _
  unfold perform
  split
  · exact along_pure _
  · exact along_pure _
  · rename_i kind
    rw [kind] at mute
    cases mute
  · exact along_bind Run.execution_along fun _ => along_pure _
  · refine along_bind Run.now_along fun _ => ?_
    exact along_bind (Run.ofExcept_along _) fun _ => changes fun _ => ⟨rfl, rfl⟩
  · unfold generate
    split
    · exact along_throw _
    · refine along_bind Run.execution_along fun _ => ?_
      refine along_bind ((context_along silent_indifferent engine _).accounts graph) fun _ => ?_
      refine along_bind ((retry_along silent_indifferent _ _ _ _
        (ask_along silent_indifferent _ _ _)).accounts graph) fun _ => ?_
      exact changes fun _ => ⟨rfl, rfl⟩
  · exact along_pure _
  · split
    · refine along_bind ((retry_along silent_indifferent _ _ _ _
        (call_along silent_indifferent _ _)).accounts graph) fun _ => ?_
      split
      · exact along_throw _
      · exact changes fun _ => ⟨rfl, rfl⟩
    · exact along_throw _

/-- A call of the sender for the execution in hand: it returns or fails, and nothing else of the
execution and of the calls of the sender changes. -/
inductive Called (text : String) (session : Session) :
    EStateM.Result Failure Session (Option Unit) → Prop where
  /-- The sender returned. -/
  | returned {left : Session} (execution : left.execution = session.execution)
    (sends : left.world.sends = session.world.sends ++
      [⟨session.execution.id, session.execution.subject, text, true⟩]) :
    Called text session (.ok (some ()) left)
  /-- The sender failed. -/
  | failed {failure : Failure} {left : Session} (execution : left.execution = session.execution)
    (sends : left.world.sends = session.world.sends ++
      [⟨session.execution.id, session.execution.subject, text, false⟩]) :
    Called text session (.error failure left)

/-- Sending calls the sender once. -/
theorem send_calls (text : String) (session : Session) :
    Called text session (send engine text session) := by
  let execution := session.execution
  let reaction := engine.capabilities.send (session.world.sends.length + 1) execution.subject text
  have reacts (noted : Session) (same : Session.Silent session noted) :
      Called text session ((do
        let outcome ← Run.attempt (Run.react engine reaction)
        modify fun session => { session with
          world := session.world.sent ⟨execution.id, execution.subject, text, outcome.isOk⟩ }
        Run.ofExcept outcome
        return some () : Run (Option Unit)) noted) := by
    have silent := Run.react_silent engine reaction noted
    rw [bind_apply, Run.attempt]
    cases ended : Run.react engine reaction noted with
    | ok _ left =>
      rw [after_of_ok ended] at silent
      have whole := trans_of Session.Silent same silent
      exact .returned whole.execution (by rw [← whole.sends]; rfl)
    | error failure left =>
      rw [after_of_error ended] at silent
      have whole := trans_of Session.Silent same silent
      exact .failed whole.execution (by rw [← whole.sends]; rfl)
  have begins : send engine text session = (do
      if reaction.failure.isNone then Run.note (.sent execution.subject text)
      let outcome ← Run.attempt (Run.react engine reaction)
      modify fun session => { session with
        world := session.world.sent ⟨execution.id, execution.subject, text, outcome.isOk⟩ }
      Run.ofExcept outcome
      return some () : Run (Option Unit)) session := rfl
  rw [begins]
  split
  · exact reacts { session with world := session.world.note (.sent execution.subject text) }
      ⟨rfl, rfl⟩
  · exact reacts session (refl_of _ session)

/-- What comes of a visit of a message node: the sender was called once, and the visit ended well if
it returned. -/
inductive Spoken (text : String) (session : Session) :
    EStateM.Result Failure Session (Except Failure (Action × Entries)) → Prop where
  /-- The sender returned. -/
  | delivered {left : Session} (execution : left.execution = session.execution)
    (sends : left.world.sends = session.world.sends ++
      [⟨session.execution.id, session.execution.subject, text, true⟩]) :
    Spoken text session (.ok (.ok (.follow none, [(.text "text", .text text)])) left)
  /-- The sender failed. -/
  | lost {failure : Failure} {left : Session} (execution : left.execution = session.execution)
    (sends : left.world.sends = session.world.sends ++
      [⟨session.execution.id, session.execution.subject, text, false⟩]) :
    Spoken text session (.ok (.error failure) left)

/-- A visit of a message node calls the sender once. -/
theorem message_speaks {node : Flow.Node String} {template : String}
    (kind : node.content = .message template) (session : Session) :
    Spoken (Template.render session.execution.vars template) session
      (Run.attempt (perform engine node) session) := by
  have called := send_calls engine (Template.render session.execution.vars template) session
  have tries : perform engine node session = (do
      retryFrom node.id (.int 1) none
        (send engine (Template.render session.execution.vars template)) 1 1 (.float .zero) none
      return (.follow none, [(.text "text",
        .text (Template.render session.execution.vars template))]) : Run (Action × Entries))
        session := by
    simp only [perform, kind]
    rfl
  -- A message is tried once, so the first failure of the sender is that of the visit.
  rw [Run.attempt, tries, bind_apply, retryFrom, bind_apply, Run.attempt]
  generalize send engine (Template.render session.execution.vars template) session = ended at called
  cases called with
  | returned execution sends => exact .delivered execution sends
  | failed execution sends => exact .lost execution sends

end Handler

namespace Tick

variable (engine : Engine) (graph : Flow.Graph)

/-- What follows a visit that failed is accounted for. -/
theorem afterFailure_accounts (node : Flow.Node String) (failure : Failure) :
    Along (Session.Accounts graph) (afterFailure engine node failure) := by
  refine along_bind (Run.log_accounts graph fun _ => rfl) fun _ => ?_
  refine along_bind Run.execution_along fun execution => ?_
  refine along_bind ((Run.tell_silent engine _).accounts graph) fun _ => ?_
  split
  · exact along_bind (Run.moveTo_accounts engine graph _) fun _ => along_pure _
  · exact along_bind (Run.fail_accounts engine graph _) fun _ => along_pure _

/-- What follows a visit that ended well is accounted for. -/
theorem afterAction_accounts (node : String) (action : Action) :
    Along (Session.Accounts graph) (afterAction engine graph node action) := by
  have completes : Along (Session.Accounts graph) (do Run.complete engine; return false) :=
    along_bind (Run.complete_accounts engine graph) fun _ => along_pure _
  have moves (target : String) :
      Along (Session.Accounts graph) (do Run.moveTo engine target; return true) :=
    along_bind (Run.moveTo_accounts engine graph target) fun _ => along_pure _
  cases action with
  | suspend =>
    refine along_bind ?_ fun _ => along_pure _
    refine along_bind (Run.setStatus_accounts engine graph _) fun _ => ?_
    refine along_bind Run.execution_along fun execution => ?_
    exact along_bind (Run.log_accounts graph fun _ => rfl) fun _ =>
      Run.persist_accounts engine graph
  | finish => exact completes
  | jump target => exact moves target
  | follow label =>
    unfold afterAction
    dsimp only
    split
    · exact moves _
    · exact completes

/-- What follows the entry that ends a visit is accounted for. -/
theorem afterEnd_accounts (node : Flow.Node String) (action : Action) :
    Along (Session.Accounts graph) (do
      Run.tell engine (.nodeEnd (← Run.execution).id node.id action)
      afterAction engine graph node.id action) :=
  along_bind Run.execution_along fun _ =>
    along_bind ((Run.tell_silent engine _).accounts graph) fun _ =>
      afterAction_accounts engine graph node.id action

variable {graph}

/-- The entry that ends the visit of a message node tells the text for which the sender returned. -/
theorem delivered_accounts {node : Flow.Node String} (found : graph.node? node.id = some node)
    (speaks : node.content.isMessage = true) {text : String} {session left : Session}
    (execution : left.execution = session.execution)
    (sends : left.world.sends = session.world.sends ++
      [⟨session.execution.id, session.execution.subject, text, true⟩]) :
    Session.Accounts graph session
      ⟨left.execution.told (some node.id) .nodeEnd left.world.clock
        ([(.text "text", .text text)] ++ [(.text "elapsed_ms", .float .zero)]), left.world⟩ := by
  let payload : Entries := [(.text "text", .text text)] ++ [(.text "elapsed_ms", .float .zero)]
  let entry : Entry String :=
    ⟨some node.id, .nodeEnd, some left.world.clock.text, some (.dict payload)⟩
  have named : payload.Named := ⟨["text", "elapsed_ms"], rfl, by decide⟩
  have tells : entry.Tells "text" (.text text) := by
    refine ⟨payload, rfl, named, ?_⟩
    simp [payload, Entries.text?, Entries.get?, Value.same_text]
  have delivers : graph.delivers entry = true := by simp [Flow.Graph.delivers, entry, found, speaks]
  refine ⟨?_, [entry], _, ?_, sends, ?_, ?_⟩
  · rw [← execution]
    rfl
  · rw [← execution]
    rfl
  · exact fun sending member => List.mem_singleton.mp member ▸ ⟨rfl, rfl⟩
  · have once : returned [⟨session.execution.id, session.execution.subject, text, true⟩]
        session.execution.id = [text] := by simp [returned]
    unfold Flow.Graph.Reports
    rw [once, List.filter_cons_of_pos delivers]
    exact .cons tells .nil

/-- A call of the sender that failed is not told. -/
theorem lost_accounts {text : String} {session left : Session}
    (execution : left.execution = session.execution)
    (sends : left.world.sends = session.world.sends ++
      [⟨session.execution.id, session.execution.subject, text, false⟩]) :
    Session.Accounts graph session left := by
  refine ⟨congrArg Execution.origin execution, [], _, ?_, sends, ?_, ?_⟩
  · rw [execution, List.append_nil]
  · exact fun sending member => List.mem_singleton.mp member ▸ ⟨rfl, rfl⟩
  · have never : returned [⟨session.execution.id, session.execution.subject, text, false⟩]
        session.execution.id = [] := by simp [returned]
    rw [never]
    exact .none nofun

/-- A visit is accounted for. -/
theorem visit_accounts {node : Flow.Node String} (found : graph.node? node.id = some node) :
    Along (Session.Accounts graph) (visit engine graph node) := by
  refine along_bind (Run.log_accounts graph fun _ => rfl) fun _ => ?_
  refine along_bind Run.execution_along fun execution => ?_
  refine along_bind ((Run.tell_silent engine _).accounts graph) fun _ => ?_
  -- The call of a message node and the entry that ends the visit are accounted for together.
  by_cases speaks : node.content.isMessage = true
  · intro session
    obtain ⟨template, kind⟩ : ∃ template, node.content = .message template := by
      cases content : node.content with
      | message template => exact ⟨template, rfl⟩
      | _ =>
        rw [content] at speaks
        cases speaks
    have spoken := Handler.message_speaks engine kind session
    generalize ended : Run.attempt (Handler.perform engine node) session = result at spoken
    cases spoken with
    | @delivered left execution sends =>
      rw [after_bind_of_ok ended]
      refine trans_of (Session.Accounts graph)
        (delivered_accounts found speaks execution sends) ?_
      dsimp only
      rw [after_bind_of_ok (Run.log_apply ..)]
      exact afterEnd_accounts engine graph node _ _
    | @lost failure left execution sends =>
      rw [after_bind_of_ok ended]
      exact trans_of (Session.Accounts graph) (lost_accounts execution sends)
        (afterFailure_accounts engine graph node failure left)
  · have mute : node.content.isMessage = false := by simpa using speaks
    have performed := Run.attempt_along (Handler.perform_accounts engine graph mute)
    refine along_bind performed fun result => ?_
    cases result with
    | error failure => exact afterFailure_accounts engine graph node failure
    | ok ending =>
      refine along_bind (Run.log_accounts graph fun _ => ?_) fun _ =>
        afterEnd_accounts engine graph node ending.1
      simp [Flow.Graph.delivers, found, mute]

variable (graph)

/-- The end of an execution that visited as many nodes as it may is accounted for. -/
theorem exhaust_accounts (node : Option String) :
    Along (Session.Accounts graph) (exhaust engine node) :=
  along_bind (Run.log_accounts graph fun _ => rfl) fun _ => Run.fail_accounts engine graph _

/-- Visiting nodes is accounted for. -/
theorem visits_accounts (watched : Bool) (fuel steps : Nat) :
    Along (Session.Accounts graph) (visits engine graph watched fuel steps) := by
  -- On the fuel; the accounts of the visits add up by transitivity.
  induction fuel generalizing steps with
  | zero => exact along_pure ()
  | succ fuel ih =>
    rw [visits]
    refine along_bind (along_bind along_get fun _ => along_pure _) fun stops => ?_
    split
    · exact along_bind (Run.setStatus_accounts engine graph _) fun _ =>
        Run.persist_accounts engine graph
    · refine along_bind Run.execution_along fun execution => ?_
      dsimp only
      split
      · exact exhaust_accounts engine graph _
      · split
        · exact along_throw _
        · rename_i node found
          have named : graph.node? node.id = some node := by
            obtain ⟨id, -, search⟩ := Option.bind_eq_some_iff.mp found
            rwa [(Flow.Graph.node?_eq_some search).2]
          refine along_bind (visit_accounts engine named) fun goesOn => ?_
          split
          · exact ih _
          · exact along_pure ()

/-- A tick is accounted for. -/
theorem tick_accounts (watched : Bool) :
    Along (Session.Accounts graph) (tick engine graph watched) := by
  refine along_bind Run.execution_along fun execution => ?_
  split
  · exact along_bind (visits_accounts engine graph watched _ _) fun _ =>
      along_bind Run.execution_along fun _ => along_pure _
  · exact along_bind Run.execution_along fun _ => along_pure _

/-- Running an execution that was made is accounted for. -/
theorem start_accounts (watched : Bool) :
    Along (Session.Accounts graph) (start engine graph watched) :=
  along_bind (Run.moveTo_accounts engine graph _) fun _ => tick_accounts engine graph watched

/-- Taking up a wait is accounted for. -/
theorem resume_accounts (label reason reply : Value) (watched : Bool) :
    Along (Session.Accounts graph) (resume engine graph label reason reply watched) := by
  refine along_bind Run.execution_along fun execution => ?_
  refine along_bind (Run.log_accounts graph fun _ => rfl) fun _ => ?_
  refine along_bind (Run.setStatus_accounts engine graph _) fun _ => ?_
  refine along_bind (Run.ofExcept_along _) fun target => ?_
  split
  · exact along_bind (Run.complete_accounts engine graph) fun _ =>
      along_bind Run.execution_along fun _ => along_pure _
  · refine along_bind (Run.moveTo_accounts engine graph _) fun _ => ?_
    exact along_bind (tick_accounts engine graph watched) fun _ =>
      along_bind Run.execution_along fun _ => along_pure _

end Tick

end Parley
