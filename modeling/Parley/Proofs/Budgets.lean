import Parley.Proofs.Courses

/-!
# Budgets cut off

The budget of a tick only cuts its course off. As many nodes are visited as the budget has, and
then, if the last visit led to a further node, the execution is ended for that where it stands. A
tick whose course ends before that, or just then, is the same under every larger budget.
-/

namespace Parley

open Parley.Computation World

namespace Number

/-- The order of two integers is that of what they are. -/
theorem int_le (m n : Int) : (Number.int m).le (.int n) = true ↔ m ≤ n := by
  rw [le_eq]
  exact Int.isLE_compare

end Number

namespace Tick

/-- The sessions along the course of a tick, with the number of visits before. -/
inductive Course (engine : Engine) (graph : Flow.Graph) (start : Session) :
    Nat → Session → Prop where
  /-- It begins with a running execution. -/
  | start (running : start.execution.status = .running) : Course engine graph start 0 start
  /-- It goes on after a visit that says so. -/
  | visit {visits : Nat} {middle next : Session} (course : Course engine graph start visits middle)
    (went : proceed engine graph middle = .ok true next) :
    Course engine graph start (visits + 1) next

/-- No request to stop is seen along the course of a tick. -/
def Undisturbed (engine : Engine) (graph : Flow.Graph) (watched : Bool) (start : Session) : Prop :=
  ∀ visits middle, Course engine graph start visits middle →
    (watched && middle.world.interrupted) = false

/-- An execution was ended since, and its log tells last that its budget was used up. -/
structure Overran (budget : Number) (before after : Execution String) : Prop where
  /-- It failed. -/
  failed : after.status = .failed
  /-- The last entry that was added tells of the budget. -/
  told : ∃ gained place time, after.log = before.log ++ gained ++
    [⟨place, .nodeError, time, some (.dict (exhaustion budget place))⟩]

/-- Entries that tell of a number of visits, and of no budget that was used up. -/
structure Tells (visits : Nat) (entries : List (Entry String)) : Prop where
  /-- As many visits begin. -/
  starts : entries.countP (fun entry => entry.event == .nodeStart) = visits
  /-- No budget was used up. -/
  affords : ∀ entry ∈ entries, ∀ budget place, entry.event = .nodeError →
    entry.payload ≠ some (.dict (exhaustion budget place))

namespace Tells

variable {visits others : Nat} {entries more : List (Entry String)}

/-- No entries tell of no visit. -/
theorem none : Tells 0 [] := ⟨rfl, nofun⟩

/-- The entries of a visit tell of it. -/
theorem visit {node : Flow.Node String} {now : Time.Moment} (chapter : Chapter node now entries) :
    Tells 1 entries :=
  ⟨chapter.starts, fun entry member budget place => chapter.affords budget place entry member⟩

/-- Entries tell of what their parts tell. -/
theorem append (before : Tells visits entries) (after : Tells others more) :
    Tells (visits + others) (entries ++ more) where
  starts := by rw [List.countP_append, before.starts, after.starts]
  affords entry member := by
    rcases List.mem_append.mp member with first | last
    · exact before.affords entry first
    · exact after.affords entry last

/-- An execution that gained what tells of visits alone did not overrun. -/
theorem not_overran {budget : Number} {execution left : Execution String}
    (tells : Tells visits entries) (log : left.log = execution.log ++ entries) :
    ¬ Overran budget execution left := by
  rintro ⟨-, gained, place, time, same⟩
  rw [log, List.append_assoc, List.append_cancel_left_eq] at same
  have member : ⟨place, .nodeError, time, some (.dict (exhaustion budget place))⟩ ∈ entries := by
    rw [same]
    exact List.mem_append_right _ (List.mem_singleton_self _)
  exact tells.affords _ member budget place rfl rfl

end Tells

variable {engine : Engine} {graph : Flow.Graph} {watched : Bool} {start middle : Session}
  {visits budget : Nat}

/-- The body of the loop makes one visit at most, and ends well only if it makes one. -/
theorem proceed_tells (engine : Engine) (graph : Flow.Graph)
    (running : middle.execution.status = .running) :
    ∃ made entries, Tells made entries ∧ made ≤ 1 ∧
      (after (proceed engine graph) middle).execution.log = middle.execution.log ++ entries ∧
      ∀ goesOn next, proceed engine graph middle = .ok goesOn next → made = 1 := by
  have ended := proceed_proceeds engine graph running
  rw [Computation.after]
  generalize proceed engine graph middle = result at ended
  cases ended with
  | lost => exact ⟨0, [], .none, Nat.zero_le 1, (List.append_nil _).symm, by rintro _ _ ⟨⟩⟩
  | visited visited =>
    obtain ⟨node, entries, -, chapter, log⟩ := visited.told
    exact ⟨1, entries, .visit chapter, le_refl 1, log, fun _ _ _ => rfl⟩
  | refused visited =>
    obtain ⟨node, entries, -, chapter, log⟩ := visited.told
    exact ⟨1, entries, .visit chapter, le_refl 1, log, by rintro _ _ ⟨⟩⟩

/-- After a visit that leads on, the execution runs at a further node. -/
theorem proceed_onward {next : Session} (running : middle.execution.status = .running)
    (went : proceed engine graph middle = .ok true next) :
    next.execution.status = .running ∧ ∃ place, next.execution.node = some place := by
  have ended := proceed_proceeds engine graph running
  rw [went] at ended
  generalize onward : true = goesOn at ended
  cases ended with
  | visited visited => exact ⟨Execution.runs_iff.mp onward.symm, visited.onward onward.symm⟩

namespace Course

/-- Along the course the execution runs. -/
theorem runs (course : Course engine graph start visits middle) :
    middle.execution.status = .running := by
  induction course with
  | start running => exact running
  | visit course went runs => exact (proceed_onward runs went).1

/-- After a visit the execution stands at a further node. -/
theorem place (course : Course engine graph start visits middle) (positive : 1 ≤ visits) :
    ∃ place, middle.execution.node = some place := by
  cases course with
  | start => cases positive
  | visit course went => exact (proceed_onward course.runs went).2

/-- The log tells of the visits. -/
theorem tells (course : Course engine graph start visits middle) :
    ∃ entries, Tells visits entries ∧
      middle.execution.log = start.execution.log ++ entries := by
  induction course with
  | start => exact ⟨[], .none, (List.append_nil _).symm⟩
  | @visit visits middle next course went told =>
    obtain ⟨entries, before, log⟩ := told
    obtain ⟨made, more, after, -, gained, visited⟩ :=
      proceed_tells engine graph course.runs
    rw [after_of_ok went, log, List.append_assoc] at gained
    exact ⟨entries ++ more, visited _ _ went ▸ before.append after, gained⟩

/-- A budget that is not used up yet allows the next visit. -/
theorem affords {engine : Engine} (within : visits < budget) :
    ¬ (engine.allowing budget).settings.budget.le (.int visits) := by
  change ¬ (Number.int budget).le (.int visits) = true
  rw [Number.int_le]
  omega

/-- A tick that is not disturbed goes along the course as far as its budget allows. -/
theorem stands (course : Course engine graph start visits middle)
    (undisturbed : Undisturbed engine graph watched start) (within : visits ≤ budget) :
    Stands (engine.allowing budget) graph watched start visits middle := by
  induction course with
  | start => exact .start
  | @visit visits middle next course went before =>
    refine .round (before (by omega)) ?_
    rw [round_of_affordable _ graph watched (undisturbed visits middle course)
      (affords (by omega)), proceed_allowing]
    exact went

/-- A course begins with a running execution. -/
theorem begins (course : Course engine graph start visits middle) :
    start.execution.status = .running := by
  induction course with
  | start running => exact running
  | visit _ _ running => exact running

/-- A tick is over where the course ends, if its budget allows that many visits. -/
theorem tick_halts (course : Course engine graph start visits middle)
    (undisturbed : Undisturbed engine graph watched start) (within : visits < budget)
    (halts : ∀ next, proceed engine graph middle ≠ .ok true next) :
    tick (engine.allowing budget) graph watched start =
      (do
        let _ ← proceed engine graph
        return (← Run.execution).status : Run Status) middle := by
  have stands := course.stands undisturbed within.le
  have same : round (engine.allowing budget) graph watched visits middle =
      proceed engine graph middle := by
    rw [round_of_affordable _ graph watched (undisturbed visits middle course) (affords within),
      proceed_allowing]
  rw [stands.tick_stops course.begins (Nat.lt_succ_of_lt within) (by rwa [same]), bind_apply, same,
    bind_apply]

/-- A tick whose budget is used up along the course ends the execution for that. -/
theorem tick_exhausts (course : Course engine graph start budget middle)
    (undisturbed : Undisturbed engine graph watched start) :
    tick (engine.allowing budget) graph watched start =
      (do
        exhaust (engine.allowing budget) middle.execution.node
        return (← Run.execution).status : Run Status) middle := by
  have stands := course.stands undisturbed le_rfl
  have same : round (engine.allowing budget) graph watched budget middle =
      (do
        exhaust (engine.allowing budget) middle.execution.node
        return false : Run Bool) middle :=
    round_of_exhausted _ graph watched (undisturbed budget middle course)
      ((Number.int_le budget budget).mpr le_rfl)
  have stops (next : Session) :
      round (engine.allowing budget) graph watched budget middle ≠ .ok true next := by
    rw [same, bind_apply]
    cases exhaust (engine.allowing budget) middle.execution.node middle <;> simp [pure_apply]
  rw [stands.tick_stops course.begins (Nat.lt_succ_self budget) stops, bind_apply, same,
    bind_apply, bind_apply]
  cases exhaust (engine.allowing budget) middle.execution.node middle <;> rfl

end Course

/-- A course goes as far as a budget allows, or ends before. -/
theorem course_or_halt (engine : Engine) (graph : Flow.Graph)
    (running : start.execution.status = .running) (budget : Nat) :
    (∃ middle, Course engine graph start budget middle) ∨
      ∃ visits middle, visits < budget ∧ Course engine graph start visits middle ∧
        ∀ next, proceed engine graph middle ≠ .ok true next := by
  induction budget with
  | zero => exact .inl ⟨start, .start running⟩
  | succ budget ih =>
    rcases ih with ⟨middle, course⟩ | ⟨visits, middle, within, course, halts⟩
    · by_cases goes : ∃ next, proceed engine graph middle = .ok true next
      · obtain ⟨next, went⟩ := goes
        exact .inl ⟨next, .visit course went⟩
      · exact .inr ⟨budget, middle, Nat.lt_succ_self budget, course, not_exists.mp goes⟩
    · exact .inr ⟨visits, middle, Nat.lt_succ_of_lt within, course, halts⟩

end Tick

/-- Aloof parts ask for nothing. -/
theorem Capabilities.Aloof.not_asks {capabilities : Capabilities} (aloof : capabilities.Aloof)
    {origin : Execution.Origin} {id : String} : ¬ capabilities.Asks origin id := by
  rintro (asked | ⟨-, asked⟩)
  · simp [aloof.send] at asked
  · simp [aloof.watch] at asked

/-- The calls of the sender stay. -/
def Session.Unsent (before after : Session) : Prop := after.world.sends = before.world.sends

instance : IsPreorder Session Session.Unsent where
  refl _ := rfl
  trans _ _ _ first second := second.trans first

namespace Tick

/-- Ending an execution for its budget does not call the sender. -/
theorem exhaust_unsent (engine : Engine) (node : Option String) :
    Along Session.Unsent (exhaust engine node) := by
  have changes (change : Execution String → Execution String) :
      Along Session.Unsent (Run.change change) := along_modify fun _ => rfl
  have reads : Along Session.Unsent Run.execution := fun _ => rfl
  have now : Along Session.Unsent Run.now := fun _ => rfl
  have logs (event : Event) (payload : Entries) :
      Along Session.Unsent (Run.log node event payload) := along_bind now fun _ => changes _
  have tells (notice : Notice) : Along Session.Unsent (Run.tell engine notice) :=
    fun session => (Run.tell_silent engine notice session).sends
  have moves (status : Status) : Along Session.Unsent (Run.setStatus engine status) := by
    refine along_bind reads fun old => along_bind now fun time => ?_
    refine along_bind (Run.ofExcept_along _) fun moved => ?_
    exact along_bind (changes _) fun _ => tells _
  have keeps : Along Session.Unsent (Run.persist engine) := by
    refine along_bind now fun time => along_bind (changes _) fun _ => ?_
    refine along_bind reads fun kept => ?_
    split
    · exact along_pure ()
    · exact along_modify fun _ => rfl
    · intro session
      rw [Run.after_onWorld]
      exact Desk.save_sends engine kept session.world
  exact along_bind (logs _ _) fun _ => along_bind (changes _) fun _ => along_bind (moves _) fun _ =>
    keeps

variable {engine : Engine} {graph : Flow.Graph} {watched : Bool} {start middle : Session}
  {visits budget : Nat}

namespace Course

/-- A tick whose budget is used up along the course leaves the execution ended for that, and calls
the sender no more. -/
theorem overruns (course : Course engine graph start budget middle)
    (undisturbed : Undisturbed engine graph watched start) :
    let left := after (tick (engine.allowing budget) graph watched) start
    left.execution = middle.execution.exhausted (.int budget) middle.world.clock ∧
      left.world.sends = middle.world.sends := by
  have hands := exhaust_hands (engine.allowing budget) course.runs middle.world
  have unsent := exhaust_unsent (engine.allowing budget) middle.execution.node middle
  have same : after (tick (engine.allowing budget) graph watched) start =
      after (exhaust (engine.allowing budget) middle.execution.node) middle := by
    unfold after
    rw [course.tick_exhausts undisturbed, bind_apply]
    cases exhaust (engine.allowing budget) middle.execution.node middle <;> rfl
  refine ⟨?_, same ▸ unsent⟩
  rw [same, Computation.after]
  generalize exhaust (engine.allowing budget) middle.execution.node
    ⟨middle.execution, middle.world⟩ = result at hands
  cases hands with
  | taken => rfl
  | refused => rfl

/-- A tick that comes to the end of the course tells of its visits, which are no more than the
budget allows. -/
theorem rests (course : Course engine graph start visits middle)
    (undisturbed : Undisturbed engine graph watched start) (within : visits < budget)
    (halts : ∀ next, proceed engine graph middle ≠ .ok true next) :
    ∃ made entries, made ≤ budget ∧ Tells made entries ∧
      (after (tick (engine.allowing budget) graph watched) start).execution.log =
        start.execution.log ++ entries := by
  obtain ⟨entries, before, log⟩ := course.tells
  obtain ⟨made, more, last, few, gained, -⟩ :=
    proceed_tells engine graph course.runs
  have same : after (tick (engine.allowing budget) graph watched) start =
      after (proceed engine graph) middle := by
    unfold after
    rw [course.tick_halts undisturbed within halts, bind_apply]
    cases proceed engine graph middle <;> rfl
  refine ⟨visits + made, entries ++ more, by omega, before.append last, ?_⟩
  rw [same, gained, log, List.append_assoc]

/-- The log of a tick whose budget is used up along the course tells last where that was. -/
theorem tick_log (course : Course engine graph start budget middle)
    (undisturbed : Undisturbed engine graph watched start) :
    (after (tick (engine.allowing budget) graph watched) start).execution.log =
      middle.execution.log ++ [⟨middle.execution.node, .nodeError, some middle.world.clock.text,
        some (.dict (exhaustion (.int budget) middle.execution.node))⟩] := by
  rw [(course.overruns undisturbed).1]
  rfl

/-- A tick overruns its budget if its course goes that far. -/
theorem overran (course : Course engine graph start budget middle)
    (undisturbed : Undisturbed engine graph watched start) :
    Overran (.int budget) start.execution
      (after (tick (engine.allowing budget) graph watched) start).execution := by
  obtain ⟨entries, -, log⟩ := course.tells
  exact ⟨by rw [(course.overruns undisturbed).1]; rfl, entries, middle.execution.node,
    some middle.world.clock.text, by rw [course.tick_log undisturbed, log]⟩

/-- A tick ends by itself where its course ends well, even with the last visit that the budget
allows. -/
theorem tick_ends {last : Session} (course : Course engine graph start visits middle)
    (undisturbed : Undisturbed engine graph watched start) (within : visits < budget)
    (ended : proceed engine graph middle = .ok false last) :
    tick (engine.allowing budget) graph watched start = .ok last.execution.status last ∧
      ¬ Overran (.int budget) start.execution last.execution := by
  have halts (next : Session) : proceed engine graph middle ≠ .ok true next := by
    rw [ended]
    rintro ⟨⟩
  have done : tick (engine.allowing budget) graph watched start =
      .ok last.execution.status last := by
    rw [course.tick_halts undisturbed within halts, bind_of_ok ended]
    rfl
  obtain ⟨made, entries, -, tells, log⟩ := course.rests undisturbed within halts
  rw [after_of_ok done] at log
  exact ⟨done, tells.not_overran log⟩

end Course

/-- A tick whose course does not go as far as the budget allows tells of its visits, and is the same
under every larger budget. -/
theorem tick_within (undisturbed : Undisturbed engine graph watched start)
    (short : ¬ ∃ middle, Course engine graph start budget middle) :
    (∃ made entries, made ≤ budget ∧ Tells made entries ∧
      (after (tick (engine.allowing budget) graph watched) start).execution.log =
        start.execution.log ++ entries) ∧
    ∀ more, budget ≤ more → tick (engine.allowing more) graph watched start =
      tick (engine.allowing budget) graph watched start := by
  by_cases running : start.execution.status = .running
  · obtain ⟨visits, middle, within, course, halts⟩ :=
      (course_or_halt engine graph running budget).resolve_left short
    refine ⟨course.rests undisturbed within halts, fun more larger => ?_⟩
    rw [course.tick_halts undisturbed within halts,
      course.tick_halts undisturbed (within.trans_le larger) halts]
  · have rests (steps : Nat) := tick_of_resting (engine.allowing steps) graph watched running
    refine ⟨⟨0, [], Nat.zero_le budget, .none, ?_⟩,
      fun more _ => (rests more).trans (rests budget).symm⟩
    rw [after_of_ok (rests budget), List.append_nil]

/-- A tick visits no more nodes than its budget has visits. -/
theorem tick_starts (undisturbed : Undisturbed engine graph watched start) :
    ∃ entries, (after (tick (engine.allowing budget) graph watched) start).execution.log =
        start.execution.log ++ entries ∧
      entries.countP (fun entry => entry.event == .nodeStart) ≤ budget := by
  by_cases reaches : ∃ middle, Course engine graph start budget middle
  · obtain ⟨middle, course⟩ := reaches
    obtain ⟨entries, tells, log⟩ := course.tells
    refine ⟨entries ++ [_], by rw [course.tick_log undisturbed, log, List.append_assoc], ?_⟩
    rw [List.countP_append, tells.starts]
    exact le_rfl
  · obtain ⟨⟨made, entries, few, tells, log⟩, -⟩ := tick_within undisturbed reaches
    exact ⟨entries, log, tells.starts ▸ few⟩

/-- A tick overruns its budget exactly if its course goes that far. -/
theorem overran_iff (undisturbed : Undisturbed engine graph watched start) :
    Overran (.int budget) start.execution
        (after (tick (engine.allowing budget) graph watched) start).execution ↔
      ∃ middle, Course engine graph start budget middle := by
  refine ⟨fun overran => ?_, fun ⟨middle, course⟩ => course.overran undisturbed⟩
  by_contra short
  obtain ⟨⟨made, entries, -, tells, log⟩, -⟩ := tick_within undisturbed short
  exact tells.not_overran log overran

/-- Worlds in which no request to stop was made are alike for visits if no outside part makes
one. -/
theorem unasked_semblance (aloof : engine.capabilities.Aloof) :
    Semblance engine (fun _ => True) (Alone fun world => world.interrupted = false) where
  clock related := congrArg World.clock related.1
  closed related := congrArg World.closed related.1
  noted effect related := ⟨congrArg (World.note · effect) related.1, related.2⟩
  reacts text _ related := by rw [related.1]
  sent text returned _ related := ⟨congrArg (World.sent · _) related.1, related.2⟩
  replies _ related := by rw [related.1]
  generated related := by
    obtain ⟨rfl, unasked⟩ := related
    exact ⟨rfl, unasked⟩
  finds _ related := by rw [related.1]
  retrieved related := by
    obtain ⟨rfl, unasked⟩ := related
    exact ⟨rfl, unasked⟩
  numbers _ related := by rw [related.1]
  called type related := by
    obtain ⟨rfl, unasked⟩ := related
    exact ⟨rfl, unasked⟩
  saved _ _ := parallel_alone fun world unasked => by
    obtain ⟨taken, offered⟩ := Desk.save_after engine _ world
    generalize after (Desk.save engine _) world = left at offered
    cases offered <;> exact unasked
  cancelled _ _ asked := absurd asked aloof.not_asks
  stopped _ _ asked := absurd asked aloof.not_asks

/-- A tick is not disturbed if nobody asked before to stop it, and no outside part does. -/
theorem undisturbed_of_aloof (aloof : engine.capabilities.Aloof)
    (unasked : start.world.interrupted = false) : Undisturbed engine graph watched start := by
  intro visits middle course
  have quiet : middle.world.interrupted = false := by
    induction course with
    | start => exact unasked
    | @visit visits middle next course went before =>
      cases found : middle.execution.node.bind graph.node? with
      | none =>
        rw [proceed_of_lost engine graph found] at went
        cases went
      | some node =>
        rw [proceed_of_found engine graph found] at went
        have ended := visit_parallel (unasked_semblance aloof) graph node middle middle
          ⟨rfl, trivial, rfl, before⟩
        have kept := ended.after.world.2
        rwa [after_of_ok went] at kept
  rw [quiet, Bool.and_false]

/-- The budget only cuts a tick off that is not disturbed. No more nodes are visited than it has.
A tick that does not overrun it is the same under every larger budget. It is overrun exactly if the
course of the tick goes that far and leads on to a further node. Then the tick made the visits that
begin it under every larger budget, with their variables and calls of the sender, and the log tells
last of the node at which the execution stands. A tick whose course ends with the last visit that
the budget allows ends by itself. -/
theorem budget_cuts_off (undisturbed : Undisturbed engine graph watched start)
    (positive : 1 ≤ budget) :
    let left := after (tick (engine.allowing budget) graph watched) start
    (∃ entries, left.execution.log = start.execution.log ++ entries ∧
      entries.countP (fun entry => entry.event == .nodeStart) ≤ budget) ∧
    (¬ Overran (.int budget) start.execution left.execution → ∀ more, budget ≤ more →
      tick (engine.allowing more) graph watched start =
        tick (engine.allowing budget) graph watched start) ∧
    (Overran (.int budget) start.execution left.execution ↔ ∃ middle next,
      Course engine graph start budget middle ∧ middle.execution.node = some next) ∧
    (∀ middle, Course engine graph start budget middle →
      (∃ next time, middle.execution.node = some next ∧
        left.execution.log = middle.execution.log ++
          [⟨some next, .nodeError, time, some (.dict (exhaustion (.int budget) (some next)))⟩]) ∧
      left.execution.vars = middle.execution.vars ∧ left.world.sends = middle.world.sends ∧
      ∀ more, budget < more → Stands (engine.allowing more) graph watched start budget middle) ∧
    ∀ middle last, Course engine graph start (budget - 1) middle →
      proceed engine graph middle = .ok false last →
      tick (engine.allowing budget) graph watched start = .ok last.execution.status last ∧
        ¬ Overran (.int budget) start.execution last.execution := by
  intro left
  refine ⟨tick_starts undisturbed, fun kept => ?_, ?_, fun middle course => ?_,
    fun middle last course ended =>
      course.tick_ends undisturbed (Nat.sub_lt positive Nat.one_pos) ended⟩
  · have short := mt (overran_iff undisturbed).mpr kept
    exact (tick_within undisturbed short).2
  · refine (overran_iff undisturbed).trans ⟨?_, ?_⟩
    · rintro ⟨middle, course⟩
      obtain ⟨next, place⟩ := course.place positive
      exact ⟨middle, next, course, place⟩
    · rintro ⟨middle, -, course, -⟩
      exact ⟨middle, course⟩
  · obtain ⟨next, place⟩ := course.place positive
    obtain ⟨execution, sends⟩ := course.overruns undisturbed
    have log := course.tick_log undisturbed
    rw [place] at log
    exact ⟨⟨next, _, place, log⟩, (congrArg Execution.vars execution).trans rfl, sends,
      fun more larger => course.stands undisturbed larger.le⟩

/-- The definition of a flow that says the same over and over. -/
def rambling : Value :=
  let part (texts : List (String × String)) : Value :=
    .dict (texts.map fun (key, text) => (.text key, .text text))
  let node (id type : String) (data : List (String × String)) : Value :=
    .dict [(.text "id", .text id), (.text "type", .text type), (.text "data", part data)]
  .dict [(.text "id", .text "rambling"),
    (.text "nodes", .list [node "hello" "start" [], node "say" "message" [("text", "and")],
      node "again" "goTo" [("targetNodeId", "say")]]),
    (.text "edges", .list [part [("source", "hello"), ("target", "say")],
      part [("source", "say"), ("target", "again")]])]

/-- The graph of the flow that says the same over and over. -/
def ramblingGraph : Flow.Graph := (Flow.load [] rambling).toOption.getD default

/-- A session at the beginning of the flow that says the same over and over. -/
def ramblingStart : Session where
  execution := { Execution.new "ex0001" "rambling" 1 "+31 6" (.empty (.text "ex0001")) default with
    node := some "hello" }
  world := .start default (.memory .empty)

/-- Three visits of the flow that says the same over and over use a budget of three up. -/
theorem rambling_cut_off :
    Undisturbed Engine.keepless ramblingGraph true ramblingStart ∧ 1 ≤ 3 ∧
      Overran (.int 3) ramblingStart.execution
        (after (tick (Engine.keepless.allowing 3) ramblingGraph true) ramblingStart).execution ∧
      ∃ middle next, Course Engine.keepless ramblingGraph ramblingStart 3 middle ∧
        middle.execution.node = some next := by
  have undisturbed : Undisturbed Engine.keepless ramblingGraph true ramblingStart :=
    undisturbed_of_aloof ⟨fun _ _ _ => rfl, fun _ => rfl⟩ rfl
  obtain ⟨-, stays, overrun, -⟩ := budget_cuts_off undisturbed (show 1 ≤ 3 by decide)
  have overran : Overran (.int 3) ramblingStart.execution
      (after (tick (Engine.keepless.allowing 3) ramblingGraph true) ramblingStart).execution := by
    -- Under a budget of four the log would be as long.
    by_contra kept
    have same : (after (tick (Engine.keepless.allowing 4) ramblingGraph true)
        ramblingStart).execution.log.length = (after (tick (Engine.keepless.allowing 3)
          ramblingGraph true) ramblingStart).execution.log.length := by
      rw [Computation.after, stays kept 4 (by decide), ← Computation.after]
    revert same
    decide +kernel
  exact ⟨undisturbed, by decide, overran, overrun.mp overran⟩

end Tick

end Parley
