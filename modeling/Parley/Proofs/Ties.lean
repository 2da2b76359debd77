import Parley.Proofs.Errands
import Parley.Proofs.Likeness
import Parley.Proofs.Records

/-!
# Calls of the desk in two worlds

What is asked of worlds that are related for calls of the desk to run in parallel in them. The
relations are indexed by the subjects and the executions that are held, since a hold is taken and
given back on the way. How executions are worked on is left open here; for likenesses, guarded work
runs in parallel.
-/

namespace Parley

open Parley.Computation World

namespace Desk

section Holding

variable {α : Type} {outer inner : World → World → Prop} {action : Desk α} {left right : World}

/-- A computation while a subject is held ends alike if it does in the worlds where the subject is
held. -/
theorem holdingSubject_alike {subject : String}
    (enters : inner { left with subjects := left.subjects.enter subject }
      { right with subjects := right.subjects.enter subject })
    (leaves : ∀ left right, inner left right →
      outer { left with subjects := left.subjects.leave subject }
        { right with subjects := right.subjects.leave subject })
    (alike : ∀ held other, Beside left held → Beside right other → inner held other →
      Alike inner (action held) (action other)) :
    Alike outer (holdingSubject subject action left) (holdingSubject subject action right) := by
  have ended := alike { left with subjects := left.subjects.enter subject }
    { right with subjects := right.subjects.enter subject } ⟨rfl, rfl, rfl, rfl⟩
    ⟨rfl, rfl, rfl, rfl⟩ enters
  rw [holdingSubject_apply, holdingSubject_apply]
  generalize action { left with subjects := left.subjects.enter subject } = one,
    action { right with subjects := right.subjects.enter subject } = other at ended
  cases ended with
  | ok related => exact .ok (leaves _ _ related)
  | error related => exact .error (leaves _ _ related)

/-- A computation while an execution is held ends alike if it does in the worlds where the
execution is held. -/
theorem holdingExecution_alike {id : String}
    (enters : inner { left with executions := left.executions.enter id }
      { right with executions := right.executions.enter id })
    (leaves : ∀ left right, inner left right →
      outer { left with executions := left.executions.leave id }
        { right with executions := right.executions.leave id })
    (alike : ∀ held other, Beside left held → Beside right other → inner held other →
      Alike inner (action held) (action other)) :
    Alike outer (holdingExecution id action left) (holdingExecution id action right) := by
  have ended := alike { left with executions := left.executions.enter id }
    { right with executions := right.executions.enter id } ⟨rfl, rfl, rfl, rfl⟩
    ⟨rfl, rfl, rfl, rfl⟩ enters
  rw [holdingExecution_apply, holdingExecution_apply]
  generalize action { left with executions := left.executions.enter id } = one,
    action { right with executions := right.executions.enter id } = other at ended
  cases ended with
  | ok related => exact .ok (leaves _ _ related)
  | error related => exact .error (leaves _ _ related)

end Holding

section Reading

variable {α β : Type} {rel after : World → World → Prop} {left right : World}

/-- What is done with the value of a result ends alike if it does for the value. -/
theorem ofExcept_alike {result : Except Failure α} {rest others : α → Desk β}
    (related : after left right)
    (afterwards : ∀ value, result = .ok value →
      Alike after (rest value left) (others value right)) :
    Alike after ((ofExcept result >>= rest) left) ((ofExcept result >>= others) right) := by
  cases result with
  | ok value => exact afterwards value rfl
  | error failure => exact .error related

/-- What is done with an execution that is read ends alike if the same is read. -/
theorem read_alike {id : String} {rest others : Execution String → Desk β}
    (same : right.store.get id = left.store.get id) (related : after left right)
    (afterwards : ∀ record, left.store.get id = .ok record →
      Alike after (rest record left) (others record right)) :
    Alike after ((read id >>= rest) left) ((read id >>= others) right) := by
  rw [bind_apply, bind_apply, read_apply, read_apply, same]
  cases found : left.store.get id with
  | ok record => exact afterwards record found
  | error failure => exact .error related

end Reading

/-- Saving hands the execution to the store, and fails if it is refused. -/
theorem save_apply (engine : Engine) (execution : Execution String) (world : World) :
    save engine execution world = match saved engine execution world with
      | .ok store => .ok ()
        { world with saves := world.saves ++ [⟨execution, true⟩], store }
      | .error failure => .error failure
        { world with saves := world.saves ++ [⟨execution, false⟩] } := by
  simp only [save, bind_apply, get_apply, modify_apply]
  cases saved engine execution world <;> rfl

/-- What was saved was saved by the store. -/
theorem store_of_saved {engine : Engine} {execution : Execution String} {world : World}
    {store : Store String} (ended : saved engine execution world = .ok store) :
    world.store.save execution = .ok store := by
  simp only [saved] at ended
  split at ended
  · cases ended
  · exact ended

/-- Cancelling an execution that has not ended saves it as cancelled, with a request to cancel it
that is closed afterwards. -/
theorem cancel_apply (engine : Engine) (id : String) (world : World) :
    cancel engine id world = match world.store.get id with
      | .error failure => .error failure world
      | .ok record =>
        if record.status.isFinal then .ok false world
        else
          match save engine (record.ended .cancelled world.clock)
            { world.raiseSignal id with
              executions := (world.raiseSignal id).executions.enter id } with
          | .ok _ left => .ok true
            { left.dropSignal id with executions := left.executions.leave id }
          | .error failure left => .error failure
            { left with executions := left.executions.leave id } := by
  rw [cancel, bind_apply, read_apply]
  cases found : world.store.get id with
  | error failure => rfl
  | ok record =>
    by_cases final : record.status.isFinal
    · simp only [if_pos final]
      rfl
    have moved : record.transition .cancelled (world.raiseSignal id).clock =
        .ok (record.ended .cancelled world.clock) :=
      Execution.transition_final rfl (cancelled_allowed final)
    simp only [if_neg final]
    rw [bind_of_ok (modify_apply _ world), holdingExecution_apply, bind_apply, read_apply]
    have again : { world.raiseSignal id with
      executions := (world.raiseSignal id).executions.enter id }.store.get id = .ok record := found
    rw [again]
    simp only [if_neg final, bind_apply, get_apply, moved, ofExcept, pure_apply, modify_apply]
    cases save engine (record.ended .cancelled world.clock) _ <;> rfl

variable {engine : Engine} {own : Execution.Origin → Prop} {outer inner : World → World → Prop}

/-- What is asked of worlds that are related for guarded work on the execution of an id to run in
parallel: they are alike while it is worked on, and its request to cancel is opened and closed
around that. -/
structure Guards (engine : Engine) (own : Execution.Origin → Prop) (id : String)
    (outer inner : World → World → Prop) : Prop where
  /-- The worlds are alike while it is worked on. -/
  like : Likeness engine own inner
  /-- The request is opened. -/
  opens : ∀ left right, outer left right → inner (opened id left) (opened id right)
  /-- The execution is no longer stepped. -/
  rests : ∀ left right, inner left right →
    inner { left with stepping := none } { right with stepping := none }
  /-- The same is stored of it. -/
  reads : ∀ left right, inner left right → right.store.get id = left.store.get id
  /-- What is stored of it is of one of the origins. -/
  owned : ∀ left right record, inner left right → left.store.get id = .ok record →
    own record.origin
  /-- The request is closed if it has ended. -/
  ends : ∀ left right record, inner left right → left.stepping = none →
    left.store.get id = .ok record → record.status.isFinal = true →
    outer (left.dropSignal id) (right.dropSignal id)
  /-- The request stays open if it has not ended. -/
  stays : ∀ left right, inner left right → left.stepping = none →
    (∀ record, left.store.get id = .ok record → record.status.isFinal = false) → outer left right

/-- Noting that working on an execution failed runs in parallel. -/
theorem failStored_parallel {id : String} (guards : Guards engine own id outer inner)
    (failure : Failure) : Parallel inner (failStored engine id failure) := by
  refine parallel_bind (attempt_parallel fun left right related => ?_) fun _ => parallel_pure ()
  refine read_alike (guards.reads left right related) related fun record found => ?_
  have owned := guards.owned left right record related found
  split
  · refine parallel_get (fun left right related => ?_) left right related
    rw [guards.like.clock related]
    refine ofExcept_alike related fun ended done => ?_
    have same : ended.origin = record.origin := by
      rw [Execution.origin_of_transition done]
      cases record.node <;> rfl
    rw [← same] at owned
    exact guards.like.saved owned left right related
  · exact .ok related

/-- Noting a failure changes nothing about what is being stepped. -/
theorem Noted.stepping {id : String} {failure : Failure} {world left : World}
    (noted : Noted id failure world left) : left.stepping = world.stepping := by
  cases noted with
  | spared => rfl
  | crashed read runs offered => cases offered <;> rfl

/-- Closing the request to cancel an execution that has ended runs in parallel. -/
theorem releaseIfFinal_alike {id : String} (guards : Guards engine own id outer inner)
    {left right : World} (related : inner left right) (idle : left.stepping = none) :
    Alike outer (releaseIfFinal id left) (releaseIfFinal id right) := by
  unfold releaseIfFinal
  rw [bind_of_ok (attempt_read id left), bind_of_ok (attempt_read id right),
    guards.reads left right related]
  cases found : left.store.get id with
  | error failure =>
    exact .ok (guards.stays left right related idle fun _ had => nomatch found.symm.trans had)
  | ok record =>
    by_cases final : record.status.isFinal
    · simp only [if_pos final]
      exact .ok (guards.ends left right record related idle found final)
    · simp only [if_neg final]
      refine .ok (guards.stays left right related idle fun other had => ?_)
      cases found.symm.trans had
      simpa using final

/-- Guarded work on an execution runs in parallel if the work does. -/
theorem guarded_parallel {execution : Execution String}
    (guards : Guards engine own execution.id outer inner) (owned : own execution.origin)
    {work : Run Status} (parallel : Parallel (Session.Alike own inner) work) :
    Parallel outer (guarded engine execution work) := by
  intro left right related
  have worked := parallel ⟨execution, opened execution.id left⟩
    ⟨execution, opened execution.id right⟩ ⟨rfl, owned, guards.opens left right related⟩
  rw [guarded_apply, guarded_apply]
  generalize work ⟨execution, opened execution.id left⟩ = one,
    work ⟨execution, opened execution.id right⟩ = other at worked
  cases worked with
  | ok alike => exact releaseIfFinal_alike guards (guards.rests _ _ alike.world) rfl
  | @error failure session otherSession alike =>
    have noted := failStored_parallel guards failure _ _ (guards.rests _ _ alike.world)
    obtain ⟨last, recorded, noting⟩ := failStored_noted engine execution.id failure
      { session.world with stepping := none }
    obtain ⟨otherLast, otherRecorded, -⟩ := failStored_noted engine execution.id failure
      { otherSession.world with stepping := none }
    rw [recorded, otherRecorded] at noted
    dsimp only
    rw [bind_of_ok recorded, bind_of_ok otherRecorded]
    cases noted with
    | ok related => exact releaseIfFinal_alike guards related noting.stepping

/-- What every call of the desk about some executions relies on. The relations go by the subjects
and the executions that are held. -/
structure Footing (mine : String → Prop)
    (rel : Locks String → Locks String → World → World → Prop) : Prop where
  /-- The time is the same. -/
  clock : ∀ {subjects executions left right}, rel subjects executions left right →
    right.clock = left.clock
  /-- A hold of a subject is taken. -/
  enters : ∀ {subjects executions left right} (subject : String),
    rel subjects executions left right → rel (subjects.enter subject) executions
      { left with subjects := left.subjects.enter subject }
      { right with subjects := right.subjects.enter subject }
  /-- A hold of a subject that was taken is given back. -/
  leaves : ∀ {subjects executions first second left right} (subject : String),
    rel subjects executions first second →
    rel (subjects.enter subject) executions left right → rel subjects executions
      { left with subjects := left.subjects.leave subject }
      { right with subjects := right.subjects.leave subject }
  /-- A hold of an execution is taken. -/
  holds : ∀ {subjects executions left right} (id : String),
    rel subjects executions left right → rel subjects (executions.enter id)
      { left with executions := left.executions.enter id }
      { right with executions := right.executions.enter id }
  /-- A hold of an execution that was taken is given back. -/
  frees : ∀ {subjects executions first second left right} (id : String),
    rel subjects executions first second →
    rel subjects (executions.enter id) left right → rel subjects executions
      { left with executions := left.executions.leave id }
      { right with executions := right.executions.leave id }
  /-- The same is stored of the executions. -/
  reads : ∀ {subjects executions left right id}, mine id → rel subjects executions left right →
    right.store.get id = left.store.get id

/-- An execution is cancelled in parallel if requests to cancel it may be made and closed, and it is
saved in parallel. -/
theorem cancel_parallel {mine : String → Prop}
    {rel : Locks String → Locks String → World → World → Prop} (footing : Footing mine rel)
    {id : String} (own : mine id)
    (raises : ∀ {subjects executions left right}, rel subjects executions left right →
      rel subjects executions (left.raiseSignal id) (right.raiseSignal id))
    (drops : ∀ {subjects executions left right}, rel subjects executions left right →
      rel subjects executions (left.dropSignal id) (right.dropSignal id))
    (ends : ∀ {subjects executions left right record}, rel subjects executions left right →
      left.store.get id = .ok record → record.status.isFinal = false →
      Alike (rel subjects executions) (save engine (record.ended .cancelled left.clock) left)
        (save engine (record.ended .cancelled left.clock) right))
    (subjects executions : Locks String) :
    Parallel (rel subjects executions) (cancel engine id) := by
  intro left right related
  rw [cancel_apply, cancel_apply, footing.reads own related]
  cases found : left.store.get id with
  | error failure => exact .error related
  | ok record =>
    by_cases final : record.status.isFinal
    · simp only [if_pos final]
      exact .ok related
    simp only [if_neg final, footing.clock related]
    have ended : Alike (rel subjects (executions.enter id))
        (save engine (record.ended .cancelled left.clock) { left.raiseSignal id with
          executions := (left.raiseSignal id).executions.enter id })
        (save engine (record.ended .cancelled left.clock) { right.raiseSignal id with
          executions := (right.raiseSignal id).executions.enter id }) :=
      ends (footing.holds id (raises related)) found (by simpa using final)
    -- Only how the two saves end matters from here.
    revert ended
    generalize save engine (record.ended .cancelled left.clock) { left.raiseSignal id with
      executions := (left.raiseSignal id).executions.enter id } = one
    generalize save engine (record.ended .cancelled left.clock) { right.raiseSignal id with
      executions := (right.raiseSignal id).executions.enter id } = other
    rintro (@⟨_, left, right, alike⟩ | @⟨failure, left, right, alike⟩)
    · exact .ok (footing.frees id related (drops alike))
    · exact .error (footing.frees id related alike)

/-- What is asked of worlds that are related for calls of the desk about some executions to run in
parallel. -/
structure Ties (engine : Engine) (mine : String → Prop)
    (rel : Locks String → Locks String → World → World → Prop) : Prop
    extends Footing mine rel where
  /-- What is stored of them is of the same flows. -/
  flows : ∀ {subjects executions left right id record}, mine id →
    rel subjects executions left right → left.store.get id = .ok record →
    right.flows.get record.flow record.version = left.flows.get record.flow record.version
  /-- A reply is kept for them. -/
  keeps : ∀ {subjects executions left right id record} (reply : Value), mine id →
    rel subjects executions left right → left.store.get id = .ok record →
    record.status = .waiting →
    let kept := { record with vars := record.vars.set Handler.lastMessage reply }
    Alike (rel subjects executions) (save engine { kept with updatedAt := left.clock } left)
      (save engine { kept with updatedAt := right.clock } right)
  /-- Their waits are taken up. -/
  rouses : ∀ {subjects executions left right id record graph} (vars : Variables)
    (label reason : String) (reply : Value), mine id → rel subjects executions left right →
    left.store.get id = .ok record → record.status = .waiting →
    left.flows.get record.flow record.version = .ok graph →
    Alike (rel subjects executions)
      (guarded engine { record with vars }
        (Tick.resume engine graph (.text label) (.text reason) reply true) left)
      (guarded engine { record with vars }
        (Tick.resume engine graph (.text label) (.text reason) reply true) right)

section Ties

variable {mine : String → Prop} {rel : Locks String → Locks String → World → World → Prop}
  (ties : Ties engine mine rel) {subjects executions : Locks String} {left right : World}
include ties

/-- A reply is delivered in the same way if the same execution waits for it. -/
theorem deliver_alike {subject : String} (related : rel subjects executions left right)
    (found : right.store.findWaiting subject = left.store.findWaiting subject)
    (own : ∀ waiting, left.store.findWaiting subject = .ok (some waiting) → mine waiting.id)
    (reply : Value) :
    Alike (rel subjects executions) (deliver engine subject reply left)
      (deliver engine subject reply right) := by
  refine .get ?_
  rw [found]
  refine ofExcept_alike related fun found had => ?_
  cases found with
  | none => exact .error related
  | some waiting =>
    have own := own waiting had
    -- Under the hold the execution is read again, and what is read then decides.
    refine holdingExecution_alike (ties.holds waiting.id related)
      (fun _ _ => ties.frees waiting.id related) fun left right _ _ related => ?_
    refine read_alike (ties.reads own related) related fun record read => ?_
    dsimp only
    split
    · exact .error related
    rename_i waits
    have waits : record.status = .waiting := by simpa using waits
    refine .get ?_
    rw [ties.flows own related read]
    refine ofExcept_alike related fun graph had => ?_
    cases record.node.bind graph.node? with
    | none => exact .error related
    | some node =>
      refine ofExcept_alike related fun route _ => ?_
      cases route with
      | hold => exact .get (ties.keeps reply own related read waits).thenPure
      | resume label reason =>
        exact (ties.rouses _ label reason reply own related read waits had).thenPure

/-- A reply is routed in the same way if the same execution waits for it. -/
theorem inbound_alike (subjects executions : Locks String) {subject : Value}
    (related : rel subjects executions left right)
    (found : right.store.findWaiting (Subject.ofValue subject) =
      left.store.findWaiting (Subject.ofValue subject))
    (own : ∀ waiting, left.store.findWaiting (Subject.ofValue subject) = .ok (some waiting) →
      mine waiting.id) (reply : Value) :
    Alike (rel subjects executions) (inbound engine subject reply left)
      (inbound engine subject reply right) := by
  refine holdingSubject_alike (ties.enters _ related) (fun _ _ => ties.leaves _ related)
    fun held other beside besides related => ?_
  have delivered : Alike (rel (subjects.enter (Subject.ofValue subject)) executions)
      (deliver engine (Subject.ofValue subject) reply held)
      (deliver engine (Subject.ofValue subject) reply other) := by
    rw [← beside.store, ← besides.store] at found
    rw [← beside.store] at own
    exact deliver_alike ties related found own reply
  refine (attempt_alike delivered).bind fun outcome => ?_
  cases outcome <;> exact parallel_pure _

/-- The wait of an execution is ended in parallel. -/
theorem expireOne_parallel {id : String} (own : mine id) (now : Time.Moment) :
    Parallel (rel subjects executions) (expireOne engine id now) := by
  intro left right related
  refine holdingExecution_alike (ties.holds id related) (fun _ _ => ties.frees id related)
    fun left right _ _ related => ?_
  refine read_alike (ties.reads own related) related fun record read => ?_
  -- Both sides match on the same record, so one split serves for both.
  change (fun rest : Desk Bool => Alike _ (rest left) (rest right)) _
  split
  · rename_i deadline waits _
    refine ofExcept_alike related fun passed _ => ?_
    cases passed with
    | false => exact .ok related
    | true =>
      refine .get ?_
      rw [ties.flows own related read]
      refine ofExcept_alike related fun graph had => ?_
      exact (ties.rouses _ Flow.no "timeout" .null own related read waits had).thenPure
  · exact .ok related

/-- Waits that are over are ended in parallel, one after another. -/
theorem expireEach_parallel (now : Time.Moment) {ids : List String} (own : ∀ id ∈ ids, mine id) :
    Parallel (rel subjects executions) (expireEach engine now ids) := by
  induction ids with
  | nil => exact parallel_pure _
  | cons id rest ih =>
    obtain ⟨first, others⟩ := List.forall_mem_cons.mp own
    refine parallel_bind (attempt_parallel (expireOne_parallel ties first now)) fun resumed => ?_
    refine parallel_bind (ih others) fun _ => ?_
    split <;> exact parallel_pure _

/-- All waits that are over are ended in parallel if the same are over. -/
theorem expire_parallel (subjects executions : Locks String) (own : ∀ id, mine id)
    {now : Time.Moment}
    (due : ∀ {left right}, rel subjects executions left right →
      right.store.listDue now = left.store.listDue now) :
    Parallel (rel subjects executions) (expire engine now) := by
  refine parallel_get fun left right related => ?_
  rw [due related]
  exact ofExcept_alike related fun ids _ =>
    expireEach_parallel ties now (fun id _ => own id) left right related

end Ties

section Births

variable {mine : String → Prop} {rel : Locks String → Locks String → World → World → Prop}
  {subjects executions : Locks String} {left right : World}

/-- What is asked of worlds over one store for executions to be made for some subjects in
parallel. -/
structure Births (engine : Engine) (theirs : String → Prop)
    (rel : Locks String → Locks String → World → World → Prop) : Prop where
  /-- The store is the same. -/
  store : ∀ {subjects executions left right}, rel subjects executions left right →
    right.store = left.store
  /-- The flows are the same. -/
  flows : ∀ {subjects executions left right}, rel subjects executions left right →
    right.flows = left.flows
  /-- As many executions were made. -/
  created : ∀ {subjects executions left right}, rel subjects executions left right →
    right.created = left.created
  /-- One more is made. -/
  counts : ∀ {subjects executions left right}, rel subjects executions left right →
    rel subjects executions { left with created := left.created + 1 }
      { right with created := right.created + 1 }
  /-- A record is created for it, and it is worked on. -/
  begins : ∀ {subjects executions left right flow graph version key vars id store},
    theirs key → rel subjects executions left right →
    left.flows.latest flow = .ok (graph, version) →
    left.store.create (.new id graph.id version key vars left.clock) = .ok store →
    Alike (rel subjects executions)
      (holdingExecution id (guarded engine (.new id graph.id version key vars left.clock)
        (Tick.start engine graph true)) { left with store })
      (holdingExecution id (guarded engine (.new id graph.id version key vars left.clock)
        (Tick.start engine graph true)) { right with store })

variable {theirs : String → Prop}

/-- An execution is put into the store and worked on in parallel. -/
theorem birth_alike (births : Births engine theirs rel)
    (related : rel subjects executions left right)
    {flow : String} {graph : Flow.Graph} {version : Nat}
    (newest : left.flows.latest flow = .ok (graph, version)) (id : String) {key : String}
    (own : theirs key) (vars : Variables) :
    let execution := Execution.new id graph.id version key vars left.clock
    let birth : Desk String := do
      let store ← ofExcept ((← get).store.create execution)
      modify fun world => { world with store }
      holdingExecution id (guarded engine execution (Tick.start engine graph true))
      return id
    Alike (rel subjects executions) (birth left) (birth right) := by
  refine .get ?_
  rw [births.store related]
  refine ofExcept_alike related fun store made => ?_
  rw [bind_of_ok (modify_apply _ left), bind_of_ok (modify_apply _ right)]
  exact (births.begins own related newest made).thenPure

/-- An execution is started in parallel. -/
theorem start_parallel (footing : Footing mine rel) (births : Births engine theirs rel)
    (subjects executions : Locks String) (flow : String) (subject vars : Value)
    (own : theirs (Subject.ofValue subject)) :
    Parallel (rel subjects executions) (start engine flow subject vars) := by
  refine parallel_get fun left right related => ?_
  rw [births.flows related]
  refine ofExcept_alike related ?_
  rintro ⟨graph, version⟩ newest
  refine holdingSubject_alike (footing.enters _ related) (fun _ _ => footing.leaves _ related)
    fun held other beside _ related => .get ?_
  rw [births.store related]
  refine ofExcept_alike related fun waiting _ => ?_
  cases waiting with
  | some active => exact .error related
  | none =>
    refine .get ?_
    rw [footing.clock related]
    have numbered (world : World) : nextId world =
        .ok ("ex" ++ Text.padZeros 4 (toString (world.created + 1)))
          { world with created := world.created + 1 } := rfl
    -- Ids go by the count of executions, so both worlds make the same one.
    rw [bind_of_ok (numbered held), bind_of_ok (numbered other), births.created related]
    have counted := births.counts related
    rw [births.created related] at counted
    refine ofExcept_alike counted fun vars _ => ?_
    rw [← beside.flows] at newest
    exact birth_alike births counted newest _ own vars

end Births

end Desk

end Parley
