import Mathlib.Data.List.Permutation
import Parley.Command.Conversation
import Parley.Proofs.Lasting
import Parley.Proofs.Listings
import Parley.Proofs.Sendings

/-!
# Bystanders of a conversation

A conversation that is tried out may be kept in a store with executions of other subjects. The word
that lets the wait time out is not for the execution of the conversation alone: it ends every wait
whose deadline is no later, as long as its flow is registered. All other executions are left as they
are, and nothing is sent for them.
-/

namespace Parley

open Parley.Computation World Time

namespace Desk

variable (engine : Engine)

/-- What is left after an execution was held is what was left meanwhile, if the holds do not
matter. -/
theorem holdingExecution_leaves {α : Type} {id : String} {action : Desk α} {world : World}
    (leaves : World → Prop)
    (frees : ∀ left locks, leaves left → leaves { left with executions := locks })
    (body : leaves (after action { world with executions := world.executions.enter id })) :
    leaves (after (holdingExecution id action) world) := by
  rw [after_holdingExecution]
  exact frees _ _ body

/-- Ending a wait calls the sender for its execution only. -/
theorem expireOne_sends (id : String) (now : Moment) (world : World) :
    ∃ more, (after (expireOne engine id now) world).sends = world.sends ++ more ∧
      ∀ sending ∈ more, sending.execution = id := by
  let calls (left : World) : Prop :=
    ∃ more, left.sends = world.sends ++ more ∧ ∀ sending ∈ more, sending.execution = id
  refine holdingExecution_leaves calls (fun _ _ held => held) ?_
  let held := { world with executions := world.executions.enter id }
  have idle : calls held := ⟨[], (List.append_nil _).symm, nofun⟩
  refine read_leaves idle fun record read => ?_
  split
  · refine ofExcept_leaves idle fun passed _ => ?_
    cases passed with
    | false => exact idle
    | true =>
      simp only [if_true]
      rw [after_bind_of_ok (get_apply held)]
      refine ofExcept_leaves idle fun graph _ => ?_
      rw [after_thenPure]
      obtain ⟨-, -, more, -, grew, mine, -⟩ := Tick.resume_accounts engine graph (.text Flow.no)
        (.text "timeout") .null true ⟨{ record with
          vars := record.vars.set Handler.timeoutTriggered (.bool true) }, opened record.id held⟩
      refine ⟨more, ?_, fun sending sent => (mine sending sent).1.trans (Store.mem_of_get read).2⟩
      rw [guarded_sends, leftBy_apply]
      exact grew
  · exact idle

/-- The wait of a record whose flow is not registered is not ended. -/
theorem expireOne_unknown {record : Execution String} {world : World}
    (found : world.store.get record.id = .ok record) (unknown : ¬world.flows.Knows record)
    (now : Moment) :
    Beside world (after (expireOne engine record.id now) world) ∧
      (after (expireOne engine record.id now) world).sends = world.sends := by
  let rests (left : World) : Prop := Beside world left ∧ left.sends = world.sends
  refine holdingExecution_leaves rests (fun _ _ held =>
    ⟨⟨held.1.clock, held.1.store, held.1.flows, held.1.saves⟩, held.2⟩) ?_
  let held := { world with executions := world.executions.enter record.id }
  have idle : rests held := ⟨⟨rfl, rfl, rfl, rfl⟩, rfl⟩
  refine read_leaves idle fun other read => ?_
  obtain rfl : record = other := Except.ok.inj (found.symm.trans read)
  split
  · refine ofExcept_leaves idle fun passed _ => ?_
    cases passed with
    | false => exact idle
    | true =>
      simp only [if_true]
      rw [after_bind_of_ok (get_apply held)]
      exact ofExcept_leaves idle fun graph had => absurd ⟨graph, had⟩ unknown
  · exact idle

/-- Waits are ended one after another. -/
theorem after_expireEach (now : Moment) (ids : List String) (world : World) :
    after (expireEach engine now ids) world =
      ids.foldl (fun world id => after (expireOne engine id now) world) world := by
  obtain ⟨_, done⟩ := expireEach_apply engine now ids world
  exact after_of_ok done

end Desk

namespace World

/-- Since a base a record is as it was, and nothing was sent for it. -/
structure Untouched (base : World) (record : Execution String) (world : World) : Prop where
  /-- The rest of the world is as it may be. -/
  grown : Grown base world
  /-- The record is stored as it was. -/
  stands : record ∈ world.store.records
  /-- The sender was called for others only. -/
  silent : ∃ more, world.sends = base.sends ++ more ∧
    ∀ sending ∈ more, sending.execution ≠ record.id

namespace Untouched

variable {engine : Engine} {base world : World} {record : Execution String}

/-- Nothing has happened to the executions yet. -/
theorem begun (member : record ∈ base.store.records) (same : Beside base world)
    (quiet : world.sends = base.sends) : Untouched base record world := by
  refine ⟨(Grown.refl base).beside same, ?_, [], ?_, nofun⟩
  · rw [same.store]
    exact member
  · rw [quiet, List.append_nil]

variable (stored : engine.keeping = .stored) (aloof : engine.capabilities.Aloof)
  (distinct : base.store.Distinct)
include stored aloof distinct

/-- A record is not touched in the turn of another execution, nor in its own if its flow is not
registered. -/
theorem turned (untouched : Untouched base record world) {id : String}
    (spares : id = record.id → ¬base.flows.Knows record) (now : Moment) :
    Untouched base record (after (Desk.expireOne engine id now) world) := by
  obtain ⟨grown, stands, more, sends, others⟩ := untouched
  by_cases own : id = record.id
  · have unknown : ¬world.flows.Knows record := by
      rw [grown.flows]
      exact spares own
    subst own
    obtain ⟨same, quiet⟩ := Desk.expireOne_unknown engine ((grown.distinct distinct).get stands)
      unknown now
    refine ⟨grown.beside same, ?_, more, quiet.trans sends, others⟩
    rw [same.store]
    exact stands
  · obtain ⟨onward, spared⟩ := (Spared.withstands distinct engine record).attended stored own
      (Desk.expireOne_attended engine id now world) ⟨grown, .inl stands⟩
    obtain ⟨later, grew, mine⟩ := Desk.expireOne_sends engine id now world
    refine ⟨onward, spared.resolve_right fun dismissed => dismissed.meddling aloof, more ++ later,
      by rw [grew, sends, List.append_assoc], List.forall_mem_append.mpr ⟨others, ?_⟩⟩
    exact fun sending sent same => own ((mine sending sent).symm.trans same)

/-- A record is not touched in a pass in which its turn does not come or its flow is not
registered. -/
theorem passed (untouched : Untouched base record world) {ids : List String}
    (spares : record.id ∈ ids → ¬base.flows.Knows record) (now : Moment) :
    Untouched base record (after (Desk.expireEach engine now ids) world) := by
  rw [Desk.after_expireEach]
  induction ids generalizing world with
  | nil => exact untouched
  | cons id rest ih =>
    have turned := untouched.turned stored aloof distinct
      (fun own => spares (own ▸ List.mem_cons_self)) now
    exact ih turned fun member => spares (List.mem_cons_of_mem id member)

end Untouched

end World

/-- In a pass in which its turn comes once, the wait of a record that is due is ended, if its flow
is registered. -/
theorem Desk.expireEach_rouses {engine : Engine} (stored : engine.keeping = .stored)
    (aloof : engine.capabilities.Aloof) {base world : World} {record : Execution String}
    {now : Moment} (distinct : base.store.Distinct) (member : record ∈ base.store.records)
    (due : record.isDue now = true) (comparable : record.Comparable now)
    (known : base.flows.Knows record) (untouched : Untouched base record world)
    {ids : List String} (once : ids.Nodup) (listed : record.id ∈ ids) :
    ∃ graph taken, Resumed base record (record.timedOut graph base.clock) taken
      (after (expireEach engine now ids) world) := by
  obtain ⟨early, late, rfl⟩ := List.append_of_mem listed
  rw [List.nodup_middle, List.nodup_cons, List.mem_append, not_or] at once
  rw [after_expireEach, List.foldl_append, List.foldl_cons, ← after_expireEach,
    ← after_expireEach]
  have waiting := untouched.passed stored aloof distinct
    (fun listed => absurd listed once.1.1) now
  obtain ⟨turned, graph, taken, ended, resumed⟩ := expireOne_due stored distinct member due
    comparable known waiting.grown waiting.stands
  rw [after_of_ok ended]
  exact ⟨graph, taken, expireEach_withstood stored
    (Resumed.withstands distinct engine record _ taken) once.1.2 now resumed⟩

/-- What a pass leaves in which the waits of all executions are ended that are due at a moment and
whose flows are registered. -/
structure World.Swept (base : World) (now : Moment) (left : World) : Prop where
  /-- The waits that are due were ended, each with the store asked to take that. -/
  ended : ∀ record ∈ base.store.records, record.isDue now = true → base.flows.Knows record →
    ∃ graph taken, Resumed base record (record.timedOut graph base.clock) taken left
  /-- All other records are untouched. -/
  spared : ∀ record ∈ base.store.records,
    ¬(record.isDue now = true ∧ base.flows.Knows record) → Untouched base record left

/-- Ending all waits that are due sweeps the store, if no outside part asks for anything to be
cancelled and the store can tell what is due. -/
theorem Desk.expire_sweeps {engine : Engine} (stored : engine.keeping = .stored)
    (aloof : engine.capabilities.Aloof) {base world : World} {now : Moment}
    (regular : base.store.Regular) (compares : base.store.Compares now) (same : Beside base world)
    (quiet : world.sends = base.sends) :
    ∃ expired left, expire engine now world = .ok expired left ∧ base.Swept now left := by
  obtain ⟨ids, listed, perm⟩ := compares.lists regular.universal
  have within := Store.mem_due perm
  have once := regular.distinct.listDue listed
  obtain ⟨expired, done⟩ := expireEach_apply engine now ids world
  rw [← after_expireEach] at done
  rw [← same.store] at listed
  refine ⟨expired, _, expire_apply engine listed done, fun record member due known => ?_,
    fun record member spares => ?_⟩
  · exact expireEach_rouses stored aloof regular.distinct member due
      (compares.comparable record member) known (.begun member same quiet) once
      ((within record.id).mpr ⟨record, member, rfl, due⟩)
  · refine Untouched.passed stored aloof regular.distinct (.begun member same quiet)
      (fun listed known => ?_) now
    obtain ⟨other, otherMember, named, due⟩ := (within record.id).mp listed
    obtain rfl := regular.distinct.unique otherMember member named
    exact spares ⟨due, known⟩

/-- An attempt ends well and leaves what the action leaves. -/
theorem Desk.attempt_apply {α : Type} (action : Desk α) (world : World) :
    ∃ outcome, attempt action world = .ok outcome (after action world) := by
  unfold attempt after
  cases action world <;> exact ⟨_, rfl⟩

/-- If the waits that are over cannot be listed, none is ended. -/
theorem Desk.expire_refuses (engine : Engine) {now : Moment} {world : World} {failure : Failure}
    (listed : world.store.listDue now = .error failure) :
    expire engine now world = .error failure world := by
  have given : ofExcept (world.store.listDue now) world = .error failure world := by
    rw [listed]
    rfl
  exact (bind_of_ok (get_apply world)).trans (bind_of_error given)

namespace Store

variable {store left : Store String} {execution : Execution String}

/-- One more request comes after all others. -/
theorem performAll_concat (store : Store String) (requests : List Request) (request : Request) :
    store.performAll (requests ++ [request]) = ((store.performAll requests).perform request).2 := by
  induction requests generalizing store with
  | nil => rfl
  | cons first rest ih => exact ih _

/-- A store that was new and gets one more request was new and then got requests. -/
theorem Filled.performed (filled : store.Filled) (request : Request) :
    (store.perform request).2.Filled := by
  obtain ⟨base, unused, requests, rfl⟩ := filled
  exact ⟨base, unused, requests ++ [request], (performAll_concat base requests request).symm⟩

/-- A store is filled by saving. -/
theorem Filled.save (filled : store.Filled) (saved : store.save execution = .ok left) :
    left.Filled := by
  have performed := filled.performed (.save execution)
  rwa [perform, saved] at performed

/-- A store is filled by creating. -/
theorem Filled.create (filled : store.Filled) (created : store.create execution = .ok left) :
    left.Filled := by
  have performed := filled.performed (.create execution)
  rwa [perform, created] at performed

/-- A store is filled by what the desk does. -/
theorem Filled.served {engine : Engine} {world left : World} (filled : world.store.Filled)
    (serves : Serves engine world left) : left.store.Filled :=
  @Moves.keep _ (fun scene => scene.world.store.Filled)
    (fun _ _ move held => move.keeps Filled.save Filled.create held) _ _ (Still.moves serves) filled

/-- A store of tables can tell what is due at the deadline of one of its records. -/
theorem Regular.compares_own (regular : store.Regular) (tables : store.inTables = true)
    (member : execution ∈ store.records) {deadline : Moment}
    (until? : execution.deadline = some deadline) : store.Compares deadline := by
  have utc := regular.universal tables
  refine ⟨fun record listed _ moment otherUntil => ?_, fun _ => ?_⟩
  · exact (utc record listed moment otherUntil).zoned.comparable
      (utc execution member deadline until?).zoned
  · rw [(utc execution member deadline until?).toUtc]
    rfl

/-- A store in memory that cannot tell what is due does not answer. -/
theorem listDue_fails (memory : store.inTables = false) {now : Moment}
    (apart : ¬store.Compares now) : ∃ failure, store.listDue now = .error failure := by
  cases store with
  | table store => cases memory
  | memory store =>
    cases listed : store.listDue now with
    | error failure => exact ⟨failure, listed⟩
    | ok ids =>
      refine absurd ⟨fun record member => ?_, fun tables => nomatch tables⟩ apart
      obtain ⟨kept, stands, rfl⟩ := List.mem_map.mp member
      exact Memory.listDue_spec.1 ids listed kept stands

end Store

namespace Command

/-- A console without files on which nothing was printed. -/
def Console.blank : Console := ⟨⟨[], []⟩, 0, ""⟩

/-- Printing lines one after another changes the output alone. -/
theorem print_each (lines : List String) (console : Console) :
    ∃ output, (forIn lines PUnit.unit fun line _ => do
        print line
        return .yield PUnit.unit : Action PUnit) console =
      .ok ⟨⟩ { console with output } := by
  induction lines generalizing console with
  | nil => exact ⟨console.output, rfl⟩
  | cons line rest ih =>
    let next := { console with output := console.output ++ printed line }
    have first : (do print line; return .yield PUnit.unit : Action (ForInStep PUnit)) console =
        .ok (.yield ⟨⟩) next := rfl
    obtain ⟨output, done⟩ := ih next
    refine ⟨output, ?_⟩
    rw [List.forIn_cons, bind_of_ok first]
    exact done

namespace Chat

/-- The disk with a store of tables put at a path. -/
def filed (path : Option String) (store : Store String) (disk : Disk) : Disk :=
  match path, store with
  | some path, .table table => disk.put path (.tables table)
  | _, _ => disk

/-- A store of tables that is put at a path is what stands there. -/
theorem filed_table (path : String) (table : Store.Table String) (disk : Disk) :
    (filed (some path) (.table table) disk).file? path = some (.tables table) :=
  List.lookup_cons_self

/-- A store in memory is put nowhere. -/
theorem filed_memory (path : Option String) {store : Store String}
    (memory : store.inTables = false) (disk : Disk) : filed path store disk = disk := by
  cases store with
  | table => cases memory
  | memory => cases path <;> rfl

variable {α : Type} {chat : Chat} {work : Desk α}

/-- Work at the desk of a conversation leaves its world and its file. -/
theorem atDesk_apply {outcome : Except Failure α} {left : World}
    (tried : Desk.attempt work { chat.world with journal := [] } = .ok outcome left)
    (console : Console) :
    ∃ output, chat.atDesk work console = .ok (outcome, { chat with world := left })
      { output, created := left.created, disk := filed chat.path left.store console.disk } := by
  obtain ⟨output, printed⟩ := print_each (spoken left.journal) console
  refine ⟨output, ?_⟩
  unfold Desk.attempt at tried
  unfold atDesk
  cases done : work { chat.world with journal := [] } <;>
  · rw [done] at tried
    cases tried
    dsimp only
    rw [bind_of_ok printed]
    cases chat.path with
    | none => rfl
    | some path => cases left.store <;> rfl

/-- Work at the desk of a conversation where nothing may fail leaves its world and its file. -/
theorem settle_of_ok {value : α} {left : World}
    (done : work { chat.world with journal := [] } = .ok value left) (console : Console) :
    ∃ output, chat.settle work console = .ok { chat with world := left }
      { output, created := left.created, disk := filed chat.path left.store console.disk } := by
  have tried : Desk.attempt work { chat.world with journal := [] } = .ok (.ok value) left := by
    rw [Desk.attempt, done]
  obtain ⟨output, worked⟩ := atDesk_apply tried console
  exact ⟨output, by rw [settle, bind_of_ok worked]; rfl⟩

/-- Work at the desk of a conversation where nothing may fail crashes if it does, and leaves the
file of what the world was left. -/
theorem settle_of_error {failure : Failure} {left : World}
    (done : work { chat.world with journal := [] } = .error failure left) (console : Console) :
    ∃ output, chat.settle work console = .error (.crashed failure)
      { output, created := left.created, disk := filed chat.path left.store console.disk } := by
  have tried : Desk.attempt work { chat.world with journal := [] } = .ok (.error failure) left := by
    rw [Desk.attempt, done]
  obtain ⟨output, worked⟩ := atDesk_apply tried console
  exact ⟨output, by rw [settle, bind_of_ok worked]; rfl⟩

/-- What work at the desk of a conversation leaves. -/
theorem atDesk_ended {outcome : Except Failure α} {next : Chat} {console left : Console}
    (done : chat.atDesk work console = .ok (outcome, next) left) :
    next = { chat with world := after work { chat.world with journal := [] } } := by
  obtain ⟨outcome, tried⟩ := Desk.attempt_apply work { chat.world with journal := [] }
  obtain ⟨output, worked⟩ := atDesk_apply tried console
  rw [done] at worked
  cases worked
  rfl

/-- What work at the desk of a conversation leaves where nothing may fail. -/
theorem settle_ended {next : Chat} {console left : Console}
    (done : chat.settle work console = .ok next left) :
    next = { chat with world := after work { chat.world with journal := [] } } := by
  obtain ⟨⟨outcome, given⟩, middle, worked, later⟩ := bind_ended done
  obtain ⟨_, _, -, kept⟩ := bind_ended later
  cases kept
  exact atDesk_ended worked

/-- The word that lets the wait of an execution time out lets all waits time out that are over by
its deadline. -/
theorem obey_timeout {execution : Execution String} {deadline : Moment}
    (until? : execution.deadline = some deadline) (subject : String) :
    chat.obey subject execution "/timeout" =
      (do return some (← chat.settle (Desk.expire chat.engine deadline))) := by
  rw [obey, if_neg (by decide), if_neg (by decide), if_pos rfl, until?]

/-- An obeyed line leaves the world as it is, or serves as the desk does. -/
theorem obey_serves (stored : chat.engine.keeping = .stored) {subject line : String}
    {execution : Execution String} {next : Chat} {console left : Console}
    (done : chat.obey subject execution line console = .ok (some next) left) :
    next.engine = chat.engine ∧ (next.world = chat.world ∨
      Serves chat.engine { chat.world with journal := [] } next.world) := by
  have served {α : Type} {work : Desk α} (serves : Along (Serves chat.engine) work)
      (done : (do return some (← chat.settle work) : Action (Option Chat)) console =
        .ok (some next) left) :
      next.engine = chat.engine ∧ (next.world = chat.world ∨
        Serves chat.engine { chat.world with journal := [] } next.world) := by
    obtain ⟨given, middle, worked, kept⟩ := bind_ended done
    cases kept
    rw [settle_ended worked]
    exact ⟨rfl, .inr (serves _)⟩
  have same (changes : Action Unit)
      (done : (do changes; return some chat : Action (Option Chat)) console =
        .ok (some next) left) :
      next.engine = chat.engine ∧ (next.world = chat.world ∨
        Serves chat.engine { chat.world with journal := [] } next.world) := by
    obtain ⟨_, _, -, kept⟩ := bind_ended done
    cases kept
    exact ⟨rfl, .inl rfl⟩
  unfold obey at done
  split at done
  · cases done
  split at done
  · exact served (Desk.cancel_serves execution.id) done
  split at done
  · cases until? : execution.deadline with
    | none =>
      rw [until?] at done
      exact same _ done
    | some deadline =>
      rw [until?] at done
      exact served (Desk.expire_serves stored deadline) done
  split at done
  · exact same _ done
  · exact served (Desk.inbound_serves stored _ _) done

/-- A conversation that was opened over a store, and what becomes of it when executions are started
and lines are obeyed. -/
inductive Held (settings : Settings) (knowledge : Option Knowledge)
    (generate : Option (Nat → String → Value → Generation)) (store : Store String) :
    Chat → Prop where
  /-- It is opened. -/
  | opened {path : Option String} {world : World} (kept : world.store = store) :
    Held settings knowledge generate store ⟨Command.engine settings knowledge generate, path, world⟩
  /-- An execution is started. -/
  | started {chat next : Chat} {flow : String} {subject vars : Value}
    {outcome : Except Failure String} {console left : Console}
    (held : Held settings knowledge generate store chat)
    (done : chat.atDesk (Desk.start chat.engine flow subject vars) console =
      .ok (outcome, next) left) : Held settings knowledge generate store next
  /-- A line is obeyed. -/
  | obeyed {chat next : Chat} {subject line : String} {execution : Execution String}
    {console left : Console} (held : Held settings knowledge generate store chat)
    (done : chat.obey subject execution line console = .ok (some next) left) :
    Held settings knowledge generate store next

namespace Held

variable {settings : Settings} {knowledge : Option Knowledge}
  {generate : Option (Nat → String → Value → Generation)} {store : Store String} {chat : Chat}

/-- A conversation has the engine with which it was opened. -/
theorem engine_eq (held : Held settings knowledge generate store chat) :
    chat.engine = Command.engine settings knowledge generate := by
  induction held with
  | opened => rfl
  | started _ done ih => rw [atDesk_ended done, ih]
  | obeyed _ done ih =>
    rw [(obey_serves (by rw [ih]; rfl) done).1, ih]

/-- The store of a conversation is filled if that is over which it was opened. -/
theorem filled (filled : store.Filled) (held : Held settings knowledge generate store chat) :
    chat.world.store.Filled := by
  induction held with
  | opened kept => exact kept ▸ filled
  | @started chat _ flow subject vars _ _ _ held done ih =>
    have stored : chat.engine.keeping = .stored := by rw [held.engine_eq]; rfl
    have begun : { chat.world with journal := [] }.store.Filled := ih
    rw [atDesk_ended done]
    exact begun.served (Desk.start_serves stored flow subject vars _)
  | @obeyed chat _ _ _ _ _ _ held done ih =>
    have stored : chat.engine.keeping = .stored := by rw [held.engine_eq]; rfl
    have begun : { chat.world with journal := [] }.store.Filled := ih
    rcases (obey_serves stored done).2 with same | serves
    · rw [same]
      exact ih
    · exact begun.served serves

/-- In a conversation over a store that was new and then got requests, the word that lets the wait
of its execution time out ends the waits of all executions that are due by then and whose flows are
registered. All other records stay as they are, and nothing is sent for them. If the deadlines in
memory cannot be compared, the command crashes instead and nothing happens. -/
theorem timeout_sweeps (filled : store.Filled)
    (held : Held settings knowledge generate store chat) {execution : Execution String}
    (stands : chat.world.store.get execution.id = .ok execution) {deadline : Moment}
    (until? : execution.deadline = some deadline) (subject : String) (console : Console) :
    (chat.world.store.Compares deadline → ∃ next left,
      chat.obey subject execution "/timeout" console = .ok (some next) left ∧
        chat.world.Swept deadline next.world ∧ next.path = chat.path ∧
        ∀ path table, next.path = some path → next.world.store = .table table →
          left.disk.file? path = some (.tables table)) ∧
    (¬chat.world.store.Compares deadline → chat.world.store.inTables = false ∧ ∃ failure left,
      chat.obey subject execution "/timeout" console = .error (.crashed failure) left ∧
        left.disk = console.disk) := by
  have stored : chat.engine.keeping = .stored := by rw [held.engine_eq]; rfl
  have aloof : chat.engine.capabilities.Aloof := by
    rw [held.engine_eq]
    exact ⟨fun _ _ _ => rfl, fun _ => rfl⟩
  have regular := (held.filled filled).regular
  have same : Beside chat.world { chat.world with journal := [] } := ⟨rfl, rfl, rfl, rfl⟩
  rw [obey_timeout until?]
  constructor
  · intro compares
    obtain ⟨expired, left, done, swept⟩ :=
      Desk.expire_sweeps stored aloof regular compares same rfl
    obtain ⟨output, settled⟩ := settle_of_ok done console
    refine ⟨_, _, bind_of_ok settled, swept, rfl, fun path table put tables => ?_⟩
    simp only at put tables ⊢
    rw [put, tables]
    exact filed_table path table console.disk
  · intro apart
    have memory : chat.world.store.inTables = false := by
      rw [← Bool.not_eq_true]
      exact fun tables =>
        apart (regular.compares_own tables (Store.mem_of_get stands).1 until?)
    obtain ⟨failure, listed⟩ := Store.listDue_fails memory apart
    have refused := Desk.expire_refuses chat.engine
      (show { chat.world with journal := [] }.store.listDue deadline = _ from listed)
    obtain ⟨output, settled⟩ := settle_of_error refused console
    exact ⟨memory, failure, _, bind_of_error settled, filed_memory chat.path memory console.disk⟩

/-- A conversation goes on when an execution is started in it. -/
theorem start (held : Held settings knowledge generate store chat) (flow : String)
    (subject vars : Value) : Held settings knowledge generate store { chat with
      world := after (Desk.start chat.engine flow subject vars)
        { chat.world with journal := [] } } := by
  obtain ⟨outcome, tried⟩ := Desk.attempt_apply (Desk.start chat.engine flow subject vars)
    { chat.world with journal := [] }
  obtain ⟨output, done⟩ := atDesk_apply tried .blank
  exact .started held done

end Held

/-- The definition of a flow that waits a minute for an answer, says goodbye and ends. -/
def brief : Value :=
  let part (texts : List (String × String)) : Value :=
    .dict (texts.map fun (key, text) => (.text key, .text text))
  let edge (source target : String) : Value := part [("source", source), ("target", target)]
  .dict [
    (.text "id", .text "brief"),
    (.text "nodes", .list [
      part [("id", "hello"), ("type", "start")],
      .dict [(.text "id", .text "answer"), (.text "type", .text "wait"),
        (.text "data", .dict [(.text "timeoutSeconds", .int 60)])],
      .dict [(.text "id", .text "leave"), (.text "type", .text "message"),
        (.text "data", part [("text", "Goodbye!")])],
      part [("id", "bye"), ("type", "end")]]),
    (.text "edges",
      .list [edge "hello" "answer", edge "answer" "leave", edge "leave" "bye"])]

/-- The conversation that is opened over a store for the brief flow. -/
def opening (store : Store String) (created : Nat) : Chat where
  engine := Command.engine .standard none none
  path := some "chats.db"
  world := { World.start .dawn store with
    created
    flows := Flow.Registry.empty.add ((Flow.load [] brief).toOption.getD default) }

/-- A conversation after the brief flow was started for a subject. -/
def briefed (chat : Chat) (subject : String) : Chat := { chat with
  world := after (Desk.start chat.engine "brief" (.text subject) .null)
    { chat.world with journal := [] } }

/-- The store that the first conversation leaves, whose subject has not answered. -/
def earlier : Store String := ((opening (.table .empty) 0).briefed "+31 6").world.store

/-- The second conversation, which is opened over that store for another subject. -/
def later : Chat := (opening earlier 1).briefed "+31 7"

/-- A minute after the beginning, by which both subjects should have answered. -/
def minute : Moment := ⟨60 * 1000000, by decide, some .utc⟩

/-- The store that the first conversation leaves was new and then got requests. -/
theorem earlier_filled : earlier.Filled :=
  have begun : (Store.table .empty : Store String).Filled := ⟨_, .table, [], rfl⟩
  begun.served (Desk.start_serves rfl "brief" _ _ _)

/-- The second conversation is held over that store. -/
theorem later_held : Held .standard none none earlier later :=
  have opened : Held .standard none none earlier (opening earlier 1) := .opened rfl
  opened.start "brief" (.text "+31 7") .null

/-- The store of the second conversation is as stores that were filled are. -/
theorem later_regular : later.world.store.Regular := (later_held.filled earlier_filled).regular

/-- The second subject should have answered by then, and the store can tell what is due. -/
theorem later_waits :
    ∃ record, later.world.store.get record.id = .ok record ∧ record.id = "ex0002" ∧
      record.deadline = some minute ∧ later.world.store.Compares minute := by
  have found : ∃ record ∈ later.world.store.records, record.id = "ex0002" ∧
      record.deadline = some minute := by decide +kernel
  obtain ⟨record, member, named, until?⟩ := found
  exact ⟨record, later_regular.distinct.get member, named, until?,
    later_regular.compares_own (by decide +kernel) member until?⟩

/-- If the wait of the second subject is to time out, the waits of both are ended. -/
theorem Held.both_timed_out :
    earlier.Filled ∧ Held .standard none none earlier later ∧
      later.world.store.records.map Execution.subject = ["316", "317"] ∧
      ∃ record, later.world.store.get "ex0002" = .ok record ∧ record.deadline = some minute ∧
        later.world.store.Compares minute ∧ ∃ next left,
          later.obey "+31 7" record "/timeout" .blank = .ok (some next) left ∧
          ∀ record ∈ later.world.store.records, ∃ graph taken, World.Resumed later.world record
            (record.timedOut graph later.world.clock) taken next.world := by
  obtain ⟨record, stands, named, until?, compares⟩ := later_waits
  obtain ⟨next, left, obeyed, swept, -⟩ :=
    (Held.timeout_sweeps earlier_filled later_held stands until? "+31 7" .blank).1 compares
  have due : ∀ record ∈ later.world.store.records, record.isDue minute = true ∧
      (later.world.flows.get record.flow record.version).toOption.isSome = true := by
    decide +kernel
  refine ⟨earlier_filled, later_held, by decide +kernel, record, named ▸ stands, until?, compares,
    next, left, obeyed, fun record member => ?_⟩
  obtain ⟨isDue, known⟩ := due record member
  obtain ⟨graph, had⟩ := Option.isSome_iff_exists.mp known
  exact swept.ended record member isDue ⟨graph, ok_of_toOption had⟩

/-- The word of the second subject lets the wait of the first time out: the execution is told so,
says goodbye and comes to its end. -/
theorem bystander_timed_out :
    earlier.Filled ∧ Held .standard none none earlier later ∧
      later.world.store.records.map (fun record => (record.id, record.subject, record.status)) =
        [("ex0001", "316", .waiting), ("ex0002", "317", .waiting)] ∧ later.world.sends = [] ∧
      ∃ record, later.world.store.get "ex0002" = .ok record ∧ ∃ next left,
        later.obey "+31 7" record "/timeout" .blank = .ok (some next) left ∧
        next.world.store.records.map (fun record => (record.id, record.subject, record.status)) =
          [("ex0001", "316", .completed), ("ex0002", "317", .completed)] ∧
        ⟨"ex0001", "316", "Goodbye!", true⟩ ∈ next.world.sends := by
  obtain ⟨record, stands, named, until?, compares⟩ := later_waits
  obtain ⟨ids, listed, perm⟩ := compares.lists later_regular.universal
  have due : (later.world.store.records.filter (Execution.isDue minute)).map Execution.id =
      ["ex0001", "ex0002"] := by decide +kernel
  rw [due, ← List.mem_permutations'] at perm
  -- Both waits are over at the same moment, and in either order the outcome is the same.
  have outcome : ∀ ids ∈ List.permutations' ["ex0001", "ex0002"],
      let left := after (Desk.expireEach later.engine minute ids) { later.world with journal := [] }
      left.store.records.map (fun record => (record.id, record.subject, record.status)) =
          [("ex0001", "316", .completed), ("ex0002", "317", .completed)] ∧
        ⟨"ex0001", "316", "Goodbye!", true⟩ ∈ left.sends := by decide +kernel
  obtain ⟨expired, done⟩ := Desk.expireEach_apply later.engine minute ids
    { later.world with journal := [] }
  rw [← Desk.after_expireEach] at done
  obtain ⟨output, settled⟩ := settle_of_ok (Desk.expire_apply _ listed done) .blank
  exact ⟨earlier_filled, later_held, by decide +kernel, by decide +kernel, record,
    named ▸ stands, _, _, (obey_timeout until? _) ▸ bind_of_ok settled,
    outcome ids perm⟩

end Chat

end Command

end Parley
