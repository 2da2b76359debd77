import Parley.Proofs.Answering
import Parley.Proofs.Lasting
import Parley.Proofs.Reports

/-!
# Replies that are routed

A reply of a subject for which nothing waits changes nothing. Otherwise its text and the keywords of
the record that waits decide: it takes the wait up along one of two edges, or it is put into a
variable and the wait goes on as it was.
-/

namespace Parley

open Parley.Computation World

/-- One of some keywords occurs in a text without regard to case. -/
def Keyword.Occurs (keywords : List String) (text : String) : Prop :=
  ∃ keyword ∈ keywords, (Text.fold keyword).toList <:+: (Text.fold text).toList

instance (keywords : List String) (text : String) : Decidable (Keyword.Occurs keywords text) :=
  inferInstanceAs (Decidable (∃ keyword ∈ keywords, _ <:+: _))

/-- A keyword is found in a text if one occurs in it, unless it is empty. -/
theorem Keyword.find?_isSome {keywords : List String} (worded : "" ∉ keywords) (text : String) :
    (find? keywords text).isSome = true ↔ Occurs keywords text := by
  simp only [find?, List.find?_isSome, isIn, Bool.and_eq_true, bne_iff_ne, ne_eq, Text.contains,
    Text.occurs_iff, Occurs]
  constructor
  · rintro ⟨keyword, member, -, within⟩
    exact ⟨keyword, member, within⟩
  · rintro ⟨keyword, member, within⟩
    exact ⟨keyword, member, fun empty => worded (empty ▸ member), within⟩

namespace Desk

variable {keywords : List String} {hold : Bool} {text : String}

/-- Without keywords every reply leads on. -/
theorem route_free (hold : Bool) (reply : Value) :
    route [] hold reply = .ok (.resume Flow.yes "reply") := rfl

/-- A text in which a keyword occurs leads on. -/
theorem route_matched (worded : "" ∉ keywords) (hold : Bool)
    (occurs : Keyword.Occurs keywords text) :
    route keywords hold (.text text) = .ok (.resume Flow.yes "keyword") := by
  have found := (Keyword.find?_isSome worded text).mpr occurs
  obtain ⟨found, search⟩ := Option.isSome_iff_exists.mp found
  obtain ⟨keyword, member, -⟩ := occurs
  have some : keywords.isEmpty = false := by
    rw [List.isEmpty_eq_false_iff]
    exact List.ne_nil_of_mem member
  rw [route, Keyword.findIn, Keyword.replyText_text, some]
  simp only [ok_bind, search]
  rfl

/-- A text in which no keyword occurs is held, or leads on along the other edge. -/
theorem route_unmatched (worded : "" ∉ keywords) (asks : keywords ≠ []) (hold : Bool)
    (misses : ¬ Keyword.Occurs keywords text) :
    route keywords hold (.text text) =
      .ok (if hold then .hold else .resume Flow.no "mismatch") := by
  have search : Keyword.find? keywords text = none := by
    rw [← Option.not_isSome_iff_eq_none]
    exact fun found => misses ((Keyword.find?_isSome worded text).mp found)
  have some : keywords.isEmpty = false := List.isEmpty_eq_false_iff.mpr asks
  rw [route, Keyword.findIn, Keyword.replyText_text, some]
  simp only [ok_bind, search]
  rfl

end Desk

/-- A text was put into the variable of replies, and the other variables are as they were. -/
structure Variables.Hears (text : String) (before after : Variables) : Prop where
  /-- The text was put there. -/
  put : after = before.set Handler.lastMessage (.text text)
  /-- The variable of replies is the text. -/
  told : after.get? Handler.lastMessage = some (.text text)
  /-- The other variables have what they had. -/
  others : ∀ name ≠ Handler.lastMessage, after.get? name = before.get? name

/-- Putting a text into the variable of replies leaves the other variables. -/
theorem Variables.set_hears (vars : Variables) (text : String) :
    vars.Hears text (vars.set Handler.lastMessage (.text text)) :=
  ⟨rfl, by rw [get?_set, if_pos rfl], fun name other => by rw [get?_set, if_neg other]⟩

namespace World

variable {engine : Engine} {base world left : World} {record : Execution String}
  {label reason text : String}

/-- The entry that tells that a text took up a wait tells why, along which edge, and the text. -/
theorem taking_tells (node : Option String) (now : Time.Moment) (label reason text : String) :
    let entry : Entry String := ⟨node, .resumed, some now.text,
      some (.dict (Execution.taking label reason (.text text)))⟩
    entry.Tells "reason" (.text reason) ∧ entry.Tells "edge" (.text label) ∧
      entry.Tells "message" (.text text) := by
  have named : Entries.Named (Execution.taking label reason (.text text)) :=
    ⟨["reason", "edge", "message"], rfl, by decide⟩
  refine ⟨⟨_, rfl, named, ?_⟩, ⟨_, rfl, named, ?_⟩, ⟨_, rfl, named, ?_⟩⟩ <;>
    simp [Execution.taking, Entries.text?, Entries.get?, Value.same_text]

/-- The wait of a record was taken up by a text along an edge and for a reason. -/
structure Answered (engine : Engine) (base : World) (record : Execution String)
    (label reason text : String) (left : World) : Prop where
  /-- The stored log goes on with the end of the wait, and tells of no other. -/
  log : ∃ later ∈ left.store.records, record.Continues later ∧ ∃ entry rest,
    later.log = record.log ++ entry :: rest ∧ entry.node = record.node ∧
      entry.event = .resumed ∧ entry.Tells "reason" (.text reason) ∧
      entry.Tells "edge" (.text label) ∧ entry.Tells "message" (.text text) ∧
      ∀ other ∈ rest, other.event ≠ .resumed
  /-- The store took the execution with the end of the wait in its log and the text in the variable
  of replies, and from exactly that the run went on through the graph of its flow. -/
  onward : ∃ graph handed, base.flows.get record.flow record.version = .ok graph ∧
    ⟨handed, true⟩ ∈ left.since base ∧ handed.id = record.id ∧
    record.vars.Hears text handed.vars ∧
    (∃ entry, entry.event = .resumed ∧ handed.log = record.log ++ [entry]) ∧
    Onward engine graph handed left

/-- An execution that was handed over after a text took up its wait was answered, if the store took
it. -/
theorem Resumed.answered {graph : Flow.Graph}
    (had : base.flows.get record.flow record.version = .ok graph)
    (resumed : Resumed base record
      ({ record with vars := record.vars.set Handler.lastMessage (.text text) }.resumed graph label
        reason (.text text) base.clock) true left)
    (onward : Onward engine graph
      ({ record with vars := record.vars.set Handler.lastMessage (.text text) }.resumed graph label
        reason (.text text) base.clock) left) :
    Answered engine base record label reason text left := by
  let waiting := { record with vars := record.vars.set Handler.lastMessage (.text text) }
  have log := waiting.resumed_log graph label reason (.text text) base.clock
  have carries := resumed.carries
  rw [if_pos rfl, log] at carries
  obtain ⟨later, member, continues, entry, rest, grown, echo, quiet⟩ := carries.entry
  obtain ⟨why, along, told⟩ := taking_tells record.node base.clock label reason text
  refine ⟨⟨later, member, continues, entry, rest, grown, echo.node, echo.event,
    echo.tells why rfl, echo.tells along rfl, echo.tells told rfl, quiet⟩, graph, _, had,
    resumed.asked, (waiting.resumed_continues graph label reason (.text text) base.clock).id, ?_,
    ⟨_, rfl, log⟩, onward⟩
  rw [waiting.resumed_vars]
  exact record.vars.set_hears text

/-- What is beside the executions may change. -/
theorem Answered.beside (answered : Answered engine base record label reason text world)
    (same : Beside world left) : Answered engine base record label reason text left := by
  obtain ⟨log, graph, handed, had, asked, named, hears, told, onward⟩ := answered
  refine ⟨?_, graph, handed, had, since_mono (same.saves ▸ List.prefix_rfl) asked, named, hears,
    told, onward.beside same⟩
  rw [same.store]
  exact log

/-- A text was put into the variable of replies of a record, whose wait goes on; nothing else has
changed. -/
structure Heard (base : World) (record : Execution String) (text : String) (left : World) :
    Prop where
  /-- The record is as it was but for the variable and the time of the change, and the other records
  are as they were. -/
  records : ∃ vars, record.vars.Hears text vars ∧ left.store.records =
    Store.rewritten base.store.records { record with vars, updatedAt := base.clock }
  /-- Only the store and the requests to save are not as they were. -/
  rest : left = { base with store := left.store, saves := left.saves }

end World

namespace Desk

variable {engine : Engine} {base : World} {subject text : String} {record : Execution String}
  {graph : Flow.Graph} {node : Flow.Node String}
  (found : base.store.findWaiting subject = .ok (some record))
  (member : record ∈ base.store.records) (waits : record.status = .waiting)
  (had : base.flows.get record.flow record.version = .ok graph)
  (stands : record.node.bind graph.node? = some node)
include found member waits had stands

/-- A text that leads on takes the wait up, and the id is told. -/
theorem deliver_answers (stored : engine.keeping = .stored) (distinct : base.store.Distinct)
    {label reason : String}
    (routes : route record.keywords node.content.holds (.text text) =
      .ok (.resume label reason)) :
    ∃ left, deliver engine subject (.text text) base = .ok (some record.id) left ∧
      ((∀ save ∈ left.since base, save.taken = true) →
        Answered engine base record label reason text left) := by
  let held := { base with executions := base.executions.enter record.id }
  have entered : Beside base held := ⟨rfl, rfl, rfl, rfl⟩
  obtain ⟨middle, taken, done, resumed, onward⟩ := guarded_resumes stored distinct
    (Store.version_ne_zero member) waits ((Holds.refl member).beside entered) graph
    (record.vars.set Handler.lastMessage (.text text)) label reason (.text text)
  let left := { middle with executions := middle.executions.leave record.id }
  have same : Beside middle left := ⟨rfl, rfl, rfl, rfl⟩
  refine ⟨left, ?_, fun took => ?_⟩
  · rw [deliver_resumes found (distinct.get member) waits had stands routes,
      holdingExecution_apply, bind_of_ok done]
    rfl
  · have asked := (resumed.beside same).asked
    obtain rfl : taken = true := took _ asked
    exact (resumed.beside same).answered had ((onward rfl).beside same)

/-- A text that is held is put into the variable of replies. -/
theorem deliver_hears (distinct : base.store.Distinct) (lasting : base.store.Lasting)
    (universal : base.store.Universal) (counted : base.executions.Counted)
    (routes : route record.keywords node.content.holds (.text text) = .ok .hold)
    (took : ∀ save ∈ (after (deliver engine subject (.text text)) base).since base,
      save.taken = true) :
    ∃ left, deliver engine subject (.text text) base = .ok none left ∧
      Heard base record text left := by
  let heard := { record with
    vars := record.vars.set Handler.lastMessage (.text text), updatedAt := base.clock }
  let held := { base with executions := base.executions.enter record.id }
  have delivers := @deliver_holds engine _ _ _ _ _ found (distinct.get member) waits had stands _
    routes
  rw [holdingExecution_apply] at delivers
  obtain ⟨taken, middle, offered, saves, refuses⟩ := save_offers engine heard held
  cases offered with
  | taken saved =>
    rw [bind_of_ok (saves rfl)] at delivers
    refine ⟨_, delivers, ⟨_, record.vars.set_hears text, ?_⟩, ?_⟩
    · have lasts := (lasting record member).set Handler.lastMessage (.text text)
      exact Store.save_exactly member distinct universal lasts base.clock saved
    · simp only [held, Locks.leave_enter counted record.id]
  | refused =>
    obtain ⟨failure, -, failed⟩ := refuses rfl
    rw [bind_of_error failed] at delivers
    rw [after_of_error delivers] at took
    cases took ⟨heard, false⟩ (by simp [since, held])

end Desk

/-- The record that waits for a subject is found. -/
theorem Store.Exclusive.findWaiting {store : Store String} (exclusive : store.Exclusive)
    {record : Execution String} (member : record ∈ store.records)
    (waits : record.status = .waiting) :
    store.findWaiting record.subject = .ok (some record) := by
  obtain ⟨found, search, sound, complete⟩ := store.findWaiting_spec record.subject
  cases found with
  | none => exact absurd waits (complete rfl record member rfl)
  | some other =>
    obtain ⟨listed, own, waiting⟩ := sound other rfl
    have named := exclusive.single other listed record member waiting waits own
    rw [search, exclusive.distinct.unique listed member named]

namespace World.Reached

variable {engine : Engine} {world : World} (reached : Reached engine world) {subject : Value}
  {text : String}
include reached

/-- A reply of a subject for which nothing waits changes nothing. -/
theorem unheard (reply : Value) (free : ∀ record ∈ world.store.records,
      record.subject = Subject.ofValue subject → record.status ≠ .waiting) :
    (Call.inbound subject reply).perform engine world = .ok (.routed none) world := by
  obtain ⟨flows, calm⟩ := reached.calm
  let held := { world with subjects := world.subjects.enter (Subject.ofValue subject) }
  have restored : { held with subjects := held.subjects.leave (Subject.ofValue subject) } =
      world := by
    simp only [held, Locks.leave_enter (calm.subjects ▸ calm.counted.1)]
  obtain ⟨found, search, sound, -⟩ := world.store.findWaiting_spec (Subject.ofValue subject)
  cases found with
  | some record =>
    obtain ⟨member, own, waits⟩ := sound record rfl
    exact absurd waits (free record member own)
  | none =>
    have lost : Desk.deliver engine.atDesk (Subject.ofValue subject) reply held =
        .error (.nobodyWaiting (Subject.ofValue subject)) held := by
      rw [Desk.deliver, bind_of_ok (get_apply held), show held.store = world.store from rfl, search]
      rfl
    have routed := Desk.inbound_lost lost
    rw [restored] at routed
    exact bind_of_ok routed

variable {record : Execution String} {graph : Flow.Graph} {node : Flow.Node String}
  (member : record ∈ world.store.records) (own : record.subject = Subject.ofValue subject)
  (waits : record.status = .waiting)
  (had : world.flows.get record.flow record.version = .ok graph)
  (stands : record.node.bind graph.node? = some node)
  (took : ∀ save ∈ (after ((Call.inbound subject (.text text)).perform engine) world).since world,
    save.taken = true)
include member own waits had stands took

/-- A text that leads on takes up the wait of the record that waits for the subject. -/
theorem answers {label reason : String}
    (routes : Desk.route record.keywords node.content.holds (.text text) =
      .ok (.resume label reason)) :
    ∃ left, (Call.inbound subject (.text text)).perform engine world =
        .ok (.routed (some record.id)) left ∧
      Answered engine.atDesk world record label reason text left := by
  let held := { world with subjects := world.subjects.enter (Subject.ofValue subject) }
  have found := reached.exclusive.findWaiting member waits
  rw [own] at found
  obtain ⟨left, delivered, answered⟩ := @Desk.deliver_answers engine.atDesk held _ _ _ _ _ found
    member waits had stands rfl reached.exclusive.distinct _ _ routes
  have performed : (Call.inbound subject (.text text)).perform engine world =
      .ok (.routed (some record.id))
        { left with subjects := left.subjects.leave (Subject.ofValue subject) } :=
    bind_of_ok (Desk.inbound_delivered delivered)
  rw [after_of_ok performed] at took
  obtain ⟨log, onward⟩ := answered took
  exact ⟨_, performed, Answered.beside ⟨log, onward⟩ ⟨rfl, rfl, rfl, rfl⟩⟩

/-- A text that is held is put into the variable of replies of the record. -/
theorem hears
    (routes : Desk.route record.keywords node.content.holds (.text text) = .ok .hold) :
    ∃ left, (Call.inbound subject (.text text)).perform engine world =
        .ok (.routed none) left ∧ Heard world record text left := by
  obtain ⟨flows, calm⟩ := reached.calm
  let key := Subject.ofValue subject
  let held := { world with subjects := world.subjects.enter key }
  have found := reached.exclusive.findWaiting member waits
  rw [own] at found
  have asked : (after ((Call.inbound subject (.text text)).perform engine) world).saves =
      (after (Desk.deliver engine.atDesk key (.text text)) held).saves := by
    rw [Call.perform, after_thenPure]
    cases delivered : Desk.deliver engine.atDesk key (.text text) held with
    | ok resumed left =>
      rw [after_of_ok delivered, after_of_ok (Desk.inbound_delivered delivered)]
    | error failure left =>
      rw [after_of_error delivered, after_of_ok (Desk.inbound_lost delivered)]
  have counted : held.executions.Counted := calm.executions ▸ calm.counted.2
  obtain ⟨left, delivered, ⟨records, rest⟩⟩ := @Desk.deliver_hears engine.atDesk held _ _ _ _ _
    found member waits had stands reached.exclusive.distinct reached.lasting
    reached.upheld.universal counted routes (by unfold since at took ⊢; rwa [asked] at took)
  refine ⟨_, bind_of_ok (Desk.inbound_delivered delivered), records, ?_⟩
  rw [rest]
  simp only [held, Locks.leave_enter (calm.subjects ▸ calm.counted.1), key]

end World.Reached

/-- Rewriting a record of an id twice is rewriting it by the second. -/
theorem Store.rewritten_twice (records : List (Execution String)) {first second : Execution String}
    (named : second.id = first.id) :
    rewritten (rewritten records first) second = rewritten records second := by
  simp only [rewritten, List.map_map]
  apply List.map_congr_left
  intro other _
  simp only [Function.comp_apply, named]
  split
  · exact if_pos rfl
  · rfl

/-- Rewriting a record by itself leaves the records. -/
theorem Store.Distinct.rewritten_self {store : Store String} (distinct : store.Distinct)
    {record : Execution String} (member : record ∈ store.records) :
    rewritten store.records record = store.records := by
  refine (List.map_congr_left fun other listed => ?_).trans (List.map_id store.records)
  split
  · rename_i same
    exact (distinct.unique listed member same).symm
  · rfl

/-- Calls add to the requests to save. -/
theorem Call.runs_saves (engine : Engine) (calls : List Call) (world : World) :
    world.saves <+: (runs engine calls world).saves :=
  (runs_serves engine calls world).saves

/-- However many texts come in one after another in which none of its keywords occurs, a record that
waits at a node which holds such texts goes on waiting: it is as it was but for the variable of
replies and the time of the change, if the store takes what it is given. -/
theorem World.Reached.waits_on {engine : Engine} {world : World} (reached : Reached engine world)
    {subject : Value} {record : Execution String} {graph : Flow.Graph} {node : Flow.Node String}
    (member : record ∈ world.store.records) (own : record.subject = Subject.ofValue subject)
    (waits : record.status = .waiting) (asks : record.keywords ≠ [])
    (had : world.flows.get record.flow record.version = .ok graph)
    (stands : record.node.bind graph.node? = some node) (holds : node.content.holds = true)
    {texts : List String} (misses : ∀ text ∈ texts, ¬ Keyword.Occurs record.keywords text)
    (took : ∀ save ∈ (Call.runs engine (texts.map fun text => .inbound subject (.text text))
      world).since world, save.taken = true) :
    ∃ updatedAt, (Call.runs engine (texts.map fun text => .inbound subject (.text text))
        world).store.records =
      Store.rewritten world.store.records { record with
        vars := texts.foldl (fun vars text => vars.set Handler.lastMessage (.text text)) record.vars
        updatedAt } := by
  -- On the texts; the record that the rest of them meets is the one that the first text left.
  induction texts generalizing world record with
  | nil => exact ⟨record.updatedAt, (reached.exclusive.distinct.rewritten_self member).symm⟩
  | cons text rest ih =>
    obtain ⟨first, others⟩ := List.forall_mem_cons.mp misses
    obtain ⟨-, -, worded, -⟩ := reached.answerable record member
    let call := Call.inbound subject (.text text)
    let calls := rest.map fun text => Call.inbound subject (.text text)
    have more := Call.runs_saves engine calls (after (call.perform engine) world)
    have routes := Desk.route_unmatched worded asks node.content.holds first
    rw [if_pos holds] at routes
    obtain ⟨left, performed, ⟨_, ⟨rfl, -, -⟩, records⟩, same⟩ := reached.hears member own waits
      had stands (fun save asked => took save (since_mono more asked)) routes
    have onward := reached.perform call
    rw [after_of_ok performed] at onward
    have goes : Call.runs engine (call :: calls) world = Call.runs engine calls left := by
      rw [Call.runs, List.foldl_cons, after_of_ok performed]
      rfl
    have flows : left.flows = world.flows := by rw [same]
    let heard := { record with
      vars := record.vars.set Handler.lastMessage (.text text), updatedAt := world.clock }
    have stays : heard ∈ left.store.records := records ▸ Store.mem_rewritten_self member rfl
    have saves : world.saves <+: left.saves := by
      rw [← after_of_ok performed]
      exact Call.runs_saves engine [call] world
    obtain ⟨updatedAt, kept⟩ := ih onward stays own waits asks (flows ▸ had) stands others
      fun save asked => took save (by
        rw [List.map_cons, goes]
        exact List.drop_subset_drop_left _ saves.length_le asked)
    refine ⟨updatedAt, ?_⟩
    rw [List.map_cons, goes, kept, records]
    exact Store.rewritten_twice world.store.records (show heard.id = record.id from rfl)

/-- What comes of a text for the record that waits for it at a node, and of what is answered: the
keywords that the record waits for decide, and where none occurs the node does. -/
structure World.Routed (engine : Engine) (base : World) (record : Execution String)
    (node : Flow.Node String) (text : String) (answer : Option String) (left : World) : Prop where
  /-- Without keywords the wait is taken up. -/
  free : record.keywords = [] →
    answer = some record.id ∧ Answered engine base record "yes" "reply" text left
  /-- If a keyword occurs in the text the wait is taken up. -/
  matched : Keyword.Occurs record.keywords text →
    answer = some record.id ∧ Answered engine base record "yes" "keyword" text left
  /-- If none occurs and the node holds such texts, the wait goes on. -/
  held : record.keywords ≠ [] → ¬ Keyword.Occurs record.keywords text →
    node.content.holds = true → answer = none ∧ Heard base record text left
  /-- If none occurs and the node does not, the wait is taken up along the other edge. -/
  mismatched : record.keywords ≠ [] → ¬ Keyword.Occurs record.keywords text →
    node.content.holds = false →
      answer = some record.id ∧ Answered engine base record "no" "mismatch" text left

/-- A text of a subject changes nothing if nothing waits for the subject. What waits for it is one
record, which stands at a node of the graph of its flow, and the text is routed by the keywords of
the record and by the node, if the store takes what it is given. -/
theorem World.Reached.routes {engine : Engine} {world : World} (reached : Reached engine world)
    (subject : Value) (text : String) :
    ((∀ record ∈ world.store.records, record.subject = Subject.ofValue subject →
        record.status ≠ .waiting) →
      (Call.inbound subject (.text text)).perform engine world = .ok (.routed none) world) ∧
    ((∀ save ∈ (after ((Call.inbound subject (.text text)).perform engine) world).since world,
        save.taken = true) →
      ∀ record ∈ world.store.records, record.subject = Subject.ofValue subject →
        record.status = .waiting →
        ∃ graph node answer left, world.flows.get record.flow record.version = .ok graph ∧
          record.node.bind graph.node? = some node ∧
          (Call.inbound subject (.text text)).perform engine world = .ok (.routed answer) left ∧
          Routed engine.atDesk world record node text answer left) := by
  refine ⟨reached.unheard (.text text), fun took record member own waits => ?_⟩
  obtain ⟨graph, had, worded, placed⟩ := reached.answerable record member
  obtain ⟨node, stands⟩ := placed waits
  have leads {label reason : String}
      (routes : Desk.route record.keywords node.content.holds (.text text) =
        .ok (.resume label reason)) :=
    reached.answers member own waits had stands took routes
  by_cases free : record.keywords = []
  · have misses : ¬ Keyword.Occurs record.keywords text := by
      rintro ⟨keyword, listed, -⟩
      simp [free] at listed
    obtain ⟨left, performed, answered⟩ := leads (free ▸ Desk.route_free node.content.holds _)
    exact ⟨graph, node, _, left, had, stands, performed, fun _ => ⟨rfl, answered⟩,
      fun occurs => absurd occurs misses, fun asks => absurd free asks,
      fun asks => absurd free asks⟩
  by_cases occurs : Keyword.Occurs record.keywords text
  · obtain ⟨left, performed, answered⟩ :=
      leads (Desk.route_matched worded node.content.holds occurs)
    exact ⟨graph, node, _, left, had, stands, performed, fun none => absurd none free,
      fun _ => ⟨rfl, answered⟩, fun _ misses => absurd occurs misses,
      fun _ misses => absurd occurs misses⟩
  have unmatched := Desk.route_unmatched worded free node.content.holds occurs
  cases holds : node.content.holds with
  | true =>
    rw [holds] at unmatched
    obtain ⟨left, performed, heard⟩ := reached.hears member own waits had stands took
      (by rw [holds]; exact unmatched)
    exact ⟨graph, node, _, left, had, stands, performed, fun none => absurd none free,
      fun within => absurd within occurs, fun _ _ _ => ⟨rfl, heard⟩,
      fun _ _ lets => absurd (holds.symm.trans lets) (by decide)⟩
  | false =>
    rw [holds] at unmatched
    obtain ⟨left, performed, answered⟩ := leads (by rw [holds]; exact unmatched)
    exact ⟨graph, node, _, left, had, stands, performed, fun none => absurd none free,
      fun within => absurd within occurs,
      fun _ _ keeps => absurd (holds.symm.trans keeps) (by decide), fun _ _ _ => ⟨rfl, answered⟩⟩

/-- The definition of a flow that waits for a word, however often another is said, and ends. -/
def Flow.patient : Value :=
  let part (texts : List (String × String)) : Value :=
    .dict (texts.map fun (key, text) => (.text key, .text text))
  let edge (source target : String) : Value := part [("source", source), ("target", target)]
  .dict [
    (.text "id", .text "patient"),
    (.text "nodes", .list [
      part [("id", "hello"), ("type", "start")],
      .dict [(.text "id", .text "answer"), (.text "type", .text "wait"),
        (.text "data", .dict [(.text "keywords", .text "fine, well"),
          (.text "holdOnMismatch", .bool true)])],
      part [("id", "bye"), ("type", "end")]]),
    (.text "edges", .list [edge "hello" "answer", edge "answer" "bye"])]

/-- The world in which a subject of a patient flow has not answered. -/
def World.unanswered : World :=
  Call.runs .quiet [.register Flow.patient, .start "patient" (.text "+31 6") .null]
    (.start .dawn (.table .empty))

/-- A text without one of the words is put aside, and another with one of them ends the wait. -/
theorem World.unanswered_routes :
    Reached .quiet unanswered ∧ ∃ record ∈ unanswered.store.records,
      record.subject = Subject.ofValue (.text "316") ∧ record.status = .waiting ∧
      (∃ left, (Call.inbound (.text "316") (.text "Why?")).perform .quiet unanswered =
          .ok (.routed none) left ∧ Heard unanswered record "Why?" left) ∧
      ∃ left, (Call.inbound (.text "316") (.text "I am FINE.")).perform .quiet unanswered =
          .ok (.routed (some record.id)) left ∧
        Answered Engine.quiet.atDesk unanswered record "yes" "keyword" "I am FINE." left := by
  have reached : Reached .quiet unanswered := ⟨_, _, _, .table, rfl⟩
  have waiting : ∃ record ∈ unanswered.store.records,
      record.subject = Subject.ofValue (.text "316") ∧ record.status = .waiting ∧
      record.keywords = ["fine", "well"] := by decide +kernel
  obtain ⟨record, member, own, waits, keywords⟩ := waiting
  refine ⟨reached, record, member, own, waits, ?_, ?_⟩
  · obtain ⟨graph, node, answer, left, -, -, performed, routed⟩ :=
      (World.Reached.routes reached (.text "316") "Why?").2 (by decide +kernel) record member own
        waits
    have told := Call.answered
      (show ((Call.inbound (.text "316") (.text "Why?")).outcome .quiet unanswered).toOption =
        some (.routed none) by decide +kernel)
    rw [performed] at told
    cases told
    have asks : record.keywords ≠ [] := by rw [keywords]; decide
    have misses : ¬ Keyword.Occurs record.keywords "Why?" := by rw [keywords]; decide +kernel
    cases holds : node.content.holds with
    | true => exact ⟨_, performed, (routed.held asks misses holds).2⟩
    | false => cases (routed.mismatched asks misses holds).1
  · obtain ⟨graph, node, answer, left, -, -, performed, routed⟩ :=
      (World.Reached.routes reached (.text "316") "I am FINE.").2 (by decide +kernel) record member
        own waits
    obtain ⟨rfl, answered⟩ := routed.matched (by rw [keywords]; decide +kernel)
    exact ⟨left, performed, answered⟩

end Parley
