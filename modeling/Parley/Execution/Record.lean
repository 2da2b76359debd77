import Parley.Execution

/-!
# Execution records

An execution written as a value, and read back from one. A record may lack what has a usual
value; what counts as false is taken for absent there.
-/

namespace Parley

namespace Record

/-- The value of an optional name. -/
def nameValue {ν : Type} [Name ν] : Option ν → Value
  | some name => Name.value name
  | none => .null

/-- The value of an optional moment. -/
def momentValue : Option Time.Moment → Value
  | some moment => .text moment.text
  | none => .null

/-- The value under a key that a record must have. -/
def required (entries : Entries) (key : String) : Except Failure Value :=
  match entries.text? key with
  | some value => .ok value
  | none => .error (.missingKey (.text key))

/-- The value under a key, or null. -/
def optional (entries : Entries) (key : String) : Value := (entries.text? key).getD .null

/-- A value that may be null. -/
def nonNull : Value → Option Value
  | .null => none
  | value => some value

/-- The status that a value names. -/
def statusOf (value : Value) : Except Failure Status :=
  let unknown := Failure.notStatus value.shown
  match value with
  | .text word =>
    match Status.ofText? word with
    | some status => .ok status
    | none => .error unknown
  | _ => .error unknown

/-- The event that a value names. -/
def eventOf (value : Value) : Except Failure Event :=
  let unknown := Failure.notEvent value.shown
  match value with
  | .text word =>
    match Event.ofText? word with
    | some event => .ok event
    | none => .error unknown
  | _ => .error unknown

/-- The moment that a text shows; what counts as false shows none. -/
def momentOf (value : Value) : Except Failure (Option Time.Moment) :=
  if value.truthy then
    match value with
    | .text text =>
      match Time.Moment.read text with
      | .ok moment => .ok (some moment)
      | .error fault => .error (.time fault)
    | _ => .error (.wrongType "fromisoformat: argument must be str")
  else .ok none

/-- The elements of a value; what counts as false has none. -/
def elementsOf (value : Value) : Except Failure (List Value) :=
  if value.truthy then value.elements else .ok []

/-- The entries of a record, which must be a dictionary. -/
def entriesOf (raw : Value) : Except Failure Entries :=
  match raw with
  | .dict entries => .ok entries
  | value => .error (.wrongType ("'" ++ value.typeName ++ "' object is not subscriptable"))

/-- The number of a version; what counts as false is the first. -/
def versionOf (value : Value) : Except Failure Int :=
  if value.truthy then value.toInt else .ok 1

end Record

namespace Entry

open Record

/-- An entry as it is written. -/
def toValue {ν : Type} [Name ν] (entry : Entry ν) : Value :=
  .dict ([(.text "node_id", nameValue entry.node), (.text "event", .text entry.event.text),
      (.text "timestamp", nameValue entry.timestamp)]
    ++ (match entry.payload with
      | some payload => [(.text "payload", payload)]
      | none => []))

/-- The entry that a value shows. -/
def ofValue (raw : Value) : Except Failure (Entry Value) := do
  let entries ← entriesOf raw
  let node ← required entries "node_id"
  let event ← eventOf (← required entries "event")
  let timestamp ← required entries "timestamp"
  return ⟨nonNull node, event, nonNull timestamp, nonNull (optional entries "payload")⟩

/-- The entries that values show, in order. -/
def ofValues : List Value → Except Failure (List (Entry Value))
  | [] => .ok []
  | raw :: rest => do return (← ofValue raw) :: (← ofValues rest)

end Entry

namespace Execution

open Record

/-- An execution as it is written. -/
def toValue {ν : Type} [Name ν] (execution : Execution ν) : Value :=
  .dict [
    (.text "id", Name.value execution.id),
    (.text "flow_id", Name.value execution.flow),
    (.text "flow_version", .int execution.version),
    (.text "subject_key", Name.value execution.subject),
    (.text "status", .text execution.status.text),
    (.text "current_node_id", nameValue execution.node),
    (.text "variables", .dict execution.vars.snapshot),
    (.text "wait_deadline", momentValue execution.deadline),
    (.text "expected_keywords", .list (execution.keywords.map Name.value)),
    (.text "log", .list (execution.log.map Entry.toValue)),
    (.text "error", nameValue execution.error),
    (.text "created_at", .text execution.createdAt.text),
    (.text "updated_at", .text execution.updatedAt.text)]

/-- The execution that a value shows; `now` stands for times that are not given. -/
def ofValue (now : Time.Moment) (raw : Value) : Except Failure (Execution Value) := do
  let entries ← entriesOf raw
  let id ← required entries "id"
  let flow ← required entries "flow_id"
  let version ← versionOf (optional entries "flow_version")
  let subject ← required entries "subject_key"
  let status ← statusOf (← required entries "status")
  let vars ← Variables.ofValue id (optional entries "variables")
  let deadline ← momentOf (optional entries "wait_deadline")
  let keywords ← elementsOf (optional entries "expected_keywords")
  let log ← Entry.ofValues (← elementsOf (optional entries "log"))
  let createdAt ← momentOf (optional entries "created_at")
  let updatedAt ← momentOf (optional entries "updated_at")
  return {
    id, flow, version, subject, status
    node := nonNull (optional entries "current_node_id")
    vars, deadline, keywords, log
    error := nonNull (optional entries "error")
    createdAt := createdAt.getD now
    updatedAt := updatedAt.getD now }

/-- Whether two optional moments are the same. -/
def sameMoments : Option Time.Moment → Option Time.Moment → Bool
  | none, none => true
  | some a, some b => a.same b
  | _, _ => false

/-- Whether two entries of logs are the same in every part. -/
def sameEntries (a b : Entry Value) : Bool :=
  a.node == b.node && a.event == b.event && a.timestamp == b.timestamp && a.payload == b.payload

/-- Whether two executions are the same: variables and times by what they mean, the rest part by
part. -/
def same (a b : Execution Value) : Bool :=
  a.id == b.id && a.flow == b.flow && a.version == b.version && a.subject == b.subject
    && a.status == b.status && a.node == b.node && a.vars.same b.vars.entries
    && sameMoments a.deadline b.deadline && a.keywords == b.keywords
    && a.log.length == b.log.length
    && (a.log.zip b.log).all (fun pair => sameEntries pair.1 pair.2)
    && a.error == b.error && a.createdAt.same b.createdAt && a.updatedAt.same b.updatedAt

end Execution

end Parley
