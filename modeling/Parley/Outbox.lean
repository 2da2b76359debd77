import Parley.Value.Conversion

/-!
# Outbox

An outbox collects messages instead of delivering them. Each text is measured after its message
is queued, and may then be echoed; a failure there does not take the message back.
-/

namespace Parley

/-- The queued messages, as subject and text, in order. -/
structure Outbox where
  /-- The messages. -/
  messages : List (Value × Value)
deriving Inhabited

namespace Outbox

/-- The outbox in which nothing is queued. -/
def empty : Outbox := ⟨[]⟩

/-- Queues a message. -/
def queue (outbox : Outbox) (subject text : Value) : Outbox :=
  ⟨outbox.messages ++ [(subject, text)]⟩

/-- The failure of measuring a text that has no length. -/
def measure (text : Value) : Except Failure Unit :=
  match text with
  | .text _ | .list _ | .tuple _ | .dict _ | .set _ | .octets _ => .ok ()
  | value => .error (.wrongType ("object of type '" ++ value.typeName ++ "' has no len()"))

/-- Sends a message: it is queued and measured, and then echoed, unless nothing echoes. Tells the
outbox, whether the text came to be echoed, and the failure if there is one. -/
def send (echo : Option (Value → Option Failure)) (outbox : Outbox) (subject text : Value) :
    Outbox × Bool × Option Failure :=
  let outbox := outbox.queue subject text
  match measure text, echo with
  | .error failure, _ => (outbox, false, some failure)
  | .ok (), none => (outbox, false, none)
  | .ok (), some echo => (outbox, true, echo text)

/-- The texts queued for a subject; null stands for all subjects. -/
def texts (outbox : Outbox) (subject : Value) : List Value :=
  let wanted := match subject with
    | .null => outbox.messages
    | subject => outbox.messages.filter fun message => message.1.same subject
  wanted.map Prod.snd

end Outbox

end Parley
