import Datebook.Queue.Channel
import Datebook.Reminder.Wire

/-!
# The message queue

Messages are delivered in the order in which they were pushed, and carry tags in that order.
A message that does not decode is dropped when its turn comes. Where deliveries have to be
acknowledged, a delivered message stays in flight until it is; putting back what is in
flight sets it before all that is ready, in the order of the tags.

## Main definitions

* `Datebook.MessageQueue`, `Datebook.Message`
* `Datebook.MessageQueue.push`, `Datebook.MessageQueue.take`, `Datebook.MessageQueue.ack`,
  `Datebook.MessageQueue.requeue`
-/

namespace Datebook

/-- A message in its written form. -/
structure Message where
  tag : Int
  payload : Json.Bytes
  redelivered : Bool := false
  deriving DecidableEq

/-- Messages that wait to be delivered and messages that wait to be acknowledged. -/
structure MessageQueue where
  mode : AckMode := .auto
  ready : List Message := []
  /-- Delivered and not acknowledged, by ascending tag. -/
  inFlight : List Message := []
  lastTag : Int := 0
  deriving DecidableEq

namespace MessageQueue

/-- A message set among others by ascending tag. -/
def insertByTag (m : Message) : List Message → List Message
  | [] => [m]
  | n :: rest => if m.tag < n.tag then m :: n :: rest else n :: insertByTag m rest

/-- The first message that decodes, its reminder, and the messages after it. -/
def firstReadable? : List Message → Option (Message × Reminder × List Message)
  | [] => none
  | m :: rest =>
    match Reminder.decode m.payload with
    | .ok reminder => some (m, reminder, rest)
    | .error _ => firstReadable? rest

/-- Add a message under the next tag. -/
def push (q : MessageQueue) (payload : Json.Bytes) : MessageQueue :=
  { q with ready := q.ready ++ [⟨q.lastTag + 1, payload, false⟩], lastTag := q.lastTag + 1 }

/-- Deliver the first message that decodes. -/
def take (q : MessageQueue) : Option Delivery × MessageQueue :=
  match firstReadable? q.ready with
  | none => (none, { q with ready := [] })
  | some (m, reminder, rest) =>
    (some ⟨m.tag, reminder, m.redelivered⟩,
      { q with
        ready := rest
        inFlight := if q.mode = .manual then insertByTag m q.inFlight else q.inFlight })

/-- Acknowledge the message with a tag, if it is in flight. -/
def ack (q : MessageQueue) (tag : Int) : MessageQueue :=
  if q.mode = .manual then { q with inFlight := q.inFlight.filter (·.tag != tag) } else q

/-- Put back all that is in flight. -/
def requeue (q : MessageQueue) : MessageQueue :=
  { q with
    ready := q.inFlight.map (fun m => { m with redelivered := true }) ++ q.ready
    inFlight := [] }

end MessageQueue

end Datebook
