import Datebook.Shutdown

/-!
# Faults

In a simulation the next call of an operation may be made to take time, and to fail or go
on afterwards. Every call leaves a note of what came of it.

## Main definitions

* `Datebook.Operation`: the operations by name, `Datebook.Call.operation`
* `Datebook.Fault`, `Datebook.Fault.wait`, `Datebook.FaultKind`, `Datebook.Call.failureOf`
* `Datebook.Note`, `Datebook.Call.note`
-/

namespace Datebook

/-- The operations that a fault can be laid on. -/
inductive Operation where
  | connectStore
  | closeStore
  | insertEvent
  | updateEvent
  | deleteEvent
  | getEvent
  | allEvents
  | eventsInRange
  | checkBusy
  | dueEvents
  | purgeEvents
  | markNotified
  | connectProducer
  | publish
  | closeProducer
  | connectConsumer
  | receive
  | ack
  | closeConsumer
  deriving DecidableEq, Repr

/-- The operation of a call. -/
def Call.operation : Call → Operation
  | .store .connect => .connectStore
  | .store .close => .closeStore
  | .store (.insert _) => .insertEvent
  | .store (.update _) => .updateEvent
  | .store (.delete _) => .deleteEvent
  | .store (.get _) => .getEvent
  | .store (.all _) => .allEvents
  | .store (.range _ _) => .eventsInRange
  | .store (.busy _ _ _) => .checkBusy
  | .store (.due _) => .dueEvents
  | .store (.purge _) => .purgeEvents
  | .store (.markNotified _) => .markNotified
  | .channel (.connectProducer _) => .connectProducer
  | .channel (.publish _ _) => .publish
  | .channel (.closeProducer _) => .closeProducer
  | .channel (.connectConsumer _) => .connectConsumer
  | .channel (.ack _ _) => .ack
  | .channel (.closeConsumer _) => .closeConsumer

/-- How a call is made to fail. -/
inductive FaultKind where
  | database (message : String)
  | notFound
  | validation
  | closed
  | notConnected
  deriving DecidableEq, Repr

namespace FaultKind

/-- The failure of a call on the store. -/
def onStore : FaultKind → StoreError
  | .database message => .database message
  | .notFound => .notFound 42
  | .validation => .validation .notifyTimeOutOfRange
  | .closed => .database ChannelError.closed.message
  | .notConnected => .database ChannelError.notConnected.message

/-- The failure of a call on a handle. -/
def onChannel : FaultKind → ChannelError
  | .database message => .database message
  | .closed => .closed
  | .notConnected => .notConnected
  | .notFound => .database (StoreError.notFound 42).message
  | .validation => .database Violation.notifyTimeOutOfRange.message

end FaultKind

/-- The failure of a call. -/
def Call.failureOf : (c : Call) → FaultKind → c.Failure
  | .store _, kind => kind.onStore
  | .channel _, kind => kind.onChannel

/-- What is laid on a call: how many milliseconds it takes, and how it then fails. -/
structure Fault where
  delay : Nat := 0
  failure : Option FaultKind := none
  deriving DecidableEq, Repr

/-- The milliseconds that a call is held up. -/
def Fault.wait (f : Fault) : Nat :=
  min f.delay longestWait

/-! ### Notes -/

/-- What came of a call. -/
inductive Note where
  | done
  | count (n : Nat)
  | number (n : Int)
  /-- The tag of what was received, if anything was. -/
  | received (tag : Option Int)
  | storeError (e : StoreError)
  | channelError (e : ChannelError)
  deriving DecidableEq

/-- The note on the reply of the store. -/
def StoreCall.note : (c : StoreCall) → c.Reply → Note
  | .all _, (events : List Event) => .count events.length
  | .range _ _, (events : List Event) => .count events.length
  | .due _, (events : List Event) => .count events.length
  | .purge _, (n : Nat) => .count n
  | .connect, _ | .close, _ | .insert _, _ | .update _, _ | .delete _, _ | .get _, _
  | .busy _ _ _, _ | .markNotified _, _ => .done

/-- The note on a success of a handle. -/
def ChannelCall.note : ChannelCall → Note
  | .publish _ reminder => .number reminder.id
  | .ack _ tag => .number tag
  | _ => .done

/-- The note on the outcome of a call. -/
def Call.note : (c : Call) → c.Outcome → Note
  | .store c, .ok reply => c.note reply
  | .store _, .error e => .storeError e
  | .channel c, .ok _ => c.note
  | .channel _, .error e => .channelError e

/-- The note on what was received. -/
def Note.ofReceipt : Except ChannelError (Option Delivery) → Note
  | .ok d => .received (d.map (·.tag))
  | .error e => .channelError e

end Datebook
