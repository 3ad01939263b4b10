import Datebook.EventStore.Call
import Datebook.Queue.MessageQueue

/-!
# The service and the calls on it

A service is a store, a queue with its handles, and the phase its scheduler is in. Its parts
work by calls on the store and on the handles; every call is answered at once.

Receiving is no call, because a consumer may have to wait for a message:
`Datebook.Service.receive?` gives nothing where it would.

## Main definitions

* `Datebook.Service`
* `Datebook.Call`, `Datebook.Call.Outcome`
* `Datebook.Service.answer`: the outcome of a call, and the service after it
* `Datebook.Service.receive?`
-/

namespace Datebook

/-- What the scheduler is doing. -/
inductive SchedulerPhase where
  | idle
  | scanning
  | publishing
  | purging
  | stopped
  deriving DecidableEq, Repr

/-- An operation on a handle, which the number names. -/
inductive ChannelCall where
  | connectProducer (producer : Nat)
  | publish (producer : Nat) (reminder : Reminder)
  | closeProducer (producer : Nat)
  | connectConsumer (consumer : Nat)
  | ack (consumer : Nat) (tag : Int)
  | closeConsumer (consumer : Nat)
  deriving DecidableEq

/-- An operation on the store or on a handle. -/
inductive Call where
  | store (c : StoreCall)
  | channel (c : ChannelCall)
  deriving DecidableEq

namespace Call

/-- What a call gives back where it succeeds. -/
def Reply : Call → Type
  | .store c => c.Reply
  | .channel _ => Unit

/-- What a call gives back where it fails. -/
def Failure : Call → Type
  | .store _ => StoreError
  | .channel _ => ChannelError

/-- What comes of a call. -/
abbrev Outcome (c : Call) : Type :=
  Except c.Failure c.Reply

end Call

/-- The parts that calls act on. -/
structure Service where
  store : EventStore := {}
  queue : MessageQueue := {}
  producers : List Link := []
  consumers : List Link := []
  phase : SchedulerPhase := .idle
  deriving DecidableEq

namespace Service

/-- The state of a producer's handle. -/
def producer (s : Service) (p : Nat) : Link :=
  s.producers.getD p .disconnected

/-- The state of a consumer's handle. -/
def consumer (s : Service) (c : Nat) : Link :=
  s.consumers.getD c .disconnected

/-- The outcome of an operation on a handle, and the service after it. -/
def answerChannel (s : Service) : ChannelCall → Except ChannelError Unit × Service
  | .connectProducer p =>
    match (s.producer p).connect with
    | .ok link => (.ok (), { s with producers := s.producers.set p link })
    | .error e => (.error e, s)
  | .publish p reminder =>
    match (s.producer p).ensureOpen with
    | .ok () => (.ok (), { s with queue := s.queue.push reminder.payload })
    | .error e => (.error e, s)
  | .closeProducer p => (.ok (), { s with producers := s.producers.set p .closed })
  | .connectConsumer c =>
    match (s.consumer c).connect with
    | .ok link => (.ok (), { s with consumers := s.consumers.set c link })
    | .error e => (.error e, s)
  | .ack c tag =>
    match (s.consumer c).ensureOpen with
    | .ok () => (.ok (), { s with queue := s.queue.ack tag })
    | .error e => (.error e, s)
  | .closeConsumer c => (.ok (), { s with consumers := s.consumers.set c .closed })

/-- The outcome of a call, and the service after it. -/
def answer (s : Service) : (c : Call) → c.Outcome × Service
  | .store c =>
    let (outcome, store) := s.store.answer c
    (outcome, { s with store })
  | .channel c => s.answerChannel c

/-- What a consumer receives: a delivery, or nothing any more once its handle is closed.
Gives `none` where the consumer has to wait. -/
def receive? (s : Service) (c : Nat) :
    Option (Except ChannelError (Option Delivery)) × Service :=
  match s.consumer c with
  | .disconnected => (some (.error .notConnected), s)
  | .closed => (some (.ok none), s)
  | .connected =>
    match s.queue.take with
    | (some d, queue) => (some (.ok (some d)), { s with queue })
    | (none, queue) => (none, { s with queue })

end Service

end Datebook
