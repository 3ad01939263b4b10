import Datebook.Proofs.Service.Answers
import Mathlib.Data.List.TakeWhile

/-!
# The ledger of a queue

Beside a queue a ledger is kept of what becomes of its messages: which payloads were accepted, each
under its tag, what was delivered, which tags were acknowledged while their messages were in flight,
and which were discarded because their messages do not decode.

Any number of producers and consumers reach the queue through handles, of which each may be
connected, used and closed at any time; besides, payloads of any form are pushed, and what is in
flight is put back. A consumer that has to wait looks again each time it is woken, so that one
receipt may be several acts. Whatever is done, and through whichever handle, only four things can
happen to the queue, and the ledger has an entry for each of them.

## Main definitions

* `Datebook.MessageQueue.Ledger`, with the entries `Datebook.MessageQueue.Ledger.push`,
  `Datebook.MessageQueue.Ledger.take`, `Datebook.MessageQueue.Ledger.ack` and
  `Datebook.MessageQueue.Ledger.requeue`
* `Datebook.Exchange`, `Datebook.Exchange.Act`, `Datebook.Exchange.run`
* `Datebook.MessageQueue.Ledger.Forward`: what may be entered while nothing is put back.

## Main results

* `Datebook.MessageQueue.InOrder.take_dropped_cases`: what is delivered and what is dropped.
* `Datebook.Exchange.step_cases`: what an act enters in the ledger.
-/

namespace Datebook

namespace MessageQueue

/-- The messages that are dropped when the next one is to be delivered: those in front of it, which
do not decode. -/
def dropped (q : MessageQueue) : List Message :=
  q.ready.takeWhile fun m => (Reminder.decode m.payload).toOption.isNone

/-- A queue with the record of what became of its messages. -/
structure Ledger where
  queue : MessageQueue := {}
  /-- The payloads that were accepted, in order, each with its tag. -/
  accepted : List (Int × Json.Bytes) := []
  /-- What was delivered, in order. -/
  delivered : List Delivery := []
  /-- The tags by which messages in flight were acknowledged. -/
  acknowledged : List Int := []
  /-- The tags of the messages that were dropped because they do not decode. -/
  discarded : List Int := []

namespace Ledger

variable (l : Ledger)

/-- Enter that a payload was accepted. -/
def push (payload : Json.Bytes) : Ledger :=
  { l with
    queue := l.queue.push payload
    accepted := l.accepted ++ [(l.queue.lastTag + 1, payload)] }

/-- Enter what a look at the queue delivers, and what it drops before that. -/
def take : Ledger :=
  { l with
    queue := l.queue.take.2
    delivered := l.delivered ++ l.queue.take.1.toList
    discarded := l.discarded ++ l.queue.dropped.map Message.tag }

/-- Enter an acknowledgement, if it is one of a message in flight. -/
def ack (tag : Int) : Ledger :=
  { l with
    queue := l.queue.ack tag
    acknowledged := l.acknowledged ++
      if l.queue.mode = .manual ∧ tag ∈ l.queue.inFlight.map Message.tag then [tag] else [] }

/-- Put back what is in flight; there is nothing to enter. -/
def requeue : Ledger :=
  { l with queue := l.queue.requeue }

/-- What may be entered in a ledger while nothing is put back. -/
inductive Forward (l : Ledger) : Ledger → Prop
  | nothing : Forward l l
  | push (payload : Json.Bytes) : Forward l (l.push payload)
  | take : Forward l l.take
  | ack (tag : Int) : Forward l (l.ack tag)

theorem Forward.inOrder {l l' : Ledger} (h : l.Forward l') (horder : l.queue.InOrder) :
    l'.queue.InOrder := by
  cases h with
  | nothing => exact horder
  | push payload => exact horder.push payload
  | take => exact horder.take
  | ack tag => exact horder.ack tag

theorem Forward.mode_eq {l l' : Ledger} (h : l.Forward l') : l'.queue.mode = l.queue.mode := by
  cases h with
  | nothing | push => rfl
  | take => exact mode_take l.queue
  | ack tag => exact mode_ack l.queue tag

end Ledger

/-! ### Deliveries -/

variable {q : MessageQueue}

theorem unreadable_iff {m : Message} :
    m.Unreadable ↔ (Reminder.decode m.payload).toOption.isNone = true := by
  rw [Message.Unreadable]
  cases Reminder.decode m.payload <;> simp [Except.toOption]

theorem unreadable_of_mem_dropped {m : Message} (h : m ∈ q.dropped) : m.Unreadable := by
  have hnone := List.mem_takeWhile_imp h
  exact unreadable_iff.mpr hnone

/-- Where no message is readable all are dropped, and otherwise those before the first readable one,
which is delivered. -/
theorem InOrder.take_dropped_cases (h : q.InOrder) :
    q.take = (none, { q with ready := [] }) ∧ q.dropped = q.ready ∧
        (∀ m ∈ q.ready, m.Unreadable) ∨
      ∃ m r rest, q.ready = q.dropped ++ m :: rest ∧ (∀ n ∈ q.dropped, n.Unreadable) ∧
        Reminder.decode m.payload = .ok r ∧
        q.take = (some ⟨m.tag, r, m.redelivered⟩,
          { q with
            ready := rest
            inFlight := if q.mode = .manual then q.inFlight ++ [m] else q.inFlight }) := by
  rcases h.take_cases with ⟨htake, hnone⟩ | ⟨before, m, r, rest, hready, hbefore, hread, htake⟩
  · refine Or.inl ⟨htake, ?_, hnone⟩
    exact List.takeWhile_eq_self_iff.mpr fun m hm => unreadable_iff.mp (hnone m hm)
  · have hdropped : q.dropped = before := by
      rw [dropped, hready, List.takeWhile_append_of_pos fun n hn => unreadable_iff.mp (hbefore n hn),
        List.takeWhile_cons_of_neg (by simp [hread, Except.toOption]), List.append_nil]
    exact Or.inr ⟨m, r, rest, hdropped ▸ hready, hdropped ▸ hbefore, hread, htake⟩

end MessageQueue

/-! ### Handles -/

namespace Service

variable (s : Service)

/-- The payload that a call on a handle brings to the queue, with its tag. -/
def accepted? : ChannelCall → Option (Int × Json.Bytes)
  | .publish k r =>
    match (s.producer k).ensureOpen with
    | .ok () => some (s.queue.lastTag + 1, r.payload)
    | .error _ => none
  | _ => none

/-- The tag of the message that a call on a handle takes out of flight. -/
def acknowledged? : ChannelCall → Option Int
  | .ack k tag =>
    match (s.consumer k).ensureOpen with
    | .ok () =>
      if s.queue.mode = .manual ∧ tag ∈ s.queue.inFlight.map Message.tag then some tag else none
    | .error _ => none
  | _ => none

/-- The tags of the messages that are dropped when a consumer looks for a message. -/
def discarded (k : Nat) : List Int :=
  match (s.consumer k).ensureOpen with
  | .ok () => s.queue.dropped.map Message.tag
  | .error _ => []

/-- An open consumer looks at the queue. -/
theorem receive?_of_open {k : Nat} (h : (s.consumer k).ensureOpen = .ok ()) :
    (s.receive? k).2 = { s with queue := s.queue.take.2 } ∧ s.delivery? k = s.queue.take.1 := by
  have hlink : s.consumer k = .connected := by
    cases hlink : s.consumer k <;> simp_all [Link.ensureOpen]
  rw [delivery?, receive?, hlink]
  cases htake : s.queue.take with
  | mk delivery queue => cases delivery <;> simp

/-- A consumer that is not open does not look at the queue. -/
theorem receive?_of_not_open {k : Nat} {e : ChannelError}
    (h : (s.consumer k).ensureOpen = .error e) :
    (s.receive? k).2 = s ∧ s.delivery? k = none := by
  rw [delivery?, receive?]
  cases hlink : s.consumer k with
  | connected => simp [hlink, Link.ensureOpen] at h
  | disconnected | closed => exact ⟨rfl, rfl⟩

end Service

/-- A queue and its ledger with the handles that lead to the queue. -/
structure Exchange where
  ledger : MessageQueue.Ledger
  producers : List Link
  consumers : List Link

namespace Exchange

/-- What may be done with a queue. -/
inductive Act where
  /-- A call on a handle: to connect it, to publish, to acknowledge or to close it. -/
  | channel (c : ChannelCall)
  | push (payload : Json.Bytes)
  /-- A consumer looks for a message. -/
  | receive (consumer : Nat)
  | requeue

/-- The queue and the handles as parts of a service. -/
def service (x : Exchange) : Service where
  queue := x.ledger.queue
  producers := x.producers
  consumers := x.consumers

/-- The queue, the ledger and the handles after an act. -/
def step (x : Exchange) : Act → Exchange
  | .channel c =>
    let after := (x.service.answerChannel c).2
    { ledger := { x.ledger with
        queue := after.queue
        accepted := x.ledger.accepted ++ (x.service.accepted? c).toList
        acknowledged := x.ledger.acknowledged ++ (x.service.acknowledged? c).toList }
      producers := after.producers
      consumers := after.consumers }
  | .push payload => { x with ledger := x.ledger.push payload }
  | .receive k =>
    { x with
      ledger := { x.ledger with
        queue := (x.service.receive? k).2.queue
        delivered := x.ledger.delivered ++ (x.service.delivery? k).toList
        discarded := x.ledger.discarded ++ x.service.discarded k } }
  | .requeue => { x with ledger := x.ledger.requeue }

/-- The queue, the ledger and the handles after a list of acts. -/
def run (x : Exchange) : List Act → Exchange
  | [] => x
  | act :: acts => (x.step act).run acts

/-- An empty queue with handles in any state. -/
def opened (mode : AckMode) (producers consumers : List Link) : Exchange where
  ledger := { queue := { mode } }
  producers
  consumers

theorem run_append (x : Exchange) (acts more : List Act) :
    x.run (acts ++ more) = (x.run acts).run more := by
  induction acts generalizing x with
  | nil => rfl
  | cons act acts ih => exact ih (x.step act)

/-- Connecting and closing handles is not entered. -/
theorem ledger_step_channel (x : Exchange) {c : ChannelCall} (hpublish : ∀ k r, c ≠ .publish k r)
    (hack : ∀ k tag, c ≠ .ack k tag) : (x.step (.channel c)).ledger = x.ledger := by
  have hqueue : (x.service.answerChannel c).2.queue = x.ledger.queue := by
    rcases x.service.answerChannel_cases c with ⟨k, r, rfl, -⟩ | ⟨k, tag, rfl, -⟩ | ⟨-, hqueue, -⟩
    · exact absurd rfl (hpublish k r)
    · exact absurd rfl (hack k tag)
    · exact hqueue
  have haccepted : x.service.accepted? c = none := by
    cases c with
    | publish k r => exact absurd rfl (hpublish k r)
    | connectProducer | closeProducer | connectConsumer | ack | closeConsumer => rfl
  have hacknowledged : x.service.acknowledged? c = none := by
    cases c with
    | ack k tag => exact absurd rfl (hack k tag)
    | connectProducer | publish | closeProducer | connectConsumer | closeConsumer => rfl
  rw [step, hqueue, haccepted, hacknowledged, Option.toList_none, List.append_nil,
    Option.toList_none, List.append_nil]

/-- A call on a handle is entered as a push or as an acknowledgement, or not at all. -/
theorem forward_step_channel (x : Exchange) (c : ChannelCall) :
    x.ledger.Forward (x.step (.channel c)).ledger := by
  cases c with
  | publish k r =>
    cases hopen : (x.service.producer k).ensureOpen with
    | ok u =>
      have hpush : (x.step (.channel (.publish k r))).ledger = x.ledger.push r.payload := by
        simp only [step, Service.answerChannel, Service.accepted?, Service.acknowledged?, hopen,
          Option.toList_none, List.append_nil]
        rfl
      exact hpush ▸ .push r.payload
    | error e =>
      have hsame : (x.step (.channel (.publish k r))).ledger = x.ledger := by
        simp only [step, Service.answerChannel, Service.accepted?, Service.acknowledged?, hopen,
          Option.toList_none, List.append_nil]
        rfl
      exact hsame ▸ .nothing
  | ack k tag =>
    cases hopen : (x.service.consumer k).ensureOpen with
    | ok u =>
      have hack : (x.step (.channel (.ack k tag))).ledger = x.ledger.ack tag := by
        simp only [step, Service.answerChannel, Service.accepted?, Service.acknowledged?, hopen,
          Option.toList_none, List.append_nil, MessageQueue.Ledger.ack, apply_ite Option.toList]
        rfl
      exact hack ▸ .ack tag
    | error e =>
      have hsame : (x.step (.channel (.ack k tag))).ledger = x.ledger := by
        simp only [step, Service.answerChannel, Service.accepted?, Service.acknowledged?, hopen,
          Option.toList_none, List.append_nil]
        rfl
      exact hsame ▸ .nothing
  | connectProducer k | closeProducer k | connectConsumer k | closeConsumer k =>
    rw [x.ledger_step_channel (by simp) (by simp)]
    exact .nothing

/-- An act that is not the return of what is in flight is entered as a push, as a look at the queue
or as an acknowledgement, or not at all. -/
theorem step_cases (x : Exchange) (act : Act) :
    act = .requeue ∧ (x.step act).ledger = x.ledger.requeue ∨
      x.ledger.Forward (x.step act).ledger := by
  cases act with
  | requeue => exact Or.inl ⟨rfl, rfl⟩
  | push payload => exact Or.inr (.push payload)
  | channel c => exact Or.inr (x.forward_step_channel c)
  | receive k =>
    refine Or.inr ?_
    cases hopen : (x.service.consumer k).ensureOpen with
    | ok u =>
      obtain ⟨hservice, hdelivery⟩ := x.service.receive?_of_open hopen
      have htake : (x.step (.receive k)).ledger = x.ledger.take := by
        rw [step, hservice, hdelivery, Service.discarded, hopen]
        rfl
      exact htake ▸ .take
    | error e =>
      obtain ⟨hservice, hdelivery⟩ := x.service.receive?_of_not_open hopen
      have hsame : (x.step (.receive k)).ledger = x.ledger := by
        rw [step, hservice, hdelivery, Service.discarded, hopen, Option.toList_none,
          List.append_nil, List.append_nil]
        rfl
      exact hsame ▸ .nothing

/-- The mode of the queue never changes. -/
theorem mode_step (x : Exchange) (act : Act) :
    (x.step act).ledger.queue.mode = x.ledger.queue.mode := by
  rcases x.step_cases act with ⟨-, hrequeue⟩ | hforward
  · rw [hrequeue]
    rfl
  · exact hforward.mode_eq

theorem mode_run (x : Exchange) (acts : List Act) :
    (x.run acts).ledger.queue.mode = x.ledger.queue.mode := by
  induction acts generalizing x with
  | nil => rfl
  | cons act acts ih => exact (ih (x.step act)).trans (x.mode_step act)

end Exchange

end Datebook
