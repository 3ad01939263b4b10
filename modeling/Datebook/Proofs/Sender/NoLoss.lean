import Datebook.Proofs.EventStore.Operations
import Datebook.Proofs.Routine.Calls
import Datebook.Proofs.Service.Answers
import Datebook.Simulation.Fault

/-!
# No message is lost

Any number of handlings of deliveries are under way at once, on a service whose queue asks for
acknowledgements. They take turns call by call, with each other and with everybody else: clients
of the store, producers, consumers that receive, and whoever puts back what is in flight. A
delivery may be handled late, several times, or through another handle, and the database may fail
under any call of a handling.

In every order of these acts a readable message stays in the queue until a handling of it has
noted it in the store, and then acknowledges it: either the event it names was marked, or there
was no such event. A handling that fails has left the queue alone.

## Main definitions

* `Datebook.Sender.Handling`: a handling under way, with the calls it has made.
* `Datebook.Sender.Desk`, `Datebook.Sender.Act`, `Datebook.Sender.Desk.run`
* `Datebook.Sender.Progress`: how far a handling has come.
* `Datebook.Sender.Desk.Orderly`: the invariant.

## Main results

* `Datebook.Sender.Handling.proceed_cases`: what the next call of a handling does.
* `Datebook.Sender.Desk.Orderly.step`
* `Datebook.Sender.readable_leaves_handled`
-/

namespace Datebook

namespace Sender

/-! ### Handlings -/

/-- A call that was answered, with the services before and after it. -/
structure Answered where
  call : Call
  before : Service
  after : Service

/-- A handling under way: what is left of its routine, and the calls it has made so far. -/
structure Handling where
  delivery : Delivery
  rest : Routine (Except HandleError Handled)
  calls : List Answered := []

/-- The outcome of a call, under which the database fails where there is a message of its
failure. -/
def answerUnder (failure : Option String) (s : Service) (c : Call) : c.Outcome × Service :=
  match failure with
  | some message => (.error (c.failureOf (.database message)), s)
  | none => s.answer c

/-- Answering calls under a failure, if there is one. -/
def handlerUnder (failure : Option String) : Handler Service where
  answer c s := answerUnder failure s c
  enter phase s := { s with phase }

namespace Handling

/-- Make the next call, if there is one. -/
def proceed (failure : Option String) (h : Handling) (s : Service) : Handling × Service :=
  let out := h.rest.proceed (handlerUnder failure) s
  ({ h with
      rest := out.1
      calls := h.calls ++ (h.rest.nextCall?.map fun c => ⟨c, s, out.2⟩).toList }, out.2)

/-- The handling has ended with the event marked: a call of it has set the event's flag. -/
def Marked (h : Handling) : Prop :=
  h.rest = .done (.ok .marked) ∧
    ∃ x ∈ h.calls, x.call = .store (.markNotified h.delivery.reminder.id) ∧
      ∃ e, x.after.store.find? h.delivery.reminder.id = some e ∧ e.notified = true

/-- The handling has ended with the event missing: at a call of it there was no such event. -/
def Missed (h : Handling) : Prop :=
  h.rest = .done (.ok .missing) ∧
    ∃ x ∈ h.calls, x.call = .store (.markNotified h.delivery.reminder.id) ∧
      x.before.store.find? h.delivery.reminder.id = none

end Handling

/-! ### The desk -/

/-- A service, the deliveries that consumers have received, and the handlings of deliveries. -/
structure Desk where
  service : Service
  delivered : List Delivery := []
  handlings : List Handling := []

/-- What may be done at a desk. -/
inductive Act where
  /-- A call of anybody else. Acknowledging is left to the handlings. -/
  | call (c : Call)
  | push (payload : Json.Bytes)
  | requeue
  | receive (consumer : Nat)
  /-- Begin to handle a delivery, for a consumer. -/
  | start (consumer i : Nat)
  /-- Make the next call of a handling; the database may fail under it. -/
  | proceed (i : Nat) (failure : Option String)

namespace Desk

/-- The desk after an act. -/
def step (d : Desk) : Act → Desk
  | .call (.channel (.ack _ _)) => d
  | .call c => { d with service := (d.service.answer c).2 }
  | .push payload => { d with service.queue := d.service.queue.push payload }
  | .requeue => { d with service.queue := d.service.queue.requeue }
  | .receive k =>
    { d with
      service := (d.service.receive? k).2
      delivered := d.delivered ++ (d.service.delivery? k).toList }
  | .start k i =>
    match d.delivered[i]? with
    | some x =>
      { d with handlings := d.handlings ++ [⟨x, handle d.service.queue.mode k x, []⟩] }
    | none => d
  | .proceed i failure =>
    match d.handlings[i]? with
    | some h =>
      let out := h.proceed failure d.service
      { d with service := out.2, handlings := d.handlings.set i out.1 }
    | none => d

/-- The desk after a list of acts. -/
def run (d : Desk) : List Act → Desk
  | [] => d
  | act :: acts => (d.step act).run acts

/-- A desk with nothing in its queue, which asks for acknowledgements. -/
def opened (store : EventStore) (producers consumers : List Link) : Desk where
  service := { store, queue := { mode := .manual }, producers, consumers }

end Desk

/-! ### What a handling does -/

/-- Under a call that notes a delivery the database fails, or there is no such event, or the event
is marked. -/
theorem answerUnder_markNotified (failure : Option String) (s : Service) (id : Int) :
    (∃ message, answerUnder failure s (.store (.markNotified id)) =
        (.error (.database message), s)) ∨
      s.store.find? id = none ∧
        answerUnder failure s (.store (.markNotified id)) = (.error (.notFound id), s) ∨
      ∃ e, s.store.find? id = some e ∧
        answerUnder failure s (.store (.markNotified id)) =
          (.ok (), { s with store := s.store.marked id }) := by
  cases failure with
  | some message => exact Or.inl ⟨message, rfl⟩
  | none =>
    refine Or.inr ?_
    rw [answerUnder, Service.answer]
    rcases s.store.answer_markNotified_cases id with ⟨hnone, hanswer⟩ | ⟨e, he, hanswer⟩
    · rw [hanswer]
      exact Or.inl ⟨hnone, rfl⟩
    · rw [hanswer]
      exact Or.inr ⟨e, he, rfl⟩

/-- An acknowledgement fails and changes nothing, or the message is taken out. -/
theorem answerUnder_ack (failure : Option String) (s : Service) (k : Nat) (tag : Int) :
    (∃ e, answerUnder failure s (.channel (.ack k tag)) = (.error e, s)) ∨
      answerUnder failure s (.channel (.ack k tag)) =
        (.ok (), { s with queue := s.queue.ack tag }) := by
  cases failure with
  | some message => exact Or.inl ⟨.database message, rfl⟩
  | none => exact s.answer_ack_cases k tag

/-- A call has told what becomes of a delivery that names an event. -/
inductive Noted (id : Int) : Handled → Answered → Prop
  | marked (s : Service) (e : Event) (found : s.store.find? id = some e) :
      Noted id .marked ⟨.store (.markNotified id), s, { s with store := s.store.marked id }⟩
  | missing (s : Service) (gone : s.store.find? id = none) :
      Noted id .missing ⟨.store (.markNotified id), s, s⟩

theorem Noted.queue_eq {id : Int} {handled : Handled} {x : Answered} (h : Noted id handled x) :
    x.after.queue = x.before.queue := by
  cases h <;> rfl

/-- How far the handling of a delivery has come: what is left of it after the calls it has made. -/
inductive Progress (d : Delivery) :
    Routine (Except HandleError Handled) → List Answered → Prop
  | started (k : Nat) : Progress d (handle .manual k d) []
  | noted (k : Nat) (handled : Handled) (x : Answered) (h : Noted d.reminder.id handled x) :
      Progress d (settle .manual k d.tag handled) [x]
  | settled (handled : Handled) (x y : Answered) (h : Noted d.reminder.id handled x) :
      Progress d (.done (.ok handled)) [x, y]
  | failed (e : HandleError) (calls : List Answered)
      (same : ∀ x ∈ calls, x.after.queue = x.before.queue) : Progress d (.done (.error e)) calls

/-- The calls of a handling that has failed have left the queue alone. -/
theorem Progress.queue_eq_of_error {d : Delivery} {rest : Routine (Except HandleError Handled)}
    {calls : List Answered} (h : Progress d rest calls) {e : HandleError}
    (hrest : rest = .done (.error e)) : ∀ x ∈ calls, x.after.queue = x.before.queue := by
  cases h with
  | failed _ _ same => exact same
  | started | noted | settled => cases hrest

/-- A handling that has settled its delivery has noted it before. -/
theorem Handling.marked_or_missed {h : Handling} {handled : Handled} {x : Answered}
    (hrest : h.rest = .done (.ok handled)) (hx : x ∈ h.calls)
    (hnoted : Noted h.delivery.reminder.id handled x) : h.Marked ∨ h.Missed := by
  cases hnoted with
  | marked s e found =>
    exact Or.inl ⟨hrest, _, hx, rfl, _, EventStore.find?_marked found, rfl⟩
  | missing s gone => exact Or.inr ⟨hrest, _, hx, rfl, gone⟩

/-- The next call of a handling leaves the queue as it was, or it acknowledges the delivery and
ends the handling, which has marked the event or missed it. -/
theorem Handling.proceed_cases {h : Handling} (hp : Progress h.delivery h.rest h.calls)
    (failure : Option String) (s : Service) :
    let out := h.proceed failure s
    out.1.delivery = h.delivery ∧ Progress h.delivery out.1.rest out.1.calls ∧
      (out.2.queue = s.queue ∨
        out.2.queue = s.queue.ack h.delivery.tag ∧ (out.1.Marked ∨ out.1.Missed)) := by
  obtain ⟨d, rest, calls⟩ := h
  dsimp only at hp
  cases hp with
  | started k =>
    simp only [Handling.proceed, handle, Routine.proceed, Routine.nextCall?, handlerUnder,
      true_and]
    rcases answerUnder_markNotified failure s d.reminder.id with
      ⟨message, hout⟩ | ⟨hgone, hout⟩ | ⟨e, hfound, hout⟩
    · rw [hout]
      refine ⟨.failed _ _ ?_, Or.inl rfl⟩
      simp
    · rw [hout]
      exact ⟨.noted k .missing _ (.missing s hgone), Or.inl rfl⟩
    · rw [hout]
      exact ⟨.noted k .marked _ (.marked s e hfound), Or.inl rfl⟩
  | noted k handled x hnoted =>
    simp only [Handling.proceed, settle, Routine.proceed, Routine.nextCall?, handlerUnder,
      true_and]
    rcases answerUnder_ack failure s k d.tag with ⟨e, hout⟩ | hout
    · rw [hout]
      refine ⟨.failed _ _ ?_, Or.inl rfl⟩
      simp [hnoted.queue_eq]
    · rw [hout]
      refine ⟨.settled handled x _ hnoted, Or.inr ⟨rfl, ?_⟩⟩
      exact Handling.marked_or_missed rfl (List.mem_append_left _ List.mem_cons_self) hnoted
  | settled handled x y hnoted => exact ⟨rfl, .settled handled x y hnoted, Or.inl rfl⟩
  | failed e calls same =>
    refine ⟨rfl, .failed e _ fun x hx => same x ?_, Or.inl rfl⟩
    exact List.append_nil calls ▸ hx

/-! ### The invariant -/

namespace Desk

variable {d : Desk}

/-- The queue is in order and asks for acknowledgements, every delivery is of the message that
carries its tag if that is still there, and every handling is one of a delivery. -/
structure Orderly (d : Desk) : Prop where
  manual : d.service.queue.mode = .manual
  inOrder : d.service.queue.InOrder
  received : ∀ x ∈ d.delivered, x.tag ≤ d.service.queue.lastTag
  genuine : ∀ x ∈ d.delivered, ∀ payload, d.service.queue.Holds x.tag payload →
    Reminder.decode payload = .ok x.reminder
  handled : ∀ h ∈ d.handlings, h.delivery ∈ d.delivered ∧ Progress h.delivery h.rest h.calls

/-- A call is answered by the service, unless it is an acknowledgement. -/
theorem step_call_cases (d : Desk) (c : Call) :
    d.step (.call c) = d ∨
      (∀ k tag, c ≠ .channel (.ack k tag)) ∧
        d.step (.call c) = { d with service := (d.service.answer c).2 } := by
  cases c with
  | store c => exact Or.inr ⟨by simp, rfl⟩
  | channel c =>
    cases c with
    | ack k tag => exact Or.inl rfl
    | connectProducer | publish | closeProducer | connectConsumer | closeConsumer =>
      exact Or.inr ⟨by simp, rfl⟩

theorem orderly_opened (store : EventStore) (producers consumers : List Link) :
    (opened store producers consumers).Orderly where
  manual := rfl
  inOrder := MessageQueue.inOrder_empty .manual
  received := by simp [opened]
  genuine := by simp [opened]
  handled := by simp [opened]

namespace Orderly

/-- The service may be exchanged for one with a queue that follows. -/
theorem of_follows (h : d.Orderly) {s : Service} (hs : d.service.queue.Follows s.queue) :
    ({ d with service := s } : Desk).Orderly where
  manual := hs.mode_eq.trans h.manual
  inOrder := hs.inOrder
  received x hx := Int.le_trans (h.received x hx) hs.lastTag_le
  genuine x hx payload hheld :=
    h.genuine x hx payload (hs.holds _ _ (h.received x hx) hheld)
  handled := h.handled

/-- A consumer may receive. -/
theorem receive (h : d.Orderly) (k : Nat) : (d.step (.receive k)).Orderly := by
  rw [Desk.step]
  rcases d.service.receive?_cases k with ⟨hservice, hdelivery⟩ | ⟨hservice, hdelivery⟩
  · rw [hservice, hdelivery, Option.toList_none, List.append_nil]
    exact h
  rw [hservice, hdelivery]
  have hfollows : d.service.queue.Follows d.service.queue.take.2 := h.inOrder.follows_take
  have hd : ({ d with service.queue := d.service.queue.take.2 } : Desk).Orderly :=
    h.of_follows hfollows
  refine ⟨hd.manual, hd.inOrder, ?_, ?_, ?_⟩
  · intro y hy
    rcases List.mem_append.mp hy with hy | hy
    · exact hd.received y hy
    · obtain ⟨payload, hheld, -⟩ :=
        MessageQueue.holds_of_take_eq_some (Option.mem_toList.mp hy) h.inOrder
      exact Int.le_trans (hheld.tag_le h.inOrder) hfollows.lastTag_le
  · intro y hy other hother
    rcases List.mem_append.mp hy with hy | hy
    · exact hd.genuine y hy other hother
    · obtain ⟨payload, hheld, hread⟩ :=
        MessageQueue.holds_of_take_eq_some (Option.mem_toList.mp hy) h.inOrder
      have hbefore : d.service.queue.Holds y.tag other :=
        hfollows.holds _ _ (hheld.tag_le h.inOrder) hother
      rw [hbefore.payload_eq hheld h.inOrder, hread]
  · intro y hy
    exact ⟨List.mem_append_left _ (hd.handled y hy).1, (hd.handled y hy).2⟩

/-- The next call of a handling leaves the desk in order. -/
theorem proceed (h : d.Orderly) {i : Nat} {y : Handling} (hy : d.handlings[i]? = some y)
    (failure : Option String) :
    ({ d with
      service := (y.proceed failure d.service).2
      handlings := d.handlings.set i (y.proceed failure d.service).1 } : Desk).Orderly := by
  obtain ⟨hmem, hprogress⟩ := h.handled y (List.mem_of_getElem? hy)
  obtain ⟨hdelivery, hnext, hqueue⟩ := Handling.proceed_cases hprogress failure d.service
  have hfollows : d.service.queue.Follows (y.proceed failure d.service).2.queue := by
    rcases hqueue with hqueue | ⟨hqueue, -⟩
    · exact hqueue ▸ h.inOrder.follows_self
    · exact hqueue ▸ h.inOrder.follows_ack _
  have hd := h.of_follows hfollows
  refine ⟨hd.manual, hd.inOrder, hd.received, hd.genuine, ?_⟩
  intro z hz
  rcases List.mem_or_eq_of_mem_set hz with hz | rfl
  · exact h.handled z hz
  · rw [hdelivery]
    exact ⟨hmem, hnext⟩

/-- Every act leaves the desk in order. -/
theorem step (h : d.Orderly) (act : Act) : (d.step act).Orderly := by
  cases act with
  | call c =>
    rcases d.step_call_cases c with hsame | ⟨-, hanswer⟩
    · rw [hsame]
      exact h
    · rw [hanswer]
      exact h.of_follows (Service.follows_answer h.inOrder c)
  | push payload => exact h.of_follows (h.inOrder.follows_push payload)
  | requeue => exact h.of_follows h.inOrder.follows_requeue
  | receive k => exact h.receive k
  | start k i =>
    rw [Desk.step]
    split
    · next x hx =>
      refine ⟨h.manual, h.inOrder, h.received, h.genuine, ?_⟩
      intro y hy
      rcases List.mem_append.mp hy with hy | hy
      · exact h.handled y hy
      · obtain rfl := List.mem_singleton.mp hy
        rw [h.manual]
        exact ⟨List.mem_of_getElem? hx, .started k⟩
    · exact h
  | proceed i failure =>
    rw [Desk.step]
    split
    · next y hy => exact h.proceed hy failure
    · exact h

theorem run (h : d.Orderly) (acts : List Act) : (d.run acts).Orderly := by
  induction acts generalizing d with
  | nil => exact h
  | cons act acts ih => exact ih (h.step act)

end Orderly

/-! ### Messages that leave -/

/-- A readable message stays through every act but the call that ends a handling of it. -/
theorem Orderly.holds_step (h : d.Orderly) {tag : Int} {payload : Json.Bytes} {r : Reminder}
    (hheld : d.service.queue.Holds tag payload) (hread : Reminder.decode payload = .ok r)
    (act : Act) :
    (d.step act).service.queue.Holds tag payload ∨
      ∃ i failure y, act = .proceed i failure ∧ (d.step act).handlings[i]? = some y ∧
        y.delivery.tag = tag ∧ y.delivery.reminder = r ∧ (y.Marked ∨ y.Missed) := by
  cases act with
  | call c =>
    refine Or.inl ?_
    rcases d.step_call_cases c with hsame | ⟨hne, hanswer⟩
    · rw [hsame]
      exact hheld
    · rw [hanswer]
      exact Service.holds_answer hheld hne
  | push pushed => exact Or.inl (MessageQueue.holds_push_iff.mpr (Or.inl hheld))
  | requeue => exact Or.inl (MessageQueue.holds_requeue_iff.mpr hheld)
  | receive k =>
    have htake := hheld.take h.inOrder h.manual hread
    refine Or.inl ?_
    rw [Desk.step]
    rcases d.service.receive?_cases k with ⟨hservice, -⟩ | ⟨hservice, -⟩
    · rw [hservice]
      exact hheld
    · rw [hservice]
      exact htake
  | start k i =>
    rw [Desk.step]
    split <;> exact Or.inl hheld
  | proceed i failure =>
    rw [Desk.step]
    split
    · next y hy =>
      obtain ⟨hmem, hprogress⟩ := h.handled y (List.mem_of_getElem? hy)
      obtain ⟨hdelivery, -, hqueue⟩ := Handling.proceed_cases hprogress failure d.service
      rcases hqueue with hqueue | ⟨hqueue, hended⟩
      · exact Or.inl (by rw [hqueue]; exact hheld)
      by_cases htag : tag = y.delivery.tag
      · -- The message that leaves is the one that was delivered.
        have hgenuine := h.genuine _ hmem payload (htag ▸ hheld)
        rw [hread, Except.ok.injEq] at hgenuine
        obtain ⟨hi, -⟩ := List.getElem?_eq_some_iff.mp hy
        refine Or.inr ⟨i, failure, (y.proceed failure d.service).1, rfl, ?_, ?_, ?_, hended⟩
        · exact List.getElem?_set_self hi
        · rw [hdelivery, htag]
        · rw [hdelivery, hgenuine]
      · exact Or.inl (by rw [hqueue]; exact hheld.ack htag)
    · exact Or.inl hheld

end Desk

/-- **No message is lost.** At a desk that was opened with an empty queue, whatever was done since,
an act after which a readable message is no longer in the queue is the call that ends a handling of
the delivery with the tag of the message; that handling has marked the event that the message names,
or has found that there is none. And a handling that has failed has changed nothing in the queue by
any call. -/
theorem readable_leaves_handled (store : EventStore) (producers consumers : List Link)
    (acts : List Act) (act : Act) :
    let before := (Desk.opened store producers consumers).run acts
    let after := before.step act
    (∀ tag payload r, before.service.queue.Holds tag payload →
        Reminder.decode payload = .ok r → ¬ after.service.queue.Holds tag payload →
        ∃ i failure h, act = .proceed i failure ∧ after.handlings[i]? = some h ∧
          h.delivery.tag = tag ∧ h.delivery.reminder = r ∧ (h.Marked ∨ h.Missed)) ∧
      ∀ h ∈ after.handlings, ∀ e, h.rest = .done (.error e) →
        ∀ x ∈ h.calls, x.after.queue = x.before.queue := by
  intro before after
  have hbefore : before.Orderly := (Desk.orderly_opened store producers consumers).run acts
  constructor
  · intro tag payload r hheld hread hgone
    exact (hbefore.holds_step hheld hread act).resolve_left hgone
  · intro h hmem e hrest
    exact ((hbefore.step act).handled h hmem).2.queue_eq_of_error hrest

/-- The message of an event that is gone stays until its delivery is acknowledged. -/
example :
    let published : Call := .channel (.publish 0 ⟨1, "e", .epoch, 1⟩)
    let before := (Desk.opened {} [.connected] [.connected]).run
      [.call published, .receive 0, .start 0 0, .proceed 0 none]
    before.service.queue.messages.map Message.tag = [1] ∧
      (before.step (.proceed 0 none)).service.queue.messages = [] := by
  decide +kernel

end Sender

end Datebook
