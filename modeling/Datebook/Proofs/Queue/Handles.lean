import Datebook.Proofs.Queue.Ledger

/-!
# Handles that are not open

A queue is reached through handles, and each act on a handle first looks at its link. Where the link
is not open the act is refused and nothing happens; once a handle is closed its link never changes
again. Closing a handle changes its own link and nothing else, so that everybody else goes on as if
the handle had only fallen silent. What was received through it stays in flight until another
consumer acknowledges it or all that is in flight is put back.

## Main definitions

* `Datebook.Handle`, `Datebook.Service.linkOf`
* `Datebook.Service.run`, `Datebook.Service.replies`: acts on the queue of a service, and what they
  give back.
* `Datebook.Exchange.Act.unconnected`, `Datebook.Exchange.Act.closed`: what an act on a handle gives
  back that was never connected, or was closed.

## Main results

* `Datebook.Service.linkOf_run_of_notMem`, `Datebook.Service.linkOf_run_of_mem`
* `Datebook.Service.after_of_unconnected`, `Datebook.Service.after_of_closed`: what is refused
  leaves the service as it is.
* `Datebook.Service.run_after_closing`: a handle that is closed falls silent.
* `Datebook.Service.mem_inFlight_run_or_exists`: how messages get out of flight.
-/

namespace Datebook

/-- A handle on a queue: the producer or the consumer with a number. -/
inductive Handle where
  | producer (number : Nat)
  | consumer (number : Nat)
  deriving DecidableEq, Repr

namespace Handle

/-- The call that connects the handle. -/
def connecting : Handle → ChannelCall
  | .producer p => .connectProducer p
  | .consumer c => .connectConsumer c

/-- The call that closes the handle. -/
def closing : Handle → ChannelCall
  | .producer p => .closeProducer p
  | .consumer c => .closeConsumer c

end Handle

/-- The handle that a call is made on. -/
def ChannelCall.handle : ChannelCall → Handle
  | .connectProducer p | .publish p _ | .closeProducer p => .producer p
  | .connectConsumer c | .ack c _ | .closeConsumer c => .consumer c

/-- What a call that is let through does to the queue. -/
def ChannelCall.work : ChannelCall → MessageQueue → MessageQueue
  | .publish _ reminder, q => q.push reminder.payload
  | .ack _ tag, q => q.ack tag
  | .connectProducer _, q | .closeProducer _, q | .connectConsumer _, q | .closeConsumer _, q => q

namespace Exchange.Act

/-- The handle of which an act makes use. -/
def handle? : Act → Option Handle
  | .channel c => some c.handle
  | .receive c => some (.consumer c)
  | .push _ | .requeue => none

theorem handle?_closing (h : Handle) : (channel h.closing).handle? = some h := by
  cases h <;> rfl

/-- The act publishes, acknowledges or receives through the handle. -/
def Uses (act : Act) (h : Handle) : Prop :=
  act.handle? = some h ∧ act ≠ .channel h.connecting ∧ act ≠ .channel h.closing

end Exchange.Act

open Exchange (Act)

namespace Service

/-! ### Acts on a queue -/

/-- What an act on a queue gives back. -/
inductive Reply where
  | outcome (o : Except ChannelError Unit)
  /-- What is received, which is not there while the consumer has to wait. -/
  | receipt (o : Option (Except ChannelError (Option Delivery)))
  | pushed
  | requeued (count : Nat)
  deriving DecidableEq

/-- What an act gives back. -/
def reply (s : Service) : Act → Reply
  | .channel c => .outcome (s.answerChannel c).1
  | .push _ => .pushed
  | .receive c => .receipt (s.receive? c).1
  | .requeue => .requeued s.queue.inFlight.length

/-- The service after an act. -/
def after (s : Service) : Act → Service
  | .channel c => (s.answerChannel c).2
  | .push payload => { s with queue := s.queue.push payload }
  | .receive c => (s.receive? c).2
  | .requeue => { s with queue := s.queue.requeue }

/-- The service after a list of acts. -/
def run (s : Service) : List Act → Service
  | [] => s
  | act :: acts => (s.after act).run acts

/-- What each of a list of acts gives back. -/
def replies (s : Service) : List Act → List (Act × Reply)
  | [] => []
  | act :: acts => (act, s.reply act) :: (s.after act).replies acts

/-- An empty queue with a number of handles that were never connected. -/
def fresh (mode : AckMode) (producers consumers : Nat) : Service where
  queue := { mode }
  producers := .replicate producers .disconnected
  consumers := .replicate consumers .disconnected

theorem run_append (s : Service) (acts more : List Act) :
    s.run (acts ++ more) = (s.run acts).run more := by
  induction acts generalizing s with
  | nil => rfl
  | cons act acts ih => exact ih (s.after act)

variable {s : Service} {h other : Handle} {link new : Link} {act : Act}

/-! ### The links of handles -/

/-- The state of a handle. -/
def linkOf (s : Service) : Handle → Link
  | .producer p => s.producer p
  | .consumer c => s.consumer c

/-- There is such a handle. -/
def HasHandle (s : Service) : Handle → Prop
  | .producer p => p < s.producers.length
  | .consumer c => c < s.consumers.length

/-- The service with a handle in another state. -/
def withLink (s : Service) (link : Link) : Handle → Service
  | .producer p => { s with producers := s.producers.set p link }
  | .consumer c => { s with consumers := s.consumers.set c link }

@[simp]
theorem queue_withLink : (s.withLink link h).queue = s.queue := by
  cases h <;> rfl

@[simp]
theorem linkOf_queue {queue : MessageQueue} :
    ({ s with queue } : Service).linkOf h = s.linkOf h := by
  cases h <;> rfl

theorem withLink_queue {queue : MessageQueue} :
    ({ s with queue } : Service).withLink link h = { s.withLink link h with queue } := by
  cases h <;> rfl

@[simp]
theorem hasHandle_withLink : (s.withLink link other).HasHandle h ↔ s.HasHandle h := by
  cases h <;> cases other <;> simp [HasHandle, withLink]

theorem linkOf_withLink_self (hhas : s.HasHandle h) : (s.withLink link h).linkOf h = link := by
  cases h with
  | producer p =>
    rw [linkOf, withLink, producer, List.getD_eq_getElem?_getD, List.getElem?_set_self hhas]
    rfl
  | consumer c =>
    rw [linkOf, withLink, consumer, List.getD_eq_getElem?_getD, List.getElem?_set_self hhas]
    rfl

theorem linkOf_withLink_of_ne (hne : other ≠ h) :
    (s.withLink link h).linkOf other = s.linkOf other := by
  cases h <;> cases other <;>
    simp_all [linkOf, withLink, producer, consumer, List.getD_eq_getElem?_getD,
      List.getElem?_set_ne, Ne.symm]

/-- Different handles are set independently of each other. -/
theorem withLink_comm (hne : other ≠ h) :
    (s.withLink link h).withLink new other = (s.withLink new other).withLink link h := by
  cases h <;> cases other <;> simp_all [withLink, List.set_comm]

theorem set_getD (links : List Link) (i : Nat) :
    links.set i (links.getD i .disconnected) = links := by
  by_cases hi : i < links.length
  · rw [List.getD_eq_getElem?_getD, List.getElem?_eq_getElem hi, Option.getD_some,
      List.set_getElem_self]
  · rw [List.set_eq_of_length_le (Nat.not_lt.mp hi)]

/-- To set a handle to the state it is in changes nothing. -/
theorem withLink_linkOf : s.withLink (s.linkOf h) h = s := by
  cases h with
  | producer p => rw [withLink, linkOf, producer, set_getD]
  | consumer c => rw [withLink, linkOf, consumer, set_getD]

/-! ### Acts by their handles -/

theorem answerChannel_connecting (s : Service) (h : Handle) :
    s.answerChannel h.connecting =
      match (s.linkOf h).connect with
      | .ok link => (.ok (), s.withLink link h)
      | .error e => (.error e, s) := by
  cases h <;> rfl

theorem answerChannel_closing (s : Service) (h : Handle) :
    s.answerChannel h.closing = (.ok (), s.withLink .closed h) := by
  cases h <;> rfl

/-- A call that neither connects nor closes its handle works on the queue, if the handle is open. -/
theorem answerChannel_eq (s : Service) {c : ChannelCall} (hconnect : c ≠ c.handle.connecting)
    (hclose : c ≠ c.handle.closing) :
    s.answerChannel c =
      match (s.linkOf c.handle).ensureOpen with
      | .ok () => (.ok (), { s with queue := c.work s.queue })
      | .error e => (.error e, s) := by
  cases c with
  | publish | ack => rfl
  | connectProducer | connectConsumer => exact absurd rfl hconnect
  | closeProducer | closeConsumer => exact absurd rfl hclose

/-- What a consumer receives, by the state of its handle. -/
theorem receive?_eq (s : Service) (c : Nat) :
    s.receive? c =
      match s.linkOf (.consumer c) with
      | .disconnected => (some (.error .notConnected), s)
      | .closed => (some (.ok none), s)
      | .connected =>
        (s.queue.take.1.map fun d => .ok (some d), { s with queue := s.queue.take.2 }) := by
  rw [receive?, linkOf]
  cases s.consumer c with
  | disconnected | closed => rfl
  | connected =>
    cases htake : s.queue.take with
    | mk delivery queue => cases delivery <;> simp

/-- An act connects or closes its handle, or leaves all handles as they are. -/
theorem after_cases (s : Service) (act : Act) :
    (∃ h : Handle, act = .channel h.connecting) ∨ (∃ h : Handle, act = .channel h.closing) ∨
      ∃ queue, s.after act = { s with queue } := by
  cases act with
  | push | requeue => exact Or.inr (Or.inr ⟨_, rfl⟩)
  | receive c =>
    refine Or.inr (Or.inr ?_)
    rw [after, receive?_eq]
    split
    · exact ⟨s.queue, rfl⟩
    · exact ⟨s.queue, rfl⟩
    · exact ⟨_, rfl⟩
  | channel c =>
    by_cases hconnect : c = c.handle.connecting
    · exact Or.inl ⟨_, congrArg Act.channel hconnect⟩
    by_cases hclose : c = c.handle.closing
    · exact Or.inr (Or.inl ⟨_, congrArg Act.channel hclose⟩)
    refine Or.inr (Or.inr ?_)
    rw [after, answerChannel_eq s hconnect hclose]
    split
    · exact ⟨_, rfl⟩
    · exact ⟨s.queue, rfl⟩

/-- There are as many handles as before. -/
theorem hasHandle_after : (s.after act).HasHandle h ↔ s.HasHandle h := by
  rcases s.after_cases act with ⟨other, rfl⟩ | ⟨other, rfl⟩ | ⟨queue, hafter⟩
  · rw [after, answerChannel_connecting]
    split
    · exact hasHandle_withLink
    · rfl
  · rw [after, answerChannel_closing]
    exact hasHandle_withLink
  · rw [hafter]
    cases h <;> rfl

theorem hasHandle_run {acts : List Act} : (s.run acts).HasHandle h ↔ s.HasHandle h := by
  induction acts generalizing s with
  | nil => rfl
  | cons act acts ih => exact ih.trans hasHandle_after

/-- Only to connect a handle and to close it changes its link. -/
theorem linkOf_after_of_ne (hconnect : act ≠ .channel h.connecting)
    (hclose : act ≠ .channel h.closing) : (s.after act).linkOf h = s.linkOf h := by
  rcases s.after_cases act with ⟨other, rfl⟩ | ⟨other, rfl⟩ | ⟨queue, hafter⟩
  · have hne : h ≠ other := fun heq => hconnect (heq ▸ rfl)
    rw [after, answerChannel_connecting]
    split
    · exact linkOf_withLink_of_ne hne
    · rfl
  · have hne : h ≠ other := fun heq => hclose (heq ▸ rfl)
    rw [after, answerChannel_closing]
    exact linkOf_withLink_of_ne hne
  · rw [hafter, linkOf_queue]

/-! ### Handles that are not open -/

end Service

namespace Exchange.Act

/-- What an act gives back that makes use of a handle which was never connected. -/
def unconnected : Act → Service.Reply
  | .receive _ => .receipt (some (.error .notConnected))
  | _ => .outcome (.error .notConnected)

/-- What an act on a closed handle gives back. -/
def closed : Act → Service.Reply
  | .receive _ => .receipt (some (.ok none))
  | .channel (.closeProducer _) | .channel (.closeConsumer _) => .outcome (.ok ())
  | _ => .outcome (.error .closed)

end Exchange.Act

namespace Service

variable {s : Service} {h : Handle} {act : Act}

/-- A handle that is not connected is of no use, and the service stays as it is. -/
theorem after_of_unconnected (hlink : s.linkOf h = .disconnected) (huses : act.Uses h) :
    s.after act = s ∧ s.reply act = act.unconnected := by
  obtain ⟨hhandle, hconnect, hclose⟩ := huses
  cases act with
  | push | requeue => cases hhandle
  | receive c =>
    obtain rfl := Option.some.inj hhandle
    rw [after, reply, receive?_eq, hlink]
    exact ⟨rfl, rfl⟩
  | channel c =>
    obtain rfl := Option.some.inj hhandle
    rw [after, reply, s.answerChannel_eq (fun heq => hconnect (congrArg _ heq))
      (fun heq => hclose (congrArg _ heq)), hlink]
    exact ⟨rfl, rfl⟩

/-- Whatever is done with a closed handle, the service stays as it is. -/
theorem after_of_closed (hlink : s.linkOf h = .closed) (hhandle : act.handle? = some h) :
    s.after act = s ∧ s.reply act = act.closed := by
  have hsame : s.withLink .closed h = s := hlink ▸ withLink_linkOf
  cases act with
  | push | requeue => cases hhandle
  | receive c =>
    obtain rfl := Option.some.inj hhandle
    rw [after, reply, receive?_eq, hlink]
    exact ⟨rfl, rfl⟩
  | channel c =>
    obtain rfl := Option.some.inj hhandle
    cases c with
    | closeProducer | closeConsumer => exact ⟨hsame, rfl⟩
    | connectProducer | publish | connectConsumer | ack =>
      simp only [linkOf, ChannelCall.handle] at hlink
      simp only [after, reply, answerChannel, hlink]
      exact ⟨rfl, rfl⟩

/-! ### Links over time -/

/-- Only handles that there are get connected or closed. -/
theorem hasHandle_of_linkOf_ne (hlink : s.linkOf h ≠ .disconnected) : s.HasHandle h := by
  cases h with
  | producer p =>
    refine Nat.not_le.mp fun hle => hlink ?_
    rw [linkOf, producer, List.getD_eq_getElem?_getD, List.getElem?_eq_none hle, Option.getD_none]
  | consumer c =>
    refine Nat.not_le.mp fun hle => hlink ?_
    rw [linkOf, consumer, List.getD_eq_getElem?_getD, List.getElem?_eq_none hle, Option.getD_none]

theorem linkOf_after_closing (hhas : s.HasHandle h) :
    (s.after (.channel h.closing)).linkOf h = .closed := by
  rw [after, answerChannel_closing]
  exact linkOf_withLink_self hhas

/-- Once a handle was connected only closing it changes its link. -/
theorem linkOf_after_of_ne_closing (hlink : s.linkOf h ≠ .disconnected)
    (hclose : act ≠ .channel h.closing) : (s.after act).linkOf h = s.linkOf h := by
  by_cases hconnect : act = .channel h.connecting
  · subst hconnect
    rw [after, answerChannel_connecting]
    cases hstate : s.linkOf h with
    | disconnected => exact absurd hstate hlink
    | connected => exact linkOf_withLink_self (hasHandle_of_linkOf_ne hlink)
    | closed => exact hstate
  · exact linkOf_after_of_ne hconnect hclose

/-- No handle becomes disconnected again. -/
theorem linkOf_after_ne (hlink : s.linkOf h ≠ .disconnected) (act : Act) :
    (s.after act).linkOf h ≠ .disconnected := by
  by_cases hclose : act = .channel h.closing
  · rw [hclose, linkOf_after_closing (hasHandle_of_linkOf_ne hlink)]
    decide
  · rwa [linkOf_after_of_ne_closing hlink hclose]

/-- A closed handle stays closed. -/
theorem linkOf_run_of_closed (hlink : s.linkOf h = .closed) (acts : List Act) :
    (s.run acts).linkOf h = .closed := by
  induction acts generalizing s with
  | nil => exact hlink
  | cons act acts ih =>
    refine ih ?_
    by_cases hclose : act = .channel h.closing
    · rw [hclose, linkOf_after_closing (hasHandle_of_linkOf_ne (by rw [hlink]; decide))]
    · rw [linkOf_after_of_ne_closing (by rw [hlink]; decide) hclose, hlink]

/-- A handle that was closed once is closed. -/
theorem linkOf_run_of_mem {acts : List Act} (hmem : .channel h.closing ∈ acts)
    (hhas : s.HasHandle h) : (s.run acts).linkOf h = .closed := by
  induction acts generalizing s with
  | nil => cases hmem
  | cons act acts ih =>
    rcases List.mem_cons.mp hmem with rfl | hmem
    · exact linkOf_run_of_closed (linkOf_after_closing hhas) acts
    · exact ih hmem (hasHandle_after.mpr hhas)

/-- A handle that was neither connected nor closed is as it was. -/
theorem linkOf_run_of_notMem {acts : List Act} (hconnect : .channel h.connecting ∉ acts)
    (hclose : .channel h.closing ∉ acts) : (s.run acts).linkOf h = s.linkOf h := by
  induction acts generalizing s with
  | nil => rfl
  | cons act acts ih =>
    rw [List.mem_cons, not_or] at hconnect hclose
    rw [run, ih hconnect.2 hclose.2, linkOf_after_of_ne (Ne.symm hconnect.1) (Ne.symm hclose.1)]

theorem linkOf_fresh (mode : AckMode) (producers consumers : Nat) (h : Handle) :
    (fresh mode producers consumers).linkOf h = .disconnected := by
  cases h <;>
    simp only [linkOf, fresh, producer, consumer, List.getD_eq_getElem?_getD,
      List.getElem?_replicate] <;>
    split <;> rfl

/-! ### Closing a handle -/

/-- Who makes use of another handle, or of none, does not see that a handle is closed. -/
theorem after_withLink_closed (s : Service) (hother : act.handle? ≠ some h) :
    (s.withLink .closed h).after act = (s.after act).withLink .closed h ∧
      (s.withLink .closed h).reply act = s.reply act := by
  cases act with
  | push | requeue => cases h <;> exact ⟨rfl, rfl⟩
  | receive c =>
    have hne : Handle.consumer c ≠ h := fun heq => hother (congrArg some heq)
    rw [after, after, reply, reply, receive?_eq, receive?_eq, linkOf_withLink_of_ne hne,
      queue_withLink]
    split
    · exact ⟨rfl, rfl⟩
    · exact ⟨rfl, rfl⟩
    · exact ⟨withLink_queue.symm, rfl⟩
  | channel c =>
    have hne : c.handle ≠ h := fun heq => hother (congrArg some heq)
    rw [after, after, reply, reply]
    by_cases hconnect : c = c.handle.connecting
    · rw [hconnect, answerChannel_connecting, answerChannel_connecting, linkOf_withLink_of_ne hne]
      split
      · exact ⟨withLink_comm hne, rfl⟩
      · exact ⟨rfl, rfl⟩
    by_cases hclose : c = c.handle.closing
    · rw [hclose, answerChannel_closing, answerChannel_closing]
      exact ⟨withLink_comm hne, rfl⟩
    rw [answerChannel_eq _ hconnect hclose, answerChannel_eq _ hconnect hclose,
      linkOf_withLink_of_ne hne, queue_withLink]
    split
    · exact ⟨withLink_queue.symm, rfl⟩
    · exact ⟨rfl, rfl⟩

/-- A handle that is closed falls silent: everybody else is given what they would have been given if
nothing more had been done with the handle, and the service comes to be the same but for it. -/
theorem run_after_closing (s : Service) (h : Handle) (hhas : s.HasHandle h) (acts : List Act) :
    (s.withLink .closed h).run acts =
        (s.run (acts.filter (·.handle? != some h))).withLink .closed h ∧
      ((s.withLink .closed h).replies acts).filter (·.1.handle? != some h) =
        s.replies (acts.filter (·.handle? != some h)) := by
  induction acts generalizing s with
  | nil => exact ⟨rfl, rfl⟩
  | cons act acts ih =>
    rw [run, replies]
    by_cases hhandle : act.handle? = some h
    · have hsame := (after_of_closed (linkOf_withLink_self hhas) hhandle).1
      rw [List.filter_cons_of_neg (by simp [hhandle]), List.filter_cons_of_neg (by simp [hhandle]),
        hsame]
      exact ih s hhas
    · obtain ⟨hafter, hreply⟩ := after_withLink_closed s hhandle
      obtain ⟨hrun, hreplies⟩ := ih (s.after act) (hasHandle_after.mpr hhas)
      rw [List.filter_cons_of_pos (by simp [hhandle]), List.filter_cons_of_pos (by simp [hhandle]),
        hafter, hreply, run, replies]
      exact ⟨hrun, congrArg _ hreplies⟩

/-! ### Messages in flight -/

end Service

namespace MessageQueue

variable {q : MessageQueue} {m : Message}

theorem mem_insertByTag {n : Message} {ms : List Message} :
    n ∈ insertByTag m ms ↔ n = m ∨ n ∈ ms := by
  induction ms with
  | nil => simp [insertByTag]
  | cons k rest ih =>
    rw [insertByTag]
    split
    · exact List.mem_cons
    · rw [List.mem_cons, List.mem_cons, ih, or_left_comm]

/-- A delivery takes nothing out of flight. -/
theorem mem_inFlight_take (h : m ∈ q.inFlight) : m ∈ q.take.2.inFlight := by
  rw [take]
  split
  · exact h
  · dsimp only
    split
    · exact mem_insertByTag.mpr (Or.inr h)
    · exact h

/-- An acknowledgement takes out of flight what has its tag. -/
theorem mem_inFlight_ack {tag : Int} (h : m ∈ q.inFlight) (hne : m.tag ≠ tag) :
    m ∈ (q.ack tag).inFlight := by
  rw [ack]
  split
  · exact List.mem_filter.mpr ⟨h, bne_iff_ne.mpr hne⟩
  · exact h

end MessageQueue

namespace Service

variable {s : Service} {m : Message}

/-- A message gets out of flight only when it is acknowledged through an open consumer or when all
that is in flight is put back. -/
theorem mem_inFlight_after_or (hm : m ∈ s.queue.inFlight) (act : Act) :
    m ∈ (s.after act).queue.inFlight ∨ act = .requeue ∨
      ∃ k, act = .channel (.ack k m.tag) ∧ s.consumer k = .connected := by
  cases act with
  | requeue => exact Or.inr (Or.inl rfl)
  | push => exact Or.inl hm
  | receive k =>
    refine Or.inl ?_
    rcases s.receive?_cases k with ⟨hsame, -⟩ | ⟨htake, -⟩
    · rwa [after, hsame]
    · rw [after, htake]
      exact MessageQueue.mem_inFlight_take hm
  | channel c =>
    rcases s.answerChannel_cases c with ⟨k, r, rfl, -, hpush⟩ | ⟨k, tag, rfl, hack⟩ | ⟨-, hqueue, -⟩
    · rw [after, hpush]
      exact Or.inl hm
    · by_cases htag : m.tag = tag
      · subst htag
        cases hlink : s.consumer k with
        | connected => exact Or.inr (Or.inr ⟨k, rfl, hlink⟩)
        | disconnected | closed =>
          rw [after, answerChannel, hlink]
          exact Or.inl hm
      · rw [after, hack]
        exact Or.inl (MessageQueue.mem_inFlight_ack hm htag)
    · rw [after, hqueue]
      exact Or.inl hm

/-- A message stays in flight until it is acknowledged through a consumer that is open then, or all
that is in flight is put back. -/
theorem mem_inFlight_run_or_exists (hm : m ∈ s.queue.inFlight) (acts : List Act) :
    m ∈ (s.run acts).queue.inFlight ∨
      ∃ before act later, acts = before ++ act :: later ∧
        (act = .requeue ∨
          ∃ k, act = .channel (.ack k m.tag) ∧ (s.run before).consumer k = .connected) := by
  induction acts generalizing s with
  | nil => exact Or.inl hm
  | cons act acts ih =>
    rcases mem_inFlight_after_or hm act with hm | hout
    · rcases ih hm with hm | ⟨before, next, later, rfl, hout⟩
      · exact Or.inl hm
      · exact Or.inr ⟨act :: before, next, later, rfl, hout⟩
    · exact Or.inr ⟨[], act, acts, rfl, hout⟩

end Service

end Datebook
