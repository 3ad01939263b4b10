import Datebook.Proofs.Queue.Ledger
import Datebook.Proofs.Simulation.Advance
import Datebook.Sender.Loop

/-!
# What the sender makes of a scene

A look at the queue takes messages from its front, and delivers the last of them unless none can be
delivered. The handling of a delivery leaves alone what is ready and every handle, and never closes
the store. Shutting down closes the consumer first; the store is closed after that, or its closing
is held up, and then nothing else is left to be done.

## Main definitions

* `Datebook.Message.delivery?`: what is delivered of a message.
* `Datebook.Sender.HandledFrom`, `Datebook.Sender.LeftFrom`: what handling a delivery and shutting
  down leave as it is.
* `Datebook.Sender.Closing`: the store is being closed, after the consumer.

## Main results

* `Datebook.MessageQueue.exists_taken`: what a look at the queue takes and delivers.
* `Datebook.Scene.look_of_connected`, `Datebook.Scene.look_of_closed`
* `Datebook.Sender.handle_advance`, `Datebook.Sender.closeConsumer_advance`,
  `Datebook.Sender.shutdown_advance`
-/

namespace Datebook

/-- What is delivered of a message, if it decodes. -/
def Message.delivery? (m : Message) : Option Delivery :=
  (Reminder.decode m.payload).toOption.map fun r => ⟨m.tag, r, m.redelivered⟩

theorem Message.tag_of_delivery?_eq_some {m : Message} {d : Delivery} (h : m.delivery? = some d) :
    d.tag = m.tag := by
  obtain ⟨r, -, rfl⟩ := Option.map_eq_some_iff.mp h
  rfl

theorem Message.delivery?_eq_none_iff {m : Message} : m.delivery? = none ↔ m.Unreadable := by
  rw [delivery?, Option.map_eq_none_iff, MessageQueue.unreadable_iff, Option.isNone_iff_eq_none]

/-- A look at a queue takes messages from its front, of which the last is delivered if it decodes,
and no other decodes. -/
theorem MessageQueue.exists_taken (q : MessageQueue) :
    ∃ taken, q.ready = taken ++ q.take.2.ready ∧
      taken.filterMap Message.delivery? = q.take.1.toList := by
  cases hfirst : firstReadable? q.ready with
  | none =>
    rw [take, hfirst]
    refine ⟨q.ready, (List.append_nil _).symm, List.filterMap_eq_nil_iff.mpr fun m hm => ?_⟩
    exact Message.delivery?_eq_none_iff.mpr (firstReadable?_eq_none_iff.mp hfirst m hm)
  | some found =>
    obtain ⟨m, r, rest⟩ := found
    obtain ⟨hread, before, hready, hbefore⟩ := eq_append_of_firstReadable?_eq_some hfirst
    have hnone : before.filterMap Message.delivery? = [] :=
      List.filterMap_eq_nil_iff.mpr fun n hn => Message.delivery?_eq_none_iff.mpr (hbefore n hn)
    have hdelivery : m.delivery? = some ⟨m.tag, r, m.redelivered⟩ := by
      rw [Message.delivery?, hread]
      rfl
    rw [take, hfirst]
    refine ⟨before ++ [m], by rw [hready, List.append_assoc]; rfl, ?_⟩
    rw [List.filterMap_append, hnone, List.filterMap_cons_some hdelivery]
    rfl

namespace Scene

variable {s : Scene} {k : Nat}

/-! ### Looking for a message -/

/-- A connected consumer looks at the queue: it is done with a delivery, or waits in line. -/
theorem look_of_connected (h : s.service.consumer k = .connected) (now : Nat) :
    let out := s.look now k
    out.2.service = { s.service with queue := s.service.queue.take.2 } ∧ out.2.flag = s.flag ∧
      out.2.faults = s.faults ∧
      (∀ x ∈ out.2.trace, x ∈ s.trace ∨ x.operation = .receive) ∧
      out.1 =
        match s.service.queue.take.1 with
        | some d => .done (.ok (some d))
        | none => .waiting s.line.nextTicket := by
  intro out
  have hout : out = s.look now k := rfl
  rw [look, Service.receive?, h] at hout
  cases htake : s.service.queue.take with
  | mk delivery queue =>
    rw [htake] at hout
    cases delivery with
    | some d =>
      rw [hout]
      refine ⟨rfl, rfl, rfl, fun x hx => ?_, rfl⟩
      rcases List.mem_cons.mp hx with rfl | hx
      · exact Or.inr rfl
      · exact Or.inl hx
    | none =>
      rw [hout]
      exact ⟨rfl, rfl, rfl, fun x hx => Or.inl hx, rfl⟩

/-- A consumer that was closed is done, without a look at the queue. -/
theorem look_of_closed (h : s.service.consumer k = .closed) (now : Nat) :
    s.look now k = (.done (.ok none), s.record now .receive (.received none)) := by
  rw [look, Service.receive?, h]
  rfl

end Scene

namespace Sender

/-! ### Handling a delivery -/

/-- What the handling of a delivery leaves as it is. -/
structure HandledFrom (s t : Scene) : Prop where
  consumers : t.service.consumers = s.service.consumers
  ready : t.service.queue.ready = s.service.queue.ready
  lastTag : t.service.queue.lastTag = s.service.queue.lastTag
  flag : t.flag = s.flag
  faults : t.faults.Sublist s.faults
  trace : ∀ x ∈ t.trace, x ∈ s.trace ∨ x.operation ≠ .closeStore

theorem HandledFrom.refl (s : Scene) : HandledFrom s s :=
  ⟨rfl, rfl, rfl, rfl, .refl _, fun _ => Or.inl⟩

/-- A call of a handling changes the store, or takes a message out of flight. -/
theorem answer_handlingCall {d : Delivery} {c : Call} (hc : HandlingCall d c) (s : Service) :
    (s.answer c).2.consumers = s.consumers ∧ (s.answer c).2.queue.ready = s.queue.ready ∧
      (s.answer c).2.queue.lastTag = s.queue.lastTag := by
  cases hc with
  | mark => exact ⟨rfl, rfl, rfl⟩
  | ack k =>
    rcases s.answer_ack_cases k d.tag with ⟨e, hanswer⟩ | hanswer
    · rw [hanswer]
      exact ⟨rfl, rfl, rfl⟩
    · rw [hanswer]
      exact ⟨rfl, MessageQueue.ready_ack _ _, MessageQueue.lastTag_ack _ _⟩

theorem operation_handlingCall {d : Delivery} {c : Call} (hc : HandlingCall d c) :
    c.operation ≠ .closeStore := by
  cases hc <;> simp [Call.operation]

theorem stable_handledFrom (d : Delivery) (now : Nat) (s : Scene) :
    Scene.Stable (HandlingCall d) now (HandledFrom s) where
  takeFault t op h := by
    obtain ⟨faults, hsub, heq⟩ := t.exists_takeFault_eq op
    rw [heq]
    exact { h with faults := hsub.trans h.faults }
  finish t c failure hc h := by
    obtain ⟨hconsumers, hready, hlast⟩ := answer_handlingCall hc t.service
    have htrace : ∀ x ∈ (t.finish now c failure).2.trace,
        x ∈ s.trace ∨ x.operation ≠ .closeStore := by
      rw [Scene.trace_finish, List.forall_mem_cons]
      exact ⟨Or.inr (operation_handlingCall hc), h.trace⟩
    have hflag := (t.flag_finish now c failure).trans h.flag
    have hfaults := (t.faults_finish now c failure).symm ▸ h.faults
    rcases t.service_finish_cases now c failure with hsame | hanswered
    · exact ⟨hsame ▸ h.consumers, hsame ▸ h.ready, hsame ▸ h.lastTag, hflag, hfaults, htrace⟩
    · exact ⟨hanswered ▸ hconsumers.trans h.consumers, hanswered ▸ hready.trans h.ready,
        hanswered ▸ hlast.trans h.lastTag, hflag, hfaults, htrace⟩
  enter _ _ h := { h with }

/-- To begin to handle a delivery makes only calls of the handling, and leaves only such calls. -/
theorem handle_advance (mode : AckMode) (k : Nat) (d : Delivery) (now : Nat) (s : Scene) :
    let out := (handle mode k d).advance now s
    out.1.Makes (HandlingCall d) ∧ HandledFrom s out.2 :=
  (handle_makes mode k d).advance (stable_handledFrom d now s) (.refl s)

/-! ### Shutting down -/

/-- The scene after the consumer was closed at once. -/
def consumerClosed (s : Scene) (now k : Nat) : Scene :=
  (s.finish now (.channel (.closeConsumer k)) none).2

/-- Where nothing is laid on closing the consumer, it is closed at once. -/
theorem closeConsumer_advance {s : Scene} (h : ∀ x ∈ s.faults, x.1 ≠ .closeConsumer)
    (grace : Duration) (now k : Nat) :
    (closeWithin "consumer" grace (.channel (.closeConsumer k))).advance now s =
      (.done (.ok ()), consumerClosed s now k) := by
  rw [closeWithin, Routine.advance, Call.operation, Scene.takeFault_of_forall_ne h]
  rfl

/-- The store has been left alone. -/
def StoreOpen (trace : List TraceEntry) : Prop :=
  ∀ x ∈ trace, x.operation ≠ .closeStore

/-- The consumer was closed. -/
def ConsumerClosed (trace : List TraceEntry) : Prop :=
  ∃ x ∈ trace, x.operation = .closeConsumer ∧ x.note = .done

/-- The store has been left alone, or was closed at the very end, after the consumer. -/
def StoreClosedLast (trace : List TraceEntry) : Prop :=
  StoreOpen trace ∨
    ∃ x before, trace = x :: before ∧ StoreOpen before ∧ ConsumerClosed before

/-- The store is being closed, after the consumer, and nothing else is to be done. -/
def Closing (work : Active (Except ShutdownError Unit)) (s : Scene) : Prop :=
  match work with
  | .done _ => StoreClosedLast s.trace
  | .held c _ _ cut next =>
    c = .store .close ∧ (∀ o, ∃ a, next o = .done a) ∧
      (∀ limit r, cut = some (limit, r) → ∃ a, r = .done a) ∧
      StoreOpen s.trace ∧ ConsumerClosed s.trace

/-- What closing the consumer and the store leaves as it is. -/
structure LeftFrom (k : Nat) (s t : Scene) : Prop where
  consumers : t.service.consumers = s.service.consumers.set k .closed
  queue : t.service.queue = s.service.queue
  flag : t.flag = s.flag
  faults : t.faults.Sublist s.faults

/-- Where the consumer is closed already nothing need change. -/
theorem leftFrom_refl {k : Nat} {s : Scene} (hk : s.service.consumer k = .closed) :
    LeftFrom k s s := by
  refine ⟨(List.ext_getElem? fun i => ?_).symm, rfl, rfl, .refl _⟩
  rw [Service.consumer, List.getD_eq_getElem?_getD] at hk
  rw [List.getElem?_set]
  split
  · next hi =>
    subst hi
    cases hget : s.service.consumers[k]? with
    | none => simp [hget] at hk
    | some link =>
      rw [hget, Option.getD_some] at hk
      obtain ⟨hlt, -⟩ := List.getElem?_eq_some_iff.mp hget
      rw [if_pos hlt, hk]
  · rfl

/-- A consumer that there is was closed. -/
theorem LeftFrom.consumer_eq {k : Nat} {s t : Scene} (h : LeftFrom k s t)
    (hk : s.service.consumer k ≠ .disconnected) : t.service.consumer k = .closed := by
  have hlt : k < s.service.consumers.length := by
    by_contra hge
    refine hk ?_
    rw [Service.consumer, List.getD_eq_getElem?_getD, List.getElem?_eq_none (Nat.not_lt.mp hge)]
    rfl
  rw [Service.consumer, h.consumers, List.getD_eq_getElem?_getD, List.getElem?_set_self hlt]
  rfl

theorem leftFrom_consumerClosed (s : Scene) (now k : Nat) : LeftFrom k s (consumerClosed s now k) :=
  ⟨rfl, rfl, rfl, .refl _⟩

theorem storeOpen_consumerClosed {s : Scene} (h : StoreOpen s.trace) (now k : Nat) :
    StoreOpen (consumerClosed s now k).trace ∧ ConsumerClosed (consumerClosed s now k).trace := by
  constructor
  · rw [StoreOpen, consumerClosed, Scene.trace_finish, List.forall_mem_cons]
    exact ⟨by simp [Call.operation], h⟩
  · exact ⟨_, List.mem_cons_self, rfl, rfl⟩

section CloseStore

variable {start s : Scene} {k : Nat}

/-- After the consumer the store is closed, whether that fails or not. -/
theorem closeStore_finish (hleft : LeftFrom k start s) (hopen : StoreOpen s.trace)
    (hclosed : ConsumerClosed s.trace) (now : Nat) (failure : Option FaultKind) :
    let t := (s.finish now (.store .close) failure).2
    StoreClosedLast t.trace ∧ LeftFrom k start t := by
  intro t
  have hservice : t.service = s.service := by
    rcases s.service_finish_cases now (.store .close) failure with hsame | hanswered
    · exact hsame
    · exact hanswered
  refine ⟨Or.inr ⟨_, _, s.trace_finish now (.store .close) failure, hopen, hclosed⟩, ?_⟩
  exact ⟨hservice ▸ hleft.consumers, hservice ▸ hleft.queue,
    (s.flag_finish now (.store .close) failure).trans hleft.flag,
    (s.faults_finish now (.store .close) failure).symm ▸ hleft.faults⟩

/-- Once the consumer is closed, the store is closed or its closing is held up. -/
theorem closeStore_advance (hleft : LeftFrom k start s) (hopen : StoreOpen s.trace)
    (hclosed : ConsumerClosed s.trace) (grace : Duration) (now : Nat)
    (f : Except ShutdownError Unit → Except ShutdownError Unit) :
    let out := ((closeWithin "store" grace (.store .close)).bind fun b => .done (f b)).advance now s
    Closing out.1 out.2 ∧ LeftFrom k start out.2 := by
  intro out
  obtain ⟨faults, hsub, heq⟩ := s.exists_takeFault_eq .closeStore
  have hleft' : LeftFrom k start { s with faults } :=
    { hleft with faults := hsub.trans hleft.faults }
  have hout : out =
    ((closeWithin "store" grace (.store .close)).bind fun b => .done (f b)).advance now s := rfl
  simp only [closeWithin, Routine.bind, Routine.advance, Call.operation, heq] at hout
  split at hout
  · rw [hout]
    exact closeStore_finish hleft' hopen hclosed now _
  · rw [hout]
    refine ⟨⟨rfl, fun o => ⟨_, rfl⟩, ?_, hopen, hclosed⟩, hleft'⟩
    rintro _ _ ⟨⟩
    exact ⟨_, rfl⟩

/-- The closing of the store comes to an end when it goes on. -/
theorem Closing.resume {work work' : Active (Except ShutdownError Unit)} {t : Scene} {now : Nat}
    (hwork : Closing work s) (hleft : LeftFrom k start s)
    (hresume : work.resume? now s = some (work', t)) : Closing work' t ∧ LeftFrom k start t := by
  cases work with
  | done a => simp [Active.resume?] at hresume
  | held c failure due cut next =>
    obtain ⟨rfl, hnext, hcut, hopen, hclosed⟩ := hwork
    simp only [Active.resume?] at hresume
    split at hresume
    · obtain ⟨a, ha⟩ := hnext (s.finish now (.store .close) failure).1
      rw [ha, Routine.advance, Option.some.injEq, Prod.mk.injEq] at hresume
      obtain ⟨rfl, rfl⟩ := hresume
      exact closeStore_finish hleft hopen hclosed now failure
    · split at hresume
      · next limit r =>
        split at hresume
        · obtain ⟨a, rfl⟩ := hcut limit r rfl
          rw [Routine.advance, Option.some.injEq, Prod.mk.injEq] at hresume
          obtain ⟨rfl, rfl⟩ := hresume
          exact ⟨Or.inl hopen, hleft⟩
        · simp at hresume
      · simp at hresume

end CloseStore

/-- Shutting down closes the consumer, and then closes the store or is held up there. -/
theorem shutdown_advance {s : Scene} (h : ∀ x ∈ s.faults, x.1 ≠ .closeConsumer)
    (hopen : StoreOpen s.trace) (grace : Duration) (now k : Nat) :
    let out := (shutdown k grace).advance now s
    Closing out.1 out.2 ∧ LeftFrom k s out.2 := by
  have hshutdown : (shutdown k grace).advance now s =
      ((closeWithin "store" grace (.store .close)).bind fun b =>
        .done ((Except.ok () : Except ShutdownError Unit).bind fun _ => b)).advance now
          (consumerClosed s now k) := by
    simp only [shutdown, closeBoth, closeWithin, Routine.bind, Routine.advance, Call.operation,
      Scene.takeFault_of_forall_ne h]
    rfl
  obtain ⟨hopen, hclosed⟩ := storeOpen_consumerClosed hopen now k
  rw [hshutdown]
  exact closeStore_advance (leftFrom_consumerClosed s now k) hopen hclosed grace now _

end Sender

end Datebook
