import Datebook.Proofs.EventStore.Operations
import Datebook.Proofs.Queue.Contents
import Datebook.Proofs.Reminder.Payload
import Datebook.Scheduler
import Datebook.Sender
import Mathlib.Logic.Function.Iterate

/-!
# After a tick and a drained queue nothing is left to do

A tick puts a message for every due event into the queue and purges what ended before the cutoff.
The sender then receives and handles one message after the other; each time the queue of ready
messages gets shorter, whatever stands in it. Until then a message that names it waits for every
event that is still due: a message that is handled marks the event that it names, and the messages
that are dropped on the way do not decode, which those of the tick do. Once no message is ready no
event is due, and marking has not made any event older, so that the next tick finds nothing to
publish and nothing to purge.

## Main definitions

* `Datebook.Sender.round`: receive a message and handle it.
* `Datebook.Pipeline.Settling`: the invariant from the tick on.

## Main results

* `Datebook.Scheduler.tick_run`, `Datebook.Sender.handle_run`
* `Datebook.Pipeline.Settling.round`
* `Datebook.Pipeline.drained_tick_settles`
-/

namespace Datebook

namespace Scheduler

/-! ### The tick -/

/-- The queue with a message for each of the events. -/
def announce (q : MessageQueue) (events : List Event) : MessageQueue :=
  events.foldl (fun q e => q.push (Reminder.ofEvent e).payload) q

variable {q : MessageQueue} {events : List Event} {e : Event}

theorem announce_nil (q : MessageQueue) : announce q [] = q :=
  rfl

theorem announce_cons (q : MessageQueue) (e : Event) (events : List Event) :
    announce q (e :: events) = announce (q.push (Reminder.ofEvent e).payload) events :=
  rfl

/-- What was ready stays ready. -/
theorem mem_announce_of_mem {m : Message} (hm : m ∈ q.ready) : m ∈ (announce q events).ready := by
  induction events generalizing q with
  | nil => exact hm
  | cons e events ih =>
    rw [announce_cons]
    exact ih (List.mem_append_left _ hm)

/-- Every announced event has its message. -/
theorem mem_ready_announce (he : e ∈ events) :
    ∃ m ∈ (announce q events).ready, m.payload = (Reminder.ofEvent e).payload := by
  induction events generalizing q with
  | nil => exact absurd he List.not_mem_nil
  | cons f events ih =>
    rw [announce_cons]
    rcases List.mem_cons.mp he with rfl | he
    · obtain ⟨m, hm, hpayload⟩ := q.exists_mem_ready_push (Reminder.ofEvent e).payload
      exact ⟨m, mem_announce_of_mem hm, hpayload⟩
    · exact ih he

variable {producer : Nat} {s : Service}

/-- A connected producer publishes the reminders of all events. -/
theorem publishAll_run (h : s.producer producer = .connected) (events : List Event) :
    (publishAll producer events).run s =
      (.ok (), { s with queue := announce s.queue events }) := by
  induction events generalizing s with
  | nil => rfl
  | cons e events ih =>
    have hpublish : s.answer (.channel (.publish producer (.ofEvent e))) =
        (.ok (), { s with queue := s.queue.push (Reminder.ofEvent e).payload }) := by
      rw [Service.answer, Service.answerChannel, h]
      rfl
    have hstep : (publishAll producer (e :: events)).run s = (publishAll producer events).run
        { s with queue := s.queue.push (Reminder.ofEvent e).payload } := by
      simp only [publishAll, Routine.run, Routine.runWith, Service.handler, hpublish]
    exact hstep.trans (ih (s := { s with queue := s.queue.push (Reminder.ofEvent e).payload }) h)

/-- A tick with a connected producer publishes the reminders of all due events and purges. -/
theorem tick_run (h : s.producer producer = .connected) (retention : Retention) (now : Instant) :
    (tick producer retention now).run s =
      (.ok ⟨(s.store.due now).length, (s.store.due now).length,
          some (s.store.purge (retention.cutoff now)).1⟩,
        { s with
          store := (s.store.purge (retention.cutoff now)).2
          queue := announce s.queue (s.store.due now)
          phase := .idle }) := by
  have hpublish : (publishAll producer (s.store.due now)).runWith Service.handler
      { s with phase := .publishing } = (.ok (), { s with
        queue := announce s.queue (s.store.due now)
        phase := .publishing }) :=
    publishAll_run (s := { s with phase := .publishing }) h (s.store.due now)
  rw [Routine.run, tick, Routine.runWith_bind, cycle]
  have hscan (t : Service) : Service.handler.answer (.store (.due now)) t =
    (.ok (t.store.due now), t) := rfl
  have henter (phase : SchedulerPhase) (t : Service) :
      Service.handler.enter phase t = { t with phase } := rfl
  simp only [Routine.runWith, Routine.runWith_bind, henter, hscan, hpublish]
  rfl

end Scheduler

namespace Sender

/-! ### One message after the other -/

/-- Receive a message, if one can be received, and handle it. -/
def round (consumer : Nat) (s : Service) : Service :=
  match s.receive? consumer with
  | (some (.ok (some d)), s) => ((handle s.queue.mode consumer d).run s).2
  | (_, s) => s

variable {consumer : Nat} {s : Service}

/-- Through a connected consumer every delivery is handled: the event that it names is marked, if
there is one, and its tag is acknowledged where that is asked for. -/
theorem handle_run (h : s.consumer consumer = .connected) (mode : AckMode) (d : Delivery) :
    ∃ handled, (handle mode consumer d).run s = (.ok handled, { s with
      store := (s.store.answer (.markNotified d.reminder.id)).2
      queue := if mode = .manual then s.queue.ack d.tag else s.queue }) := by
  have hsettle (handled : Handled) (store : EventStore) :
      (settle mode consumer d.tag handled).run { s with store } = (.ok handled, { s with
        store
        queue := if mode = .manual then s.queue.ack d.tag else s.queue }) := by
    cases mode with
    | auto => rfl
    | manual =>
      have hack : ({ s with store } : Service).answer (.channel (.ack consumer d.tag)) =
          (.ok (), { s with store, queue := s.queue.ack d.tag }) := by
        have hlink : ({ s with store } : Service).consumer consumer = .connected := h
        rw [Service.answer, Service.answerChannel, hlink]
        rfl
      simp only [settle, Routine.run, Routine.runWith, Service.handler, hack]
      rfl
  have hmark : Service.handler.answer (.store (.markNotified d.reminder.id)) s =
      ((s.store.answer (.markNotified d.reminder.id)).1,
        { s with store := (s.store.answer (.markNotified d.reminder.id)).2 }) := rfl
  rw [handle, Routine.run, Routine.runWith, hmark]
  rcases s.store.answer_markNotified_cases d.reminder.id with ⟨-, hanswer⟩ | ⟨e, -, hanswer⟩
  · rw [hanswer]
    exact ⟨.missing, hsettle .missing s.store⟩
  · rw [hanswer]
    exact ⟨.marked, hsettle .marked (s.store.marked d.reminder.id)⟩

/-- What a round does: where no ready message is readable, all are dropped. Otherwise those before
the first readable one are dropped, and the event that this one names is marked. -/
theorem round_cases (h : s.consumer consumer = .connected) :
    (round consumer s).producers = s.producers ∧ (round consumer s).consumers = s.consumers ∧
      (round consumer s).phase = s.phase ∧
      ((∀ m ∈ s.queue.ready, m.Unreadable) ∧ (round consumer s).store = s.store ∧
          (round consumer s).queue.ready = [] ∨
        ∃ before m r rest, s.queue.ready = before ++ m :: rest ∧ (∀ n ∈ before, n.Unreadable) ∧
          Reminder.decode m.payload = .ok r ∧
          (round consumer s).store = (s.store.answer (.markNotified r.id)).2 ∧
          (round consumer s).queue.ready = rest) := by
  cases hfirst : MessageQueue.firstReadable? s.queue.ready with
  | none =>
    have htake : s.queue.take = (none, { s.queue with ready := [] }) := by
      rw [MessageQueue.take, hfirst]
    rw [round, Service.receive?, h, htake]
    exact ⟨rfl, rfl, rfl,
      Or.inl ⟨MessageQueue.firstReadable?_eq_none_iff.mp hfirst, rfl, rfl⟩⟩
  | some found =>
    obtain ⟨m, r, rest⟩ := found
    obtain ⟨hread, before, hready, hbefore⟩ :=
      MessageQueue.eq_append_of_firstReadable?_eq_some hfirst
    obtain ⟨queue, htake, hrest⟩ : ∃ queue,
        s.queue.take = (some ⟨m.tag, r, m.redelivered⟩, queue) ∧ queue.ready = rest := by
      rw [MessageQueue.take, hfirst]
      exact ⟨_, rfl, rfl⟩
    have hreceive : s.receive? consumer =
        (some (.ok (some ⟨m.tag, r, m.redelivered⟩)), { s with queue }) := by
      rw [Service.receive?, h, htake]
    obtain ⟨handled, hhandle⟩ := handle_run (s := { s with queue }) h queue.mode
      ⟨m.tag, r, m.redelivered⟩
    rw [round, hreceive]
    dsimp only
    rw [hhandle]
    refine ⟨rfl, rfl, rfl, Or.inr ⟨before, m, r, rest, hready, hbefore, hread, rfl, ?_⟩⟩
    split
    · rw [MessageQueue.ready_ack, hrest]
    · exact hrest

/-- A round makes the queue of ready messages shorter, unless none is ready. -/
theorem length_ready_round (h : s.consumer consumer = .connected) :
    (round consumer s).queue.ready.length ≤ s.queue.ready.length - 1 := by
  obtain ⟨-, -, -, ⟨-, -, hready⟩ | ⟨before, m, r, rest, hbefore, -, -, -, hready⟩⟩ :=
    round_cases h
  · rw [hready]
    exact Nat.zero_le _
  · rw [hready, hbefore, List.length_append, List.length_cons]
    omega

end Sender

namespace Pipeline

open Json (inWord)

variable {producer consumer : Nat} {cutoff now : Instant} {s : Service}

/-- Every due event is named by a readable message that is ready, and no event ended before the
cutoff. The handles are connected, and the scheduler is idle. -/
structure Settling (producer consumer : Nat) (cutoff now : Instant) (s : Service) : Prop where
  announced : ∀ e ∈ s.store.due now,
    ∃ m ∈ s.queue.ready, ∃ r, Reminder.decode m.payload = .ok r ∧ r.id = e.id
  recent : ∀ e ∈ s.store.events, cutoff ≤ e.offTime
  producer_connected : s.producer producer = .connected
  consumer_connected : s.consumer consumer = .connected
  idle : s.phase = .idle

/-- A tick announces what is due and purges what is old. -/
theorem settling_tick (hproducer : s.producer producer = .connected)
    (hconsumer : s.consumer consumer = .connected)
    (hwords : ∀ e ∈ s.store.events, inWord e.id = true ∧ inWord e.userId = true)
    (retention : Retention) (now : Instant) :
    Settling producer consumer (retention.cutoff now) now
      ((Scheduler.tick producer retention now).run s).2 := by
  have hkept : ∀ e ∈ (s.store.purge (retention.cutoff now)).2.events,
      e ∈ s.store.events ∧ retention.cutoff now ≤ e.offTime := by
    simp [EventStore.purge_eq, EventStore.kept]
  rw [Scheduler.tick_run hproducer]
  refine ⟨fun e he => ?_, fun e he => (hkept e he).2, hproducer, hconsumer, rfl⟩
  obtain ⟨he, hdue⟩ := List.mem_filter.mp he
  have hstored : e ∈ s.store.events := (hkept e he).1
  obtain ⟨m, hm, hpayload⟩ := Scheduler.mem_ready_announce (q := s.queue)
    (show e ∈ s.store.due now from List.mem_filter.mpr ⟨hstored, hdue⟩)
  obtain ⟨hid, huser⟩ := hwords e hstored
  have hread := Reminder.decode_payload (r := .ofEvent e) hid huser
  exact ⟨m, hm, _, hpayload ▸ hread, rfl⟩

namespace Settling

/-- The event that a handled message names is no longer due, and no other becomes due. -/
theorem mem_due_of_mem_due_answer {store : EventStore} {id : Int} {e : Event}
    (he : e ∈ (store.answer (.markNotified id)).2.due now) : e ∈ store.due now ∧ e.id ≠ id := by
  obtain ⟨he, hdue⟩ := List.mem_filter.mp he
  rcases store.answer_markNotified_cases id with ⟨hnone, hanswer⟩ | ⟨old, -, hanswer⟩
  · rw [hanswer] at he
    exact ⟨List.mem_filter.mpr ⟨he, hdue⟩, EventStore.find?_eq_none_iff.mp hnone e he⟩
  · rw [hanswer] at he
    rcases EventStore.mem_marked_iff.mp he with ⟨hstored, hne⟩ | ⟨a, -, -, rfl⟩
    · exact ⟨List.mem_filter.mpr ⟨hstored, hdue⟩, hne⟩
    · simp [Event.isDue] at hdue

/-- Marking makes no event older. -/
theorem recent_answer {store : EventStore} (h : ∀ e ∈ store.events, cutoff ≤ e.offTime) (id : Int) :
    ∀ e ∈ (store.answer (.markNotified id)).2.events, cutoff ≤ e.offTime := by
  rcases store.answer_markNotified_cases id with ⟨-, hanswer⟩ | ⟨old, -, hanswer⟩
  · rw [hanswer]
    exact h
  · rw [hanswer]
    intro e he
    rcases EventStore.mem_marked_iff.mp he with ⟨hstored, -⟩ | ⟨a, ha, -, rfl⟩
    · exact h e hstored
    · exact h a ha

/-- Every round keeps the invariant: an event that is still due is not the one that was named, so
that its own message is neither the one that was handled nor one that was dropped. -/
theorem round (h : Settling producer consumer cutoff now s) :
    Settling producer consumer cutoff now (Sender.round consumer s) := by
  obtain ⟨hproducers, hconsumers, hphase, hround⟩ := Sender.round_cases h.consumer_connected
  have hrest : (∀ e ∈ (Sender.round consumer s).store.due now,
      ∃ m ∈ (Sender.round consumer s).queue.ready,
        ∃ r, Reminder.decode m.payload = .ok r ∧ r.id = e.id) ∧
      ∀ e ∈ (Sender.round consumer s).store.events, cutoff ≤ e.offTime := by
    rcases hround with
      ⟨hunreadable, hstore, hready⟩ | ⟨before, m, r, rest, hsplit, hbefore, hread, hstore, hready⟩
    · rw [hstore, hready]
      refine ⟨fun e he => ?_, h.recent⟩
      obtain ⟨m, hm, r, hread, -⟩ := h.announced e he
      exact absurd hread (hunreadable m hm r)
    · rw [hstore, hready]
      refine ⟨fun e he => ?_, recent_answer h.recent r.id⟩
      obtain ⟨hdue, hne⟩ := mem_due_of_mem_due_answer he
      obtain ⟨n, hn, r', hread', hid⟩ := h.announced e hdue
      rw [hsplit, List.mem_append, List.mem_cons] at hn
      rcases hn with hdropped | rfl | hwaiting
      · exact absurd hread' (hbefore n hdropped r')
      · obtain rfl := Except.ok.inj (hread.symm.trans hread')
        exact absurd hid.symm hne
      · exact ⟨n, hwaiting, r', hread', hid⟩
  refine ⟨hrest.1, hrest.2, ?_, ?_, hphase.trans h.idle⟩
  · rw [Service.producer, hproducers]
    exact h.producer_connected
  · rw [Service.consumer, hconsumers]
    exact h.consumer_connected

theorem rounds (h : Settling producer consumer cutoff now s) (n : Nat) :
    Settling producer consumer cutoff now ((Sender.round consumer)^[n] s) := by
  induction n generalizing s with
  | zero => exact h
  | succ n ih => exact ih h.round

/-- After as many rounds as there are ready messages none is ready. -/
theorem ready_rounds (h : Settling producer consumer cutoff now s) {n : Nat}
    (hn : s.queue.ready.length ≤ n) : ((Sender.round consumer)^[n] s).queue.ready = [] := by
  induction n generalizing s with
  | zero => exact List.eq_nil_of_length_eq_zero (Nat.le_zero.mp hn)
  | succ n ih =>
    have hshorter := Sender.length_ready_round h.consumer_connected
    exact ih h.round (by omega)

/-- Where no message is ready no event is due. -/
theorem due_eq_nil (h : Settling producer consumer cutoff now s) (hready : s.queue.ready = []) :
    s.store.due now = [] := by
  refine List.eq_nil_iff_forall_not_mem.mpr fun e he => ?_
  obtain ⟨m, hm, -⟩ := h.announced e he
  simp [hready] at hm

/-- Where no event ended before the cutoff nothing is purged. -/
theorem purge_eq (h : Settling producer consumer cutoff now s) :
    s.store.purge cutoff = (0, s.store) := by
  have hnone : (s.store.purge cutoff).1 = 0 := by
    rw [EventStore.purge_fst, List.countP_eq_zero]
    intro e he
    rw [decide_eq_true_eq, ← Instant.not_le, not_not]
    exact h.recent e he
  have hsame : (s.store.purge cutoff).2 = s.store := by
    rw [EventStore.purge_eq, EventStore.kept,
      List.filter_eq_self.mpr fun e he => decide_eq_true (h.recent e he)]
  exact Prod.ext hnone hsame

end Settling

/-- **A tick and a drained queue settle everything.** Whatever is stored and whatever is ready, with
connected handles and numbers of 64 bits a tick succeeds. Receiving and handling one message after
the other then comes to an end, after no more rounds than there are ready messages. At the end no
event is due, and another tick at the same instant has nothing to publish and nothing to purge, and
changes nothing at all. -/
theorem drained_tick_settles (hproducer : s.producer producer = .connected)
    (hconsumer : s.consumer consumer = .connected)
    (hwords : ∀ e ∈ s.store.events, inWord e.id = true ∧ inWord e.userId = true)
    (retention : Retention) (now : Instant) :
    let tick := Scheduler.tick producer retention now
    let ticked := (tick.run s).2
    (∃ report, (tick.run s).1 = .ok report) ∧
      (∀ n, ticked.queue.ready.length ≤ n →
        ((Sender.round consumer)^[n] ticked).queue.ready = []) ∧
      ∀ n, let drained := (Sender.round consumer)^[n] ticked
        drained.queue.ready = [] →
          drained.store.due now = [] ∧ tick.run drained = (.ok ⟨0, 0, some 0⟩, drained) := by
  intro tick ticked
  have h : Settling producer consumer (retention.cutoff now) now ticked :=
    settling_tick hproducer hconsumer hwords retention now
  refine ⟨⟨_, congrArg Prod.fst (Scheduler.tick_run hproducer retention now)⟩,
    fun n => h.ready_rounds, ?_⟩
  intro n drained hready
  have hdrained : Settling producer consumer (retention.cutoff now) now drained := h.rounds n
  have hdue := hdrained.due_eq_nil hready
  refine ⟨hdue, ?_⟩
  have hidle : { drained with phase := .idle } = drained := by
    rw [← hdrained.idle]
  rw [Scheduler.tick_run hdrained.producer_connected, hdue, hdrained.purge_eq,
    Scheduler.announce_nil]
  exact congrArg (Prod.mk _) hidle

/-- An event with a reminder at its beginning, on one of the days after 2024-06-03. -/
def reminded (id day : Int) (h : 0 ≤ day ∧ day < 1000) : Event where
  id
  userId := 1
  onTime := { day := 19877 + day, second := 0, nano := 0 }
  offTime := { day := 19877 + day, second := 3600, nano := 0 }
  notifyTime := some { day := 19877 + day, second := 0, nano := 0 }

/-- A service with two events that are due and one that is not, and with a payload that does not
decode and the message of an event that is gone before them in the queue. -/
def cluttered : Service where
  store := { events := [reminded 1 0 (by decide), reminded 2 5 (by decide),
    reminded 4 900 (by decide)], lastId := 4 }
  queue :=
    { mode := .manual
      ready := [⟨1, [], false⟩, ⟨2, Reminder.payload (.ofEvent (reminded 3 1 (by decide))), false⟩]
      lastTag := 2 }
  producers := [.connected]
  consumers := [.connected]

/-- Four hundred days after the first of its events, which is then purged, the cluttered service
settles too. -/
theorem cluttered_settles :
    let now : Instant := (Instant.of? 20277 0 0).getD .epoch
    (cluttered.producer 0 = .connected ∧ cluttered.consumer 0 = .connected ∧
        (∀ e ∈ cluttered.store.events, inWord e.id = true ∧ inWord e.userId = true) ∧
        (cluttered.store.due now).map Event.id = [1, 2]) ∧
      let tick := Scheduler.tick 0 .year now
      let ticked := (tick.run cluttered).2
      (∃ report, (tick.run cluttered).1 = .ok report) ∧
        (∀ n, ticked.queue.ready.length ≤ n →
          ((Sender.round 0)^[n] ticked).queue.ready = []) ∧
        ∀ n, let drained := (Sender.round 0)^[n] ticked
          drained.queue.ready = [] →
            drained.store.due now = [] ∧ tick.run drained = (.ok ⟨0, 0, some 0⟩, drained) := by
  have hwords : ∀ e ∈ cluttered.store.events, inWord e.id = true ∧ inWord e.userId = true := by
    decide
  exact ⟨⟨rfl, rfl, hwords, by decide⟩, drained_tick_settles rfl rfl hwords .year _⟩

end Pipeline

end Datebook
