import Datebook.Proofs.Pipeline.Chronicle
import Datebook.Proofs.Routine.Calls
import Mathlib.Data.List.Induction

/-!
# Moved reminders

A change that gives an event's reminder another time takes back the note of its delivery, so that
the reminder is delivered again at the new time. Messages that were published for the earlier time
stay in the queue or in the hands of a consumer, and carry nothing but the id by which the event is
noted. When one of them is handled before the new time has come, the moved reminder counts as
delivered and is never published.

Here clients, ticks, consumers and handlings of deliveries all work at the same time: ticks and
handlings proceed call by call, any number of them, and anything may happen in between. The
reminders are kept as long as, and only as long as, no handling notes such a *premature* delivery.
Clients, ticks, redelivery and acknowledgement do no harm otherwise, and the instants of the ticks
may come in any order.

## Main definitions

* `Datebook.Pipeline`, `Datebook.Pipeline.Act`, `Datebook.Pipeline.run`
* `Datebook.Pipeline.Truthful`: the invariant.

## Main results

* `Datebook.Pipeline.Truthful.step`
* `Datebook.Pipeline.kept_step_iff`: an act keeps the reminders unless it notes a premature
  delivery.
* `Datebook.Pipeline.kept_iff_no_premature`
-/

namespace Datebook

/-- A tick under way, with the instant it takes for the present. -/
structure Pipeline.Ticking where
  now : Instant
  rest : Routine (Except Scheduler.TickError Scheduler.Report)

/-- A handling of a delivery under way. -/
structure Pipeline.Handling where
  delivery : Delivery
  rest : Routine (Except Sender.HandleError Sender.Handled)

/-- A service with its log, the deliveries that consumers have received, and the ticks and handlings
under way. -/
structure Pipeline where
  chronicle : Chronicle
  delivered : List Delivery := []
  ticks : List Pipeline.Ticking := []
  handlings : List Pipeline.Handling := []

namespace Pipeline

/-- The next call of the handling is the one that notes the delivery. -/
def Handling.IsNoting (h : Handling) : Prop :=
  h.rest.nextCall? = some (.store (.markNotified h.delivery.reminder.id))

/-- What may happen in a pipeline. -/
inductive Act where
  | insert (e : Event)
  | update (e : Event)
  | delete (id : Int)
  | startTick (producer : Nat) (retention : Retention) (now : Instant)
  /-- A tick makes its next call. -/
  | proceedTick (i : Nat)
  | receive (consumer : Nat)
  /-- Begin to handle one of the deliveries that were received, for a consumer. -/
  | startHandling (consumer i : Nat)
  /-- A handling makes its next call. -/
  | proceedHandling (i : Nat)
  | requeue

variable (p : Pipeline)

/-- The pipeline after a call of a client. -/
def call (c : StoreCall) : Pipeline :=
  { p with chronicle := (p.chronicle.answer (.store c)).2 }

/-- The pipeline after an act. -/
def step : Act → Pipeline
  | .insert e => p.call (.insert e)
  | .update e => p.call (.update e)
  | .delete id => p.call (.delete id)
  | .startTick k retention now =>
    { p with ticks := p.ticks ++ [⟨now, Scheduler.tick k retention now⟩] }
  | .proceedTick i =>
    match p.ticks[i]? with
    | some t =>
      let out := t.rest.proceed Chronicle.handler { p.chronicle with clock := t.now }
      { p with chronicle := out.2, ticks := p.ticks.set i { t with rest := out.1 } }
    | none => p
  | .receive k =>
    { p with
      chronicle.service := (p.chronicle.service.receive? k).2
      delivered := p.delivered ++ (p.chronicle.service.delivery? k).toList }
  | .startHandling k i =>
    match p.delivered[i]? with
    | some d =>
      { p with
        handlings := p.handlings ++ [⟨d, Sender.handle p.chronicle.service.queue.mode k d⟩] }
    | none => p
  | .proceedHandling i =>
    match p.handlings[i]? with
    | some h =>
      let out := h.rest.proceed Chronicle.handler p.chronicle
      { p with chronicle := out.2, handlings := p.handlings.set i { h with rest := out.1 } }
    | none => p
  | .requeue => { p with chronicle.service.queue := p.chronicle.service.queue.requeue }

/-- The pipeline after a list of acts. -/
def run (p : Pipeline) : List Act → Pipeline
  | [] => p
  | act :: acts => (p.step act).run acts

/-- A pipeline with an empty store and an empty queue. -/
def opened (mode : AckMode) (producers consumers : List Link) : Pipeline where
  chronicle := { service := { queue := { mode }, producers, consumers } }

/-! ### The invariant -/

/-- The store is sound, the log tells of every message and of every delivery that it was published,
and ticks and handlings have only their own calls to make. -/
structure Truthful (p : Pipeline) : Prop where
  sound : p.chronicle.service.store.Sound
  traced : p.chronicle.Traced
  received : ∀ d ∈ p.delivered, ∃ now, .published d.tag d.reminder.id now ∈ p.chronicle.log
  ticks : ∀ t ∈ p.ticks, t.rest.Makes Scheduler.TickCall
  handlings : ∀ h ∈ p.handlings,
    h.delivery ∈ p.delivered ∧ h.rest.Makes (Sender.HandlingCall h.delivery)

variable {p}

theorem truthful_opened (mode : AckMode) (producers consumers : List Link) :
    (opened mode producers consumers).Truthful where
  sound := EventStore.sound_empty
  traced := by
    refine ⟨MessageQueue.inOrder_empty mode, ?_⟩
    rintro tag payload r ⟨m, hm, -⟩
    simp [opened, MessageQueue.messages] at hm
  received := by simp [opened]
  ticks := by simp [opened]
  handlings := by simp [opened]

namespace Truthful

/-- The chronicle may go on as long as nothing is lost from the log. -/
theorem exchange (h : p.Truthful) {x : Chronicle} (hsound : x.service.store.Sound)
    (htraced : x.Traced) (hlog : p.chronicle.log ⊆ x.log) :
    ({ p with chronicle := x } : Pipeline).Truthful where
  sound := hsound
  traced := htraced
  received d hd := by
    obtain ⟨now, hnow⟩ := h.received d hd
    exact ⟨now, hlog hnow⟩
  ticks := h.ticks
  handlings := h.handlings

/-- A call of anybody may be answered. -/
theorem answer (h : p.Truthful) (clock : Instant) (c : Call) :
    ({ p with chronicle := ({ p.chronicle with clock }.answer c).2 } : Pipeline).Truthful := by
  have htraced : ({ p.chronicle with clock } : Chronicle).Traced :=
    ⟨h.traced.inOrder, h.traced.published⟩
  exact h.exchange (Chronicle.sound_answer h.sound c) (htraced.answer c)
    (List.subset_append_right _ _)

/-- A routine may make its next call. -/
theorem proceed {α : Type} (h : p.Truthful) (clock : Instant) (r : Routine α) :
    ({ p with
      chronicle := (r.proceed Chronicle.handler { p.chronicle with clock }).2 } :
      Pipeline).Truthful := by
  rcases r.proceed_cases Chronicle.handler { p.chronicle with clock } with
    ⟨c, -, hanswer⟩ | ⟨-, hsame | ⟨phase, hphase⟩⟩
  · rw [hanswer]
    exact h.answer clock c
  · rw [hsame]
    exact h.exchange h.sound ⟨h.traced.inOrder, h.traced.published⟩ (List.Subset.refl _)
  · rw [hphase]
    exact h.exchange h.sound ⟨h.traced.inOrder, h.traced.published⟩ (List.Subset.refl _)

theorem receive (h : p.Truthful) (k : Nat) : (p.step (.receive k)).Truthful := by
  rw [Pipeline.step]
  rcases p.chronicle.service.receive?_cases k with
    ⟨hservice, hdelivery⟩ | ⟨hservice, hdelivery⟩
  · rw [hservice, hdelivery, Option.toList_none, List.append_nil]
    exact h
  rw [hservice, hdelivery]
  refine ⟨h.sound, ⟨h.traced.inOrder.take, ?_⟩, ?_, h.ticks, ?_⟩
  · intro tag payload r hheld hread
    exact h.traced.published tag payload r
      (MessageQueue.holds_of_take hheld h.traced.inOrder) hread
  · intro d hd
    rcases List.mem_append.mp hd with hd | hd
    · exact h.received d hd
    · obtain ⟨payload, hheld, hread⟩ :=
        MessageQueue.holds_of_take_eq_some (Option.mem_toList.mp hd) h.traced.inOrder
      exact h.traced.published d.tag payload d.reminder hheld hread
  · intro y hy
    exact ⟨List.mem_append_left _ (h.handlings y hy).1, (h.handlings y hy).2⟩

/-- Every act leaves the pipeline truthful. -/
theorem step (h : p.Truthful) (act : Act) : (p.step act).Truthful := by
  cases act with
  | insert e => exact h.answer p.chronicle.clock _
  | update e => exact h.answer p.chronicle.clock _
  | delete id => exact h.answer p.chronicle.clock _
  | startTick k retention now =>
    refine ⟨h.sound, h.traced, h.received, ?_, h.handlings⟩
    intro t ht
    rcases List.mem_append.mp ht with ht | ht
    · exact h.ticks t ht
    · obtain rfl := List.mem_singleton.mp ht
      exact Scheduler.tick_makes k retention now
  | proceedTick i =>
    rw [Pipeline.step]
    split
    · next t ht =>
      have hnext := h.proceed t.now t.rest
      refine ⟨hnext.sound, hnext.traced, hnext.received, ?_, hnext.handlings⟩
      intro u hu
      rcases List.mem_or_eq_of_mem_set hu with hu | rfl
      · exact h.ticks u hu
      · exact (h.ticks t (List.mem_of_getElem? ht)).proceed _ _
    · exact h
  | receive k => exact h.receive k
  | startHandling k i =>
    rw [Pipeline.step]
    split
    · next d hd =>
      refine ⟨h.sound, h.traced, h.received, h.ticks, ?_⟩
      intro y hy
      rcases List.mem_append.mp hy with hy | hy
      · exact h.handlings y hy
      · obtain rfl := List.mem_singleton.mp hy
        exact ⟨List.mem_of_getElem? hd, Sender.handle_makes _ k d⟩
    · exact h
  | proceedHandling i =>
    rw [Pipeline.step]
    split
    · next y hy =>
      have hnext := h.proceed p.chronicle.clock y.rest
      obtain ⟨hdelivered, hmakes⟩ := h.handlings y (List.mem_of_getElem? hy)
      refine ⟨hnext.sound, hnext.traced, hnext.received, hnext.ticks, ?_⟩
      intro z hz
      rcases List.mem_or_eq_of_mem_set hz with hz | rfl
      · exact h.handlings z hz
      · exact ⟨hdelivered, hmakes.proceed _ _⟩
    · exact h
  | requeue =>
    refine h.exchange h.sound ⟨h.traced.inOrder.requeue, ?_⟩ (List.Subset.refl _)
    intro tag payload r hheld hread
    exact h.traced.published tag payload r (MessageQueue.holds_requeue_iff.mp hheld) hread

theorem run (h : p.Truthful) (acts : List Act) : (p.run acts).Truthful := by
  induction acts generalizing p with
  | nil => exact h
  | cons act acts ih => exact ih (h.step act)

end Truthful

/-! ### Acts and reminders -/

theorem kept_opened (mode : AckMode) (producers consumers : List Link) :
    (opened mode producers consumers).chronicle.Kept := by
  simp [Chronicle.Kept, opened]

/-- The next call of a tick keeps the reminders. -/
theorem kept_proceed_tick {α : Type} {x : Chronicle} (hk : x.Kept) (hs : x.service.store.Sound)
    {r : Routine α} (hr : r.Makes Scheduler.TickCall) :
    (r.proceed Chronicle.handler x).2.Kept := by
  rcases r.proceed_cases Chronicle.handler x with
    ⟨c, hc, hanswer⟩ | ⟨-, hsame | ⟨phase, hphase⟩⟩
  · have hcall : ∀ id, c ≠ .store (.markNotified id) := by
      rintro id rfl
      cases hr.of_nextCall? hc
    rw [hanswer]
    exact hk.answer hs c hcall
  · rw [hsame]
    exact hk
  · rw [hphase]
    exact hk

/-- The next call of a handling keeps the reminders unless it notes a premature delivery. -/
theorem kept_proceed_handling_iff (hp : p.Truthful) (hk : p.chronicle.Kept) {y : Handling}
    (hy : y ∈ p.handlings) :
    (y.rest.proceed Chronicle.handler p.chronicle).2.Kept ↔
      (y.IsNoting → ¬ p.chronicle.Premature y.delivery) := by
  obtain ⟨hdelivered, hmakes⟩ := hp.handlings y hy
  rcases y.rest.proceed_cases Chronicle.handler p.chronicle with
    ⟨c, hc, hanswer⟩ | ⟨hnone, hrest⟩
  · rw [hanswer]
    have hcall : Sender.HandlingCall y.delivery c := hmakes.of_nextCall? hc
    cases hcall with
    | mark =>
      have hnoting : y.IsNoting := hc
      rw [Chronicle.premature_iff_unannounced (hp.received y.delivery hdelivered)]
      refine (hk.answer_markNotified_iff hp.sound y.delivery.reminder.id).trans ?_
      exact ⟨fun h _ => h, fun h => h hnoting⟩
    | ack k =>
      refine iff_of_true (hk.channel _) fun hnoting => ?_
      rw [Handling.IsNoting, hc] at hnoting
      simp at hnoting
  · refine iff_of_true ?_ fun hnoting => ?_
    · rcases hrest with hsame | ⟨phase, hphase⟩
      · rw [hsame]
        exact hk
      · rw [hphase]
        exact hk
    · rw [Handling.IsNoting, hnone] at hnoting
      simp at hnoting

/-- An act keeps the reminders unless it notes a premature delivery. -/
theorem kept_step_iff (hp : p.Truthful) (hk : p.chronicle.Kept) (act : Act) :
    (p.step act).chronicle.Kept ↔
      ∀ i y, act = .proceedHandling i → p.handlings[i]? = some y → y.IsNoting →
        ¬ p.chronicle.Premature y.delivery := by
  cases act with
  | insert e => exact iff_of_true (hk.insert hp.sound e) (by simp)
  | update e => exact iff_of_true (hk.update e) (by simp)
  | delete id => exact iff_of_true (hk.answer hp.sound (.store (.delete id)) (by simp)) (by simp)
  | startTick | requeue => exact iff_of_true hk (by simp)
  | receive k =>
    refine iff_of_true ?_ (by simp)
    rw [step]
    rcases p.chronicle.service.receive?_cases k with ⟨hservice, -⟩ | ⟨hservice, -⟩
    · rw [hservice]
      exact hk
    · rw [hservice]
      exact hk
  | startHandling k i =>
    refine iff_of_true ?_ (by simp)
    rw [step]
    split <;> exact hk
  | proceedTick i =>
    refine iff_of_true ?_ (by simp)
    rw [step]
    split
    · next t ht =>
      exact kept_proceed_tick (x := { p.chronicle with clock := t.now }) hk hp.sound
        (hp.ticks t (List.mem_of_getElem? ht))
    · exact hk
  | proceedHandling i =>
    rw [step]
    cases hi : p.handlings[i]? with
    | none =>
      refine iff_of_true hk ?_
      rintro _ y ⟨⟩ hy
      simp [hi] at hy
    | some y =>
      refine (kept_proceed_handling_iff hp hk (List.mem_of_getElem? hi)).trans ?_
      constructor
      · rintro h _ z ⟨⟩ hz
        obtain rfl : y = z := Option.some.inj (hi.symm.trans hz)
        exact h
      · intro h
        exact h i y rfl hi

/-! ### Runs -/

theorem run_append (p : Pipeline) (acts more : List Act) :
    p.run (acts ++ more) = (p.run acts).run more := by
  induction acts generalizing p with
  | nil => rfl
  | cons act acts ih => exact ih (p.step act)

/-- **A moved reminder fires again unless a premature delivery is noted.** In a pipeline that was
opened with nothing in it, whatever happens in it and in whatever order, all reminders are kept all
the time exactly if no handling notes a delivery that is premature at that moment. -/
theorem kept_iff_no_premature (mode : AckMode) (producers consumers : List Link)
    (acts : List Act) :
    let p := opened mode producers consumers
    (∀ before, before <+: acts → (p.run before).chronicle.Kept) ↔
      ∀ before i y, before ++ [.proceedHandling i] <+: acts →
        (p.run before).handlings[i]? = some y → y.IsNoting →
          ¬ (p.run before).chronicle.Premature y.delivery := by
  intro p
  have htruthful (before : List Act) : (p.run before).Truthful :=
    (truthful_opened mode producers consumers).run before
  constructor
  · intro hkept before i y hprefix hy hnoting
    have hbefore := hkept before ((List.prefix_append _ _).trans hprefix)
    have hafter := hkept _ hprefix
    rw [run_append] at hafter
    exact (kept_step_iff (htruthful before) hbefore _).mp hafter i y rfl hy hnoting
  · intro hfine before
    induction before using List.reverseRecOn with
    | nil => exact fun _ => kept_opened mode producers consumers
    | append_singleton before act ih =>
      intro hprefix
      have hbefore := ih ((List.prefix_append _ _).trans hprefix)
      rw [run_append]
      refine (kept_step_iff (htruthful before) hbefore act).mpr ?_
      rintro i y rfl hy hnoting
      exact hfine before i y hprefix hy hnoting

/-- A reminder was due on 2024-06-04 and published by a tick. It is moved to the next day, and then
the message is handled: the moved reminder counts as delivered, and nothing was published for it. -/
theorem moved_reminder_not_kept :
    let midnight (day : Int) : Instant := (Instant.of? day 0 0).getD .epoch
    let first : Event := {
      userId := 1
      title := "e"
      onTime := midnight 19877
      offTime := midnight 19884
      notifyTime := some (midnight 19878) }
    let moved : Event := { first with id := 1, notifyTime := some (midnight 19879) }
    let p := (opened .auto [.connected] [.connected]).run
      ([.insert first, .startTick 0 .year (midnight 19878)] ++ List.replicate 7 (.proceedTick 0) ++
        [.update moved, .receive 0, .startHandling 0 0, .proceedHandling 0])
    p.chronicle.service.store.events = [{ moved with notified := true }] ∧
      p.chronicle.log = [.set 1, .published 1 1 (midnight 19878), .set 1] ∧
      ¬ p.chronicle.Kept := by
  intro midnight first moved p
  have hevents : p.chronicle.service.store.events = [{ moved with notified := true }] := by
    decide +kernel
  have hlog : p.chronicle.log = [.set 1, .published 1 1 (midnight 19878), .set 1] := by
    decide +kernel
  refine ⟨hevents, hlog, fun hkept => ?_⟩
  have hmem : { moved with notified := true } ∈ p.chronicle.service.store.events := by
    rw [hevents]
    exact List.mem_cons_self
  obtain ⟨tag, now, hpublished, -⟩ := hkept _ hmem rfl (midnight 19879) rfl
  rw [hlog, Chronicle.mem_sinceSet_set_iff] at hpublished
  exact hpublished.1 rfl

end Pipeline

end Datebook
