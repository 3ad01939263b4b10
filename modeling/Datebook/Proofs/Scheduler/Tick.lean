import Datebook.Proofs.EventStore.Invariant
import Datebook.Scheduler

/-!
# A tick beside any producer

A tick is run over a store and a producer of which nothing is assumed: each time it is asked to
publish a reminder it may accept or refuse it, as a state of its own says. What a tick does is
then one of two things. Either the producer accepts a reminder of every due event, and the events
before the cutoff are purged; or it refuses one, the events before it in the scan have been
published, and the store is as it was.

No event that is purged has a reminder still to come. An event of a sound store asks for its
reminder no later than its end, and the cutoff lies no later than the present; what ends before
the cutoff and has not been reminded of is therefore due, and was published by the same tick.

## Main definitions

* `Datebook.Scheduler.Producer`: how a producer answers.
* `Datebook.Scheduler.Bench`: a store beside a producer, with the reminders it accepted.
* `Datebook.Scheduler.Producer.Publishing`, `Datebook.Scheduler.Producer.Ticked`: what comes of
  publishing reminders and of a tick, by how the producer answers.

## Main results

* `Datebook.Scheduler.publishAll_publishing`, `Datebook.Scheduler.tick_ticked`
* `Datebook.Scheduler.isDue_of_purged`
* `Datebook.Scheduler.purged_reminder_published`
-/

namespace Datebook

namespace Scheduler

/-- A producer by the way it answers: what comes of publishing a reminder, and its state after
that. -/
structure Producer (π : Type) where
  publish : Reminder → π → Except ChannelError Unit × π

/-- A store beside a producer. -/
structure Bench (π : Type) where
  store : EventStore
  producer : π
  /-- The reminders that the producer has accepted, in order. -/
  accepted : List Reminder := []
  phase : SchedulerPhase := .idle

namespace Producer

variable {π : Type} (P : Producer π)

/-- The outcome of a call, and the bench after it. The store answers its own calls; of the calls
on handles only publishing means anything to the producer. -/
def answer : (c : Call) → Bench π → c.Outcome × Bench π
  | .store c, b => ((b.store.answer c).1, { b with store := (b.store.answer c).2 })
  | .channel (.publish _ r), b =>
    match P.publish r b.producer with
    | (.ok (), p) => (.ok (), { b with producer := p, accepted := b.accepted ++ [r] })
    | (.error e, p) => (.error e, { b with producer := p })
  | .channel _, b => (.ok (), b)

/-- A bench answers calls at once. -/
def handler : Handler (Bench π) where
  answer := P.answer
  enter phase b := { b with phase }

end Producer

variable {π : Type} (P : Producer π) (producer : Nat)

/-! ### Publishing -/

namespace Producer

/-- The producer accepts reminders one after the other, none of them being refused. -/
def AcceptsAll : List Reminder → π → Prop
  | [], _ => True
  | r :: rs, p => (P.publish r p).1 = .ok () ∧ AcceptsAll rs (P.publish r p).2

/-- The state of the producer after it was asked to publish reminders one after the other. -/
def after : List Reminder → π → π
  | [], p => p
  | r :: rs, p => after rs (P.publish r p).2

/-- The bench after its producer was asked to publish some reminders and has accepted some. -/
def served (asked accepted : List Reminder) (b : Bench π) : Bench π :=
  { b with producer := P.after asked b.producer, accepted := b.accepted ++ accepted }

/-- What comes of publishing the reminders of a list of events: all are accepted, or those before
the first that is refused, after which the producer is asked no more. -/
inductive Publishing (b : Bench π) (events : List Event) : Except TickError Unit × Bench π → Prop
  | all (accepts : P.AcceptsAll (events.map .ofEvent) b.producer) :
      Publishing b events (.ok (), P.served (events.map .ofEvent) (events.map .ofEvent) b)
  | upTo (before : List Event) {after : List Event} {e : Event} {source : ChannelError}
      (split : events = before ++ e :: after)
      (accepts : P.AcceptsAll (before.map .ofEvent) b.producer)
      (refuses : (P.publish (.ofEvent e) (P.after (before.map .ofEvent) b.producer)).1 =
        .error source) :
      Publishing b events (.error (.publish e.id source),
        P.served ((before ++ [e]).map .ofEvent) (before.map .ofEvent) b)

end Producer

/-- The reminders of a list of events are published in order up to the first that is refused. -/
theorem publishAll_publishing (events : List Event) (b : Bench π) :
    P.Publishing b events ((publishAll producer events).runWith P.handler b) := by
  induction events generalizing b with
  | nil =>
    have hnone : (publishAll producer []).runWith P.handler b = (.ok (), P.served [] [] b) := by
      simp [publishAll, Routine.runWith, Producer.served, Producer.after]
    rw [hnone]
    exact .all trivial
  | cons e events ih =>
    cases hpublish : P.publish (.ofEvent e) b.producer with
    | mk result p =>
      cases result with
      | error source =>
        have hstep : (publishAll producer (e :: events)).runWith P.handler b =
            (.error (.publish e.id source), P.served [.ofEvent e] [] b) := by
          simp [publishAll, Routine.runWith, Producer.handler, Producer.answer, Producer.served,
            Producer.after, hpublish]
        rw [hstep]
        exact .upTo [] rfl trivial (congrArg Prod.fst hpublish)
      | ok u =>
        -- The rest is published from the bench that the accepted reminder leaves.
        have hstep : (publishAll producer (e :: events)).runWith P.handler b =
            (publishAll producer events).runWith P.handler
              (P.served [.ofEvent e] [.ofEvent e] b) := by
          simp [publishAll, Routine.runWith, Producer.handler, Producer.answer, Producer.served,
            Producer.after, hpublish]
        have hserved (asked accepted : List Reminder) :
            P.served asked accepted (P.served [.ofEvent e] [.ofEvent e] b) =
              P.served (.ofEvent e :: asked) (.ofEvent e :: accepted) b := by
          simp [Producer.served, Producer.after]
        have hfirst : (P.publish (.ofEvent e) b.producer).1 = .ok () := by rw [hpublish]
        have hrest := ih (P.served [.ofEvent e] [.ofEvent e] b)
        rw [← hstep] at hrest
        generalize (publishAll producer (e :: events)).runWith P.handler b = out at hrest
        cases hrest with
        | all accepts =>
          rw [hserved]
          exact .all ⟨hfirst, accepts⟩
        | upTo before split accepts refuses =>
          rw [hserved]
          exact .upTo (e :: before) (congrArg (e :: ·) split) ⟨hfirst, accepts⟩ refuses

/-! ### Ticks -/

/-- What comes of a tick: it publishes all due events and purges, or it ends at the first event
that is refused and purges nothing. -/
inductive Producer.Ticked (retention : Retention) (now : Instant) (b : Bench π) :
    Except TickError Report × Bench π → Prop
  | completed (accepts : P.AcceptsAll ((b.store.due now).map .ofEvent) b.producer) :
      Ticked retention now b
        (.ok ⟨(b.store.due now).length, (b.store.due now).length,
            some (b.store.purge (retention.cutoff now)).1⟩,
          { P.served ((b.store.due now).map .ofEvent) ((b.store.due now).map .ofEvent) b with
            store := (b.store.purge (retention.cutoff now)).2
            phase := .idle })
  | aborted (before : List Event) {after : List Event} {e : Event} {source : ChannelError}
      (split : b.store.due now = before ++ e :: after)
      (accepts : P.AcceptsAll (before.map .ofEvent) b.producer)
      (refuses : (P.publish (.ofEvent e) (P.after (before.map .ofEvent) b.producer)).1 =
        .error source) :
      Ticked retention now b
        (.error (.publish e.id source),
          { P.served ((before ++ [e]).map .ofEvent) (before.map .ofEvent) b with phase := .idle })

/-- A tick either publishes all due events and purges, or ends at the first event that is refused
and purges nothing. -/
theorem tick_ticked (retention : Retention) (now : Instant) (b : Bench π) :
    P.Ticked retention now b ((tick producer retention now).runWith P.handler b) := by
  have hpublished :=
    publishAll_publishing P producer (b.store.due now) { b with phase := .publishing }
  have henter (phase : SchedulerPhase) (b : Bench π) : P.handler.enter phase b = { b with phase } :=
    rfl
  have hscan (b : Bench π) :
      P.handler.answer (.store (.due now)) b = (.ok (b.store.due now), b) := rfl
  rw [tick, Routine.runWith_bind, cycle]
  simp only [Routine.runWith, Routine.runWith_bind, henter, hscan]
  generalize (publishAll producer (b.store.due now)).runWith P.handler
    { b with phase := .publishing } = out at hpublished ⊢
  cases hpublished with
  | all accepts => exact .completed accepts
  | upTo before split accepts refuses => exact .aborted before split accepts refuses

/-- A tick, by what it gives back, the store it leaves and the reminders that were accepted. -/
theorem tick_runWith (retention : Retention) (now : Instant) (b : Bench π) :
    let out := (tick producer retention now).runWith P.handler b
    let due := b.store.due now
    let purged := b.store.purge (retention.cutoff now)
    out.1 = .ok ⟨due.length, due.length, some purged.1⟩ ∧ out.2.store = purged.2 ∧
        out.2.accepted = b.accepted ++ due.map .ofEvent ∨
      ∃ before e after source, due = before ++ e :: after ∧
        out.1 = .error (.publish e.id source) ∧ out.2.store = b.store ∧
        out.2.accepted = b.accepted ++ before.map .ofEvent := by
  intro out due purged
  have hticked : P.Ticked retention now b out := tick_ticked P producer retention now b
  generalize out = result at hticked
  cases hticked with
  | completed => exact Or.inl ⟨rfl, rfl, rfl⟩
  | aborted before split => exact Or.inr ⟨before, _, _, _, split, rfl, rfl, rfl⟩

/-! ### What is purged -/

/-- The events that a purge removes are those that end before the cutoff. -/
theorem mem_purge_iff {s : EventStore} {cutoff : Instant} {e : Event} :
    e ∈ (s.purge cutoff).2.events ↔ e ∈ s.events ∧ cutoff ≤ e.offTime := by
  simp [EventStore.purge_eq, EventStore.kept]

/-- An event that ends before the cutoff and has still to be reminded of is due. -/
theorem isDue_of_purged {s : EventStore} (hs : s.Sound) {retention : Retention} {now : Instant}
    {e : Event} (he : e ∈ s.events) (hended : e.offTime < retention.cutoff now)
    (hreminder : e.notifyTime.isSome) (hnotified : e.notified = false) : e.isDue now := by
  obtain ⟨t, ht⟩ := Option.isSome_iff_exists.mp hreminder
  obtain ⟨-, -, -, -, -, hspan⟩ := Event.validate_eq_ok_iff.mp (hs.valid e he)
  have hoff : t ≤ e.offTime := (hspan t ht).2
  have hnow : e.offTime < now := Instant.lt_of_lt_of_le hended (retention.cutoff_le now)
  have hdue : t ≤ now := Instant.le_trans hoff (Instant.le_of_lt hnow)
  exact Event.isDue_eq_true_iff.mpr ⟨hnotified, t, ht, hdue⟩

/-- No reminder is for an id that none of the events has. -/
theorem filter_reminders_eq_nil {events : List Event} {id : Int} (h : ∀ a ∈ events, a.id ≠ id) :
    (events.map Reminder.ofEvent).filter (·.id == id) = [] := by
  simp only [List.filter_eq_nil_iff, List.mem_map, beq_iff_eq]
  rintro _ ⟨a, ha, rfl⟩
  exact h a ha

/-- Among the reminders of events by ascending ids there is one for each of them. -/
theorem filter_reminders {events : List Event} (h : events.Pairwise fun a b => a.id < b.id)
    {e : Event} (he : e ∈ events) :
    (events.map Reminder.ofEvent).filter (·.id == e.id) = [.ofEvent e] := by
  obtain ⟨before, after, rfl⟩ := List.append_of_mem he
  obtain ⟨-, hafter, hbefore⟩ := List.pairwise_append.mp h
  have hless : (before.map Reminder.ofEvent).filter (·.id == e.id) = [] :=
    filter_reminders_eq_nil fun a ha => Int.ne_of_lt (hbefore a ha e List.mem_cons_self)
  have hmore : (after.map Reminder.ofEvent).filter (·.id == e.id) = [] :=
    filter_reminders_eq_nil fun a ha => Int.ne_of_gt ((List.pairwise_cons.mp hafter).1 a ha)
  rw [List.map_append, List.map_cons, List.filter_append, hless, List.nil_append,
    List.filter_cons_of_pos (by simp [Reminder.ofEvent]), hmore]

/-- The due events come by ascending ids. -/
theorem ascending_due {s : EventStore} (hs : s.Sound) (now : Instant) :
    (s.due now).Pairwise fun a b => a.id < b.id :=
  hs.ascending.filter _

/-- Among the reminders of the due events there is one for each id. -/
theorem filter_reminders_due {s : EventStore} (hs : s.Sound) {now : Instant} {e : Event}
    (he : e ∈ s.events) (hdue : e.isDue now) :
    ((s.due now).map Reminder.ofEvent).filter (·.id == e.id) = [.ofEvent e] :=
  filter_reminders (ascending_due hs now) (List.mem_filter.mpr ⟨he, hdue⟩)

/-- **No reminder is purged unpublished.** Whatever calls the store has answered and however the
producer behaves, an event that a tick removes while its reminder was still to come had exactly
one reminder published in that tick; and a tick that fails removes nothing. -/
theorem purged_reminder_published (p : π) (calls : List StoreCall) (phase : SchedulerPhase)
    (retention : Retention) (now : Instant) :
    let s := ({} : EventStore).run calls
    let out := (tick producer retention now).runWith P.handler { store := s, producer := p, phase }
    (∀ e ∈ s.events, e ∉ out.2.store.events → e.notifyTime.isSome → e.notified = false →
      out.2.accepted.filter (·.id == e.id) = [.ofEvent e]) ∧
      ∀ err, out.1 = .error err → out.2.store = s := by
  intro s out
  have hs : s.Sound := EventStore.sound_empty.run calls
  rcases tick_runWith P producer retention now { store := s, producer := p, phase } with
    ⟨hok, hstore, haccepted⟩ | ⟨before, e, after, source, -, herror, hstore, -⟩
  · constructor
    · intro e he hgone hreminder hnotified
      have hended : e.offTime < retention.cutoff now := by
        rw [← Instant.not_le]
        intro hkept
        exact hgone (hstore ▸ mem_purge_iff.mpr ⟨he, hkept⟩)
      have hdue : e.isDue now := isDue_of_purged hs he hended hreminder hnotified
      rw [show out.2.accepted = (s.due now).map .ofEvent from haccepted]
      exact filter_reminders_due hs he hdue
    · intro err herr
      rw [show out.1 = _ from hok] at herr
      simp at herr
  · constructor
    · intro e he hgone
      exact absurd (show e ∈ out.2.store.events from hstore ▸ he) hgone
    · intro _ _
      exact hstore

end Scheduler

end Datebook
