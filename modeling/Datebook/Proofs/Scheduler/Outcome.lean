import Datebook.Proofs.Scheduler.Tick

/-!
# What comes of a tick

Whether a tick gets as far as its purge depends on the producer alone: it does exactly if the
producer accepts the reminders of all due events, one after the other. A tick that does reports how
many events were due and how many it purged. One that does not ends at the first event that was
refused and leaves the store as it was. A tick marks no event, so that at any later instant all
events that were due still are, those that were published and those that were not; as long as the
store is not changed the next tick finds them and, if no reminder is refused this time, publishes
one for each.

## Main results

* `Datebook.Scheduler.Producer.Ticked.exists_ok_iff`: when a tick gets as far as its purge.
* `Datebook.Scheduler.mem_due_later`: what is due stays due.
* `Datebook.Scheduler.tick_completes_or_aborts`
-/

namespace Datebook

namespace EventStore

variable {s : EventStore}

theorem length_due (s : EventStore) (now : Instant) :
    (s.due now).length = s.events.countP (·.isDue now) :=
  List.countP_eq_length_filter.symm

end EventStore

namespace Scheduler

variable {π : Type} {P : Producer π}

namespace Producer

/-- Reminders are accepted one after the other if a first part of them is, and then the rest. -/
theorem acceptsAll_append_iff {rs more : List Reminder} {p : π} :
    P.AcceptsAll (rs ++ more) p ↔ P.AcceptsAll rs p ∧ P.AcceptsAll more (P.after rs p) := by
  induction rs generalizing p with
  | nil => exact (and_iff_right trivial).symm
  | cons r rs ih => rw [List.cons_append, AcceptsAll, AcceptsAll, after, ih, and_assoc]

/-- A tick gets as far as its purge exactly if the producer accepts the reminders of all due
events. -/
theorem Ticked.exists_ok_iff {retention : Retention} {now : Instant} {b : Bench π}
    {out : Except TickError Report × Bench π} (h : P.Ticked retention now b out) :
    (∃ report, out.1 = .ok report) ↔
      P.AcceptsAll ((b.store.due now).map .ofEvent) b.producer := by
  cases h with
  | completed accepts => exact iff_of_true ⟨_, rfl⟩ accepts
  | aborted before split accepts refuses =>
    refine iff_of_false (by simp) fun hall => ?_
    rw [split, List.map_append, acceptsAll_append_iff, List.map_cons, AcceptsAll] at hall
    rw [hall.2.1] at refuses
    cases refuses

/-- A tick that gets as far as its purge has published the reminders of all due events. -/
theorem Ticked.accepted_of_ok {retention : Retention} {now : Instant} {b : Bench π}
    {out : Except TickError Report × Bench π} (h : P.Ticked retention now b out) {report : Report}
    (hok : out.1 = .ok report) :
    out.2.accepted = b.accepted ++ (b.store.due now).map .ofEvent := by
  cases h with
  | completed => rfl
  | aborted => simp at hok

end Producer

/-- What is due stays due. -/
theorem mem_due_later {s : EventStore} {now later : Instant} (hle : now ≤ later) {e : Event}
    (he : e ∈ s.due now) : e ∈ s.due later := by
  obtain ⟨hmem, hdue⟩ := List.mem_filter.mp he
  obtain ⟨hnotified, t, ht, htime⟩ := Event.isDue_eq_true_iff.mp hdue
  exact List.mem_filter.mpr
    ⟨hmem, Event.isDue_eq_true_iff.mpr ⟨hnotified, t, ht, Instant.le_trans htime hle⟩⟩

/-- A tick over a sound store whose producer refuses nothing gets as far as its purge and publishes
one reminder for each due event. -/
theorem publishes_due (producer : Nat) (retention : Retention) {now : Instant} (b : Bench π)
    (hs : b.store.Sound) (haccepted : b.accepted = [])
    (haccepts : P.AcceptsAll ((b.store.due now).map .ofEvent) b.producer) :
    let out := (tick producer retention now).runWith P.handler b
    (∃ report, out.1 = .ok report) ∧
      ∀ e ∈ b.store.due now, out.2.accepted.filter (·.id == e.id) = [.ofEvent e] := by
  intro out
  have hticked : P.Ticked retention now b out := tick_ticked P producer retention now b
  obtain ⟨report, hok⟩ := hticked.exists_ok_iff.mpr haccepts
  refine ⟨⟨report, hok⟩, fun e he => ?_⟩
  rw [hticked.accepted_of_ok hok, haccepted, List.nil_append]
  exact filter_reminders (ascending_due hs now) he

/-- **A tick completes, or it ends at the first refusal and the next one makes up for it.** Whatever
calls the store has answered and however the producer behaves, a tick gets as far as its purge
exactly if the producer accepts the reminders of the due events one after the other. It then reports
how many these are, one reminder was published for each of them, and as many events are purged as
end before the cutoff, and those only. A tick that fails does so because the producer refuses the
reminder of a due event: one reminder was published for each of the due events before it in the scan
and none for it and for those after it, for which the producer was not even asked, and the store is
as it was. At the same instant or later, with whatever state the producer then has, all these events
are due again, and a tick that finds the producer to accept the reminders of all due events
publishes one for each of them. The scheduler is idle afterwards. -/
theorem tick_completes_or_aborts (P : Producer π) (producer : Nat) (p : π)
    (calls : List StoreCall) (phase : SchedulerPhase) (retention : Retention) (now : Instant) :
    let s := ({} : EventStore).run calls
    let due := s.due now
    let cutoff := retention.cutoff now
    let out := (tick producer retention now).runWith P.handler { store := s, producer := p, phase }
    out.2.phase = .idle ∧
      ((∃ report, out.1 = .ok report) ↔ P.AcceptsAll (due.map .ofEvent) p) ∧
      (∀ report, out.1 = .ok report →
        report = ⟨s.events.countP (·.isDue now), s.events.countP (·.isDue now),
            some (s.events.countP (·.offTime < cutoff))⟩ ∧
          out.2.store = { s with events := s.events.filter fun e => cutoff ≤ e.offTime } ∧
          out.2.accepted = due.map .ofEvent ∧
          ∀ e ∈ due, out.2.accepted.filter (·.id == e.id) =
            [⟨e.id, e.title, e.onTime, e.userId⟩]) ∧
      ∀ err, out.1 = .error err →
        ∃ before e after source, due = before ++ e :: after ∧ err = .publish e.id source ∧
          out.2.accepted = before.map .ofEvent ∧
          (∀ a ∈ before, out.2.accepted.filter (·.id == a.id) =
            [⟨a.id, a.title, a.onTime, a.userId⟩]) ∧
          (∀ a ∈ e :: after, out.2.accepted.filter (·.id == a.id) = []) ∧
          out.2.producer = P.after ((before ++ [e]).map .ofEvent) p ∧ out.2.store = s ∧
          ∀ (later : Instant) (q : π), now ≤ later →
            let next := (tick producer retention later).runWith P.handler
              { out.2 with producer := q, accepted := [] }
            (∀ a ∈ due, a ∈ out.2.store.due later) ∧
              (P.AcceptsAll ((out.2.store.due later).map .ofEvent) q →
                (∃ report, next.1 = .ok report) ∧
                  ∀ a ∈ due, next.2.accepted.filter (·.id == a.id) =
                    [⟨a.id, a.title, a.onTime, a.userId⟩]) := by
  intro s due cutoff out
  have hs : s.Sound := EventStore.sound_empty.run calls
  have hascending : due.Pairwise fun a b => a.id < b.id := ascending_due hs now
  have hticked : P.Ticked retention now { store := s, producer := p, phase } out :=
    tick_ticked P producer retention now _
  have hiff := hticked.exists_ok_iff
  generalize out = result at hticked hiff
  cases hticked with
  | completed accepts =>
    refine ⟨rfl, hiff, ?_, by simp⟩
    rintro _ ⟨⟩
    refine ⟨?_, s.purge_eq cutoff, List.nil_append _, fun e he => filter_reminders hascending he⟩
    rw [EventStore.purge_fst, EventStore.length_due]
  | @aborted before after e source split accepts refuses =>
    refine ⟨rfl, hiff, by simp, ?_⟩
    rintro _ ⟨⟩
    have hsplit : due = before ++ e :: after := split
    rw [hsplit] at hascending
    obtain ⟨hbefore, -, hless⟩ := List.pairwise_append.mp hascending
    refine ⟨before, e, after, source, split, rfl, List.nil_append _,
      fun a ha => filter_reminders hbefore ha,
      fun a ha => filter_reminders_eq_nil fun b hb => Int.ne_of_lt (hless b hb a ha), rfl, rfl,
      fun later q hle => ⟨fun a ha => mem_due_later hle ha, fun haccepts => ?_⟩⟩
    obtain ⟨hok, hpublished⟩ :=
      publishes_due producer retention { store := s, producer := q } hs rfl haccepts
    exact ⟨hok, fun a ha => hpublished a (mem_due_later hle ha)⟩

end Scheduler

end Datebook
