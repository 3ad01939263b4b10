import Datebook.Proofs.Instant.LookingBack
import Datebook.Proofs.Scheduler.Outcome
import Mathlib.Data.List.Basic

/-!
# What is kept of the events that ended

A tick that gets as far as its purge leaves those events in the store that do not end before the
cutoff. For a number of days the cutoff lies so many days back, to the nanosecond. For a year it
lies 365 or 366 days back: what ended after the one is kept and what ended before the other is
removed in any year, and about the day in between the leap day decides.

## Main results

* `Datebook.Scheduler.events_tick`: what is left in the store.
* `Datebook.Scheduler.kept_by_age`: what is left by how long ago it ended.
-/

namespace Datebook

namespace Scheduler

variable {π : Type} {P : Producer π}

/-- A producer that refuses nothing accepts any reminders. -/
theorem Producer.acceptsAll_of_forall (h : ∀ r p, (P.publish r p).1 = .ok ()) (rs : List Reminder)
    (p : π) : P.AcceptsAll rs p := by
  induction rs generalizing p with
  | nil => trivial
  | cons r rs ih => exact ⟨h r p, ih _⟩

/-- A tick that gets as far as its purge leaves the events that do not end before the cutoff. -/
theorem events_tick (producer : Nat) (retention : Retention) {now : Instant} {b : Bench π}
    (haccepts : P.AcceptsAll ((b.store.due now).map .ofEvent) b.producer) :
    ((tick producer retention now).runWith P.handler b).2.store.events =
      b.store.events.filter fun e => retention.cutoff now ≤ e.offTime := by
  have hticked := tick_ticked P producer retention now b
  obtain ⟨report, hok⟩ := hticked.exists_ok_iff.mpr haccepts
  generalize (tick producer retention now).runWith P.handler b = out at hticked hok ⊢
  cases hticked with
  | completed => exact congrArg EventStore.events (b.store.purge_eq (retention.cutoff now))
  | aborted => simp at hok

/-- **What is purged by its age.** Let the producer accept the reminders of all due events, so that
a tick gets as far as its purge. Whatever the retention, there is a cutoff no later than the
present, and nothing is added. By a year no event is removed that ended at this time of day 365 days
ago or after that, and every event is removed that ended before this time of day 366 days ago. By a
number of days an event is kept, unless the present lies in a leap second, exactly if it ended no
earlier than at this time of day so many days ago, and all are where that comes before all instants.
What is kept for a number of days is also kept for a larger one. -/
theorem kept_by_age (P : Producer π) (producer : Nat) (now : Instant) (b : Bench π)
    (haccepts : P.AcceptsAll ((b.store.due now).map .ofEvent) b.producer) :
    let stored := b.store.events
    let kept (retention : Retention) :=
      ((tick producer retention now).runWith P.handler b).2.store.events
    (∀ retention : Retention, retention.cutoff now ≤ now ∧ (kept retention).Sublist stored) ∧
      (∀ e ∈ stored, now.placeBefore 365 ≤ e.offTime.position → e ∈ kept .year) ∧
      (∀ e ∈ stored, e.offTime.position < now.placeBefore 366 → e ∉ kept .year) ∧
      (now.isLeapSecond = false → ∀ count : Nat,
        kept (.days count) = stored.filter (fun e => now.placeBefore count ≤ e.offTime.position) ∧
          ((∀ i : Instant, i.position ≠ now.placeBefore count) → kept (.days count) = stored)) ∧
      ∀ count more : Nat, count ≤ more → (kept (.days count)).Sublist (kept (.days more)) := by
  intro stored kept
  have hkept (retention : Retention) :
      kept retention = stored.filter fun e => retention.cutoff now ≤ e.offTime :=
    events_tick producer retention haccepts
  refine ⟨fun retention => ⟨retention.cutoff_le now, ?_⟩, fun e he hrecent => ?_,
    fun e _ hold hmem => ?_, fun hleap count => ⟨?_, fun hnone => ?_⟩, fun count more hle => ?_⟩
  · rw [hkept]
    exact List.filter_sublist
  · rw [hkept]
    exact List.mem_filter.mpr ⟨he, decide_eq_true (Retention.cutoff_year_le hrecent)⟩
  · rw [hkept] at hmem
    have hcutoff : Retention.year.cutoff now ≤ e.offTime :=
      of_decide_eq_true (List.mem_filter.mp hmem).2
    exact Instant.not_le.mpr (Retention.lt_cutoff_year hold) hcutoff
  · rw [hkept]
    exact List.filter_congr fun e _ => decide_eq_decide.mpr (Retention.cutoff_days_le_iff hleap)
  · rw [hkept, List.filter_eq_self]
    intro e _
    have hback : now.daysBefore? count = none :=
      Option.eq_none_iff_forall_ne_some.mpr fun i hi =>
        hnone i ((Instant.daysBefore?_eq_some_iff hleap).mp hi)
    rw [Retention.cutoff, hback]
    exact decide_eq_true e.offTime.earliest_le
  · rw [hkept, hkept]
    refine List.monotone_filter_right stored fun e he => decide_eq_true ?_
    exact Instant.le_trans (Retention.cutoff_days_anti hle now) (of_decide_eq_true he)

/-- A producer that refuses nothing. -/
def willing : Producer Unit where
  publish _ p := (.ok (), p)

/-- The midnight at which 2024-06-04 begins. -/
def fourthOfJune : Instant :=
  (Instant.of? 19878 0 0).getD .epoch

/-- Two events that ended on 2023-06-03 and on 2023-06-05. The reminder of the first is still to
come. -/
def lastYear : Bench Unit :=
  let midnight (day : Int) : Instant := (Instant.of? day 0 0).getD .epoch
  let first : Event := {
    userId := 1
    title := "first"
    onTime := midnight 19510
    offTime := midnight 19511
    notifyTime := some (midnight 19510) }
  let second : Event := {
    userId := 1
    title := "second"
    onTime := midnight 19512
    offTime := midnight 19513 }
  { store := ({} : EventStore).run [.insert first, .insert second], producer := () }

/-- With a 29th of February in between, the second event ended 365 days ago and is kept by a year;
the first is due and removed. -/
theorem second_kept :
    let kept (retention : Retention) :=
      ((tick 0 retention fourthOfJune).runWith willing.handler lastYear).2.store.events
    willing.AcceptsAll ((lastYear.store.due fourthOfJune).map .ofEvent) lastYear.producer ∧
      (lastYear.store.due fourthOfJune).map (·.id) = [1] ∧
      lastYear.store.events.map (·.id) = [1, 2] ∧
      (∀ e ∈ lastYear.store.events, e ∈ kept .year ↔ e.id = 2) ∧
      (kept (.days 365)).map (·.id) = [2] ∧ kept (.days 400000000) = lastYear.store.events := by
  intro kept
  have haccepts :
      willing.AcceptsAll ((lastYear.store.due fourthOfJune).map .ofEvent) lastYear.producer :=
    willing.acceptsAll_of_forall (fun _ _ => rfl) _ _
  obtain ⟨-, hrecent, hold, hdays, -⟩ := kept_by_age willing 0 fourthOfJune lastYear haccepts
  have hleap : fourthOfJune.isLeapSecond = false := by decide +kernel
  have hsecond : ∀ e ∈ lastYear.store.events, e.id = 2 →
      fourthOfJune.placeBefore 365 ≤ e.offTime.position := by decide +kernel
  have hfirst : ∀ e ∈ lastYear.store.events, e.id ≠ 2 →
      e.offTime.position < fourthOfJune.placeBefore 366 := by decide +kernel
  have hyear : ∀ e ∈ lastYear.store.events, e ∈ kept .year ↔ e.id = 2 := fun e he =>
    ⟨fun hmem => Decidable.byContradiction fun hne => hold e he (hfirst e he hne) hmem,
      fun hid => hrecent e he (hsecond e he hid)⟩
  have hfew : (kept (.days 365)).map (·.id) = [2] := by
    rw [show kept (.days 365) = _ from (hdays hleap 365).1]
    decide +kernel
  have hmany : kept (.days 400000000) = lastYear.store.events := by
    refine (hdays hleap 400000000).2 fun i hi => ?_
    -- So many days ago is before the first day of all.
    have hplace : fourthOfJune.placeBefore 400000000 < Instant.earliest.position := by
      decide +kernel
    exact Int.not_le.mpr (hi ▸ hplace) i.earliest_le
  exact ⟨haccepts, by decide +kernel, by decide +kernel, hyear, hfew, hmany⟩

end Scheduler

end Datebook
