import Datebook.Proofs.Calendar.Footprint
import Datebook.Proofs.Span.Period

/-!
# Events in the views of their own dates

A user looks up an event by the day, the week or the month in which it begins or ends. The view of
that period shows the event, because the date that was asked for lies in the period; only a leap
second at the end of the period does not. An event that begins in such a leap second ends after the
period as well, and is not shown in the view of its beginning. One that ends there is shown in the
view of its end only if it begins in the same period.

## Main definitions

* `Datebook.Period.view?`: the view of a period of a calendar.
* `Datebook.Period.Shows`: what the view of a user's period comes to.

## Main results

* `Datebook.Period.shows_inRange`: the view of a period shows what begins or ends in its span.
* `Datebook.Period.own_dates_shown_iff`
-/

namespace Datebook

namespace Period

variable {p : Period} {span : Span} {e : Event}

/-! ### Views -/

/-- The view of the period in which a date lies. -/
def view? (cal : Calendar) (userId : Int) (date : Instant) :
    Period → Option (Routine (Except CalendarError (List Event)))
  | .day => cal.day? userId date
  | .week => cal.week? userId date
  | .month => cal.month? userId date

/-- A calendar on a service shows a user these events in the view of the period of a date. -/
def Shows (p : Period) (cal : Calendar) (s : Service) (userId : Int) (date : Instant)
    (events : List Event) : Prop :=
  ∃ routine, p.view? cal userId date = some routine ∧ routine.run s = (.ok events, s)

/-- Every view asks for the events in the span of its period. -/
theorem exists_view?_eq_within (cal : Calendar) (userId : Int) (date : Instant) (p : Period) :
    ∃ operation, p.view? cal userId date = cal.within operation userId (p.span? date) := by
  cases p with
  | day => exact ⟨"get_all_events_day", rfl⟩
  | week => exact ⟨"get_all_events_week", rfl⟩
  | month => exact ⟨"get_all_events_month", rfl⟩

/-- Where a period is a span, a user is shown the events that begin or end in it. -/
theorem shows_inRange (cal : Calendar) (s : Service) {userId : Int} (huser : userId ≠ 0)
    {date : Instant} (hspan : p.span? date = some span) :
    p.Shows cal s userId date (s.store.inRange userId span) := by
  obtain ⟨operation, hview⟩ := p.exists_view?_eq_within cal userId date
  refine ⟨cal.bounded operation (.range userId span), ?_, rfl⟩
  rw [hview, hspan, Calendar.within, if_neg huser]
  rfl

/-! ### Own dates -/

/-- An event has an end in the period of its beginning, unless it begins in a leap second at the end
of it. -/
theorem holdsEndOf_onTime_iff (hspan : p.span? e.onTime = some span) (hle : e.onTime ≤ e.offTime) :
    span.holdsEndOf e.span = true ↔ ¬ e.onTime.InLeapSecondAfter span := by
  rw [Span.holdsEndOf, Bool.or_eq_true, Event.span, holds_iff hspan]
  refine or_iff_left_of_imp fun hend hleap => ?_
  -- What begins after the period ends after it.
  have hlast := last_lt_of_inLeapSecondAfter hspan hleap
  exact Instant.not_le.mpr (Instant.lt_of_lt_of_le hlast hle) (Span.holds_eq_true_iff.mp hend).2

/-- An event has an end in the period of its end, unless it ends in a leap second at the end of it
and does not begin in it. -/
theorem holdsEndOf_offTime_iff (hspan : p.span? e.offTime = some span) :
    span.holdsEndOf e.span = true ↔
      span.holds e.onTime = true ∨ ¬ e.offTime.InLeapSecondAfter span := by
  rw [Span.holdsEndOf, Bool.or_eq_true, Event.span, holds_iff hspan]

/-- **Which events are shown in the views of their own dates.** After any calls on an empty store, a
stored event is looked up by its user in the view of the day, the week or the month in which it
begins, or in which it ends, provided that this period is a span. The view of its beginning shows
the event exactly if it does not begin in a leap second at the end of the period, and the view of
its end exactly if it begins in the period or does not end in a leap second at the end of it. -/
theorem own_dates_shown_iff (p : Period) (cal : Calendar) (calls : List StoreCall) (s : Service)
    {e : Event} (he : e ∈ (({} : EventStore).run calls).events) :
    let t := { s with store := ({} : EventStore).run calls }
    (∀ span, p.span? e.onTime = some span →
        ∃ shown, p.Shows cal t e.userId e.onTime shown ∧
          (e ∈ shown ↔ ¬ e.onTime.InLeapSecondAfter span)) ∧
      ∀ span, p.span? e.offTime = some span →
        ∃ shown, p.Shows cal t e.userId e.offTime shown ∧
          (e ∈ shown ↔ span.holds e.onTime = true ∨ ¬ e.offTime.InLeapSecondAfter span) := by
  intro t
  have h : t.store.Sound := EventStore.sound_empty.run calls
  obtain ⟨huser, -, -, -, hlt, -⟩ := Event.validate_eq_ok_iff.mp (h.valid e he)
  have hmem (span : Span) :
      e ∈ t.store.inRange e.userId span ↔ span.holdsEndOf e.span = true := by
    have hown : e ∈ t.store.ofUser e.userId := List.mem_filter.mpr ⟨he, beq_self_eq_true _⟩
    rw [EventStore.inRange, List.mem_filter, and_iff_right hown]
  constructor
  · intro span hspan
    refine ⟨_, shows_inRange cal t huser hspan, ?_⟩
    rw [hmem, holdsEndOf_onTime_iff hspan (Instant.le_of_lt hlt)]
  · intro span hspan
    refine ⟨_, shows_inRange cal t huser hspan, ?_⟩
    rw [hmem, holdsEndOf_offTime_iff hspan]

/-- A party that begins in the leap second before the year 2017, a Sunday, and goes on for an hour
after that. -/
def party : Event where
  id := 1
  userId := 1
  title := "party"
  onTime := (Instant.of? 17166 86399 1000000000).getD .epoch
  offTime := (Instant.of? 17167 3600 0).getD .epoch

/-- The week of its beginning holds the end of the party, and shows it. -/
theorem party_shown_in_week :
    party ∈ (({} : EventStore).run [.insert party]).events ∧
      ∃ span shown, Period.week.span? party.onTime = some span ∧
        ¬ party.onTime.InLeapSecondAfter span ∧
        Period.week.Shows {} { store := ({} : EventStore).run [.insert party] } 1 party.onTime
          shown ∧
        party ∈ shown := by
  have he : party ∈ (({} : EventStore).run [.insert party]).events := by decide +kernel
  let span : Span := ⟨{ day := 17161, second := 0, nano := 0 },
    { day := 17167, second := 86399, nano := 999999999 }⟩
  have hspan : Period.week.span? party.onTime = some span := by decide +kernel
  have hday : ¬ party.onTime.InLeapSecondAfter span := fun hleap => absurd hleap.1 (by decide)
  obtain ⟨shown, hshows, hmem⟩ :=
    (own_dates_shown_iff .week {} [.insert party] {} he).1 span hspan
  exact ⟨he, span, shown, hspan, hday, hshows, hmem.mpr hday⟩

/-- The party is stored, and the day of its beginning is a span, but the view of that day is empty:
the span ends before the leap second, and the party ends on the next day. -/
theorem party_not_shown_on_day :
    party ∈ (({} : EventStore).run [.insert party]).events ∧
      (Period.day.span? party.onTime).isSome = true ∧
      Period.day.Shows {} { store := ({} : EventStore).run [.insert party] } 1 party.onTime [] := by
  let span : Span := ⟨{ day := 17166, second := 0, nano := 0 },
    { day := 17166, second := 86399, nano := 999999999 }⟩
  have hspan : Period.day.span? party.onTime = some span := by decide +kernel
  have hnone : (({} : EventStore).run [.insert party]).inRange 1 span = [] := by decide +kernel
  have hshows := shows_inRange {} { store := ({} : EventStore).run [.insert party] }
    (by decide : (1 : Int) ≠ 0) hspan
  rw [hnone] at hshows
  exact ⟨by decide +kernel, by rw [hspan]; rfl, hshows⟩

end Period

end Datebook
