import Datebook.Proofs.Calendar.OwnDates
import Datebook.Proofs.EventStore.Range
import Datebook.Proofs.Span.Days

/-!
# Weeks and months day by day

A user who goes through a week or a month day by day sees what its view shows. An event is in the
view of a period if it begins or ends there, hence on one of the days of the period, and it is then
in the view of that day. Ends in leap seconds are the exception, since the span of a day ends before
the leap second at its end while that of the period goes on.

## Main results

* `Datebook.Period.mem_inRange_iff_hasDay`
* `Datebook.Period.shown_iff_shown_on_day`
-/

namespace Datebook

namespace Period

variable {p : Period} {span : Span} {userId : Int} {date : Instant} {e : Event}

/-- The view of a period shows one list of events. -/
theorem Shows.unique {cal : Calendar} {s : Service} {shown others : List Event}
    (h : p.Shows cal s userId date shown) (hothers : p.Shows cal s userId date others) :
    shown = others := by
  obtain ⟨routine, hview, hrun⟩ := h
  obtain ⟨routine', hview', hrun'⟩ := hothers
  obtain rfl := Option.some.inj (hview.symm.trans hview')
  have houtcome := (Prod.mk.inj (hrun.symm.trans hrun')).1
  exact Except.ok.inj houtcome

/-- An event with no end in a leap second is in the range of a period if it begins or ends on one of
its days. -/
theorem mem_inRange_iff_hasDay {s : EventStore} (hspan : p.span? date = some span)
    (hon : e.onTime.isLeapSecond = false) (hoff : e.offTime.isLeapSecond = false) :
    e ∈ s.inRange userId span ↔
      e ∈ s.ofUser userId ∧ (p.HasDay date e.onTime ∨ p.HasDay date e.offTime) := by
  rw [EventStore.inRange, List.mem_filter, Span.holdsEndOf, Bool.or_eq_true, Event.span,
    holds_iff_hasDay hspan hon, holds_iff_hasDay hspan hoff]

/-- **A period is shown day by day.** After any calls on an empty store, of whose events none begins
or ends in a leap second, a user asks for the view of a day, a week or a month that is a span, and
all of whose days are spans. The view shows no event twice, every day of the period has a view, and
an event is in the view of the period exactly if it is in the view of one of these days. -/
theorem shown_iff_shown_on_day (p : Period) (cal : Calendar) (calls : List StoreCall) (s : Service)
    (hleap : ∀ e ∈ (({} : EventStore).run calls).events,
      e.onTime.isLeapSecond = false ∧ e.offTime.isLeapSecond = false)
    {userId : Int} (huser : userId ≠ 0) {date : Instant} {span : Span}
    (hspan : p.span? date = some span)
    (hdays : ∀ day, p.HasDay date day → (Period.day.span? day).isSome = true) :
    let t := { s with store := ({} : EventStore).run calls }
    ∃ shown, p.Shows cal t userId date shown ∧ shown.Nodup ∧
      (∀ day, p.HasDay date day → ∃ onDay, Period.day.Shows cal t userId day onDay) ∧
      ∀ e, e ∈ shown ↔
        ∃ day onDay, p.HasDay date day ∧ Period.day.Shows cal t userId day onDay ∧ e ∈ onDay := by
  intro t
  have h : t.store.Sound := EventStore.sound_empty.run calls
  have hofUser {e : Event} (he : e ∈ t.store.ofUser userId) :
      e.onTime.isLeapSecond = false ∧ e.offTime.isLeapSecond = false :=
    hleap e (List.mem_filter.mp he).1
  have hday {day : Instant} (hmem : p.HasDay date day) :
      ∃ onDay, Period.day.span? day = some onDay ∧
        Period.day.Shows cal t userId day (t.store.inRange userId onDay) := by
    obtain ⟨onDay, honDay⟩ := Option.isSome_iff_exists.mp (hdays day hmem)
    exact ⟨onDay, honDay, shows_inRange cal t huser honDay⟩
  refine ⟨_, shows_inRange cal t huser hspan, (h.nodup.filter _).filter _, fun day hmem => ?_,
    fun e => ⟨fun he => ?_, ?_⟩⟩
  · obtain ⟨onDay, -, hshows⟩ := hday hmem
    exact ⟨_, hshows⟩
  · -- The day on which the event begins or ends is the one that is looked for.
    have hown : e ∈ t.store.ofUser userId := (List.mem_filter.mp he).1
    obtain ⟨hon, hoff⟩ := hofUser hown
    obtain ⟨-, hend⟩ := (mem_inRange_iff_hasDay hspan hon hoff).mp he
    rcases hend with hend | hend
    · obtain ⟨onDay, honDay, hshows⟩ := hday hend
      exact ⟨e.onTime, _, hend, hshows,
        (mem_inRange_iff_hasDay honDay hon hoff).mpr ⟨hown, Or.inl rfl⟩⟩
    · obtain ⟨onDay, honDay, hshows⟩ := hday hend
      exact ⟨e.offTime, _, hend, hshows,
        (mem_inRange_iff_hasDay honDay hon hoff).mpr ⟨hown, Or.inr rfl⟩⟩
  · rintro ⟨day, shown, hmem, hshown, he⟩
    obtain ⟨onDay, honDay, hshows⟩ := hday hmem
    obtain rfl := hshown.unique hshows
    have hown : e ∈ t.store.ofUser userId := (List.mem_filter.mp he).1
    obtain ⟨hon, hoff⟩ := hofUser hown
    obtain ⟨-, hend⟩ := (mem_inRange_iff_hasDay honDay hon hoff).mp he
    exact (mem_inRange_iff_hasDay hspan hon hoff).mpr
      ⟨hown, hend.imp hmem.of_day_eq hmem.of_day_eq⟩

/-- A trip from the 30th of January to the 2nd of February 2024. -/
def trip : Event where
  id := 1
  userId := 1
  title := "trip"
  onTime := (Instant.of? 19752 28800 0).getD .epoch
  offTime := (Instant.of? 19755 64800 0).getD .epoch

/-- The view of February 2024 shows the trip, as does that of the day on which it ends. -/
theorem trip_shown_in_february :
    let date := (Instant.of? 19768 0 0).getD .epoch
    let calls : List StoreCall := [.insert trip]
    let t : Service := { store := ({} : EventStore).run calls }
    (∀ e ∈ (({} : EventStore).run calls).events,
        e.onTime.isLeapSecond = false ∧ e.offTime.isLeapSecond = false) ∧
      date.date = ⟨2024, 2, 15⟩ ∧ trip.onTime.date = ⟨2024, 1, 30⟩ ∧
      (∀ day, Period.month.HasDay date day → (Period.day.span? day).isSome = true) ∧
      ∃ shown, Period.month.Shows {} t 1 date shown ∧ trip ∈ shown ∧
        ∃ onDay, Period.day.Shows {} t 1 trip.offTime onDay ∧ trip ∈ onDay := by
  intro date calls t
  have hleap : ∀ e ∈ (({} : EventStore).run calls).events,
      e.onTime.isLeapSecond = false ∧ e.offTime.isLeapSecond = false := by decide +kernel
  let february : Span := ⟨{ day := 19754, second := 0, nano := 0 },
    { day := 19782, second := 86399, nano := 999999999 }⟩
  have hspan : Period.month.span? date = some february := by decide +kernel
  have hdays : ∀ day, Period.month.HasDay date day → (Period.day.span? day).isSome = true := by
    intro day hday
    rw [hasDay_iff hspan] at hday
    refine Option.isSome_iff_ne_none.mpr fun hnone => ?_
    have hlast := Span.day?_eq_none_iff.mp hnone
    rw [Instant.lastDay] at hlast
    have hend : day.day ≤ 19782 := hday.2
    omega
  have hmem : Period.month.HasDay date trip.offTime :=
    (hasDay_iff hspan).mpr ⟨by decide +kernel, by decide +kernel⟩
  let second : Span := ⟨{ day := 19755, second := 0, nano := 0 },
    { day := 19755, second := 86399, nano := 999999999 }⟩
  have hsecond : Period.day.span? trip.offTime = some second := by decide +kernel
  have honDay : trip ∈ t.store.inRange 1 second := by decide +kernel
  have hshows := shows_inRange {} t (by decide : (1 : Int) ≠ 0) hsecond
  obtain ⟨shown, hshown, -, -, hiff⟩ :=
    shown_iff_shown_on_day .month {} calls {} hleap (by decide : (1 : Int) ≠ 0) hspan hdays
  exact ⟨hleap, by decide +kernel, by decide +kernel, hdays, shown, hshown,
    (hiff trip).mpr ⟨trip.offTime, _, hmem, hshows, honDay⟩, _, hshows, honDay⟩

end Period

end Datebook
