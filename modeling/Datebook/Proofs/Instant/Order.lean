import Datebook.Retention
import Datebook.Span

/-!
# The order of instants

Instants are compared by their place on one integer scale. This module has the laws of that
order which the store and the scheduler rely on: two closed spans have no instant in common
exactly when one ends before the other begins, and looking back from an instant, by days or by
a year of the calendar, never leads past it. The cutoff of a retention therefore never lies
after the instant it is taken at.

## Main results

* `Datebook.Span.meets_eq_false_iff`
* `Datebook.Instant.daysBefore?_le`, `Datebook.Instant.yearBefore?_le`
* `Datebook.Retention.cutoff_le`
-/

namespace Datebook

namespace Instant

variable {i j k : Instant}

/-! ### Laws of the order -/

theorem le_trans (hij : i ≤ j) (hjk : j ≤ k) : i ≤ k :=
  Int.le_trans (le_def.mp hij) (le_def.mp hjk)

theorem lt_of_lt_of_le (hij : i < j) (hjk : j ≤ k) : i < k :=
  Int.lt_of_lt_of_le (lt_def.mp hij) (le_def.mp hjk)

theorem le_of_lt (h : i < j) : i ≤ j :=
  Int.le_of_lt (lt_def.mp h)

theorem not_le : ¬ i ≤ j ↔ j < i := by
  rw [le_def, lt_def, Int.not_le]

/-- No instant comes before the first. -/
theorem earliest_le (i : Instant) : earliest ≤ i := by
  have hday := i.first_le_day
  rw [le_def]
  simp only [position, earliest]
  omega

/-- At the same time of day, the instant of the earlier day comes first. -/
theorem le_of_day_le (hday : i.day ≤ j.day) (hsecond : i.second = j.second)
    (hnano : i.nano = j.nano) : i ≤ j := by
  rw [le_def]
  simp only [position]
  omega

/-! ### Looking back -/

/-- The parts of an instant that was made from parts in range. -/
theorem of?_eq_some {day : Int} {second nano : Nat} (h : of? day second nano = some i) :
    i.day = day ∧ i.second = second ∧ i.nano = nano := by
  rw [of?] at h
  split at h
  · obtain rfl := Option.some.inj h
    exact ⟨rfl, rfl, rfl⟩
  · simp at h

/-- The parts of an instant make it. -/
theorem of?_parts (i : Instant) : of? i.day i.second i.nano = some i :=
  dif_pos ⟨⟨i.first_le_day, i.day_le_last⟩, i.second_lt, i.nano_lt⟩

/-- Counting back whole days never leads past the instant. -/
theorem daysBefore?_le {count : Nat} (h : i.daysBefore? count = some j) : j ≤ i := by
  rw [daysBefore?] at h
  split at h
  · obtain ⟨hday, hsecond, hnano⟩ := of?_eq_some h
    exact le_of_day_le (by omega) hsecond hnano
  · next hleap =>
    -- A leap second is left through its end, and then at least one day is counted back.
    have hcount : count ≠ 0 := fun hzero => hleap (Or.inl hzero)
    have hnano := i.nano_lt
    rw [le_def]
    simp only [position]
    split at h
    · obtain ⟨hday, hsecond, hrest⟩ := of?_eq_some h
      omega
    · obtain ⟨hday, hsecond, hrest⟩ := of?_eq_some h
      omega

end Instant

namespace Date

/-- The same date of the year before lies on an earlier day, also where it is cut to the length
of the month. -/
theorem dayNumber_yearBefore_lt (date : Date) : date.yearBefore.dayNumber < date.dayNumber := by
  have hday : min date.day (monthLength (date.year - 1) date.month) ≤ date.day :=
    Nat.min_le_left _ _
  simp only [yearBefore, dayNumber, daysToMarch, daysToEpoch]
  generalize min date.day (monthLength (date.year - 1) date.month) = day at hday
  split <;> omega

end Date

namespace Instant

variable {i j : Instant}

/-- The date of an instant is the date of its day. -/
theorem dayNumber_date (i : Instant) : i.date.dayNumber = i.day :=
  Date.dayNumber_ofDayNumber i.day

/-- The same time a year of the calendar earlier never lies past the instant. -/
theorem yearBefore?_le (h : i.yearBefore? = some j) : j ≤ i := by
  obtain ⟨hday, hsecond, hnano⟩ := of?_eq_some h
  have hearlier := i.date.dayNumber_yearBefore_lt
  rw [dayNumber_date] at hearlier
  exact le_of_day_le (by omega) hsecond hnano

end Instant

/-- The cutoff of a retention never lies after the instant at which it is taken. -/
theorem Retention.cutoff_le (retention : Retention) (now : Instant) :
    retention.cutoff now ≤ now := by
  cases retention with
  | year =>
    cases h : now.yearBefore? with
    | none => simpa only [cutoff, h, Option.getD_none] using now.earliest_le
    | some i => simpa only [cutoff, h, Option.getD_some] using Instant.yearBefore?_le h
  | days count =>
    cases h : now.daysBefore? count with
    | none => simpa only [cutoff, h, Option.getD_none] using now.earliest_le
    | some i => simpa only [cutoff, h, Option.getD_some] using Instant.daysBefore?_le h

/-! ### Spans -/

namespace Span

theorem holds_eq_true_iff {s : Span} {i : Instant} :
    s.holds i = true ↔ s.first ≤ i ∧ i ≤ s.last := by
  simp only [holds, Bool.and_eq_true, decide_eq_true_eq]

theorem meets_eq_true_iff {s t : Span} :
    s.meets t = true ↔ s.first ≤ t.last ∧ t.first ≤ s.last := by
  simp only [meets, Bool.and_eq_true, decide_eq_true_eq]

theorem holdsEndOf_eq_true_iff {s t : Span} :
    s.holdsEndOf t = true ↔
      (s.first ≤ t.first ∧ t.first ≤ s.last) ∨ (s.first ≤ t.last ∧ t.last ≤ s.last) := by
  simp only [holdsEndOf, Bool.or_eq_true, holds_eq_true_iff]

/-- Two closed spans have no instant in common exactly when one ends before the other begins. -/
theorem meets_eq_false_iff {s t : Span} :
    s.meets t = false ↔ s.last < t.first ∨ t.last < s.first := by
  simp only [meets, Bool.and_eq_false_iff, decide_eq_false_iff_not, Instant.not_le]
  exact Or.comm

/-- Meeting does not depend on which span comes first. -/
theorem meets_comm (s t : Span) : s.meets t = t.meets s :=
  Bool.and_comm _ _

end Span

end Datebook
