import Datebook.Proofs.Date.Months
import Datebook.Span

/-!
# Spans at the ends of the range

A span of whole days needs the midnight before its first day and the one after its last. The range
of days begins with a Thursday and ends with a Monday, so that it holds no whole week at either end,
and nothing follows its last day. The month has a first day in the range wherever it lies, and where
no month follows it ends with the last instant of all.

## Main results

* `Datebook.Span.day?_eq_none_iff`, `Datebook.Span.week?_eq_none_iff`
* `Datebook.Span.month_eq`: both ends of a month.
-/

namespace Datebook

namespace Instant

theorem of?_eq_none_iff {day : Int} {second nano : Nat} (hsecond : second < 86400)
    (hnano : nano < 2000000000) :
    of? day second nano = none ↔ day < firstDay ∨ lastDay < day := by
  rw [of?, firstDay, lastDay]
  split
  · next h =>
    simp only [reduceCtorEq, false_iff]
    omega
  · next h =>
    simp only [true_iff]
    omega

/-- Only days in the range have a midnight. -/
theorem midnight?_eq_none_iff {day : Int} :
    midnight? day = none ↔ day < firstDay ∨ lastDay < day :=
  of?_eq_none_iff (by decide) (by decide)

/-- There is an instant before the midnight of any day in the range but the first. -/
theorem lastBefore?_eq_none_iff {day : Int} :
    lastBefore? day = none ↔ day ≤ firstDay ∨ lastDay < day := by
  rw [lastBefore?]
  split
  · rw [of?_eq_none_iff (by decide) (by decide), firstDay, lastDay] at *
    omega
  · simp only [true_iff]
    omega

end Instant

namespace Span

open Instant (firstDay lastDay)

/-- Whole days make a span where the range holds both its sides. -/
theorem days?_eq_none_iff {first next : Int} :
    days? first next = none ↔
      (first < firstDay ∨ lastDay < first) ∨ next ≤ firstDay ∨ lastDay < next := by
  rw [← Instant.midnight?_eq_none_iff, ← Instant.lastBefore?_eq_none_iff, days?]
  cases Instant.midnight? first <;> cases Instant.lastBefore? next <;> simp

/-- Only the last day of all is no span. -/
theorem day?_eq_none_iff {i : Instant} : day? i = none ↔ i.day = lastDay := by
  have hfirst := i.first_le_day
  have hlast := i.day_le_last
  rw [day?, days?_eq_none_iff, firstDay, lastDay]
  omega

/-- The days before the first Monday and the last day, which is a Monday, lie in weeks that are no
spans. -/
theorem week?_eq_none_iff {i : Instant} :
    week? i = none ↔ i.day ≤ firstDay + 3 ∨ i.day = lastDay := by
  have hfirst := i.first_le_day
  have hlast := i.day_le_last
  rw [week?, days?_eq_none_iff, Date.daysSinceMonday, firstDay, lastDay]
  omega

/-- A month begins with the midnight of its first day. It ends a nanosecond before the month after
it or, where none follows, with the last instant of all. -/
theorem month_eq (i : Instant) :
    Instant.midnight? i.date.firstOfMonth.dayNumber = some (month i).first ∧
      (Instant.lastBefore? i.date.firstOfNextMonth.dayNumber = some (month i).last ∨
        Instant.lastBefore? i.date.firstOfNextMonth.dayNumber = none ∧
          (month i).last = .latest) := by
  obtain ⟨first, hfirst⟩ := i.exists_midnight?_firstOfMonth
  refine ⟨by rw [month, hfirst, Option.getD_some], ?_⟩
  rw [month, lastOfMonth]
  cases Instant.lastBefore? i.date.firstOfNextMonth.dayNumber with
  | none => exact Or.inr ⟨rfl, rfl⟩
  | some last => exact Or.inl rfl

end Span

end Datebook
