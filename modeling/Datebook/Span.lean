import Datebook.Instant

/-!
# Closed spans of time

A span holds both its ends. Days, weeks and months are spans that begin at a midnight and
end one nanosecond before another; a leap second at the end of a day therefore lies outside
the day's span.

## Main definitions

* `Datebook.Span`: first and last instant
* `Datebook.Span.meets`: two spans have an instant in common
* `Datebook.Span.holdsEndOf`: an end of another span lies in the span
* `Datebook.Span.day?`, `Datebook.Span.week?`, `Datebook.Span.month`: the spans of a calendar
-/

namespace Datebook

/-- All instants from the first to the last, both included. -/
structure Span where
  first : Instant
  last : Instant
  deriving DecidableEq

namespace Span

/-- The instant lies in the span. -/
def holds (s : Span) (i : Instant) : Bool :=
  s.first ≤ i && i ≤ s.last

/-- Each span begins no later than the other ends; spans that only touch meet. -/
def meets (s t : Span) : Bool :=
  s.first ≤ t.last && t.first ≤ s.last

/-- The first or the last instant of the other span lies in the span. -/
def holdsEndOf (s t : Span) : Bool :=
  s.holds t.first || s.holds t.last

/-- The span of whole days from one day up to, but not including, another. It needs the
midnight at both of its sides. -/
def days? (first next : Int) : Option Span := do
  let first ← Instant.midnight? first
  let last ← Instant.lastBefore? next
  some ⟨first, last⟩

/-- The day of an instant. -/
def day? (i : Instant) : Option Span :=
  days? i.day (i.day + 1)

/-- The week of an instant, from Monday to Sunday. -/
def week? (i : Instant) : Option Span :=
  let monday := i.day - Date.daysSinceMonday i.day
  days? monday (monday + 7)

/-- The last instant of the month of an instant. The month after which no other follows
ends with the last instant of all. -/
def lastOfMonth (i : Instant) : Instant :=
  (Instant.lastBefore? i.date.firstOfNextMonth.dayNumber).getD .latest

/-- The month of an instant. Its first day always has a midnight, because the range of days
begins with a month. -/
def month (i : Instant) : Span :=
  ⟨(Instant.midnight? i.date.firstOfMonth.dayNumber).getD i.startOfDay, lastOfMonth i⟩

end Span

end Datebook
