import Datebook.Proofs.Span.Range

/-!
# Days, weeks and months as periods

Every instant has its day, its week and its month. Each of them consists of whole days, and the day
of the instant is one of these. The instant itself lies in the period, unless it lies in a leap
second at the very end of it: the period ends with the nanosecond before a midnight, and such a leap
second comes after that and before the midnight.

## Main definitions

* `Datebook.Period`, `Datebook.Period.span?`
* `Datebook.Span.Whole`: a span of whole days.
* `Datebook.Instant.InLeapSecondAfter`: the leap second between the end of a span and the midnight.

## Main results

* `Datebook.Period.span?_spec`
* `Datebook.Period.holds_iff`: which instants lie in their own period.
-/

namespace Datebook

/-- The periods into which a calendar divides time. -/
inductive Period where
  | day
  | week
  | month
  deriving DecidableEq, Repr

namespace Instant

variable {i : Instant} {day : Int}

/-- The instant lies in the leap second at the end of the last day of a span. -/
def InLeapSecondAfter (i : Instant) (s : Span) : Prop :=
  i.day = s.last.day ∧ i.second = 86399 ∧ i.isLeapSecond = true

theorem midnight?_eq_some (h : midnight? day = some i) :
    i.day = day ∧ i.second = 0 ∧ i.nano = 0 :=
  of?_eq_some h

theorem lastBefore?_eq_some (h : lastBefore? day = some i) :
    i.day = day - 1 ∧ i.second = 86399 ∧ i.nano = 999999999 := by
  rw [lastBefore?] at h
  split at h
  · exact of?_eq_some h
  · simp at h

end Instant

namespace Span

variable {s : Span} {i : Instant}

/-- The span begins with a midnight and ends with the nanosecond before one. -/
structure Whole (s : Span) : Prop where
  first_second : s.first.second = 0
  first_nano : s.first.nano = 0
  last_second : s.last.second = 86399
  last_nano : s.last.nano = 999999999

/-- Of the instants on its days, a span of whole days holds all but those of a leap second at its
end. -/
theorem Whole.holds_iff (h : s.Whole) (hfirst : s.first.day ≤ i.day) (hlast : i.day ≤ s.last.day) :
    s.holds i = true ↔ ¬ i.InLeapSecondAfter s := by
  have hsecond := i.second_lt
  have hnano := i.nano_lt
  rw [holds_eq_true_iff, Instant.le_def, Instant.le_def]
  simp only [Instant.position, Instant.InLeapSecondAfter, Instant.isLeapSecond, h.first_second,
    h.first_nano, h.last_second, h.last_nano, decide_eq_true_eq]
  omega

theorem days?_eq_some {first next : Int} (h : days? first next = some s) :
    s.Whole ∧ s.first.day = first ∧ s.last.day = next - 1 := by
  rw [days?] at h
  obtain ⟨begin, hbegin, h⟩ := Option.bind_eq_some_iff.mp h
  obtain ⟨last, hlast, h⟩ := Option.bind_eq_some_iff.mp h
  obtain rfl := Option.some.inj h
  obtain ⟨hfirst, hfirst_second, hfirst_nano⟩ := Instant.midnight?_eq_some hbegin
  obtain ⟨hday, hsecond, hnano⟩ := Instant.lastBefore?_eq_some hlast
  exact ⟨⟨hfirst_second, hfirst_nano, hsecond, hnano⟩, hfirst, hday⟩

/-- A month consists of whole days, and the day of the instant is one of them. -/
theorem month_spec (i : Instant) :
    (month i).Whole ∧ (month i).first.day ≤ i.day ∧ i.day ≤ (month i).last.day := by
  obtain ⟨hfirst, hlast⟩ := month_eq i
  obtain ⟨hfirst_day, hfirst_second, hfirst_nano⟩ := Instant.midnight?_eq_some hfirst
  have hvalid := i.isValid_date
  have hbegin : (month i).first.day ≤ i.day := by
    have hfirst_le := Date.dayNumber_firstOfMonth_le hvalid
    rwa [Instant.dayNumber_date, ← hfirst_day] at hfirst_le
  rcases hlast with hlast | ⟨-, hlast⟩
  · obtain ⟨hday, hsecond, hnano⟩ := Instant.lastBefore?_eq_some hlast
    refine ⟨⟨hfirst_second, hfirst_nano, hsecond, hnano⟩, hbegin, ?_⟩
    have hnext := Date.dayNumber_lt_firstOfNextMonth hvalid
    rw [Instant.dayNumber_date] at hnext
    omega
  · refine ⟨⟨hfirst_second, hfirst_nano, by rw [hlast]; rfl, by rw [hlast]; rfl⟩, hbegin, ?_⟩
    rw [hlast]
    exact i.day_le_last

end Span

namespace Period

variable {p : Period} {i : Instant} {s : Span}

/-- The span of the period of an instant, where both its ends are in the range of instants. -/
def span? : Period → Instant → Option Span
  | .day, i => Span.day? i
  | .week, i => Span.week? i
  | .month, i => some (Span.month i)

/-- A period consists of whole days, and the day of the instant is one of them. -/
theorem span?_spec (h : p.span? i = some s) :
    s.Whole ∧ s.first.day ≤ i.day ∧ i.day ≤ s.last.day := by
  cases p with
  | day =>
    obtain ⟨hwhole, hfirst, hlast⟩ := Span.days?_eq_some h
    exact ⟨hwhole, by omega, by omega⟩
  | week =>
    obtain ⟨hwhole, hfirst, hlast⟩ := Span.days?_eq_some h
    rw [Date.daysSinceMonday] at hfirst hlast
    exact ⟨hwhole, by omega, by omega⟩
  | month =>
    obtain rfl := Option.some.inj h
    exact Span.month_spec i

/-- An instant lies in its own period, unless it lies in a leap second at the end of it. -/
theorem holds_iff (h : p.span? i = some s) : s.holds i = true ↔ ¬ i.InLeapSecondAfter s := by
  obtain ⟨hwhole, hfirst, hlast⟩ := span?_spec h
  exact hwhole.holds_iff hfirst hlast

/-- A leap second at the end of a period comes after it. -/
theorem last_lt_of_inLeapSecondAfter (h : p.span? i = some s) (hleap : i.InLeapSecondAfter s) :
    s.last < i := by
  obtain ⟨hwhole, -, -⟩ := span?_spec h
  obtain ⟨hday, hsecond, hnano⟩ := hleap
  rw [Instant.isLeapSecond, decide_eq_true_eq] at hnano
  rw [Instant.lt_def]
  simp only [Instant.position, hwhole.last_second, hwhole.last_nano]
  omega

end Period

end Datebook
