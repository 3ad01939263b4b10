import Datebook.Proofs.Span.Days

/-!
# Periods tile time

The days follow one another without gaps and without overlaps, and so do the weeks and the months.
A period is the same for all instants on its days; hence two periods of one kind are equal or have
no day in common, and as both are made of whole days, no instant either. A period begins with a
midnight that any instant may be asked about, and the nanosecond after its end, where it is in the
range of instants, is such a midnight for the next one.

Nanoseconds are counted without leap seconds, of which a period may hold one or more.

## Main definitions

* `Datebook.Instant.nanos`: nanoseconds from the epoch.
* `Datebook.Period.Begins`: the instants at which a period can begin.
* `Datebook.Period.firstDay`, `Datebook.Period.numberOfDays`: the days of the period of an instant.

## Main results

* `Datebook.Period.exists_span?_iff`: where a period is a span.
* `Datebook.Period.days_eq`, `Datebook.Period.begins_first`, `Datebook.Period.begins_next`
* `Datebook.Period.span?_eq_of_hasDay`: a period is the same for all of its days.
* `Datebook.Period.span_eq_of_holds`: two periods of one kind that share an instant are the same.
* `Datebook.Period.periods_tile`
-/

namespace Datebook

namespace Instant

variable {i j : Instant}

/-- Nanoseconds from the epoch to an instant in no leap second, all days having the same length. -/
def nanos (i : Instant) : Int :=
  (i.day * 86400 + i.second) * 1000000000 + i.nano

/-- The nanoseconds of a day. -/
def nanosPerDay : Int := 86400 * 1000000000

/-- The instant is the first of its day. -/
def IsMidnight (i : Instant) : Prop :=
  i.second = 0 ∧ i.nano = 0

/-- A day has one midnight. -/
theorem IsMidnight.eq_of_day_eq (hi : i.IsMidnight) (hj : j.IsMidnight) (hday : i.day = j.day) :
    i = j := by
  refine position_inj.mp ?_
  simp only [position, hi.1, hi.2, hj.1, hj.2, hday]

/-- The range of days ends with a month. -/
theorem dayNumber_firstOfNextMonth_le (i : Instant) :
    i.date.firstOfNextMonth.dayNumber ≤ lastDay + 1 := by
  refine Int.not_lt.mp fun hlate => ?_
  have hbegin := Date.dayNumber_firstOfMonth_le i.isValid_date
  rw [dayNumber_date] at hbegin
  have hlast : latest.date.dayNumber = lastDay := dayNumber_date latest
  -- The last day of all would lie in the same month, which ends with it.
  have hsame : latest.date.SameMonth i.date := by
    rw [Date.sameMonth_iff latest.isValid_date i.isValid_date, hlast]
    exact ⟨Int.le_trans hbegin i.day_le_last, by omega⟩
  have hnext : latest.date.firstOfNextMonth.dayNumber = lastDay + 1 := by decide +kernel
  rw [← hsame.firstOfNextMonth_eq, hnext] at hlate
  exact Int.lt_irrefl _ hlate

end Instant

namespace Span

variable {s : Span}

/-- The nanosecond after a span of whole days is a midnight, that of the day after its last. -/
theorem Whole.isMidnight_of_nanos_eq (h : s.Whole) {next : Instant}
    (hleap : next.isLeapSecond = false) (hnext : next.nanos = s.last.nanos + 1) :
    next.IsMidnight ∧ next.day = s.last.day + 1 := by
  have hsecond := next.second_lt
  rw [Instant.isLeapSecond, decide_eq_false_iff_not] at hleap
  simp only [Instant.nanos, h.last_second, h.last_nano] at hnext
  rw [Instant.IsMidnight]
  omega

/-- The day of an instant that lies in a span of whole days is one of them. -/
theorem Whole.day_between (h : s.Whole) {i : Instant} (hi : s.holds i = true) :
    s.first.day ≤ i.day ∧ i.day ≤ s.last.day := by
  have hsecond := i.second_lt
  have hnano := i.nano_lt
  rw [holds_eq_true_iff, Instant.le_def, Instant.le_def] at hi
  simp only [Instant.position, h.first_second, h.first_nano, h.last_second, h.last_nano] at hi
  omega

/-- A span of whole days is as many days long as it has. -/
theorem Whole.nanos_length (h : s.Whole) :
    s.last.nanos + 1 - s.first.nanos = (s.last.day + 1 - s.first.day) * Instant.nanosPerDay := by
  simp only [Instant.nanosPerDay, Instant.nanos, h.first_second, h.first_nano, h.last_second,
    h.last_nano]
  omega

/-- What lies on the days of one span of whole days lies within it. -/
theorem Whole.first_le_first_and_last_le_last {t : Span} (hs : s.Whole) (ht : t.Whole)
    (hfirst : s.first.day ≤ t.first.day) (hlast : t.last.day ≤ s.last.day) :
    s.first ≤ t.first ∧ t.last ≤ s.last := by
  rw [Instant.le_def, Instant.le_def]
  simp only [Instant.position, hs.first_second, hs.first_nano, hs.last_second, hs.last_nano,
    ht.first_second, ht.first_nano, ht.last_second, ht.last_nano]
  omega

end Span

namespace Period

variable {p : Period} {d i j : Instant} {s t : Span}

/-- The first day of the period of an instant. -/
def firstDay : Period → Instant → Int
  | .day, d => d.day
  | .week, d => d.day - Date.daysSinceMonday d.day
  | .month, d => d.date.firstOfMonth.dayNumber

/-- The number of days of the period of an instant. -/
def numberOfDays : Period → Instant → Nat
  | .day, _ => 1
  | .week, _ => 7
  | .month, d => Date.monthLength d.date.year d.date.month

/-- A period can begin with a midnight: that of any day, of a Monday, or of the first of a month. -/
def Begins : Period → Instant → Prop
  | .day, i => i.IsMidnight
  | .week, i => i.IsMidnight ∧ Date.daysSinceMonday i.day = 0
  | .month, i => i.IsMidnight ∧ i.date.day = 1

theorem Begins.isMidnight (h : p.Begins i) : i.IsMidnight := by
  cases p with
  | day => exact h
  | week | month => exact h.1

/-! ### The days of a period -/

/-- The first day of a span is that of its period, and the last is as many days on as the period
has. -/
theorem days_eq (h : p.span? d = some s) :
    s.first.day = p.firstDay d ∧ s.last.day + 1 = p.firstDay d + p.numberOfDays d := by
  cases p with
  | day =>
    obtain ⟨-, hfirst, hlast⟩ := Span.days?_eq_some h
    simp only [firstDay, numberOfDays]
    omega
  | week =>
    obtain ⟨-, hfirst, hlast⟩ := Span.days?_eq_some h
    simp only [firstDay, numberOfDays]
    omega
  | month =>
    obtain rfl := Option.some.inj h
    obtain ⟨hfirst, hlast⟩ := Span.month_eq d
    have hnext := Date.dayNumber_firstOfNextMonth d.isValid_date
    refine ⟨(Instant.midnight?_eq_some hfirst).1, ?_⟩
    simp only [firstDay, numberOfDays, ← hnext]
    rcases hlast with hlast | ⟨hnone, hlast⟩
    · rw [(Instant.lastBefore?_eq_some hlast).1]
      omega
    · -- Where no month follows, the next day after the last of all would be the first of one.
      have hle := d.dayNumber_firstOfNextMonth_le
      have hlt := Date.dayNumber_lt_firstOfNextMonth d.isValid_date
      have hday := d.first_le_day
      rw [Instant.dayNumber_date] at hlt
      rw [Instant.lastBefore?_eq_none_iff, Instant.firstDay] at hnone
      rw [hlast]
      simp only [Instant.latest, Instant.lastDay] at *
      omega

/-- A period is a span exactly where both midnights at its sides are in the range of instants; for a
month this does not matter, because the range consists of whole months. -/
theorem exists_span?_iff (p : Period) (d : Instant) :
    (∃ s, p.span? d = some s) ↔
      p = .month ∨ (∃ begin, Instant.midnight? (p.firstDay d) = some begin) ∧
        ∃ next, Instant.midnight? (p.firstDay d + p.numberOfDays d) = some next := by
  have hdays {first next : Int} (hlt : first < next) :
      (∃ s, Span.days? first next = some s) ↔
        (∃ begin, Instant.midnight? first = some begin) ∧
          ∃ i, Instant.midnight? next = some i := by
    simp only [← Option.ne_none_iff_exists', ne_eq, Span.days?_eq_none_iff,
      Instant.midnight?_eq_none_iff]
    omega
  cases p with
  | day =>
    rw [or_iff_right (by decide)]
    exact hdays (Int.lt_succ d.day)
  | week =>
    rw [or_iff_right (by decide)]
    exact hdays (Int.lt_add_of_pos_right _ (by decide))
  | month => exact iff_of_true ⟨_, rfl⟩ (Or.inl rfl)

/-- A period is the same for all instants on its days. -/
theorem span?_eq_of_hasDay (h : p.span? d = some s) (hday : p.HasDay d j) :
    p.span? j = some s := by
  cases p with
  | day =>
    rw [← h, span?, span?, Span.day?, Span.day?, show j.day = d.day from hday]
  | week =>
    have hmonday : j.day - Date.daysSinceMonday j.day = d.day - Date.daysSinceMonday d.day := by
      obtain ⟨k, hk, hday⟩ := hday
      rw [hday]
      simp only [Date.daysSinceMonday]
      omega
    rw [← h]
    simp only [span?, Span.week?, hmonday]
  | month =>
    have hsame : j.date.SameMonth d.date := hday
    obtain ⟨first, hfirst⟩ := d.exists_midnight?_firstOfMonth
    rw [← h]
    simp only [span?, Span.month, Span.lastOfMonth, hsame.firstOfMonth_eq,
      hsame.firstOfNextMonth_eq, hfirst, Option.getD_some]

/-- An instant in no leap second lies in its own period. -/
theorem holds_of_isLeapSecond_eq_false (h : p.span? d = some s) (hleap : d.isLeapSecond = false) :
    s.holds d = true := by
  refine (holds_iff h).mpr fun hafter => ?_
  rw [hafter.2.2] at hleap
  exact Bool.noConfusion hleap

/-- Two periods of one kind that have an instant in common are the same. -/
theorem span_eq_of_holds (hs : p.span? d = some s) (ht : p.span? j = some t)
    (his : s.holds i = true) (hit : t.holds i = true) : s = t := by
  have hown {u : Span} {k : Instant} (hu : p.span? k = some u) (hiu : u.holds i = true) :
      p.span? i = some u :=
    span?_eq_of_hasDay hu ((hasDay_iff hu).mpr ((span?_spec hu).1.day_between hiu))
  exact Option.some.inj ((hown hs his).symm.trans (hown ht hit))

/-! ### Where periods begin -/

/-- A period begins where periods of its kind can begin. -/
theorem begins_first (h : p.span? d = some s) : p.Begins s.first := by
  obtain ⟨hwhole, -, -⟩ := span?_spec h
  have hmidnight : s.first.IsMidnight := ⟨hwhole.first_second, hwhole.first_nano⟩
  have hfirst := (days_eq h).1
  cases p with
  | day => exact hmidnight
  | week =>
    refine ⟨hmidnight, ?_⟩
    simp only [hfirst, firstDay, Date.daysSinceMonday]
    omega
  | month =>
    refine ⟨hmidnight, ?_⟩
    rw [Instant.date, hfirst, firstDay,
      Date.ofDayNumber_dayNumber (Date.isValid_firstOfMonth d.isValid_date)]
    rfl

/-- The week of Wednesday 2024-03-13 begins with Monday the 11th. -/
example : (week.span? { day := 19795, second := 54000, nano := 0 }).map (·.first.date) =
    some ⟨2024, 3, 11⟩ := by
  decide +kernel

/-- The midnight after the last day of a period is one with which a period of its kind can begin. -/
theorem begins_next (h : p.span? d = some s) {next : Instant} (hmidnight : next.IsMidnight)
    (hday : next.day = s.last.day + 1) : p.Begins next := by
  rw [(days_eq h).2] at hday
  cases p with
  | day => exact hmidnight
  | week =>
    refine ⟨hmidnight, ?_⟩
    simp only [hday, firstDay, numberOfDays, Date.daysSinceMonday]
    omega
  | month =>
    refine ⟨hmidnight, ?_⟩
    rw [Instant.date, hday, firstDay, numberOfDays,
      ← Date.dayNumber_firstOfNextMonth d.isValid_date,
      Date.ofDayNumber_dayNumber (Date.isValid_firstOfNextMonth d.isValid_date),
      Date.day_firstOfNextMonth]

/-- An instant with which a period can begin is the first of its own. -/
theorem first_eq_of_begins (hi : p.Begins i) (h : p.span? i = some s) : s.first = i := by
  obtain ⟨hwhole, -, -⟩ := span?_spec h
  have hmidnight : s.first.IsMidnight := ⟨hwhole.first_second, hwhole.first_nano⟩
  refine hmidnight.eq_of_day_eq hi.isMidnight ?_
  rw [(days_eq h).1]
  cases p with
  | day => rfl
  | week =>
    rw [firstDay, hi.2, Int.sub_zero]
  | month =>
    rw [firstDay, Date.dayNumber_firstOfMonth, hi.2, Instant.dayNumber_date]
    omega

/-- **Days, weeks and months tile time.** The month of any instant is a span, and its day or week is
one exactly if the midnight with which it begins and the midnight after it are in the range of
instants. An instant in no leap second lies in its own period. A period begins with a midnight, that
of a Monday for a week and of the first of a month for a month, and lasts one day, seven days, or as
many as the month has. The instant one nanosecond after its end, where there is one, is such a
midnight, with which the period of that instant begins. The day of an instant lies within its week
and its month. Another instant in no leap second has the same period if it lies in the first, and
else a period that has no instant in common with it. -/
theorem periods_tile (p : Period) (d : Instant) :
    ((∃ s, p.span? d = some s) ↔
        p = .month ∨ (∃ begin, Instant.midnight? (p.firstDay d) = some begin) ∧
          ∃ next, Instant.midnight? (p.firstDay d + p.numberOfDays d) = some next) ∧
      ∀ s, p.span? d = some s →
        (d.isLeapSecond = false → s.first ≤ d ∧ d ≤ s.last) ∧ p.Begins s.first ∧
          s.last.nanos + 1 - s.first.nanos = p.numberOfDays d * Instant.nanosPerDay ∧
          (∀ next : Instant, next.isLeapSecond = false → next.nanos = s.last.nanos + 1 →
            p.Begins next ∧ ∀ t, p.span? next = some t → t.first = next) ∧
          (∀ day, Period.day.span? d = some day → s.first ≤ day.first ∧ day.last ≤ s.last) ∧
          ∀ other t, other.isLeapSecond = false → p.span? other = some t →
            (s.holds other = true → t = s) ∧
              (s.holds other = false → ∀ i, ¬ (s.holds i = true ∧ t.holds i = true)) := by
  refine ⟨p.exists_span?_iff d, fun s hs => ?_⟩
  obtain ⟨hwhole, hfirst, hlast⟩ := span?_spec hs
  have hdays := days_eq hs
  refine ⟨fun hleap => Span.holds_eq_true_iff.mp (holds_of_isLeapSecond_eq_false hs hleap),
    begins_first hs, ?_, fun next hleap hnext => ?_, fun day hday => ?_,
    fun other t hleap ht => ⟨fun hin => ?_, fun hout i hboth => ?_⟩⟩
  · have hlength : s.last.day + 1 - s.first.day = p.numberOfDays d := by omega
    rw [hwhole.nanos_length, hlength]
  · obtain ⟨hmidnight, hday⟩ := hwhole.isMidnight_of_nanos_eq hleap hnext
    have hbegins : p.Begins next := begins_next hs hmidnight hday
    exact ⟨hbegins, fun t ht => first_eq_of_begins hbegins ht⟩
  · obtain ⟨hday_whole, -, -⟩ := span?_spec hday
    obtain ⟨hday_first, hday_last⟩ := days_eq hday
    simp only [firstDay, numberOfDays] at hday_first hday_last
    exact hwhole.first_le_first_and_last_le_last hday_whole (by omega) (by omega)
  · exact span_eq_of_holds ht hs (holds_of_isLeapSecond_eq_false ht hleap) hin
  · obtain rfl := span_eq_of_holds hs ht hboth.1 hboth.2
    rw [holds_of_isLeapSecond_eq_false ht hleap] at hout
    exact Bool.noConfusion hout

end Period

end Datebook
