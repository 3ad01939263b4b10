import Datebook.Proofs.Span.Period

/-!
# The days of a period

A period is made up of days: a week of the seven days from its Monday on, a month of the days with
the same year and month. The first days of the months follow each other like the months, so that
the days of a month are those between the first of it and the first of the next. The day of an
instant is therefore one of a period exactly if it lies between the first and the last day of the
period's span, and an instant in no leap second lies in the span exactly if its day is one of them.

## Main definitions

* `Datebook.Period.HasDay`: the day of an instant is one of the period of a date.

## Main results

* `Datebook.Date.sameMonth_iff`: the days of a month.
* `Datebook.Period.hasDay_iff`
* `Datebook.Period.holds_iff_hasDay`
-/

namespace Datebook

namespace Date

/-! ### Months in their order -/

/-- A year that begins in March has at least 365 days. -/
theorem daysToMarch_add_le {year later : Int} (h : year < later) :
    daysToMarch year + 365 ≤ daysToMarch later := by
  unfold daysToMarch
  omega

/-- The day number of a date by its year from March on and the place of its month in that year. -/
theorem exists_dayNumber_eq (date : Date) (hmonth : 1 ≤ date.month) (hmonth_le : date.month ≤ 12) :
    ∃ year month : Int, 0 ≤ month ∧ month < 12 ∧
      12 * year + month = 12 * date.year + date.month - 3 ∧
      date.dayNumber =
        daysToMarch year + (153 * month + 2) / 5 + date.day - 1 - daysToEpoch := by
  by_cases hearly : date.month ≤ 2
  · exact ⟨_, _, by omega, by omega, by omega, dayNumber_of_le date hearly⟩
  · exact ⟨_, _, by omega, by omega, by omega, dayNumber_of_lt date (Nat.not_le.mp hearly)⟩

/-- A later month does not begin earlier. -/
theorem dayNumber_first_mono {year later : Int} {month next : Nat} (hmonth : 1 ≤ month)
    (hmonth_le : month ≤ 12) (hnext : 1 ≤ next) (hnext_le : next ≤ 12)
    (h : 12 * year + month ≤ 12 * later + next) :
    dayNumber ⟨year, month, 1⟩ ≤ dayNumber ⟨later, next, 1⟩ := by
  obtain ⟨y, m, hm, hm_lt, hplace, hfirst⟩ := exists_dayNumber_eq ⟨year, month, 1⟩ hmonth hmonth_le
  obtain ⟨z, n, hn, hn_lt, hplace', hlater⟩ := exists_dayNumber_eq ⟨later, next, 1⟩ hnext hnext_le
  dsimp only at hplace hplace' hfirst hlater
  rw [hfirst, hlater]
  have hyear : y = z ∨ y < z := by omega
  rcases hyear with rfl | hyear
  · omega
  · -- The first days of the months of a year lie in its first 365.
    have hyears := daysToMarch_add_le hyear
    omega

/-- A month ends before any later one begins. -/
theorem dayNumber_firstOfNextMonth_le {date later : Date} (h : date.isValid = true)
    (hlater : later.isValid = true)
    (hlt : 12 * date.year + date.month < 12 * later.year + later.month) :
    date.firstOfNextMonth.dayNumber ≤ later.firstOfMonth.dayNumber := by
  obtain ⟨hmonth, hmonth_le, -, -⟩ := isValid_eq_true_iff.mp h
  obtain ⟨hnext, hnext_le, -, -⟩ := isValid_eq_true_iff.mp hlater
  rw [firstOfNextMonth]
  split
  · exact dayNumber_first_mono (by decide) (by decide) hnext hnext_le (by omega)
  · exact dayNumber_first_mono (by omega) (by omega) hnext hnext_le (by omega)

/-- The two dates lie in the same month of the same year. -/
def SameMonth (a b : Date) : Prop :=
  a.year = b.year ∧ a.month = b.month

theorem SameMonth.firstOfMonth_eq {a b : Date} (h : a.SameMonth b) :
    a.firstOfMonth = b.firstOfMonth := by
  rw [firstOfMonth, firstOfMonth, h.1, h.2]

theorem SameMonth.firstOfNextMonth_eq {a b : Date} (h : a.SameMonth b) :
    a.firstOfNextMonth = b.firstOfNextMonth := by
  rw [firstOfNextMonth, firstOfNextMonth, h.1, h.2]

/-- The days of a month are those between the first of it and the first of the next. -/
theorem sameMonth_iff {a b : Date} (ha : a.isValid = true) (hb : b.isValid = true) :
    a.SameMonth b ↔
      b.firstOfMonth.dayNumber ≤ a.dayNumber ∧ a.dayNumber < b.firstOfNextMonth.dayNumber := by
  obtain ⟨hmonth, hmonth_le, -, -⟩ := isValid_eq_true_iff.mp ha
  obtain ⟨hbmonth, hbmonth_le, -, -⟩ := isValid_eq_true_iff.mp hb
  have hbegin := dayNumber_firstOfMonth_le ha
  have hend := dayNumber_lt_firstOfNextMonth ha
  constructor
  · intro hsame
    rw [← hsame.firstOfMonth_eq, ← hsame.firstOfNextMonth_eq]
    exact ⟨hbegin, hend⟩
  · rintro ⟨hfirst, hnext⟩
    have hnot_before : ¬ 12 * a.year + a.month < 12 * b.year + b.month := fun hlt => by
      have hle := dayNumber_firstOfNextMonth_le ha hb hlt
      omega
    have hnot_after : ¬ 12 * b.year + b.month < 12 * a.year + a.month := fun hlt => by
      have hle := dayNumber_firstOfNextMonth_le hb ha hlt
      omega
    exact ⟨by omega, by omega⟩

/-! ### Dates by their day numbers -/

theorem one_le_monthLength (year : Int) (month : Nat) : 1 ≤ monthLength year month := by
  unfold monthLength
  split
  · split <;> decide
  all_goals decide

theorem isValid_firstOfMonth {date : Date} (h : date.isValid = true) :
    date.firstOfMonth.isValid = true := by
  obtain ⟨hmonth, hmonth_le, -, -⟩ := isValid_eq_true_iff.mp h
  exact isValid_eq_true_iff.mpr ⟨hmonth, hmonth_le, Nat.le_refl 1, one_le_monthLength _ _⟩

theorem day_firstOfNextMonth (date : Date) : date.firstOfNextMonth.day = 1 := by
  rw [firstOfNextMonth]
  split <;> rfl

theorem isValid_firstOfNextMonth {date : Date} (h : date.isValid = true) :
    date.firstOfNextMonth.isValid = true := by
  obtain ⟨hmonth, hmonth_le, -, -⟩ := isValid_eq_true_iff.mp h
  have hfirst {year : Int} {month : Nat} (hone : 1 ≤ month) (hle : month ≤ 12) :
      isValid ⟨year, month, 1⟩ = true :=
    isValid_eq_true_iff.mpr ⟨hone, hle, Nat.le_refl 1, one_le_monthLength _ _⟩
  rw [firstOfNextMonth]
  split
  · exact hfirst (by decide) (by decide)
  · exact hfirst (by omega) (by omega)

/-- A date of the calendar is that of its day number. -/
theorem ofDayNumber_dayNumber {date : Date} (h : date.isValid = true) :
    ofDayNumber date.dayNumber = date := by
  have hnumber := dayNumber_ofDayNumber date.dayNumber
  have hsame : (ofDayNumber date.dayNumber).SameMonth date := by
    rw [sameMonth_iff (isValid_ofDayNumber _) h, hnumber]
    exact ⟨dayNumber_firstOfMonth_le h, dayNumber_lt_firstOfNextMonth h⟩
  -- Both are as many days after the first of their month.
  have hday : (ofDayNumber date.dayNumber).day = date.day := by
    have hfirst := dayNumber_firstOfMonth (ofDayNumber date.dayNumber)
    rw [hsame.firstOfMonth_eq, dayNumber_firstOfMonth, hnumber] at hfirst
    omega
  generalize ofDayNumber date.dayNumber = other at hsame hday
  cases other
  cases date
  simp only [SameMonth] at hsame hday
  rw [hsame.1, hsame.2, hday]

end Date

namespace Span

variable {s : Span} {i : Instant}

/-- A span of whole days holds an instant in no leap second exactly if it has its day. -/
theorem Whole.holds_iff_day (h : s.Whole) (hleap : i.isLeapSecond = false) :
    s.holds i = true ↔ s.first.day ≤ i.day ∧ i.day ≤ s.last.day := by
  have hsecond := i.second_lt
  rw [Instant.isLeapSecond, decide_eq_false_iff_not] at hleap
  rw [holds_eq_true_iff, Instant.le_def, Instant.le_def]
  simp only [Instant.position, h.first_second, h.first_nano, h.last_second, h.last_nano]
  omega

end Span

namespace Period

variable {p : Period} {date i j : Instant} {s : Span}

/-- The day of an instant is one of the period in which a date lies: the day of the date, one of the
seven days from the Monday of its week on, or one in the same month. -/
def HasDay : Period → Instant → Instant → Prop
  | .day, date, j => j.day = date.day
  | .week, date, j => ∃ k : Nat, k < 7 ∧ j.day = date.day - Date.daysSinceMonday date.day + k
  | .month, date, j => j.date.SameMonth date.date

/-- Whether an instant is on one of the days does not depend on its time of day. -/
theorem HasDay.of_day_eq (h : p.HasDay date j) (hday : Period.day.HasDay j i) :
    p.HasDay date i := by
  rw [HasDay] at hday
  cases p with
  | day => exact hday.trans h
  | week =>
    obtain ⟨k, hk, hmonday⟩ := h
    exact ⟨k, hk, hday.trans hmonday⟩
  | month =>
    rw [HasDay, Instant.date, hday]
    exact h

/-- The days of a period are those from the first to the last day of its span. -/
theorem hasDay_iff (h : p.span? date = some s) :
    p.HasDay date j ↔ s.first.day ≤ j.day ∧ j.day ≤ s.last.day := by
  cases p with
  | day =>
    obtain ⟨-, hfirst, hlast⟩ := Span.days?_eq_some h
    rw [HasDay]
    omega
  | week =>
    obtain ⟨-, hfirst, hlast⟩ := Span.days?_eq_some h
    rw [HasDay, hfirst, hlast]
    constructor
    · rintro ⟨k, hk, hday⟩
      omega
    · intro hbetween
      exact ⟨(j.day - (date.day - Date.daysSinceMonday date.day)).toNat, by omega, by omega⟩
  | month =>
    obtain rfl := Option.some.inj h
    obtain ⟨hfirst, hlast⟩ := Span.month_eq date
    rw [HasDay, Date.sameMonth_iff j.isValid_date date.isValid_date, j.dayNumber_date,
      (Instant.midnight?_eq_some hfirst).1]
    refine and_congr_right fun _ => ?_
    rcases hlast with hlast | ⟨hnone, hlast⟩
    · rw [(Instant.lastBefore?_eq_some hlast).1]
      omega
    · -- All days from the first of the last month on are in it.
      have hnext := Date.dayNumber_lt_firstOfNextMonth date.isValid_date
      have hday := j.day_le_last
      have hdate := date.first_le_day
      rw [date.dayNumber_date] at hnext
      rw [Instant.lastBefore?_eq_none_iff, Instant.firstDay, Instant.lastDay] at hnone
      rw [hlast, Instant.latest]
      dsimp only
      omega

/-- The span of a period holds an instant in no leap second exactly if the day of the instant is one
of the period. -/
theorem holds_iff_hasDay (h : p.span? date = some s) (hleap : i.isLeapSecond = false) :
    s.holds i = true ↔ p.HasDay date i := by
  rw [(span?_spec h).1.holds_iff_day hleap, hasDay_iff h]

end Period

end Datebook
