import Datebook.Proofs.Instant.Order

/-!
# Days and months

The date of a day number is a date of the calendar: its month is one of twelve, and its day is one
of that month. Counted from March, a month has the days between two values of one linear formula,
except February, which ends its year and is cut to the length of it.

The range of days begins with a month, so that the first of a month is in range where any day of the
month is.

## Main results

* `Datebook.Date.isValid_ofDayNumber`
* `Datebook.Date.dayNumber_firstOfNextMonth`: the days of a month.
* `Datebook.Instant.exists_midnight?_firstOfMonth`: the first of a month has a midnight.
-/

namespace Datebook

namespace Date

/-! ### Valid dates -/

/-- The year after the last of a quadrennium is a leap year, unless a century ends with it that is
not the last of its era. -/
theorem isLeapYear_of_quadrennium {era century quadrennium : Int} (nonneg : 0 ≤ quadrennium)
    (h : quadrennium < 24 ∨ quadrennium = 24 ∧ century = 3) :
    isLeapYear (400 * era + 100 * century + 4 * quadrennium + 3 + 1) = true := by
  simp only [isLeapYear, Bool.and_eq_true, Bool.or_eq_true, beq_iff_eq, bne_iff_ne]
  omega

/-- A day from March on is a day of its month if it comes before the next month, and in February,
the last, if it is no later than the 28th or the leap day. -/
theorem isValid_ofMarch {year month day : Int} (month_nonneg : 0 ≤ month) (month_lt : month < 12)
    (day_pos : 0 < day) (day_le : day ≤ (153 * (month + 1) + 2) / 5 - (153 * month + 2) / 5)
    (february : month = 11 → day ≤ 28 ∨ day = 29 ∧ isLeapYear (year + 1) = true) :
    (ofMarch year month day).isValid = true := by
  rw [ofMarch]
  split
  · -- From March to December the formula gives the length of the month.
    obtain ⟨m, rfl⟩ := Int.eq_ofNat_of_zero_le month_nonneg
    have hm : m = 0 ∨ m = 1 ∨ m = 2 ∨ m = 3 ∨ m = 4 ∨ m = 5 ∨ m = 6 ∨ m = 7 ∨ m = 8 ∨ m = 9 := by
      omega
    rcases hm with rfl | rfl | rfl | rfl | rfl | rfl | rfl | rfl | rfl | rfl <;>
      simp [isValid, monthLength] <;> omega
  · have hmonth : month = 10 ∨ month = 11 := by omega
    rcases hmonth with rfl | rfl
    · simp [isValid, monthLength]
      omega
    · rcases february rfl with hday | ⟨hday, hleap⟩
      · simp only [isValid, monthLength]
        split <;> simp <;> omega
      · simp [isValid, monthLength, hday, hleap]

/-- A day lies in one of the years of a quadrennium, of which only the last may have a day more
than 365, and has it unless a century ends with it that is not the last of its era. -/
theorem exists_ofDayNumber_eq (number : Int) :
    ∃ era century quadrennium year dayOfYear : Int,
      0 ≤ quadrennium ∧ 0 ≤ dayOfYear ∧ dayOfYear ≤ 365 ∧
        (dayOfYear = 365 → year = 3 ∧ (quadrennium < 24 ∨ quadrennium = 24 ∧ century = 3)) ∧
        ofDayNumber number = ofMarch (400 * era + 100 * century + 4 * quadrennium + year)
          ((5 * dayOfYear + 2) / 153)
          (dayOfYear - (153 * ((5 * dayOfYear + 2) / 153) + 2) / 5 + 1) := by
  refine ⟨_, _, _, _, _, ?_, ?_, ?_, ?_, rfl⟩ <;> omega

/-- The date of a day number is a date of the calendar. -/
theorem isValid_ofDayNumber (number : Int) : (ofDayNumber number).isValid = true := by
  obtain ⟨era, century, quadrennium, year, dayOfYear, hquadrennium, hnonneg, hle, hlast, hdate⟩ :=
    exists_ofDayNumber_eq number
  rw [hdate]
  refine isValid_ofMarch (by omega) (by omega) (by omega) (by omega) fun hfebruary => ?_
  by_cases hleap : dayOfYear = 365
  · obtain ⟨rfl, hend⟩ := hlast hleap
    exact Or.inr ⟨by omega, isLeapYear_of_quadrennium hquadrennium hend⟩
  · exact Or.inl (by omega)

/-! ### The first of a month -/

/-- What makes a date one of the calendar. -/
theorem isValid_eq_true_iff {date : Date} :
    date.isValid = true ↔ 1 ≤ date.month ∧ date.month ≤ 12 ∧ 1 ≤ date.day ∧
      date.day ≤ monthLength date.year date.month := by
  simp only [isValid, Bool.and_eq_true, decide_eq_true_eq, and_assoc]

theorem monthLength_le (year : Int) (month : Nat) : monthLength year month ≤ 31 := by
  unfold monthLength
  split
  · split <;> decide
  all_goals decide

/-- A later year does not begin earlier. -/
theorem daysToMarch_mono {year later : Int} (h : year ≤ later) :
    daysToMarch year ≤ daysToMarch later := by
  unfold daysToMarch
  omega

/-- The day number of a date in January or February, which end a year that begins in March. -/
theorem dayNumber_of_le (date : Date) (h : date.month ≤ 2) :
    date.dayNumber = daysToMarch (date.year - 1) + (153 * (date.month + 9 : Int) + 2) / 5 +
      date.day - 1 - daysToEpoch := by
  simp only [dayNumber, if_pos h]

/-- The day number of a date from March to December. -/
theorem dayNumber_of_lt (date : Date) (h : 2 < date.month) :
    date.dayNumber = daysToMarch date.year + (153 * (date.month - 3 : Int) + 2) / 5 +
      date.day - 1 - daysToEpoch := by
  simp only [dayNumber, if_neg (Nat.not_le.mpr h)]

/-- The days from the first of a month to one of its days. -/
theorem dayNumber_firstOfMonth (date : Date) :
    date.firstOfMonth.dayNumber = date.dayNumber - date.day + 1 := by
  by_cases h : date.month ≤ 2
  · rw [dayNumber_of_le _ h, dayNumber_of_le date.firstOfMonth h]
    simp only [firstOfMonth]
    omega
  · rw [dayNumber_of_lt _ (Nat.not_le.mp h),
      dayNumber_of_lt date.firstOfMonth (Nat.not_le.mp h)]
    simp only [firstOfMonth]
    omega

/-- No day comes before the first of its month. -/
theorem dayNumber_firstOfMonth_le {date : Date} (h : date.isValid = true) :
    date.firstOfMonth.dayNumber ≤ date.dayNumber := by
  obtain ⟨-, -, hone, -⟩ := isValid_eq_true_iff.mp h
  rw [dayNumber_firstOfMonth]
  omega

/-- The year from one March to the next ends with February and has 337 days besides. -/
theorem monthLength_february (year : Int) :
    (monthLength year 2 : Int) = daysToMarch year - daysToMarch (year - 1) - 337 := by
  simp only [monthLength, isLeapYear, daysToMarch, Bool.and_eq_true, Bool.or_eq_true, beq_iff_eq,
    bne_iff_ne]
  split <;> omega

/-- From the first of a month to the first of the next one there are as many days as the month
has. -/
theorem dayNumber_firstOfNextMonth {date : Date} (h : date.isValid = true) :
    date.firstOfNextMonth.dayNumber =
      date.firstOfMonth.dayNumber + monthLength date.year date.month := by
  obtain ⟨year, month, day⟩ := date
  obtain ⟨hmonth, hmonth_le, -, -⟩ := isValid_eq_true_iff.mp h
  dsimp only at hmonth hmonth_le
  by_cases hfebruary : month = 2
  · -- The year that begins in March ends with February, whose length is that of a leap year or not.
    subst hfebruary
    have hlength := monthLength_february year
    simp [firstOfNextMonth, firstOfMonth, dayNumber]
    omega
  · have hmonths : month = 1 ∨ month = 3 ∨ month = 4 ∨ month = 5 ∨ month = 6 ∨ month = 7 ∨
        month = 8 ∨ month = 9 ∨ month = 10 ∨ month = 11 ∨ month = 12 := by
      omega
    rcases hmonths with rfl | rfl | rfl | rfl | rfl | rfl | rfl | rfl | rfl | rfl | rfl <;>
      simp [firstOfNextMonth, firstOfMonth, dayNumber, monthLength] <;> omega

/-- The first of the next month comes after all days of a month. -/
theorem dayNumber_lt_firstOfNextMonth {date : Date} (h : date.isValid = true) :
    date.dayNumber < date.firstOfNextMonth.dayNumber := by
  obtain ⟨-, -, -, hday_le⟩ := isValid_eq_true_iff.mp h
  rw [dayNumber_firstOfNextMonth h, dayNumber_firstOfMonth]
  omega

/-- Where a day is in the range of days, so is the first of its month. -/
theorem firstDay_le_firstOfMonth {date : Date} (h : date.isValid = true)
    (hday : Instant.firstDay ≤ date.dayNumber) :
    Instant.firstDay ≤ date.firstOfMonth.dayNumber := by
  obtain ⟨hmonth, hmonth_le, -, hday_le⟩ := isValid_eq_true_iff.mp h
  have hlength := monthLength_le date.year date.month
  have hmarch : daysToMarch (-262145) = -95746496 ∧ daysToMarch (-262144) = -95746130 ∧
      daysToMarch (-262143) = -95745765 := by
    decide
  rw [dayNumber_firstOfMonth]
  rw [Instant.firstDay] at hday ⊢
  -- The range begins with a year, and all years before it end before that.
  by_cases hyear : -262143 ≤ date.year
  · have hbegin : daysToMarch (-262144) ≤ daysToMarch (date.year - 1) :=
      daysToMarch_mono (by omega)
    have hlater : daysToMarch (-262143) ≤ daysToMarch date.year := daysToMarch_mono hyear
    by_cases hearly : date.month ≤ 2
    · rw [dayNumber_of_le _ hearly, daysToEpoch]
      omega
    · rw [dayNumber_of_lt _ (Nat.not_le.mp hearly), daysToEpoch]
      omega
  · have hbegin : daysToMarch (date.year - 1) ≤ daysToMarch (-262145) :=
      daysToMarch_mono (by omega)
    have hlater : daysToMarch date.year ≤ daysToMarch (-262144) := daysToMarch_mono (by omega)
    by_cases hearly : date.month ≤ 2
    · rw [dayNumber_of_le _ hearly, daysToEpoch] at hday
      omega
    · rw [dayNumber_of_lt _ (Nat.not_le.mp hearly), daysToEpoch] at hday
      omega

end Date

namespace Instant

theorem isValid_date (i : Instant) : i.date.isValid = true :=
  Date.isValid_ofDayNumber i.day

/-- The first of the month of an instant has a midnight. -/
theorem exists_midnight?_firstOfMonth (i : Instant) :
    ∃ first, midnight? i.date.firstOfMonth.dayNumber = some first := by
  have hfirst : firstDay ≤ i.date.firstOfMonth.dayNumber := by
    refine Date.firstDay_le_firstOfMonth i.isValid_date ?_
    rw [dayNumber_date]
    exact i.first_le_day
  have hlast : i.date.firstOfMonth.dayNumber ≤ lastDay := by
    have hbegin := Date.dayNumber_firstOfMonth_le i.isValid_date
    rw [dayNumber_date] at hbegin
    exact Int.le_trans hbegin i.day_le_last
  rw [firstDay] at hfirst
  rw [lastDay] at hlast
  exact ⟨_, dif_pos ⟨⟨hfirst, hlast⟩, by decide, by decide⟩⟩

end Instant

end Datebook
