/-!
# Dates of the Gregorian calendar

A date is read in the proleptic Gregorian calendar and counted in days from 1970-01-01.
Years are counted from March, so that the leap day is the last day of its year: four
hundred such years have 146097 days, a full century of them 36524, a full quadrennium 1461.

## Main definitions

* `Datebook.Date`: year, month and day
* `Datebook.Date.dayNumber`: days from 1970-01-01
* `Datebook.Date.ofDayNumber`: the date of a day number
-/

namespace Datebook

/-- A date by year, month and day. -/
structure Date where
  year : Int
  month : Nat
  day : Nat
  deriving DecidableEq, Repr

namespace Date

/-- Every fourth year is a leap year, but of the centuries only every fourth. -/
def isLeapYear (year : Int) : Bool :=
  year % 4 == 0 && (year % 100 != 0 || year % 400 == 0)

/-- The number of days of a month from 1 to 12. -/
def monthLength (year : Int) (month : Nat) : Nat :=
  match month with
  | 2 => if isLeapYear year then 29 else 28
  | 4 | 6 | 9 | 11 => 30
  | _ => 31

/-- The month is one of twelve and the day is a day of that month. -/
def isValid (date : Date) : Bool :=
  1 ≤ date.month && date.month ≤ 12 && 1 ≤ date.day &&
    date.day ≤ monthLength date.year date.month

/-! ### Day numbers -/

/-- Days from 0000-03-01 to 1970-01-01. -/
def daysToEpoch : Int := 719468

/-- Days from 0000-03-01 to the first of March of a year. -/
def daysToMarch (year : Int) : Int :=
  365 * year + year / 4 - year / 100 + year / 400

/-- The date of a day of the month (from 1) in a month counted from March (from 0) of a
year that begins in March. -/
def ofMarch (year month day : Int) : Date :=
  if month < 10 then ⟨year, (month + 3).toNat, day.toNat⟩
  else ⟨year + 1, (month - 9).toNat, day.toNat⟩

/-- Days from 1970-01-01 to the date, negative before it. -/
def dayNumber (date : Date) : Int :=
  let year := if date.month ≤ 2 then date.year - 1 else date.year
  let month : Int := if date.month ≤ 2 then date.month + 9 else date.month - 3
  daysToMarch year + (153 * month + 2) / 5 + date.day - 1 - daysToEpoch

/-- The date that lies the given number of days after 1970-01-01. -/
def ofDayNumber (number : Int) : Date :=
  let days := number + daysToEpoch
  let dayOfEra := days % 146097
  let century := min (dayOfEra / 36524) 3
  let dayOfCentury := dayOfEra - 36524 * century
  let quadrennium := dayOfCentury / 1461
  let dayOfQuadrennium := dayOfCentury - 1461 * quadrennium
  let yearOfQuadrennium := min (dayOfQuadrennium / 365) 3
  let dayOfYear := dayOfQuadrennium - 365 * yearOfQuadrennium
  let month := (5 * dayOfYear + 2) / 153
  ofMarch (400 * (days / 146097) + 100 * century + 4 * quadrennium + yearOfQuadrennium)
    month (dayOfYear - (153 * month + 2) / 5 + 1)

theorem dayNumber_ofMarch {year month day : Int} (month_nonneg : 0 ≤ month)
    (month_lt : month < 12) (day_pos : 0 < day) :
    (ofMarch year month day).dayNumber =
      daysToMarch year + (153 * month + 2) / 5 + day - 1 - daysToEpoch := by
  unfold ofMarch dayNumber
  by_cases h : month < 10
  · rw [if_pos h]
    have above : ¬ (month + 3).toNat ≤ 2 := by omega
    simp only [above, if_false]
    omega
  · rw [if_neg h]
    have below : (month - 9).toNat ≤ 2 := by omega
    simp only [below, if_true, Int.add_sub_cancel]
    omega

theorem daysToMarch_parts (era : Int) {century quadrennium year : Int} (century_nonneg : 0 ≤ century)
    (century_le : century ≤ 3) (quadrennium_nonneg : 0 ≤ quadrennium)
    (quadrennium_le : quadrennium ≤ 24) (year_nonneg : 0 ≤ year) (year_le : year ≤ 3) :
    daysToMarch (400 * era + 100 * century + 4 * quadrennium + year) =
      146097 * era + 36524 * century + 1461 * quadrennium + 365 * year := by
  unfold daysToMarch
  omega

/-- Counting the days of the date of a day number gives that number back. -/
theorem dayNumber_ofDayNumber (number : Int) : (ofDayNumber number).dayNumber = number := by
  unfold ofDayNumber
  rw [dayNumber_ofMarch (by omega) (by omega) (by omega),
    daysToMarch_parts _ (by omega) (by omega) (by omega) (by omega) (by omega) (by omega)]
  unfold daysToEpoch
  omega

/-! ### Neighbours of a date -/

/-- The first day of the month that holds the date. -/
def firstOfMonth (date : Date) : Date :=
  { date with day := 1 }

/-- The first day of the month after the one that holds the date. -/
def firstOfNextMonth (date : Date) : Date :=
  if date.month = 12 then ⟨date.year + 1, 1, 1⟩ else ⟨date.year, date.month + 1, 1⟩

/-- The same month and day of the year before, or the last day of that month where it is
shorter. -/
def yearBefore (date : Date) : Date :=
  ⟨date.year - 1, date.month, min date.day (monthLength (date.year - 1) date.month)⟩

/-- Days since the last Monday; 1970-01-01 was a Thursday. -/
def daysSinceMonday (number : Int) : Int :=
  (number + 3) % 7

end Date

end Datebook
