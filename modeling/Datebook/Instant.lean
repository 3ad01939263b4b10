import Datebook.Date

/-!
# Instants

An instant is a second of a day in universal time, with a number of nanoseconds that runs
through a thousand million and, in a leap second, through a second thousand million after
them. A leap second therefore comes after all of the second it extends and before the next
one. Days run from -262143-01-01 to +262142-12-31.

## Main definitions

* `Datebook.Instant`: day, second of the day and nanosecond
* `Datebook.Instant.position`: instants in their order on one integer scale
* `Datebook.Instant.midnight?`, `Datebook.Instant.lastBefore?`: the two sides of a midnight
* `Datebook.Instant.daysBefore?`, `Datebook.Instant.yearBefore?`: looking back
-/

namespace Datebook

/-- A moment in universal time. -/
structure Instant where
  /-- Days from 1970-01-01. -/
  day : Int
  /-- Seconds from midnight. -/
  second : Nat
  /-- Nanoseconds from the second, one thousand million or more in a leap second. -/
  nano : Nat
  first_le_day : -96465292 ≤ day := by omega
  day_le_last : day ≤ 95026236 := by omega
  second_lt : second < 86400 := by omega
  nano_lt : nano < 2000000000 := by omega
  deriving DecidableEq

namespace Instant

/-- The first day that has instants, -262143-01-01. -/
def firstDay : Int := -96465292

/-- The last day that has instants, +262142-12-31. -/
def lastDay : Int := 95026236

/-- The instant with the given parts, where they are in range. -/
def of? (day : Int) (second nano : Nat) : Option Instant :=
  if h : (-96465292 ≤ day ∧ day ≤ 95026236) ∧ second < 86400 ∧ nano < 2000000000 then
    some ⟨day, second, nano, h.1.1, h.1.2, h.2.1, h.2.2⟩
  else none

/-- The Unix epoch, which stands for an instant that was never given. -/
def epoch : Instant where
  day := 0
  second := 0
  nano := 0

/-- The first instant of all. -/
def earliest : Instant where
  day := -96465292
  second := 0
  nano := 0

/-- The last instant of all that lies in no leap second. -/
def latest : Instant where
  day := 95026236
  second := 86399
  nano := 999999999

instance : Inhabited Instant := ⟨epoch⟩

/-! ### Order -/

/-- The place of an instant on a scale with two thousand million places for each second. -/
def position (i : Instant) : Int :=
  (i.day * 86400 + i.second) * 2000000000 + i.nano

instance : LE Instant := ⟨fun i j => i.position ≤ j.position⟩

instance : LT Instant := ⟨fun i j => i.position < j.position⟩

instance (i j : Instant) : Decidable (i ≤ j) :=
  inferInstanceAs (Decidable (i.position ≤ j.position))

instance (i j : Instant) : Decidable (i < j) :=
  inferInstanceAs (Decidable (i.position < j.position))

theorem le_def {i j : Instant} : i ≤ j ↔ i.position ≤ j.position :=
  Iff.rfl

theorem lt_def {i j : Instant} : i < j ↔ i.position < j.position :=
  Iff.rfl

/-- No two instants have the same place. -/
theorem position_inj {i j : Instant} : i.position = j.position ↔ i = j := by
  constructor
  · intro h
    have := i.second_lt
    have := j.second_lt
    have := i.nano_lt
    have := j.nano_lt
    simp only [position] at h
    cases i
    cases j
    simp only [mk.injEq]
    dsimp only at *
    omega
  · rintro rfl
    rfl

/-! ### Days -/

/-- The date of an instant. -/
def date (i : Instant) : Date :=
  Date.ofDayNumber i.day

/-- The midnight at which a day begins, where the day has instants. -/
def midnight? (day : Int) : Option Instant :=
  of? day 0 0

/-- The nanosecond before the midnight at which a day begins, where the day has instants. -/
def lastBefore? (day : Int) : Option Instant :=
  if day ≤ lastDay then of? (day - 1) 86399 999999999 else none

/-- The midnight at which the day of an instant begins. -/
def startOfDay (i : Instant) : Instant :=
  { i with second := 0, nano := 0, second_lt := by omega, nano_lt := by omega }

/-- The instant lies in a leap second. -/
def isLeapSecond (i : Instant) : Bool :=
  1000000000 ≤ i.nano

/-! ### Looking back -/

/-- The instant a number of whole days earlier. From a leap second one leaves through the
end of its second, so that the next second is the one counted back from. -/
def daysBefore? (count : Nat) (i : Instant) : Option Instant :=
  if count = 0 ∨ !i.isLeapSecond then of? (i.day - count) i.second i.nano
  else if i.second = 86399 then of? (i.day + 1 - count) 0 (i.nano - 1000000000)
  else of? (i.day - count) (i.second + 1) (i.nano - 1000000000)

/-- The same time on the same date of the year before. -/
def yearBefore? (i : Instant) : Option Instant :=
  of? i.date.yearBefore.dayNumber i.second i.nano

end Instant

end Datebook
