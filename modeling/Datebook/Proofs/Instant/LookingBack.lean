import Datebook.Proofs.Span.Range

/-!
# How far looking back leads

Counting back days leads to the same time of day so many days earlier, or out of the range of
instants. The same date of the year before lies 365 or 366 days back: 366 where a 29th of February
lies in between, and also from a 29th of February, because there the day is cut to the 28th. Where
looking back leads out of the range the first instant of all takes its place, and nothing comes
before that.

Places on the scale of instants are compared, so that a time of day can be spoken of that lies out
of the range, and compared with instants in leap seconds.

## Main definitions

* `Datebook.Instant.placeBefore`: the place of the same time of day a number of days earlier.

## Main results

* `Datebook.Date.dayNumber_yearBefore_mem`: how far the year before lies back.
* `Datebook.Instant.daysBefore?_eq_some_iff`
* `Datebook.Retention.cutoff_days_le_iff`, `Datebook.Retention.cutoff_year_le`,
  `Datebook.Retention.lt_cutoff_year`
* `Datebook.Retention.cutoff_days_anti`: a longer retention has no later cutoff.
-/

namespace Datebook

namespace Date

/-- From one March to the next there are 365 or 366 days. -/
theorem daysToMarch_sub_mem (year : Int) :
    365 ≤ daysToMarch year - daysToMarch (year - 1) ∧
      daysToMarch year - daysToMarch (year - 1) ≤ 366 := by
  unfold daysToMarch
  omega

/-- Only February depends on the year. -/
theorem monthLength_eq_of_ne {month : Nat} (h : month ≠ 2) (year other : Int) :
    monthLength year month = monthLength other month := by
  unfold monthLength
  split
  · exact absurd rfl h
  all_goals rfl

/-- The same date of the year before lies 365 or 366 days earlier. -/
theorem dayNumber_yearBefore_mem {date : Date} (h : date.isValid = true) :
    date.dayNumber - 366 ≤ date.yearBefore.dayNumber ∧
      date.yearBefore.dayNumber ≤ date.dayNumber - 365 := by
  obtain ⟨-, -, -, hday⟩ := isValid_eq_true_iff.mp h
  by_cases hfebruary : date.month = 2
  · -- The year in between ends with the February of the year before, to which the day is cut.
    have hlength := monthLength_february (date.year - 1)
    have hyear := daysToMarch_sub_mem (date.year - 1)
    have hleap : monthLength date.year 2 ≤ 29 := by
      simp only [monthLength]
      split <;> decide
    have hearly : date.month ≤ 2 := by omega
    rw [dayNumber_of_le date hearly, dayNumber_of_le date.yearBefore hearly]
    simp only [yearBefore, hfebruary] at hday ⊢
    omega
  · have hkept : min date.day (monthLength (date.year - 1) date.month) = date.day := by
      rw [monthLength_eq_of_ne hfebruary _ date.year]
      exact Nat.min_eq_left hday
    by_cases hearly : date.month ≤ 2
    · have hyear := daysToMarch_sub_mem (date.year - 1)
      rw [dayNumber_of_le date hearly, dayNumber_of_le date.yearBefore hearly]
      simp only [yearBefore, hkept]
      omega
    · have hyear := daysToMarch_sub_mem date.year
      rw [dayNumber_of_lt date (Nat.not_le.mp hearly),
        dayNumber_of_lt date.yearBefore (Nat.not_le.mp hearly)]
      simp only [yearBefore, hkept]
      omega

end Date

namespace Instant

variable {i j : Instant}

/-! ### Places of earlier days -/

/-- The places of a day on the scale of instants. -/
def placesPerDay : Int := 86400 * 2000000000

/-- The place of the same time of day a number of days earlier, whether or not there is an instant
in that place. -/
def placeBefore (i : Instant) (days : Int) : Int :=
  i.position - days * placesPerDay

/-- The place of an instant that was made from parts in range. -/
theorem position_of_parts {day : Int} {second nano : Nat} (h : of? day second nano = some j) :
    j.position = (day * 86400 + second) * 2000000000 + nano := by
  obtain ⟨rfl, rfl, rfl⟩ := of?_eq_some h
  rfl

/-- From an instant in no leap second one counts back to the same time of day. -/
theorem daysBefore?_of_isLeapSecond_eq_false (hleap : i.isLeapSecond = false) (count : Nat) :
    i.daysBefore? count = of? (i.day - count) i.second i.nano :=
  if_pos (Or.inr (by rw [hleap]; rfl))

/-- Counting back days from an instant in no leap second leads to the instant in the place of the
same time of day, if there is one. -/
theorem daysBefore?_eq_some_iff {count : Nat} (hleap : i.isLeapSecond = false) :
    i.daysBefore? count = some j ↔ j.position = i.placeBefore count := by
  rw [daysBefore?_of_isLeapSecond_eq_false hleap]
  constructor
  · intro h
    rw [position_of_parts h]
    simp only [placeBefore, position, placesPerDay]
    omega
  · intro h
    have hsecond := i.second_lt
    have hnano := i.nano_lt
    have hsecond_j := j.second_lt
    have hnano_j := j.nano_lt
    simp only [placeBefore, position, placesPerDay] at h
    have hparts : j.day = i.day - count ∧ j.second = i.second ∧ j.nano = i.nano := by omega
    rw [← hparts.1, ← hparts.2.1, ← hparts.2.2]
    exact of?_parts j

/-- Where counting back leads out of the range, all instants come after that. -/
theorem placeBefore_lt_of_daysBefore?_eq_none {count : Nat} (hleap : i.isLeapSecond = false)
    (h : i.daysBefore? count = none) (j : Instant) : i.placeBefore count < j.position := by
  have hlast := i.day_le_last
  have hsecond := i.second_lt
  have hnano := i.nano_lt
  have hfirst := j.first_le_day
  rw [daysBefore?_of_isLeapSecond_eq_false hleap, of?_eq_none_iff hsecond hnano, firstDay,
    lastDay] at h
  simp only [placeBefore, position, placesPerDay]
  omega

/-- A time of day is no later for an earlier day, and where that is out of the range neither. -/
theorem getD_of?_mono {day later : Int} {second nano : Nat} (hsecond : second < 86400)
    (hnano : nano < 2000000000) (hle : day ≤ later) (hlast : later ≤ lastDay) :
    (of? day second nano).getD earliest ≤ (of? later second nano).getD earliest := by
  cases h : of? day second nano with
  | none => exact earliest_le _
  | some i =>
    obtain ⟨rfl, rfl, rfl⟩ := of?_eq_some h
    have hlater : of? later i.second i.nano ≠ none := by
      rw [ne_eq, of?_eq_none_iff hsecond hnano]
      have hfirst := i.first_le_day
      rw [firstDay]
      omega
    obtain ⟨j, hj⟩ := Option.ne_none_iff_exists'.mp hlater
    obtain ⟨hday, hsame_second, hsame_nano⟩ := of?_eq_some hj
    rw [hj, Option.getD_some, Option.getD_some]
    exact le_of_day_le (by omega) hsame_second.symm hsame_nano.symm

end Instant

namespace Retention

variable {now j : Instant}

/-! ### Cutoffs -/

/-- By a number of days, events are kept that end at the same time of day so many days earlier, or
after that. -/
theorem cutoff_days_le_iff {count : Nat} (hleap : now.isLeapSecond = false) :
    (Retention.days count).cutoff now ≤ j ↔ now.placeBefore count ≤ j.position := by
  rw [cutoff]
  cases h : now.daysBefore? count with
  | none =>
    exact iff_of_true j.earliest_le
      (Int.le_of_lt (Instant.placeBefore_lt_of_daysBefore?_eq_none hleap h j))
  | some c => rw [Option.getD_some, Instant.le_def, (Instant.daysBefore?_eq_some_iff hleap).mp h]

/-- The cutoff of a year lies no later than 365 days earlier. -/
theorem cutoff_year_le (h : now.placeBefore 365 ≤ j.position) : Retention.year.cutoff now ≤ j := by
  rw [cutoff]
  cases hyear : now.yearBefore? with
  | none => exact j.earliest_le
  | some c =>
    have hplace := Instant.position_of_parts hyear
    have hdays := Date.dayNumber_yearBefore_mem now.isValid_date
    rw [Instant.dayNumber_date] at hdays
    rw [Option.getD_some, Instant.le_def, hplace]
    simp only [Instant.placeBefore, Instant.position, Instant.placesPerDay] at h ⊢
    omega

/-- The cutoff of a year lies no earlier than 366 days earlier. -/
theorem lt_cutoff_year (h : j.position < now.placeBefore 366) : j < Retention.year.cutoff now := by
  have hdays := Date.dayNumber_yearBefore_mem now.isValid_date
  rw [Instant.dayNumber_date] at hdays
  have hsecond := now.second_lt
  have hnano := now.nano_lt
  have hfirst := j.first_le_day
  have hlast := now.day_le_last
  simp only [Instant.placeBefore, Instant.position, Instant.placesPerDay] at h
  rw [cutoff]
  cases hyear : now.yearBefore? with
  | none =>
    -- There are instants as early as that, so that the year before is in the range.
    rw [Instant.yearBefore?, Instant.of?_eq_none_iff hsecond hnano, Instant.firstDay,
      Instant.lastDay] at hyear
    omega
  | some c =>
    rw [Option.getD_some, Instant.lt_def, Instant.position_of_parts hyear]
    simp only [Instant.position]
    omega

/-- The cutoff of more days lies no later, also where one counts back from a leap second. -/
theorem cutoff_days_anti {count more : Nat} (h : count ≤ more) (now : Instant) :
    (Retention.days more).cutoff now ≤ (Retention.days count).cutoff now := by
  by_cases hcount : count = 0
  · have hnow : (Retention.days count).cutoff now = now := by
      rw [cutoff, hcount, Instant.daysBefore?, if_pos (Or.inl rfl), Int.ofNat_zero, Int.sub_zero,
        Instant.of?_parts, Option.getD_some]
    rw [hnow]
    exact cutoff_le _ now
  · have hmore : more ≠ 0 := by omega
    have hlast : now.day ≤ Instant.lastDay := now.day_le_last
    have hsecond := now.second_lt
    have hnano := now.nano_lt
    simp only [cutoff, Instant.daysBefore?, hcount, hmore, false_or]
    -- A leap second is left through its end, into the next second or the next day.
    split
    · exact Instant.getD_of?_mono hsecond hnano (by omega) (by omega)
    · split
      · exact Instant.getD_of?_mono (by decide) (by omega) (by omega) (by omega)
      · exact Instant.getD_of?_mono (by omega) (by omega) (by omega) (by omega)

end Retention

end Datebook
