import Datebook.Instant.Strict
import Datebook.Proofs.Instant.Text
import Datebook.Proofs.Span.Days

/-!
# The strict reading of an instant

Whatever the strict reader takes apart the relaxed reader takes apart in the same way: a number of
its full width is a number of at most that width, nothing is skipped where nothing stands, and both
read the same fractions. So a text in the strict form stands for the same instant in either reading.

The written form of an instant is strict exactly in the years from 0 to 9999, where it begins
without a sign. A plain date of these years is its midnight, as that is written.

## Main results

* `Datebook.Instant.ofRelaxed?_of_ofStrict?`
* `Datebook.Instant.ofStrict?_toChars`
* `Datebook.Instant.ofPlainDate?_dateChars`
-/

namespace Datebook.Instant

open Text (isBlank skipBlanks trimChars)

variable {cs rest : List Char}

/-! ### The strict form is a relaxed form -/

theorem afterExactly?_eq_some_iff {mark : Char} :
    afterExactly? mark cs = some rest ↔ cs = mark :: rest := by
  cases cs with
  | nil => simp [afterExactly?]
  | cons c cs => simp [afterExactly?]

/-- A mark that nothing comes before. -/
theorem afterMark?_of_afterExactly? {mark : Char} (hmark : isBlank mark = false)
    (h : afterExactly? mark cs = some rest) : afterMark? mark cs = some rest := by
  rw [afterExactly?_eq_some_iff.mp h]
  exact afterMark?_cons hmark rest

theorem skipBlanks_of_number? {least most : Nat} {r : Nat × List Char} (hleast : 0 < least)
    (h : Numeral.number? least most cs = some r) : skipBlanks cs = cs := by
  obtain ⟨c, cs, rfl, hdigit⟩ := Numeral.exists_cons_of_number? hleast h
  exact skipBlanks_cons (isBlank_eq_false_of_isDigit hdigit) cs

/-- A number of two digits. -/
theorem shortNumber?_of_number? {r : Nat × List Char} (h : Numeral.number? 2 2 cs = some r) :
    shortNumber? cs = some r := by
  rw [shortNumber?, skipBlanks_of_number? (by decide) h]
  exact Numeral.number?_of_le (by decide) h

/-- A year of four digits. -/
theorem relaxedYear?_of_number? {year : Nat} (h : Numeral.number? 4 4 cs = some (year, rest)) :
    relaxedYear? cs = some (Int.ofNat year, rest) := by
  obtain ⟨c, cs, rfl, hdigit⟩ := Numeral.exists_cons_of_number? (by decide) h
  rw [relaxedYear?_cons_of_isDigit hdigit, Numeral.number?_of_le (by decide) h]
  rfl

theorem exists_cons_of_offsetSign? {behind : Bool} (h : offsetSign? cs = some (behind, rest)) :
    ∃ c ∈ ['+', '-', '\u2212'], cs = c :: rest := by
  rw [offsetSign?.eq_def] at h
  split at h <;> simp_all

theorem offsetSign_spec {c : Char} (hc : c ∈ ['+', '-', '\u2212']) :
    isBlank c = false ∧ c ≠ 'Z' ∧ c ≠ 'z' ∧ c.toUpper ≠ 'U' := by
  simp only [List.mem_cons, List.not_mem_nil, or_false] at hc
  rcases hc with rfl | rfl | rfl <;> decide

theorem exists_cons_of_offsetMinutes? {minutes : Nat}
    (h : offsetMinutes? cs = some (minutes, rest)) :
    ∃ c cs', cs = c :: cs' ∧ Numeral.isDigit c = true := by
  rw [offsetMinutes?] at h
  split at h
  · next hnumber => exact Numeral.exists_cons_of_number? (by decide) hnumber
  · cases h

/-- An offset with a colon between hours and minutes. -/
theorem relaxedOffset?_of_strictOffset? {r : Int × List Char} (h : strictOffset? cs = some r) :
    relaxedOffset? (skipBlanks cs) = some r := by
  rw [strictOffset?.eq_def] at h
  split at h
  · rwa [skipBlanks_cons (by decide)]
  · rwa [skipBlanks_cons (by decide)]
  · obtain ⟨⟨behind, cs'⟩, hsign, hrest⟩ := Option.bind_eq_some_iff.mp h
    obtain ⟨c, hc, rfl⟩ := exists_cons_of_offsetSign? hsign
    obtain ⟨hblank, hupper, hlower, hword⟩ := offsetSign_spec hc
    rw [skipBlanks_cons hblank, relaxedOffset?.eq_def]
    split
    · next heq => exact absurd (List.cons.inj heq).1 hupper
    · next heq => exact absurd (List.cons.inj heq).1 hlower
    · rw [if_neg]
      · refine (bind_of_eq_some hsign _).trans ?_
        refine bind_eq_some_of_imp hrest (fun _ => id) fun hours h => ?_
        obtain ⟨cs, hmark, h⟩ := Option.bind_eq_some_iff.mp h
        refine bind_eq_some_of_imp h (fun minutes hminutes => ?_) fun _ => id
        obtain ⟨d, ds, rfl, hdigit⟩ := exists_cons_of_offsetMinutes? hminutes
        have hcolon : (d == ':') = false := by
          rw [beq_eq_false_iff_ne]
          rintro rfl
          exact absurd hdigit (by decide)
        have hskip : (':' :: d :: ds).dropWhile (fun c => c == ':' || isBlank c) = d :: ds := by
          rw [List.dropWhile_cons_of_pos (by decide)]
          exact List.dropWhile_cons_of_neg (by
            simp [hcolon, isBlank_eq_false_of_isDigit hdigit])
        rwa [afterExactly?_eq_some_iff.mp hmark, hskip]
      · rw [List.take_succ_cons, List.map_cons]
        exact fun heq => hword (List.cons.inj heq).1

/-- The numbers of a text in the strict form are those of the relaxed form. -/
theorem relaxedFields?_of_strictFields? {f : Fields} (h : strictFields? cs = some f) :
    relaxedFields? cs = some f := by
  have hhyphen {cs rest : List Char} (h : afterExactly? '-' cs = some rest) :
      afterMark? '-' cs = some rest := afterMark?_of_afterExactly? (by decide) h
  have hcolon {cs rest : List Char} (h : afterExactly? ':' cs = some rest) :
      afterMark? ':' cs = some rest := afterMark?_of_afterExactly? (by decide) h
  obtain ⟨⟨year, cs⟩, hyear, h⟩ := Option.bind_eq_some_iff.mp h
  refine (bind_of_eq_some (relaxedYear?_of_number? hyear) _).trans ?_
  refine bind_eq_some_of_imp h (fun _ => hhyphen) fun cs h => ?_
  refine bind_eq_some_of_imp h (fun _ => shortNumber?_of_number?) fun (month, cs) h => ?_
  refine bind_eq_some_of_imp h (fun _ => hhyphen) fun cs h => ?_
  refine bind_eq_some_of_imp h (fun _ => shortNumber?_of_number?) fun (day, cs) h => ?_
  cases cs with
  | nil => exact absurd h (Option.some_ne_none f).symm
  | cons c cs =>
    by_cases hseparator : isSeparator c = true
    · simp only [if_pos hseparator] at h ⊢
      refine bind_eq_some_of_imp h (fun _ => id) fun cs h => ?_
      refine bind_eq_some_of_imp h (fun _ => shortNumber?_of_number?) fun (hour, cs) h => ?_
      refine bind_eq_some_of_imp h (fun _ => hcolon) fun cs h => ?_
      refine bind_eq_some_of_imp h (fun _ => shortNumber?_of_number?) fun (minute, cs) h => ?_
      refine bind_eq_some_of_imp h (fun _ => hcolon) fun cs h => ?_
      refine bind_eq_some_of_imp h (fun _ => shortNumber?_of_number?) fun (second, cs) h => ?_
      refine bind_eq_some_of_imp h (fun _ => id) fun (nano, cs) h => ?_
      refine bind_eq_some_of_imp h (fun _ => relaxedOffset?_of_strictOffset?)
        fun (offset, cs) h => ?_
      cases cs with
      | nil => exact h
      | cons c cs => exact absurd h (Option.some_ne_none f).symm
    · simp only [if_neg hseparator] at h
      exact absurd h (Option.some_ne_none f).symm

/-- **A text in the strict form stands for the same instant in the relaxed reading.** -/
theorem ofRelaxed?_of_ofStrict? {text : String} {i : Instant}
    (h : ofStrict? text.toList = some i) : ofRelaxed? text = some i := by
  obtain ⟨f, hfields, hinstant⟩ := Option.bind_eq_some_iff.mp h
  rw [ofRelaxed?, relaxedFields?_of_strictFields? hfields]
  exact hinstant

/-! ### The written form -/

theorem afterExactly?_cons (mark : Char) (cs : List Char) :
    afterExactly? mark (mark :: cs) = some cs :=
  if_pos rfl

theorem number?_two_padded {n : Nat} (hn : n < 100) (cs : List Char) :
    Numeral.number? 2 2 (Numeral.padded 2 n ++ cs) = some (n, cs) :=
  Numeral.number?_padded (by decide) hn (Or.inl (Numeral.length_padded 2 n))

/-- A year from 0 to 9999 has four digits. -/
theorem number?_yearChars {year : Int} (h : 0 ≤ year ∧ year ≤ 9999) (cs : List Char) :
    Numeral.number? 4 4 (yearChars year ++ cs) = some (year.toNat, cs) := by
  rw [yearChars, if_pos h]
  exact Numeral.number?_padded (by decide) (by omega) (Or.inl (Numeral.length_padded 4 _))

/-- The written form of an instant in the years from 0 to 9999 is strict. -/
theorem strictFields?_toChars {i : Instant} (h : 0 ≤ i.date.year ∧ i.date.year ≤ 9999) :
    strictFields? i.toChars = some i.writtenFields := by
  obtain ⟨hhour, hminute, hsecond, hnano⟩ := i.clock_lt
  have hyear : Int.ofNat i.date.year.toNat = i.date.year := Int.toNat_of_nonneg h.1
  have hseparator : isSeparator 'T' = true := rfl
  rw [toChars_eq]
  refine (bind_of_eq_some (number?_yearChars h _) _).trans ?_
  refine (bind_of_eq_some (afterExactly?_cons '-' _) _).trans ?_
  refine (bind_of_eq_some (number?_two_padded i.month_lt _) _).trans ?_
  refine (bind_of_eq_some (afterExactly?_cons '-' _) _).trans ?_
  refine (bind_of_eq_some (number?_two_padded i.day_lt _) _).trans ?_
  refine (if_pos hseparator).trans ?_
  refine (bind_of_eq_some (number?_two_padded hhour _) _).trans ?_
  refine (bind_of_eq_some (afterExactly?_cons ':' _) _).trans ?_
  refine (bind_of_eq_some (number?_two_padded hminute _) _).trans ?_
  refine (bind_of_eq_some (afterExactly?_cons ':' _) _).trans ?_
  refine (bind_of_eq_some (number?_two_padded hsecond _) _).trans ?_
  refine (bind_of_eq_some (fraction?_fractionChars hnano []) _).trans ?_
  rw [hyear]
  rfl

/-- **The written form of an instant in the years from 0 to 9999 is read by the strict reader.** -/
theorem ofStrict?_toChars {i : Instant} (h : 0 ≤ i.date.year ∧ i.date.year ≤ 9999) :
    ofStrict? i.toChars = some i.asWritten := by
  rw [ofStrict?, strictFields?_toChars h, Option.bind_some, toInstant?_writtenFields]

/-- What begins with no digit is not strict. -/
theorem ofStrict?_cons_eq_none {c : Char} (h : Numeral.isDigit c = false) :
    ofStrict? (c :: cs) = none := by
  have hyear : Numeral.number? 4 4 (c :: cs) = none := by
    refine Option.eq_none_iff_forall_not_mem.mpr fun r hr => ?_
    obtain ⟨d, ds, heq, hdigit⟩ := Numeral.exists_cons_of_number? (by decide) hr
    obtain rfl := (List.cons.inj heq).1
    exact absurd hdigit (by simp [h])
  rw [ofStrict?, strictFields?, hyear]
  rfl

/-- In other years the written form begins with a sign. -/
theorem ofStrict?_toChars_eq_none {i : Instant} (h : ¬ (0 ≤ i.date.year ∧ i.date.year ≤ 9999)) :
    ofStrict? i.toChars = none := by
  rw [toChars_eq, yearChars, if_neg h]
  refine ofStrict?_cons_eq_none ?_
  split <;> rfl

/-! ### Plain dates -/

section Plain

variable {date : Date} (hdate : date.isValid = true)

theorem dateChars_append (date : Date) (cs : List Char) :
    dateChars date ++ cs = yearChars date.year ++ '-' :: (Numeral.padded 2 date.month ++
      '-' :: (Numeral.padded 2 date.day ++ cs)) := by
  simp only [dateChars, List.append_assoc, List.cons_append]

include hdate

/-- Month and day have no more digits than they are written with. -/
theorem month_lt_and_day_lt : date.month < 100 ∧ date.day < 100 := by
  obtain ⟨-, hmonth, -, hday⟩ := Date.isValid_eq_true_iff.mp hdate
  have hlength := Date.monthLength_le date.year date.month
  omega

/-- The numbers of a date are read, and nothing may follow them. -/
theorem plainDate?_dateChars (cs : List Char) :
    plainDate? (dateChars date ++ cs) = if cs.isEmpty then some date else none := by
  obtain ⟨hmonth, hday⟩ := month_lt_and_day_lt hdate
  rw [dateChars_append]
  refine (bind_of_eq_some (relaxedYear?_yearChars date.year _) _).trans ?_
  refine (bind_of_eq_some (afterExactly?_cons '-' _) _).trans ?_
  refine (bind_of_eq_some (shortNumber?_padded hmonth _) _).trans ?_
  refine (bind_of_eq_some (afterExactly?_cons '-' _) _).trans ?_
  exact bind_of_eq_some (shortNumber?_padded hday _) _

/-- **A plain date is its midnight.** -/
theorem ofPlainDate?_dateChars : ofPlainDate? (dateChars date) = midnight? date.dayNumber := by
  have hplain := plainDate?_dateChars hdate []
  rw [List.append_nil] at hplain
  rw [ofPlainDate?, hplain]
  exact if_pos hdate

/-- A date without a time is not strict. -/
theorem ofStrict?_dateChars (h : 0 ≤ date.year ∧ date.year ≤ 9999) :
    ofStrict? (dateChars date) = none := by
  obtain ⟨hmonth, hday⟩ := month_lt_and_day_lt hdate
  have hfields : strictFields? (dateChars date ++ []) = none := by
    rw [dateChars_append]
    refine (bind_of_eq_some (number?_yearChars h _) _).trans ?_
    refine (bind_of_eq_some (afterExactly?_cons '-' _) _).trans ?_
    refine (bind_of_eq_some (number?_two_padded hmonth _) _).trans ?_
    refine (bind_of_eq_some (afterExactly?_cons '-' _) _).trans ?_
    exact bind_of_eq_some (number?_two_padded hday []) _
  rw [List.append_nil] at hfields
  rw [ofStrict?, hfields]
  rfl

/-- The midnight of a date in the years from 0 to 9999, and its written form. -/
theorem exists_midnight?_of_year (h : 0 ≤ date.year ∧ date.year ≤ 9999) :
    ∃ i, midnight? date.dayNumber = some i ∧ i.date = date ∧ i.LeapEndsMinute ∧
      i.toChars = dateChars date ++ "T00:00:00Z".toList := by
  obtain ⟨hone, hmonth, hday, hlength⟩ := Date.isValid_eq_true_iff.mp hdate
  have hmost := Date.monthLength_le date.year date.month
  have hrange : -96465292 ≤ date.dayNumber ∧ date.dayNumber ≤ 95026236 := by
    by_cases hearly : date.month ≤ 2
    · rw [Date.dayNumber_of_le date hearly, Date.daysToMarch, Date.daysToEpoch]
      omega
    · rw [Date.dayNumber_of_lt date (Nat.not_le.mp hearly), Date.daysToMarch, Date.daysToEpoch]
      omega
  let i : Instant := ⟨date.dayNumber, 0, 0, hrange.1, hrange.2, by decide, by decide⟩
  have hdate' : i.date = date := Date.ofDayNumber_dayNumber hdate
  have htime : 'T' :: timeChars 0 0 ++ ['Z'] = "T00:00:00Z".toList := by decide
  have hleap : i.LeapEndsMinute := fun hleap => absurd hleap Bool.false_ne_true
  refine ⟨i, dif_pos ⟨hrange, by decide, by decide⟩, hdate', hleap, ?_⟩
  rw [toChars, hdate', List.append_assoc, ← htime]

end Plain

/-- A date with a time is not plain. -/
theorem ofPlainDate?_toChars (i : Instant) : ofPlainDate? i.toChars = none := by
  have hplain := plainDate?_dateChars i.isValid_date ('T' :: timeChars i.second i.nano ++ ['Z'])
  rw [ofPlainDate?, toChars, List.append_assoc, hplain]
  rfl

/-! ### White space -/

theorem skipBlanks_eq_self (h : ∀ c ∈ cs.head?, isBlank c = false) : skipBlanks cs = cs := by
  cases cs with
  | nil => rfl
  | cons c cs => exact skipBlanks_cons (h c rfl) cs

/-- A text that neither begins nor ends with white space has none at its ends. -/
theorem trimChars_eq_self (hfirst : ∀ c ∈ cs.head?, isBlank c = false)
    (hlast : ∀ c ∈ cs.getLast?, isBlank c = false) : trimChars cs = cs := by
  rw [trimChars, skipBlanks_eq_self hfirst, skipBlanks_eq_self (by rwa [List.head?_reverse]),
    List.reverse_reverse]

/-- A text that begins with a year has no white space before it. -/
theorem trimChars_yearChars_append (year : Int) {last : Char} (hlast : isBlank last = false)
    (cs : List Char) :
    trimChars (yearChars year ++ (cs ++ [last])) = yearChars year ++ (cs ++ [last]) := by
  refine trimChars_eq_self ?_ ?_
  · rw [yearChars]
    split
    · have hlength := Numeral.length_padded 4 year.toNat
      cases hd : Numeral.padded 4 year.toNat with
      | nil => simp [hd] at hlength
      | cons c ds =>
        rintro _ ⟨⟩
        exact isBlank_eq_false_of_isDigit
          (Numeral.isDigit_of_mem_padded (hd ▸ List.mem_cons_self))
    · rintro _ ⟨⟩
      split <;> decide
  · rw [← List.append_assoc, List.getLast?_concat]
    rintro _ ⟨⟩
    exact hlast

theorem trimChars_toChars (i : Instant) : trimChars i.toChars = i.toChars := by
  have hchars : i.toChars = yearChars i.date.year ++ (('-' :: Numeral.padded 2 i.date.month ++
      '-' :: Numeral.padded 2 i.date.day ++ 'T' :: timeChars i.second i.nano) ++ ['Z']) := by
    simp only [toChars, dateChars, List.append_assoc, List.cons_append]
  rw [hchars]
  exact trimChars_yearChars_append _ (by decide) _

theorem trimChars_dateChars (date : Date) : trimChars (dateChars date) = dateChars date := by
  have hchars : dateChars date = yearChars date.year ++ (('-' :: Numeral.padded 2 date.month ++
      '-' :: Numeral.padded 1 (date.day / 10)) ++ [Numeral.digit (date.day % 10)]) := by
    simp only [dateChars, Numeral.padded, List.append_assoc, List.cons_append]
  rw [hchars]
  refine trimChars_yearChars_append _ (isBlank_eq_false_of_isDigit ?_) _
  exact Numeral.isDigit_digit _ (Nat.mod_lt _ (by decide))

end Datebook.Instant
