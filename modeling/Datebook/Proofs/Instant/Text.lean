import Datebook.Attempt
import Datebook.Instant.Printer
import Datebook.Instant.Relaxed
import Datebook.Proofs.Date.Months
import Datebook.Proofs.Text.Numeral

/-!
# Reading back a written instant

The relaxed reader takes the written form of an instant apart again, number by number: each ends
where its width does or where a mark follows. The numbers name the instant that was written, with a
single exception. The second 60 is written only for a leap second at the end of a minute; another is
written, and read, as a fraction of the second after the one that it extends.

## Main definitions

* `Datebook.Instant.asWritten`: the instant that the written form of an instant names.
* `Datebook.Instant.LeapEndsMinute`: a leap second comes at the end of its minute.

## Main results

* `Datebook.Instant.ofRelaxed?_text`
* `Datebook.Instant.asWritten_eq_self`
* `Datebook.Instant.leapEndsMinute_iff`: the instants that a text stands for.
-/

namespace Datebook.Instant

open Text (isBlank skipBlanks)

/-- A leap second comes only at the end of a minute. -/
def LeapEndsMinute (i : Instant) : Prop :=
  i.isLeapSecond = true → i.second % 60 = 59

/-- The instant that the written form of an instant names. -/
def asWritten (i : Instant) : Instant :=
  if h : 1000000000 ≤ i.nano ∧ i.second % 60 ≠ 59 then
    { i with
      second := i.second + 1
      nano := i.nano - 1000000000
      second_lt := by have := i.second_lt; omega
      nano_lt := by have := i.nano_lt; omega }
  else i

theorem asWritten_eq_self {i : Instant} (h : i.LeapEndsMinute) : i.asWritten = i := by
  refine dif_neg fun hleap => hleap.2 (h ?_)
  exact decide_eq_true hleap.1

/-- The day is written as it is, and so is the second but for a leap second within a minute. -/
theorem asWritten_parts (i : Instant) :
    i.asWritten.day = i.day ∧
      ((1000000000 ≤ i.nano ∧ i.second % 60 ≠ 59) ∧ i.asWritten.second = i.second + 1 ∧
          i.asWritten.nano = i.nano - 1000000000 ∨
        ¬ (1000000000 ≤ i.nano ∧ i.second % 60 ≠ 59) ∧ i.asWritten.second = i.second ∧
          i.asWritten.nano = i.nano) := by
  rw [asWritten]
  split
  · next h => exact ⟨rfl, Or.inl ⟨h, rfl, rfl⟩⟩
  · next h => exact ⟨rfl, Or.inr ⟨h, rfl, rfl⟩⟩

/-! ### Numbers and marks -/

theorem isBlank_eq_false_of_isDigit {c : Char} (h : Numeral.isDigit c = true) :
    isBlank c = false := by
  simp only [Numeral.isDigit, Bool.and_eq_true, decide_eq_true_eq, Char.le_def,
    UInt32.le_iff_toNat_le] at h
  obtain ⟨hleast, hmost⟩ := h
  have h0 : '0'.val.toNat = 48 := rfl
  have h9 : '9'.val.toNat = 57 := rfl
  have hc : c.toNat = c.val.toNat := rfl
  simp only [isBlank, Bool.or_eq_false_iff, Bool.and_eq_false_iff, decide_eq_false_iff_not,
    beq_eq_false_iff_ne]
  omega

/-- White space is looked for in vain in front of a character that is none. -/
theorem skipBlanks_cons {c : Char} (h : isBlank c = false) (cs : List Char) :
    skipBlanks (c :: cs) = c :: cs :=
  List.dropWhile_cons_of_neg (by simp [h])

theorem skipBlanks_padded {width : Nat} (hwidth : 0 < width) (n : Nat) (cs : List Char) :
    skipBlanks (Numeral.padded width n ++ cs) = Numeral.padded width n ++ cs := by
  have hlength := Numeral.length_padded width n
  cases hd : Numeral.padded width n with
  | nil => simp [hd] at hlength; omega
  | cons c ds =>
    exact skipBlanks_cons (isBlank_eq_false_of_isDigit
      (Numeral.isDigit_of_mem_padded (hd ▸ List.mem_cons_self))) _

theorem afterMark?_cons {mark : Char} (h : isBlank mark = false) (cs : List Char) :
    afterMark? mark (mark :: cs) = some cs := by
  rw [afterMark?, skipBlanks_cons h]
  exact if_pos rfl

/-- Two digits are read as the number that they were written for. -/
theorem shortNumber?_padded {n : Nat} (hn : n < 100) (cs : List Char) :
    shortNumber? (Numeral.padded 2 n ++ cs) = some (n, cs) := by
  rw [shortNumber?, skipBlanks_padded (by decide)]
  exact Numeral.number?_padded (by decide) hn (Or.inl (Numeral.length_padded 2 n))

/-- A year without a sign has up to four digits. -/
theorem relaxedYear?_cons_of_isDigit {c : Char} (h : Numeral.isDigit c = true) (cs : List Char) :
    relaxedYear? (c :: cs) =
      (Numeral.number? 1 4 (c :: cs)).map fun (n, rest) => (Int.ofNat n, rest) := by
  rw [relaxedYear?, skipBlanks_cons (isBlank_eq_false_of_isDigit h)]
  split
  · next heq =>
    obtain ⟨rfl, -⟩ := List.cons.inj heq
    exact absurd h (by decide)
  · next heq =>
    obtain ⟨rfl, -⟩ := List.cons.inj heq
    exact absurd h (by decide)
  · rfl

/-- A year behind a minus sign has any number of digits. -/
theorem relaxedYear?_minus (cs : List Char) :
    relaxedYear? ('-' :: cs) =
      (Numeral.number? 1 cs.length cs).map fun (n, rest) => (-Int.ofNat n, rest) :=
  rfl

/-- A year behind a plus sign has any number of digits. -/
theorem relaxedYear?_plus (cs : List Char) :
    relaxedYear? ('+' :: cs) =
      (Numeral.number? 1 cs.length cs).map fun (n, rest) => (Int.ofNat n, rest) :=
  rfl

/-- The digits of a year behind a sign. -/
theorem yearDigits_spec (n : Nat) :
    let ds := if n < 10000 then Numeral.padded 4 n else Numeral.digits n
    (∀ c ∈ ds, Numeral.isDigit c = true) ∧ ds ≠ [] ∧ Numeral.value ds = n := by
  dsimp only
  split
  · next h =>
    refine ⟨fun _ => Numeral.isDigit_of_mem_padded, ?_, ?_⟩
    · exact List.ne_nil_of_length_pos (by rw [Numeral.length_padded]; decide)
    · rw [Numeral.value_padded]
      exact Nat.mod_eq_of_lt h
  · exact ⟨fun _ => Numeral.isDigit_of_mem_digits, Numeral.digits_ne_nil n, Numeral.value_digits n⟩

/-- A year is read as it was written. -/
theorem relaxedYear?_yearChars (year : Int) (cs : List Char) :
    relaxedYear? (yearChars year ++ '-' :: cs) = some (year, '-' :: cs) := by
  rw [yearChars]
  split
  · next hyear =>
    have hread : Numeral.number? 1 4 (Numeral.padded 4 year.toNat ++ '-' :: cs) =
        some (year.toNat, '-' :: cs) :=
      Numeral.number?_padded (by decide) (by omega) (Or.inl (Numeral.length_padded 4 _))
    cases hd : Numeral.padded 4 year.toNat with
    | nil => simpa [hd] using Numeral.length_padded 4 year.toNat
    | cons d ds =>
      have hdigit : Numeral.isDigit d = true :=
        Numeral.isDigit_of_mem_padded (hd ▸ List.mem_cons_self)
      rw [hd, List.cons_append] at hread
      rw [List.cons_append, relaxedYear?_cons_of_isDigit hdigit, hread, Option.map_some]
      exact congrArg (fun y => some (y, '-' :: cs)) (Int.toNat_of_nonneg hyear.1)
  · -- The digits behind a sign end at the hyphen.
    obtain ⟨hdigits, hne, hvalue⟩ := yearDigits_spec year.natAbs
    dsimp only at hdigits hne hvalue ⊢
    generalize (if year.natAbs < 10000 then Numeral.padded 4 year.natAbs
      else Numeral.digits year.natAbs) = ds at hdigits hne hvalue ⊢
    have hread : Numeral.number? 1 (ds ++ '-' :: cs).length (ds ++ '-' :: cs) =
        some (year.natAbs, '-' :: cs) := by
      rw [Numeral.number?_append hdigits (List.length_pos_iff.mpr hne), hvalue]
      refine Or.inr ⟨by simp, ?_⟩
      rintro _ ⟨⟩
      rfl
    rw [List.cons_append]
    by_cases hneg : year < 0
    · rw [if_pos hneg, relaxedYear?_minus, hread, Option.map_some]
      refine congrArg (fun y => some (y, '-' :: cs)) ?_
      rw [Int.ofNat_eq_natCast]
      omega
    · rw [if_neg hneg, relaxedYear?_plus, hread, Option.map_some]
      refine congrArg (fun y => some (y, '-' :: cs)) ?_
      rw [Int.ofNat_eq_natCast]
      omega

/-- The digits of a fraction stand for nanoseconds. -/
theorem fraction?_padded {width n nano : Nat} (hwidth : 0 < width) (hwidth_le : width ≤ 9)
    (hn : n < 10 ^ width) (hnano : n * 10 ^ (9 - width) = nano) (cs : List Char) :
    fraction? ('.' :: Numeral.padded width n ++ 'Z' :: cs) = some (nano, 'Z' :: cs) := by
  have hlength := Numeral.length_padded width n
  have htake : Numeral.takeDigits 9 (Numeral.padded width n ++ 'Z' :: cs) =
      (Numeral.padded width n, 'Z' :: cs) := by
    refine Numeral.takeDigits_append (fun _ => Numeral.isDigit_of_mem_padded) ?_
    refine Or.inr ⟨by rwa [hlength], ?_⟩
    rintro _ ⟨⟩
    rfl
  have hnonempty : (Numeral.padded width n).isEmpty = false :=
    List.isEmpty_eq_false_iff.mpr (List.ne_nil_of_length_pos (by rwa [hlength]))
  have hvalue : nanoOfDigits (Numeral.padded width n) = nano := by
    rw [nanoOfDigits, Numeral.value_append_replicate, hlength, Numeral.value_padded,
      Nat.mod_eq_of_lt hn, hnano]
  rw [List.cons_append, fraction?, htake]
  simp only [hnonempty, hvalue]
  rfl

/-- A fraction is read as it was written. -/
theorem fraction?_fractionChars {nano : Nat} (h : nano < 1000000000) (cs : List Char) :
    fraction? (fractionChars nano ++ 'Z' :: cs) = some (nano, 'Z' :: cs) := by
  rw [fractionChars]
  split
  · next hzero =>
    subst hzero
    rfl
  split
  · exact fraction?_padded (by decide) (by decide) (by omega) (by omega) cs
  split
  · exact fraction?_padded (by decide) (by decide) (by omega) (by omega) cs
  · exact fraction?_padded (by decide) (by decide) h (Nat.mul_one nano) cs

/-! ### Instants -/

/-- The numbers of the written form of an instant. -/
def writtenFields (i : Instant) : Fields where
  year := i.date.year
  month := i.date.month
  day := i.date.day
  hour := i.second / 3600
  minute := i.second / 60 % 60
  second := i.second % 60 + i.nano / 1000000000
  nano := i.nano % 1000000000
  offset := 0

theorem month_lt (i : Instant) : i.date.month < 100 := by
  obtain ⟨-, hmonth, -, -⟩ := Date.isValid_eq_true_iff.mp i.isValid_date
  omega

theorem day_lt (i : Instant) : i.date.day < 100 := by
  obtain ⟨-, -, -, hday⟩ := Date.isValid_eq_true_iff.mp i.isValid_date
  have := Date.monthLength_le i.date.year i.date.month
  omega

/-- The numbers of the written form of an instant, and the marks between them, in order. -/
theorem toChars_eq (i : Instant) :
    i.toChars = yearChars i.date.year ++ '-' :: (Numeral.padded 2 i.date.month ++
      '-' :: (Numeral.padded 2 i.date.day ++ 'T' :: (Numeral.padded 2 (i.second / 3600) ++
      ':' :: (Numeral.padded 2 (i.second / 60 % 60) ++
      ':' :: (Numeral.padded 2 (i.second % 60 + i.nano / 1000000000) ++
      (fractionChars (i.nano % 1000000000) ++ ['Z'])))))) := by
  simp only [toChars, dateChars, timeChars, List.append_assoc, List.cons_append]

/-- The numbers of a time have no more digits than they are written with. -/
theorem clock_lt (i : Instant) :
    i.second / 3600 < 100 ∧ i.second / 60 % 60 < 100 ∧
      i.second % 60 + i.nano / 1000000000 < 100 ∧ i.nano % 1000000000 < 1000000000 := by
  have hsecond := i.second_lt
  have hnano := i.nano_lt
  omega

/-- The numbers of the written form of an instant are read. -/
theorem relaxedFields?_toChars (i : Instant) : relaxedFields? i.toChars = some i.writtenFields := by
  obtain ⟨hhour, hminute, hsecond, hnano⟩ := i.clock_lt
  have hhyphen : isBlank '-' = false := by decide
  have hcolon : isBlank ':' = false := by decide
  have hseparator : isSeparator 'T' = true := rfl
  rw [toChars_eq]
  refine (bind_of_eq_some (relaxedYear?_yearChars i.date.year _) _).trans ?_
  refine (bind_of_eq_some (afterMark?_cons hhyphen _) _).trans ?_
  refine (bind_of_eq_some (shortNumber?_padded i.month_lt _) _).trans ?_
  refine (bind_of_eq_some (afterMark?_cons hhyphen _) _).trans ?_
  refine (bind_of_eq_some (shortNumber?_padded i.day_lt _) _).trans ?_
  refine (if_pos hseparator).trans ?_
  refine (bind_of_eq_some (shortNumber?_padded hhour _) _).trans ?_
  refine (bind_of_eq_some (afterMark?_cons hcolon _) _).trans ?_
  refine (bind_of_eq_some (shortNumber?_padded hminute _) _).trans ?_
  refine (bind_of_eq_some (afterMark?_cons hcolon _) _).trans ?_
  refine (bind_of_eq_some (shortNumber?_padded hsecond _) _).trans ?_
  exact bind_of_eq_some (fraction?_fractionChars hnano []) _

/-- The seconds and nanoseconds of the written form add up to those of the instant that it stands
for. -/
theorem writtenTime_eq (i : Instant) :
    let second := i.second % 60 + i.nano / 1000000000
    i.second / 3600 * 3600 + i.second / 60 % 60 * 60 + (second - second / 60) =
        i.asWritten.second ∧
      i.nano % 1000000000 + 1000000000 * (second / 60) = i.asWritten.nano := by
  dsimp only
  have hnano := i.nano_lt
  have hclock : i.second / 3600 * 3600 + i.second / 60 % 60 * 60 + i.second % 60 = i.second := by
    omega
  have hlt : i.second % 60 < 60 := Nat.mod_lt _ (by decide)
  obtain ⟨-, ⟨hinside, hsecond, hnano'⟩ | ⟨hedge, hsecond, hnano'⟩⟩ := i.asWritten_parts
  · have hleap : i.nano / 1000000000 = 1 := by omega
    have hminute : (i.second % 60 + 1) / 60 = 0 := by omega
    rw [hsecond, hnano', hleap, hminute]
    omega
  · rw [hsecond, hnano']
    by_cases hleap : 1000000000 ≤ i.nano
    · have hlast : i.second % 60 = 59 := by omega
      have hone : i.nano / 1000000000 = 1 := by omega
      rw [hone, hlast]
      omega
    · have hzero : i.nano / 1000000000 = 0 := by omega
      have hminute : (i.second % 60 + 0) / 60 = 0 := by omega
      rw [hzero, hminute]
      omega

/-- The numbers of the written form name the instant that it stands for. -/
theorem toInstant?_writtenFields (i : Instant) : i.writtenFields.toInstant? = some i.asWritten := by
  have hvalid : (⟨i.date.year, i.date.month, i.date.day⟩ : Date).isValid = true := i.isValid_date
  have hnumber : (⟨i.date.year, i.date.month, i.date.day⟩ : Date).dayNumber = i.day :=
    dayNumber_date i
  obtain ⟨hday, -⟩ := i.asWritten_parts
  obtain ⟨hsecond, hnano⟩ := i.writtenTime_eq
  rw [Fields.toInstant?, writtenFields]
  simp only [hvalid, hnumber, Int.zero_mul, Int.sub_zero]
  rw [if_neg]
  · have hlocal : ((i.second / 3600 : Nat) * 3600 + (i.second / 60 % 60 : Nat) * 60 +
        (i.second % 60 + i.nano / 1000000000 -
          (i.second % 60 + i.nano / 1000000000) / 60 : Nat) : Int) = i.asWritten.second := by
      simp only [← hsecond, Int.natCast_add, Int.natCast_mul, Int.cast_ofNat_Int]
    have hlt := i.asWritten.second_lt
    have hwhole : (i.asWritten.second : Int) / 86400 = 0 := by omega
    have hrest : ((i.asWritten.second : Int) % 86400).toNat = i.asWritten.second := by omega
    rw [hlocal, hnano, hwhole, hrest, Int.add_zero, ← hday]
    exact of?_parts _
  · have hfirst := i.first_le_day
    have hlast := i.day_le_last
    have hlt := i.second_lt
    have hbound := i.nano_lt
    have hhour : ¬ 24 ≤ i.second / 3600 := by omega
    have hminute : ¬ 60 ≤ i.second / 60 % 60 := by omega
    have hsecond : ¬ 61 ≤ i.second % 60 + i.nano / 1000000000 := by omega
    have hnotBefore : ¬ i.day < firstDay := Int.not_lt.mpr hfirst
    have hnotAfter : ¬ lastDay < i.day := Int.not_lt.mpr hlast
    simp [hhour, hminute, hsecond, hnotBefore, hnotAfter]

/-- **An instant is read as it was written.** -/
theorem ofRelaxed?_text (i : Instant) : ofRelaxed? i.text = some i.asWritten := by
  rw [ofRelaxed?, text, String.toList_ofList, relaxedFields?_toChars, Option.bind_some,
    toInstant?_writtenFields]

/-! ### What has a written form -/

/-- Only nine digits of a fraction count. -/
theorem nano_lt_of_fraction?_eq_some {cs rest : List Char} {nano : Nat}
    (h : fraction? cs = some (nano, rest)) : nano < 1000000000 := by
  rw [fraction?.eq_def] at h
  split at h
  · next cs =>
    obtain ⟨hdigits, hlength⟩ := Numeral.takeDigits_spec 9 cs
    generalize Numeral.takeDigits 9 cs = taken at h hdigits hlength
    obtain ⟨ds, left⟩ := taken
    dsimp only at h hdigits hlength
    split at h
    · simp at h
    · simp only [Option.some.injEq, Prod.mk.injEq] at h
      have hpow : 10 ^ ds.length * 10 ^ (9 - ds.length) = 1000000000 := by
        rw [← Nat.pow_add, Nat.add_sub_cancel' hlength]
      rw [← h.1, nanoOfDigits, Numeral.value_append_replicate, ← hpow]
      exact Nat.mul_lt_mul_of_pos_right (Numeral.value_lt hdigits) (Nat.pow_pos (by decide))
  · simp only [Option.some.injEq, Prod.mk.injEq] at h
    omega

/-- The fraction of a second that is read stays below a second. -/
theorem nano_lt_of_relaxedFields?_eq_some {cs : List Char} {f : Fields}
    (h : relaxedFields? cs = some f) : f.nano < 1000000000 := by
  obtain ⟨⟨year, cs⟩, -, h⟩ := Option.bind_eq_some_iff.mp h
  obtain ⟨cs, -, h⟩ := Option.bind_eq_some_iff.mp h
  obtain ⟨⟨month, cs⟩, -, h⟩ := Option.bind_eq_some_iff.mp h
  obtain ⟨cs, -, h⟩ := Option.bind_eq_some_iff.mp h
  obtain ⟨⟨day, cs⟩, -, h⟩ := Option.bind_eq_some_iff.mp h
  dsimp only at h
  split at h
  · split at h
    · obtain ⟨cs, -, h⟩ := Option.bind_eq_some_iff.mp h
      obtain ⟨⟨hour, cs⟩, -, h⟩ := Option.bind_eq_some_iff.mp h
      obtain ⟨cs, -, h⟩ := Option.bind_eq_some_iff.mp h
      obtain ⟨⟨minute, cs⟩, -, h⟩ := Option.bind_eq_some_iff.mp h
      obtain ⟨cs, -, h⟩ := Option.bind_eq_some_iff.mp h
      obtain ⟨⟨second, cs⟩, -, h⟩ := Option.bind_eq_some_iff.mp h
      obtain ⟨⟨nano, cs⟩, hfraction, h⟩ := Option.bind_eq_some_iff.mp h
      obtain ⟨⟨offset, cs⟩, -, h⟩ := Option.bind_eq_some_iff.mp h
      dsimp only at h
      split at h
      · obtain rfl := Option.some.inj h
        exact nano_lt_of_fraction?_eq_some hfraction
      · exact absurd h (Option.some_ne_none f).symm
    · exact absurd h (Option.some_ne_none f).symm
  · exact absurd h (Option.some_ne_none f).symm

/-- A leap second that is read ends a minute, as it is written with the second 60. -/
theorem leapEndsMinute_of_toInstant?_eq_some {f : Fields} {i : Instant}
    (hnano : f.nano < 1000000000) (h : f.toInstant? = some i) : i.LeapEndsMinute := by
  intro hleap
  have hleap : 1000000000 ≤ i.nano := of_decide_eq_true hleap
  rw [Fields.toInstant?] at h
  dsimp only at h
  split at h
  · simp at h
  · next hrange =>
    simp only [Bool.or_eq_true, decide_eq_true_eq, not_or] at hrange
    rw [of?] at h
    split at h
    · obtain rfl := Option.some.inj h
      dsimp only at hleap ⊢
      have hsecond : f.second = 60 := by omega
      rw [hsecond]
      omega
    · simp at h

/-- The instants that a text stands for are those in which a leap second ends a minute. -/
theorem leapEndsMinute_iff {i : Instant} : i.LeapEndsMinute ↔ ∃ s, ofRelaxed? s = some i := by
  constructor
  · intro h
    exact ⟨i.text, by rw [ofRelaxed?_text, asWritten_eq_self h]⟩
  · rintro ⟨s, h⟩
    obtain ⟨f, hf, hi⟩ := Option.bind_eq_some_iff.mp h
    exact leapEndsMinute_of_toInstant?_eq_some (nano_lt_of_relaxedFields?_eq_some hf) hi

end Datebook.Instant
