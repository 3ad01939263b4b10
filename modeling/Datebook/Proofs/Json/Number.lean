import Datebook.Json.Number
import Datebook.Json.Printer
import Datebook.Proofs.Text.Numeral

/-!
# Reading back a whole number

A whole number is written with the fewest digits and without a leading zero, so that the reader
takes all of its digits for the whole part. Where what follows begins neither with a digit nor
with the mark of a fraction or of an exponent, the reader either finds the number that was written
or refuses it for its size. It refuses none that has 64 bits.

## Main definitions

* `Datebook.Json.bytesOfChars`: characters in UTF-8.
* `Datebook.Json.digitBytes`: the written form of a natural number.
* `Datebook.Json.EndsNumber`: what may follow a whole number.

## Main results

* `Datebook.Json.readUnsigned_digitBytes`
* `Datebook.Json.eq_of_readInteger_number`, `Datebook.Json.readInteger_number`
-/

namespace Datebook.Json

/-! ### Characters as bytes -/

/-- The bytes of characters in UTF-8. -/
def bytesOfChars (cs : List Char) : Bytes :=
  cs.flatMap String.utf8EncodeChar

theorem bytesOf_ofList (cs : List Char) : bytesOf (String.ofList cs) = bytesOfChars cs := by
  simp [bytesOf, bytesOfChars, String.toUTF8, List.utf8Encode]

theorem bytesOfChars_append (cs ds : List Char) :
    bytesOfChars (cs ++ ds) = bytesOfChars cs ++ bytesOfChars ds :=
  List.flatMap_append

/-- An ASCII character is a byte of its own. -/
theorem bytesOfChars_cons {c : Char} (h : c.toNat < 128) (cs : List Char) :
    bytesOfChars (c :: cs) = byte c :: bytesOfChars cs := by
  have hsize : c.utf8Size = 1 := by
    rw [Char.utf8Size_eq_one_iff]
    exact Nat.le_of_lt_succ h
  rw [bytesOfChars, List.flatMap_cons, String.utf8EncodeChar_eq_singleton hsize]
  rfl

/-! ### The digits of a number -/

/-- The byte of a digit. -/
def digitByte (d : Nat) : UInt8 :=
  byte (Numeral.digit d)

theorem isDigit_digitByte : ∀ d < 10, isDigit (digitByte d) = true := by decide

theorem toNat_digitByte : ∀ d < 10, (digitByte d).toNat = 48 + d := by decide

theorem toNat_digit : ∀ d < 10, (Numeral.digit d).toNat < 128 := by decide

/-- The written form of a natural number. -/
def digitBytes (n : Nat) : Bytes :=
  bytesOfChars (Numeral.digits n)

theorem digitBytes_of_lt {n : Nat} (h : n < 10) : digitBytes n = [digitByte n] := by
  rw [digitBytes, Numeral.digits_of_lt h, bytesOfChars_cons (toNat_digit n h)]
  rfl

theorem digitBytes_of_le {n : Nat} (h : 10 ≤ n) :
    digitBytes n = digitBytes (n / 10) ++ [digitByte (n % 10)] := by
  rw [digitBytes, Numeral.digits_of_le h, bytesOfChars_append,
    bytesOfChars_cons (toNat_digit _ (Nat.mod_lt n (by decide)))]
  rfl

theorem isDigit_of_mem_digitBytes {n : Nat} {b : UInt8} (hb : b ∈ digitBytes n) :
    isDigit b = true := by
  induction n using Numeral.digits_induction with
  | digit n h =>
    rw [digitBytes_of_lt h, List.mem_singleton] at hb
    exact hb ▸ isDigit_digitByte n h
  | more n h ih =>
    rw [digitBytes_of_le h, List.mem_append, List.mem_singleton] at hb
    rcases hb with hb | rfl
    · exact ih hb
    · exact isDigit_digitByte _ (Nat.mod_lt n (by decide))

theorem digitsValue_append_singleton (ds : Bytes) (d : UInt8) :
    digitsValue (ds ++ [d]) = 10 * digitsValue ds + (d.toNat - 48) := by
  rw [digitsValue, List.foldl_append]
  rfl

theorem digitsValue_digitBytes (n : Nat) : digitsValue (digitBytes n) = n := by
  induction n using Numeral.digits_induction with
  | digit n h =>
    have hd := toNat_digitByte n h
    rw [digitBytes_of_lt h, ← List.nil_append [_], digitsValue_append_singleton, digitsValue,
      List.foldl_nil]
    omega
  | more n h ih =>
    have hd := toNat_digitByte (n % 10) (Nat.mod_lt n (by decide))
    rw [digitBytes_of_le h, digitsValue_append_singleton, ih]
    omega

theorem digitBytes_ne_nil (n : Nat) : digitBytes n ≠ [] := by
  by_cases h : n < 10
  · simp [digitBytes_of_lt h]
  · simp [digitBytes_of_le (Nat.not_lt.mp h)]

/-- Only the numeral of zero begins with a zero. -/
theorem head?_digitBytes {n : Nat} (hn : 0 < n) : (digitBytes n).head? ≠ some (byte '0') := by
  induction n using Numeral.digits_induction with
  | digit n h =>
    intro hzero
    rw [digitBytes_of_lt h, List.head?_singleton, Option.some.injEq] at hzero
    have hd := toNat_digitByte n h
    rw [hzero] at hd
    have hbyte : (byte '0').toNat = 48 := by decide
    omega
  | more n h ih =>
    obtain ⟨b, bs, hbs⟩ := List.exists_cons_of_ne_nil (digitBytes_ne_nil (n / 10))
    rw [hbs] at ih
    rw [digitBytes_of_le h, hbs]
    exact ih (by omega)

theorem hasLeadingZero_digitBytes (n : Nat) : hasLeadingZero (digitBytes n) = false := by
  by_cases hn : 0 < n
  · have hhead := head?_digitBytes hn
    simp [hasLeadingZero, hhead]
  · obtain rfl : n = 0 := by omega
    rw [digitBytes_of_lt (by decide)]
    decide

/-! ### Reading a numeral -/

/-- The text goes on with no digit. -/
def EndsDigits (rest : Bytes) : Prop :=
  ∀ b ∈ rest.head?, isDigit b = false

/-- The text goes on with nothing that could belong to a number. -/
def EndsNumber (rest : Bytes) : Prop :=
  ∀ b ∈ rest.head?, isDigit b = false ∧ b ≠ byte '.' ∧ b ≠ byte 'e' ∧ b ≠ byte 'E'

variable {rest : Bytes}

theorem EndsNumber.endsDigits (h : EndsNumber rest) : EndsDigits rest :=
  fun b hb => (h b hb).1

theorem takeWhile_isDigit_append {ds : Bytes} (hds : ∀ b ∈ ds, isDigit b = true)
    (h : EndsDigits rest) :
    (ds ++ rest).takeWhile isDigit = ds ∧ (ds ++ rest).dropWhile isDigit = rest := by
  rw [List.takeWhile_append_of_pos hds, List.dropWhile_append_of_pos hds]
  cases rest with
  | nil => simp
  | cons b rest =>
    have hb : isDigit b = false := h b rfl
    simp [hb]

theorem readWhole_digitBytes (n : Nat) (h : EndsNumber rest) :
    readWhole (digitBytes n ++ rest) = .ok (digitBytes n, rest) := by
  have hds : ∀ b ∈ digitBytes n, isDigit b = true := fun _ => isDigit_of_mem_digitBytes
  obtain ⟨htake, hdrop⟩ := takeWhile_isDigit_append hds h.endsDigits
  have hdigits : readDigits (digitBytes n ++ rest) = .ok (digitBytes n, rest) := by
    rw [readDigits, htake, hdrop, if_neg (by simp [digitBytes_ne_nil]),
      if_neg (digitBytes_ne_nil n)]
  simp [readWhole, hdigits, hasLeadingZero_digitBytes, ok_bind]

theorem readFraction_of_endsNumber (h : EndsNumber rest) :
    readFraction rest = .ok (none, rest) := by
  cases rest with
  | nil => rfl
  | cons b rest => rw [readFraction, if_neg (h b rfl).2.1]

theorem readExponent_of_endsNumber (h : EndsNumber rest) :
    readExponent rest = .ok (none, rest) := by
  cases rest with
  | nil => rfl
  | cons b rest =>
    obtain ⟨-, -, he, hE⟩ := h b rfl
    rw [readExponent, if_neg (by simp [he, hE])]

/-- The numeral of a number is read as the number, unless it is too large for any reader. -/
theorem readUnsigned_digitBytes (n : Nat) (h : EndsNumber rest) :
    readUnsigned (digitBytes n ++ rest) =
      if exceedsFloat (digitBytes n) [] 0 then .error .malformed else .ok (some n, rest) := by
  simp only [readUnsigned, readWhole_digitBytes n h, readFraction_of_endsNumber h,
    readExponent_of_endsNumber h, ok_bind, digitsValue_digitBytes, Option.getD_none,
    Option.isNone_none, Bool.and_self, if_true]

theorem bytesOfChars_number (n : Int) :
    bytesOfChars (number n) =
      if n < 0 then byte '-' :: digitBytes n.natAbs else digitBytes n.natAbs := by
  rw [number, Numeral.signed]
  split
  · rw [bytesOfChars_cons (by decide)]
    rfl
  · rfl

theorem isSpace_of_startsNumber {b : UInt8} (h : startsNumber b = true) : isSpace b = false := by
  rw [← Bool.not_eq_true]
  intro hspace
  simp only [isSpace, Bool.or_eq_true, beq_iff_eq] at hspace
  rcases hspace with ((rfl | rfl) | rfl) | rfl <;> revert h <;> decide

/-- The first byte of a number shows that it is one. -/
theorem exists_bytesOfChars_number_eq (n : Int) :
    ∃ b bs, bytesOfChars (number n) = b :: bs ∧ startsNumber b = true := by
  rw [bytesOfChars_number]
  split
  · exact ⟨_, _, rfl, by decide⟩
  · obtain ⟨b, bs, hbs⟩ := List.exists_cons_of_ne_nil (digitBytes_ne_nil n.natAbs)
    have hb : isDigit b = true := isDigit_of_mem_digitBytes (hbs ▸ List.mem_cons_self)
    exact ⟨b, bs, hbs, by rw [startsNumber, hb, Bool.or_true]⟩

/-- The written form of a whole number is read as the number, unless it is too large for any
reader. -/
theorem readNumber_number (n : Int) (h : EndsNumber rest) :
    readNumber (bytesOfChars (number n) ++ rest) =
      if exceedsFloat (digitBytes n.natAbs) [] 0 then .error .malformed
      else .ok (some n, rest) := by
  rw [bytesOfChars_number]
  by_cases hneg : n < 0
  · have hne : n.natAbs ≠ 0 := by omega
    have hvalue : -Int.ofNat n.natAbs = n := by
      rw [Int.ofNat_eq_natCast]
      omega
    rw [if_pos hneg, List.cons_append, readNumber, if_pos rfl, readUnsigned_digitBytes _ h]
    split
    · rfl
    · simp only [ok_bind, Option.bind, if_neg hne, hvalue]
  · -- No digit is a minus sign.
    have hminus : ∀ b ∈ digitBytes n.natAbs, b ≠ byte '-' := by
      rintro _ hb rfl
      exact absurd (isDigit_of_mem_digitBytes hb) (by decide)
    have hvalue : Int.ofNat n.natAbs = n := by
      rw [Int.ofNat_eq_natCast]
      omega
    rw [if_neg hneg]
    cases hdigits : digitBytes n.natAbs with
    | nil => exact absurd hdigits (digitBytes_ne_nil _)
    | cons b bs =>
      have hb : b ≠ byte '-' := hminus b (hdigits ▸ List.mem_cons_self)
      rw [List.cons_append, readNumber, if_neg hb, ← List.cons_append, ← hdigits,
        readUnsigned_digitBytes _ h]
      split
      · rfl
      · simp only [ok_bind, Option.map, hvalue]

/-- A number that is read where a whole number was written is that number. -/
theorem eq_of_readNumber_number {n : Int} {m : Option Int} {left : Bytes} (h : EndsNumber rest)
    (hread : readNumber (bytesOfChars (number n) ++ rest) = .ok (m, left)) :
    m = some n ∧ left = rest := by
  rw [readNumber_number n h] at hread
  split at hread
  · simp at hread
  · simp only [Except.ok.injEq, Prod.mk.injEq] at hread
    exact ⟨hread.1.symm, hread.2.symm⟩

/-- A whole number of 64 bits that is read where a whole number was written is that number. -/
theorem eq_of_readInteger_number {n m : Int} {left : Bytes} (h : EndsNumber rest)
    (hread : readInteger (bytesOfChars (number n) ++ rest) = .ok (m, left)) :
    m = n ∧ left = rest := by
  obtain ⟨⟨k, r⟩, hk, hm⟩ := bind_eq_ok_iff.mp hread
  obtain ⟨rfl, rfl⟩ := eq_of_readNumber_number h hk
  dsimp only at hm
  split at hm
  · simp only [Except.ok.injEq, Prod.mk.injEq] at hm
    exact ⟨hm.1.symm, hm.2.symm⟩
  · simp at hm

/-! ### Numbers of 64 bits -/

theorem le_foldl_digits (ds : Bytes) (n : Nat) :
    n ≤ ds.foldl (fun n d => 10 * n + (d.toNat - 48)) n := by
  induction ds generalizing n with
  | nil => exact Nat.le_refl n
  | cons d ds ih =>
    have hnext : n ≤ 10 * n + (d.toNat - 48) := by omega
    exact Nat.le_trans hnext (ih _)

/-- All digits are taken for the leading word where their value fits it. -/
theorem leadingWord_eq {ds : Bytes} {n : Nat}
    (h : ds.foldl (fun n d => 10 * n + (d.toNat - 48)) n < 18446744073709551616) :
    leadingWord n ds = (ds.foldl (fun n d => 10 * n + (d.toNat - 48)) n, []) := by
  induction ds generalizing n with
  | nil => rfl
  | cons d ds ih =>
    have hnext := Nat.lt_of_le_of_lt (le_foldl_digits ds _) h
    rw [leadingWord, if_pos hnext, ih h, List.foldl_cons]

/-- No whole number of 64 bits is too large for a reader. -/
theorem exceedsFloat_digitBytes {n : Nat} (h : n < 18446744073709551616) :
    exceedsFloat (digitBytes n) [] 0 = false := by
  have hleading : leadingWord 0 (digitBytes n) = (n, []) := by
    have hvalue := digitsValue_digitBytes n
    rw [digitsValue] at hvalue
    rw [leadingWord_eq (by rwa [hvalue]), hvalue]
  simp [exceedsFloat, hleading]

/-- A whole number of 64 bits is read as it was written. -/
theorem readInteger_number {n : Int} (hn : inWord n = true) (h : EndsNumber rest) :
    readInteger (bytesOfChars (number n) ++ rest) = .ok (n, rest) := by
  have hsize : n.natAbs < 18446744073709551616 := by
    simp only [inWord, Bool.and_eq_true, decide_eq_true_eq] at hn
    omega
  rw [readInteger, readNumber_number n h, exceedsFloat_digitBytes hsize]
  simp only [ok_bind, hn, if_true, Bool.false_eq_true, if_false]

end Datebook.Json
