import Datebook.Text.Numeral
import Mathlib.Algebra.Group.Nat.Defs
import Mathlib.Data.List.Induction

/-!
# Reading back a numeral

A number that is written with a fixed number of digits, or with the fewest, is read again from the
head of a text: the reader takes as many digits as it may, so that it stops where the numeral does
if that is as long as allowed, or if no digit follows. A whole numeral with a bound is read as the
number that it was written for exactly if that lies within the bound.

## Main definitions

* `Datebook.Numeral.StopsAt`: a reader that may take so many digits stops behind a numeral.

## Main results

* `Datebook.Numeral.number?_append`, `Datebook.Numeral.number?_padded`
* `Datebook.Numeral.readInt_signed`, `Datebook.Numeral.bounds_of_readInt`
-/

namespace Datebook.Numeral

/-! ### The digits of a number -/

theorem isDigit_digit : ∀ d < 10, isDigit (digit d) = true := by decide

theorem digitValue_digit : ∀ d < 10, digitValue (digit d) = d := by decide

theorem digitValue_lt {c : Char} (h : isDigit c = true) : digitValue c < 10 := by
  simp only [isDigit, Bool.and_eq_true, decide_eq_true_eq, Char.le_def, UInt32.le_iff_toNat_le] at h
  have hmost : '9'.val.toNat = 57 := rfl
  have hc : c.toNat = c.val.toNat := rfl
  rw [digitValue]
  omega

theorem value_append_singleton (cs : List Char) (c : Char) :
    value (cs ++ [c]) = 10 * value cs + digitValue c := by
  rw [value, List.foldl_append]
  rfl

theorem length_padded (width n : Nat) : (padded width n).length = width := by
  induction width generalizing n with
  | zero => rfl
  | succ width ih => rw [padded, List.length_append, ih, List.length_singleton]

theorem isDigit_of_mem_padded {width n : Nat} {c : Char} (h : c ∈ padded width n) :
    isDigit c = true := by
  induction width generalizing n with
  | zero => simp [padded] at h
  | succ width ih =>
    rw [padded, List.mem_append, List.mem_singleton] at h
    rcases h with h | rfl
    · exact ih h
    · exact isDigit_digit _ (Nat.mod_lt n (by decide))

/-- The last digits of a number stand for its remainder. -/
theorem value_padded (width n : Nat) : value (padded width n) = n % 10 ^ width := by
  induction width generalizing n with
  | zero => simp [padded, value, Nat.mod_one]
  | succ width ih =>
    rw [padded, value_append_singleton, ih, digitValue_digit _ (Nat.mod_lt n (by decide)),
      Nat.pow_succ', Nat.mod_mul]
    omega

theorem digits_of_lt {n : Nat} (h : n < 10) : digits n = [digit n] := by
  rw [digits, if_pos h]

theorem digits_of_le {n : Nat} (h : 10 ≤ n) : digits n = digits (n / 10) ++ [digit (n % 10)] := by
  rw [digits, if_neg (Nat.not_lt.mpr h)]

/-- What holds of the numbers with one digit, and is kept by adding a digit, holds of all. -/
theorem digits_induction {motive : Nat → Prop} (digit : ∀ n < 10, motive n)
    (more : ∀ n, 10 ≤ n → motive (n / 10) → motive n) (n : Nat) : motive n := by
  induction n using Nat.strongRecOn with
  | ind n ih =>
    by_cases h : n < 10
    · exact digit n h
    · exact more n (Nat.not_lt.mp h) (ih (n / 10) (by omega))

theorem digits_ne_nil (n : Nat) : digits n ≠ [] := by
  rw [digits]
  split <;> simp

theorem isDigit_of_mem_digits {n : Nat} {c : Char} (h : c ∈ digits n) : isDigit c = true := by
  induction n using digits_induction with
  | digit n hn =>
    rw [digits_of_lt hn, List.mem_singleton] at h
    exact h ▸ isDigit_digit n hn
  | more n hn ih =>
    rw [digits_of_le hn, List.mem_append, List.mem_singleton] at h
    rcases h with h | rfl
    · exact ih h
    · exact isDigit_digit _ (Nat.mod_lt n (by decide))

theorem value_digits (n : Nat) : value (digits n) = n := by
  induction n using digits_induction with
  | digit n hn => simp [digits_of_lt hn, value, digitValue_digit n hn]
  | more n hn ih =>
    rw [digits_of_le hn, value_append_singleton, ih,
      digitValue_digit _ (Nat.mod_lt n (by decide))]
    omega

/-- Zeros behind a numeral multiply it by a power of ten. -/
theorem value_append_replicate (ds : List Char) (count : Nat) :
    value (ds ++ List.replicate count '0') = value ds * 10 ^ count := by
  induction count with
  | zero => simp
  | succ count ih =>
    rw [List.replicate_succ', ← List.append_assoc, value_append_singleton, ih,
      show digitValue '0' = 0 from rfl, Nat.add_zero, Nat.pow_succ', Nat.mul_left_comm]

/-- A digit more makes a numeral at most ten times as large, and adds less than ten. -/
theorem value_lt {ds : List Char} (h : ∀ c ∈ ds, isDigit c = true) : value ds < 10 ^ ds.length := by
  induction ds using List.reverseRecOn with
  | nil => decide
  | append_singleton ds d ih =>
    rw [List.forall_mem_append, List.forall_mem_singleton] at h
    have hd : digitValue d < 10 := digitValue_lt h.2
    have hds := ih h.1
    rw [value_append_singleton, List.length_append, List.length_singleton, Nat.pow_succ]
    omega

/-! ### Whole numbers -/

/-- A numeral is written with digits and perhaps a sign. -/
theorem isDigit_or_eq_of_mem_signed {n : Int} {c : Char} (h : c ∈ signed n) :
    isDigit c = true ∨ c = '-' := by
  rw [signed] at h
  split at h
  · rcases List.mem_cons.mp h with rfl | h
    · exact Or.inr rfl
    · exact Or.inl (isDigit_of_mem_digits h)
  · exact Or.inl (isDigit_of_mem_digits h)

theorem toNat_of_mem_signed {n : Int} {c : Char} (h : c ∈ signed n) :
    45 ≤ c.toNat ∧ c.toNat < 128 := by
  rcases isDigit_or_eq_of_mem_signed h with hdigit | rfl
  · simp only [isDigit, Bool.and_eq_true, decide_eq_true_eq, Char.le_def,
      UInt32.le_iff_toNat_le] at hdigit
    have hleast : '0'.val.toNat = 48 := rfl
    have hmost : '9'.val.toNat = 57 := rfl
    have hc : c.toNat = c.val.toNat := rfl
    omega
  · decide

theorem text_ne_empty (n : Int) : text n ≠ "" := by
  rw [text, ne_eq, String.ofList_eq_empty_iff, signed]
  split
  · simp
  · exact digits_ne_nil _

/-! ### Reading -/

/-- A reader that may take so many digits stops behind a numeral: it has taken all that it may, or
what follows does not begin with a digit. -/
def StopsAt (most : Nat) (ds rest : List Char) : Prop :=
  ds.length = most ∨ ds.length ≤ most ∧ ∀ c ∈ rest.head?, isDigit c = false

theorem takeDigits_append {most : Nat} {ds rest : List Char} (hds : ∀ c ∈ ds, isDigit c = true)
    (h : StopsAt most ds rest) : takeDigits most (ds ++ rest) = (ds, rest) := by
  induction ds generalizing most with
  | nil =>
    cases most with
    | zero => simp [takeDigits]
    | succ most =>
      rcases h with hlength | ⟨-, hrest⟩
      · simp at hlength
      · cases rest with
        | nil => rfl
        | cons c rest =>
          have hc : isDigit c = false := hrest c rfl
          simp [takeDigits, hc]
  | cons d ds ih =>
    cases most with
    | zero => simp [StopsAt] at h
    | succ most =>
      rw [List.forall_mem_cons] at hds
      have htail : StopsAt most ds rest := by
        simpa [StopsAt] using h
      simp [takeDigits, hds.1, ih hds.2 htail]

/-- Only digits are taken, and no more than may be. -/
theorem takeDigits_spec (most : Nat) (cs : List Char) :
    (∀ c ∈ (takeDigits most cs).1, isDigit c = true) ∧ (takeDigits most cs).1.length ≤ most := by
  fun_induction takeDigits most cs with
  | case1 => simp
  | case2 => simp
  | case3 most c cs hc ds rest htake ih =>
    rw [htake] at ih
    refine ⟨List.forall_mem_cons.mpr ⟨hc, ih.1⟩, Nat.succ_le_succ ih.2⟩
  | case4 => simp

/-- A run of digits is read as the number that it stands for. -/
theorem number?_append {least most : Nat} {ds rest : List Char}
    (hds : ∀ c ∈ ds, isDigit c = true) (hleast : least ≤ ds.length) (h : StopsAt most ds rest) :
    number? least most (ds ++ rest) = some (value ds, rest) := by
  rw [number?, takeDigits_append hds h]
  exact if_neg (Nat.not_lt.mpr hleast)

/-- A number of a fixed width is read as it was written. -/
theorem number?_padded {least most width n : Nat} {rest : List Char} (hleast : least ≤ width)
    (hn : n < 10 ^ width) (h : StopsAt most (padded width n) rest) :
    number? least most (padded width n ++ rest) = some (n, rest) := by
  rw [number?_append (fun _ => isDigit_of_mem_padded) (by rwa [length_padded]) h, value_padded,
    Nat.mod_eq_of_lt hn]

/-- A number begins with a digit. -/
theorem exists_cons_of_number? {least most : Nat} {cs : List Char} {r : Nat × List Char}
    (hleast : 0 < least) (h : number? least most cs = some r) :
    ∃ c rest, cs = c :: rest ∧ isDigit c = true := by
  cases cs with
  | nil => cases most <;> simp [number?, takeDigits, hleast] at h
  | cons c cs =>
    refine ⟨c, cs, rfl, ?_⟩
    cases most with
    | zero => simp [number?, takeDigits, hleast] at h
    | succ most =>
      by_contra hdigit
      simp [number?, takeDigits, hdigit, hleast] at h

/-- A number with enough digits has enough for a reader that wants fewer. -/
theorem number?_of_le {least most fewer : Nat} {cs : List Char} {r : Nat × List Char}
    (hle : fewer ≤ least) (h : number? least most cs = some r) :
    number? fewer most cs = some r := by
  rw [number?] at h ⊢
  dsimp only at h ⊢
  split at h
  · simp at h
  · next henough => rwa [if_neg (Nat.not_lt.mpr (Nat.le_trans hle (Nat.not_lt.mp henough)))]

/-! ### Reading with a bound -/

theorem le_foldl_digitValue (ds : List Char) (n : Nat) :
    n ≤ ds.foldl (fun n c => 10 * n + digitValue c) n := by
  induction ds generalizing n with
  | nil => exact Nat.le_refl n
  | cons d ds ih => exact Nat.le_trans (by omega) (ih (10 * n + digitValue d))

/-- Digits that do not pass the bound are read as the number that they stand for. -/
theorem readDigits_of_le {bound : Nat} {overflow : NumeralError} {ds : List Char}
    (hds : ∀ c ∈ ds, isDigit c = true) {n : Nat}
    (h : ds.foldl (fun n c => 10 * n + digitValue c) n ≤ bound) :
    readDigits bound overflow n ds = .ok (ds.foldl (fun n c => 10 * n + digitValue c) n) := by
  induction ds generalizing n with
  | nil => rfl
  | cons d ds ih =>
    rw [List.forall_mem_cons] at hds
    have hnext : ¬ bound < 10 * n + digitValue d :=
      Nat.not_lt.mpr (Nat.le_trans (le_foldl_digitValue ds _) h)
    rw [readDigits, if_pos hds.1]
    dsimp only
    rw [if_neg hnext]
    exact ih hds.2 h

/-- What is read does not pass the bound. -/
theorem le_of_readDigits {bound : Nat} {overflow : NumeralError} {cs : List Char} {n m : Nat}
    (hn : n ≤ bound) (h : readDigits bound overflow n cs = .ok m) : m ≤ bound := by
  induction cs generalizing n with
  | nil =>
    obtain rfl := Except.ok.inj h
    exact hn
  | cons c cs ih =>
    rw [readDigits] at h
    split at h
    · dsimp only at h
      split at h
      · simp at h
      · next hnext => exact ih (Nat.not_lt.mp hnext) h
    · simp at h

theorem readDigits_digits {bound n : Nat} {overflow : NumeralError} (h : n ≤ bound) :
    readDigits bound overflow 0 (digits n) = .ok n := by
  have hvalue : (digits n).foldl (fun n c => 10 * n + digitValue c) 0 = n := value_digits n
  rw [readDigits_of_le (fun _ => isDigit_of_mem_digits) (by rwa [hvalue]), hvalue]

/-- A numeral is read as the number that it was written for, if that lies within the bounds. -/
theorem readInt_signed {bound : Nat} {n : Int} (hleast : -(bound : Int) - 1 ≤ n)
    (hmost : n ≤ bound) : readInt bound (signed n) = .ok n := by
  have hnonempty := digits_ne_nil n.natAbs
  rw [signed]
  split
  · next hneg =>
    have hread : readDigits (bound + 1) .tooSmall 0 (digits n.natAbs) = .ok n.natAbs :=
      readDigits_digits (by omega)
    have hvalue : -Int.ofNat n.natAbs = n := by
      rw [Int.ofNat_eq_natCast]
      omega
    rw [readInt, hread]
    · exact congrArg Except.ok hvalue
    · exact hnonempty
  · next hnonneg =>
    have hread : readDigits bound .tooLarge 0 (digits n.natAbs) = .ok n.natAbs :=
      readDigits_digits (by omega)
    have hvalue : Int.ofNat n.natAbs = n := by
      rw [Int.ofNat_eq_natCast]
      omega
    -- A digit is no sign.
    have hsign : ∀ c ∈ digits n.natAbs, c ≠ '+' ∧ c ≠ '-' := by
      intro c hc
      have hdigit := isDigit_of_mem_digits hc
      constructor <;> rintro rfl <;> simp [isDigit] at hdigit
    rw [readInt, hread]
    · exact congrArg Except.ok hvalue
    all_goals grind

/-- A number that is read lies within the bounds. -/
theorem bounds_of_readInt {bound : Nat} {cs : List Char} {n : Int}
    (h : readInt bound cs = .ok n) : -(bound : Int) - 1 ≤ n ∧ n ≤ bound := by
  have hplus {cs : List Char} {n : Int}
      (h : Int.ofNat <$> readDigits bound .tooLarge 0 cs = .ok n) :
      -(bound : Int) - 1 ≤ n ∧ n ≤ bound := by
    cases hread : readDigits bound .tooLarge 0 cs with
    | error err => simp [hread] at h
    | ok m =>
      rw [hread] at h
      have hn : Int.ofNat m = n := Except.ok.inj h
      have hm := le_of_readDigits (Nat.zero_le bound) hread
      rw [← hn, Int.ofNat_eq_natCast]
      omega
  rw [readInt.eq_def] at h
  split at h
  · simp at h
  · simp at h
  · simp at h
  · exact hplus h
  · next cs _ =>
    cases hread : readDigits (bound + 1) .tooSmall 0 cs with
    | error err => simp [hread] at h
    | ok m =>
      rw [hread] at h
      have hn : -Int.ofNat m = n := Except.ok.inj h
      have hm := le_of_readDigits (Nat.zero_le _) hread
      rw [← hn, Int.ofNat_eq_natCast]
      omega
  · exact hplus h

end Datebook.Numeral
