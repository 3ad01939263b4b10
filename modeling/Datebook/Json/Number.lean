import Datebook.Attempt
import Datebook.Json.Basic
import Datebook.Rounding

/-!
# JSON numbers

A number is a sign, a whole part without leading zeros, and perhaps a fraction and an
exponent. Only a number without fraction and exponent is a whole number, and only one that
is not minus zero. A number that no binary floating-point number of 64 bits can hold is
malformed, whatever was asked for; a number that is passed over may have any size.

## Main definitions

* `Datebook.Json.readNumber`: a number, a whole one where it is written as one
* `Datebook.Json.readInteger`: a whole number of 64 bits
* `Datebook.Json.skipNumber`: passing over a number
-/

namespace Datebook.Json

/-- The number that a run of digits stands for. -/
def digitsValue (ds : Bytes) : Nat :=
  ds.foldl (fun n d => 10 * n + (d.toNat - 48)) 0

/-- The digits that stand for at most the largest 64-bit word, as many as there are. -/
def leadingWord : Nat → Bytes → Nat × Bytes
  | n, [] => (n, [])
  | n, d :: ds =>
    let next := 10 * n + (d.toNat - 48)
    if next < 18446744073709551616 then leadingWord next ds else (n, d :: ds)

/-- The value of a decimal numeral passes what a floating-point number can hold. The
leading digits that fit a word are rounded once, and once more after they were multiplied by
the power of ten, which is rounded too. -/
def exceedsFloat (whole fraction : Bytes) (exponent : Int) : Bool :=
  let (leading, dropped) := leadingWord 0 (whole ++ fraction)
  let scale := exponent + dropped.length - fraction.length
  if leading = 0 ∨ scale ≤ 0 then false
  else 308 < scale || floatBound ≤ leading53 leading * leading53 (Nat.pow 10 scale.toNat)

/-- One digit or more, and what follows them. -/
def readDigits (bs : Bytes) : Except ReadError (Bytes × Bytes) :=
  if bs = [] then .error .truncated
  else if bs.takeWhile isDigit = [] then .error .malformed
  else .ok (bs.takeWhile isDigit, bs.dropWhile isDigit)

/-- A run of digits that is no whole part, because a zero begins it and does not end it. -/
def hasLeadingZero (ds : Bytes) : Bool :=
  ds.head? == some (byte '0') && ds.length != 1

/-- The whole part of a number: a zero, or digits that do not begin with one. -/
def readWhole (bs : Bytes) : Except ReadError (Bytes × Bytes) := do
  let (ds, rest) ← readDigits bs
  if hasLeadingZero ds then .error .malformed else .ok (ds, rest)

/-- The fraction of a number: its digits after the point, if there is one. -/
def readFraction : Bytes → Except ReadError (Option Bytes × Bytes)
  | [] => .ok (none, [])
  | b :: bs =>
    if b = byte '.' then do
      let (ds, rest) ← readDigits bs
      .ok (some ds, rest)
    else .ok (none, b :: bs)

/-- The sign at the head of an exponent: `true` is minus. -/
def exponentSign : Bytes → Bool × Bytes
  | [] => (false, [])
  | b :: bs =>
    if b = byte '-' then (true, bs) else if b = byte '+' then (false, bs) else (false, b :: bs)

/-- The exponent of a number, if there is one. -/
def readExponent : Bytes → Except ReadError (Option Int × Bytes)
  | [] => .ok (none, [])
  | b :: bs =>
    if b = byte 'e' ∨ b = byte 'E' then do
      let (negative, bs) := exponentSign bs
      let (ds, rest) ← readDigits bs
      let size := Int.ofNat (digitsValue ds)
      .ok (some (if negative then -size else size), rest)
    else .ok (none, b :: bs)

/-- A number after its sign: its whole part, where it is written as a whole number. -/
def readUnsigned (bs : Bytes) : Except ReadError (Option Nat × Bytes) := do
  let (whole, bs) ← readWhole bs
  let (fraction, bs) ← readFraction bs
  let (exponent, bs) ← readExponent bs
  if exceedsFloat whole (fraction.getD []) (exponent.getD 0) then .error .malformed
  else if fraction.isNone && exponent.isNone then .ok (some (digitsValue whole), bs)
  else .ok (none, bs)

/-- A number: its value, where it is written as a whole number other than minus zero. -/
def readNumber (bs : Bytes) : Except ReadError (Option Int × Bytes) :=
  match bs with
  | [] => .error .truncated
  | b :: rest =>
    if b = byte '-' then do
      let (n, rest) ← readUnsigned rest
      .ok (n.bind fun n => if n = 0 then none else some (-Int.ofNat n), rest)
    else do
      let (n, rest) ← readUnsigned (b :: rest)
      .ok (n.map Int.ofNat, rest)

/-- A number begins with this byte. -/
def startsNumber (b : UInt8) : Bool :=
  b == byte '-' || isDigit b

/-- Whole numbers from -2⁶³ to 2⁶³ - 1. -/
def inWord (n : Int) : Bool :=
  -9223372036854775808 ≤ n && n ≤ 9223372036854775807

/-- A whole number of 64 bits at the head of a text that begins with a number. -/
def readInteger (bs : Bytes) : Except ReadError (Int × Bytes) := do
  match ← readNumber bs with
  | (some n, rest) => if inWord n then .ok (n, rest) else .error .mismatch
  | (none, _) => .error .mismatch

/-! ### Passing over a number

Here a text that ends where a digit is needed is malformed like any other. -/

/-- What follows one digit or more. -/
def skipDigits (bs : Bytes) : Except ReadError Bytes :=
  if bs.takeWhile isDigit = [] then .error .malformed else .ok (bs.dropWhile isDigit)

/-- What follows the whole part of a number. -/
def skipWhole (bs : Bytes) : Except ReadError Bytes :=
  if hasLeadingZero (bs.takeWhile isDigit) then .error .malformed else skipDigits bs

/-- What follows the fraction of a number, if there is one. -/
def skipFraction : Bytes → Except ReadError Bytes
  | [] => .ok []
  | b :: bs => if b = byte '.' then skipDigits bs else .ok (b :: bs)

/-- What follows the exponent of a number, if there is one. -/
def skipExponent : Bytes → Except ReadError Bytes
  | [] => .ok []
  | b :: bs =>
    if b = byte 'e' ∨ b = byte 'E' then skipDigits (exponentSign bs).2 else .ok (b :: bs)

/-- What follows the sign of a number, if there is one. -/
def skipSign : Bytes → Bytes
  | [] => []
  | b :: bs => if b = byte '-' then bs else b :: bs

/-- What follows a number. -/
def skipNumber (bs : Bytes) : Except ReadError Bytes := do
  skipExponent (← skipFraction (← skipWhole (skipSign bs)))

/-! ### What is left of the text -/

theorem length_dropWhile_lt {bs : Bytes} (h : bs.takeWhile isDigit ≠ []) :
    (bs.dropWhile isDigit).length < bs.length := by
  have split := congrArg List.length (List.takeWhile_append_dropWhile (p := isDigit) (l := bs))
  rw [List.length_append] at split
  have := List.length_pos_iff.2 h
  omega

theorem readDigits_length_lt {bs ds rest : Bytes} (h : readDigits bs = .ok (ds, rest)) :
    rest.length < bs.length := by
  unfold readDigits at h
  split at h
  · simp at h
  · split at h
    · simp at h
    · next hd =>
      simp only [Except.ok.injEq, Prod.mk.injEq] at h
      exact h.2 ▸ length_dropWhile_lt hd

theorem readWhole_length_lt {bs ds rest : Bytes} (h : readWhole bs = .ok (ds, rest)) :
    rest.length < bs.length := by
  obtain ⟨⟨ds', rest'⟩, hd, h⟩ := bind_eq_ok_iff.mp h
  dsimp only at h
  split at h
  · simp at h
  · exact snd_eq_of_ok h ▸ readDigits_length_lt hd

theorem readFraction_length_le {bs rest : Bytes} {ds : Option Bytes}
    (h : readFraction bs = .ok (ds, rest)) : rest.length ≤ bs.length := by
  match bs with
  | [] => exact snd_eq_of_ok h ▸ Nat.le_refl _
  | b :: bs =>
    simp only [readFraction] at h
    split at h
    · obtain ⟨⟨ds', rest'⟩, hd, h⟩ := bind_eq_ok_iff.mp h
      have := readDigits_length_lt hd
      obtain rfl := snd_eq_of_ok h
      exact Nat.le_succ_of_le (Nat.le_of_lt this)
    · exact snd_eq_of_ok h ▸ Nat.le_refl _

theorem length_exponentSign_le (bs : Bytes) : (exponentSign bs).2.length ≤ bs.length := by
  unfold exponentSign
  split
  · simp
  · split
    · simp
    · split <;> simp

theorem readExponent_length_le {bs rest : Bytes} {e : Option Int}
    (h : readExponent bs = .ok (e, rest)) : rest.length ≤ bs.length := by
  match bs with
  | [] => exact snd_eq_of_ok h ▸ Nat.le_refl _
  | b :: bs =>
    simp only [readExponent] at h
    split at h
    · obtain ⟨⟨ds', rest'⟩, hd, h⟩ := bind_eq_ok_iff.mp h
      have := readDigits_length_lt hd
      have := length_exponentSign_le bs
      obtain rfl := snd_eq_of_ok h
      simp only [List.length_cons]
      omega
    · exact snd_eq_of_ok h ▸ Nat.le_refl _

theorem readUnsigned_length_lt {bs rest : Bytes} {n : Option Nat}
    (h : readUnsigned bs = .ok (n, rest)) : rest.length < bs.length := by
  obtain ⟨⟨ds, r₁⟩, h₁, h⟩ := bind_eq_ok_iff.mp h
  obtain ⟨⟨fraction, r₂⟩, h₂, h⟩ := bind_eq_ok_iff.mp h
  obtain ⟨⟨exponent, r₃⟩, h₃, h⟩ := bind_eq_ok_iff.mp h
  have := readWhole_length_lt h₁
  have := readFraction_length_le h₂
  have := readExponent_length_le h₃
  have : r₃ = rest := by
    dsimp only at h
    split at h
    · simp at h
    · split at h <;> exact snd_eq_of_ok h
  subst this
  omega

theorem readNumber_length_lt {bs rest : Bytes} {n : Option Int}
    (h : readNumber bs = .ok (n, rest)) : rest.length < bs.length := by
  match bs with
  | [] => simp [readNumber] at h
  | b :: bs =>
    simp only [readNumber] at h
    split at h
    · obtain ⟨⟨m, r⟩, hm, h⟩ := bind_eq_ok_iff.mp h
      obtain rfl := snd_eq_of_ok h
      exact Nat.lt_succ_of_lt (readUnsigned_length_lt hm)
    · obtain ⟨⟨m, r⟩, hm, h⟩ := bind_eq_ok_iff.mp h
      obtain rfl := snd_eq_of_ok h
      exact readUnsigned_length_lt hm

theorem readInteger_length_lt {bs rest : Bytes} {n : Int}
    (h : readInteger bs = .ok (n, rest)) : rest.length < bs.length := by
  obtain ⟨⟨m, r⟩, hm, h⟩ := bind_eq_ok_iff.mp h
  match m with
  | none => simp at h
  | some m =>
    simp only at h
    split at h
    · exact snd_eq_of_ok h ▸ readNumber_length_lt hm
    · simp at h

theorem skipDigits_length_lt {bs rest : Bytes} (h : skipDigits bs = .ok rest) :
    rest.length < bs.length := by
  unfold skipDigits at h
  split at h
  · simp at h
  · next hd => exact Except.ok.inj h ▸ length_dropWhile_lt hd

theorem length_skipSign_le (bs : Bytes) : (skipSign bs).length ≤ bs.length := by
  unfold skipSign
  split
  · simp
  · split <;> simp

theorem skipWhole_length_lt {bs rest : Bytes} (h : skipWhole bs = .ok rest) :
    rest.length < bs.length := by
  unfold skipWhole at h
  split at h
  · simp at h
  · exact skipDigits_length_lt h

theorem skipFraction_length_le {bs rest : Bytes} (h : skipFraction bs = .ok rest) :
    rest.length ≤ bs.length := by
  match bs with
  | [] => exact Except.ok.inj h ▸ Nat.le_refl _
  | b :: bs =>
    simp only [skipFraction] at h
    split at h
    · exact Nat.le_succ_of_le (Nat.le_of_lt (skipDigits_length_lt h))
    · exact Except.ok.inj h ▸ Nat.le_refl _

theorem skipExponent_length_le {bs rest : Bytes} (h : skipExponent bs = .ok rest) :
    rest.length ≤ bs.length := by
  match bs with
  | [] => exact Except.ok.inj h ▸ Nat.le_refl _
  | b :: bs =>
    simp only [skipExponent] at h
    split at h
    · have := skipDigits_length_lt h
      have := length_exponentSign_le bs
      simp only [List.length_cons]
      omega
    · exact Except.ok.inj h ▸ Nat.le_refl _

theorem skipNumber_length_lt {bs rest : Bytes} (h : skipNumber bs = .ok rest) :
    rest.length < bs.length := by
  obtain ⟨r₁, h₁, h⟩ := bind_eq_ok_iff.mp h
  obtain ⟨r₂, h₂, h⟩ := bind_eq_ok_iff.mp h
  have := length_skipSign_le bs
  have := skipWhole_length_lt h₁
  have := skipFraction_length_le h₂
  have := skipExponent_length_le h
  omega

end Datebook.Json
