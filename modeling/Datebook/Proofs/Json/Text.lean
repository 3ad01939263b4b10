import Datebook.Proofs.Json.Number

/-!
# Reading back a string

Between its quotation marks a string is written character by character, and what is written for a
character adds the bytes of that character to those read. A character that stands for itself is at
least a space and neither a quotation mark nor a backslash, and the bytes of a character outside
ASCII all lie above these. All characters that are escaped are ASCII characters.

## Main results

* `Datebook.Json.readStringFrom_quoteChar`: what is written for one character.
* `Datebook.Json.readString_flatMap_quoteChar`
-/

namespace Datebook.Json

/-! ### Text from its bytes -/

/-- The bytes of characters stand for these characters. -/
theorem textOf?_bytesOfChars (cs : List Char) :
    textOf? (bytesOfChars cs) = some (String.ofList cs) := by
  have hencode : (⟨(bytesOfChars cs).toArray⟩ : ByteArray) = cs.utf8Encode := by
    apply ByteArray.ext
    simp [List.utf8Encode, bytesOfChars]
  rw [textOf?, hencode, String.fromUTF8?, dif_pos ByteArray.isValidUTF8_utf8Encode]
  rfl

/-- All bytes of a character outside ASCII lie outside ASCII. -/
theorem le_toNat_of_mem_utf8EncodeChar {c : Char} (h : 128 ≤ c.toNat) {b : UInt8}
    (hb : b ∈ String.utf8EncodeChar c) : 128 ≤ b.toNat := by
  have hc : c.toNat = c.val.toNat := rfl
  revert hb
  fun_cases String.utf8EncodeChar <;>
    simp only [List.mem_cons, List.not_mem_nil, or_false]
  · omega
  · rintro (rfl | rfl) <;> simp only [UInt8.toNat_ofNat'] <;> omega
  · rintro (rfl | rfl | rfl) <;> simp only [UInt8.toNat_ofNat'] <;> omega
  · rintro (rfl | rfl | rfl | rfl) <;> simp only [UInt8.toNat_ofNat'] <;> omega

theorem toNat_byte {c : Char} (h : c.toNat < 128) : (byte c).toNat = c.toNat := by
  rw [byte, Char.toUInt8, UInt32.toNat_toUInt8]
  exact Nat.mod_eq_of_lt (Nat.lt_trans h (by decide))

theorem utf8EncodeChar_eq_byte {c : Char} (h : c.toNat < 128) :
    String.utf8EncodeChar c = [byte c] := by
  simpa [bytesOfChars] using bytesOfChars_cons h []

/-! ### Strings -/

/-- The byte stands for itself in a string. -/
def StandsForItself (b : UInt8) : Prop :=
  b ≠ byte '"' ∧ b ≠ byte '\\' ∧ ¬ b < 0x20

/-- Bytes that stand for themselves are added to those read. -/
theorem readStringFrom_append {bs : Bytes} (h : ∀ b ∈ bs, StandsForItself b) (read rest : Bytes) :
    readStringFrom .plain read (bs ++ rest) = readStringFrom .plain (bs.reverse ++ read) rest := by
  induction bs generalizing read with
  | nil => rfl
  | cons b bs ih =>
    rw [List.forall_mem_cons] at h
    obtain ⟨⟨hquote, hbackslash, hspace⟩, hbs⟩ := h
    rw [List.cons_append, readStringFrom, if_neg hquote, if_neg hbackslash, if_neg hspace, ih hbs,
      List.reverse_cons, List.append_assoc, List.singleton_append]

/-- A character that is neither escaped nor a control character stands for itself. -/
theorem standsForItself_of_mem {c : Char} (hquote : c ≠ '"') (hbackslash : c ≠ '\\')
    (hspace : 32 ≤ c.toNat) {b : UInt8} (hb : b ∈ String.utf8EncodeChar c) :
    StandsForItself b := by
  -- The byte has the number of the character, or one outside ASCII.
  have hnumber : b.toNat = c.toNat ∨ 128 ≤ b.toNat := by
    by_cases hascii : c.toNat < 128
    · rw [utf8EncodeChar_eq_byte hascii, List.mem_singleton] at hb
      exact Or.inl (hb ▸ toNat_byte hascii)
    · exact Or.inr (le_toNat_of_mem_utf8EncodeChar (Nat.not_lt.mp hascii) hb)
  have hne {d : Char} (hd : d.toNat < 128) (hcd : c ≠ d) : b ≠ byte d := by
    rintro rfl
    rw [toNat_byte hd] at hnumber
    rcases hnumber with h | h
    · exact hcd (Char.toNat_inj.mp h.symm)
    · omega
  refine ⟨hne (by decide) hquote, hne (by decide) hbackslash, ?_⟩
  have hleast : (0x20 : UInt8).toNat = 32 := rfl
  rw [UInt8.not_lt, UInt8.le_iff_toNat_le]
  omega

/-- The hexadecimal digits of a control character stand for its number. -/
theorem hexValue?_control : ∀ n < 32,
    hexValue? [byte '0', byte '0', byte (hexChar (n / 16)), byte (hexChar (n % 16))] = some n := by
  decide

theorem toNat_hexChar_lt : ∀ n < 16, (hexChar n).toNat < 128 := by decide

/-- A control character without a short escape is read from its four hexadecimal digits. -/
theorem readStringFrom_control {c : Char} (h : c.toNat < 32) (read rest : Bytes) :
    readStringFrom .plain read (bytesOfChars
        ['\\', 'u', '0', '0', hexChar (c.toNat / 16), hexChar (c.toNat % 16)] ++ rest) =
      readStringFrom .plain ((String.utf8EncodeChar c).reverse ++ read) rest := by
  have hhigh := toNat_hexChar_lt (c.toNat / 16) (by omega)
  have hlow := toNat_hexChar_lt (c.toNat % 16) (by omega)
  iterate 4 rw [bytesOfChars_cons (by decide)]
  rw [bytesOfChars_cons hhigh, bytesOfChars_cons hlow]
  have hvalue := hexValue?_control c.toNat h
  have hnoLow : isLowSurrogate c.toNat = false := by
    simp only [isLowSurrogate, Bool.and_eq_false_iff, decide_eq_false_iff_not]
    omega
  have hnoHigh : isHighSurrogate c.toNat = false := by
    simp only [isHighSurrogate, Bool.and_eq_false_iff, decide_eq_false_iff_not]
    omega
  have hescape : readStringFrom .plain read (byte '\\' :: byte 'u' :: byte '0' :: byte '0' ::
      byte (hexChar (c.toNat / 16)) :: byte (hexChar (c.toNat % 16)) :: rest) =
        readStringFrom (.unicode none
          [byte '0', byte '0', byte (hexChar (c.toNat / 16))]) read
          (byte (hexChar (c.toNat % 16)) :: rest) := rfl
  simp only [bytesOfChars, List.flatMap_nil, List.cons_append, List.nil_append]
  rw [hescape, readStringFrom.eq_def]
  simp only [List.cons_append, List.nil_append, hvalue, hnoLow, hnoHigh, pushChar, Char.ofNat_toNat]
  rfl

/-- A character with a short escape is read from its letter. -/
theorem readStringFrom_shortEscape {c letter : Char} (hletter : letter.toNat < 128)
    (hu : byte letter ≠ byte 'u') (hescape : shortEscape? (byte letter) = some (byte c))
    (hc : c.toNat < 128) (read rest : Bytes) :
    readStringFrom .plain read (bytesOfChars ['\\', letter] ++ rest) =
      readStringFrom .plain ((String.utf8EncodeChar c).reverse ++ read) rest := by
  rw [bytesOfChars_cons (by decide), bytesOfChars_cons hletter, utf8EncodeChar_eq_byte hc]
  simp only [bytesOfChars, List.flatMap_nil, List.cons_append, List.nil_append]
  rw [readStringFrom, if_neg (by decide), if_pos rfl, readStringFrom, if_neg hu, hescape]
  rfl

/-- What is written for a character adds its bytes to those read. -/
theorem readStringFrom_quoteChar (c : Char) (read rest : Bytes) :
    readStringFrom .plain read (bytesOfChars (quoteChar c) ++ rest) =
      readStringFrom .plain ((String.utf8EncodeChar c).reverse ++ read) rest := by
  rw [quoteChar]
  split
  · next h =>
    subst h
    exact readStringFrom_shortEscape (by decide) (by decide) rfl (by decide) read rest
  split
  · next h =>
    subst h
    exact readStringFrom_shortEscape (by decide) (by decide) rfl (by decide) read rest
  split
  · next h =>
    obtain rfl : c = Char.ofNat 8 := Char.toNat_inj.mp h
    exact readStringFrom_shortEscape (by decide) (by decide) rfl (by decide) read rest
  split
  · next h =>
    obtain rfl : c = Char.ofNat 12 := Char.toNat_inj.mp h
    exact readStringFrom_shortEscape (by decide) (by decide) rfl (by decide) read rest
  split
  · next h =>
    subst h
    exact readStringFrom_shortEscape (by decide) (by decide) rfl (by decide) read rest
  split
  · next h =>
    subst h
    exact readStringFrom_shortEscape (by decide) (by decide) rfl (by decide) read rest
  split
  · next h =>
    subst h
    exact readStringFrom_shortEscape (by decide) (by decide) rfl (by decide) read rest
  split
  · next h => exact readStringFrom_control h read rest
  · next hquote hbackslash _ _ _ _ _ hspace =>
    have hself : bytesOfChars [c] = String.utf8EncodeChar c := by simp [bytesOfChars]
    rw [hself]
    exact readStringFrom_append
      (fun _ => standsForItself_of_mem hquote hbackslash (Nat.not_lt.mp hspace)) read rest

/-- What is written for characters adds their bytes to those read. -/
theorem readStringFrom_flatMap_quoteChar (cs : List Char) (read rest : Bytes) :
    readStringFrom .plain read (bytesOfChars (cs.flatMap quoteChar) ++ rest) =
      readStringFrom .plain ((bytesOfChars cs).reverse ++ read) rest := by
  induction cs generalizing read with
  | nil => rfl
  | cons c cs ih =>
    rw [List.flatMap_cons, bytesOfChars_append, List.append_assoc, readStringFrom_quoteChar, ih,
      bytesOfChars, bytesOfChars, List.flatMap_cons, List.reverse_append, List.append_assoc]

/-- **A string is read as it was written.** -/
theorem readString_flatMap_quoteChar (cs : List Char) (rest : Bytes) :
    readString (bytesOfChars (cs.flatMap quoteChar) ++ byte '"' :: rest) =
      .ok (String.ofList cs, rest) := by
  rw [readString, readStringFrom_flatMap_quoteChar, List.append_nil, readStringFrom, if_pos rfl,
    List.reverse_reverse, textOf?_bytesOfChars]

/-- The written form of a string, as its bytes. -/
theorem bytesOfChars_quoteChars (cs : List Char) :
    bytesOfChars (quoteChars cs) =
      byte '"' :: (bytesOfChars (cs.flatMap quoteChar) ++ [byte '"']) := by
  rw [quoteChars, List.cons_append, bytesOfChars_cons (by decide), bytesOfChars_append,
    bytesOfChars_cons (by decide)]
  rfl

end Datebook.Json
