import Datebook.Text.Numeral

/-!
# Reading UTF-8

Bytes are read as UTF-8 one at a time. Where they stop being the beginning of a character, a
lenient reader lets the replacement character U+FFFD take the place of those read so far and
goes on with the byte that did not fit; a strict one reports where the character began.

## Main definitions

* `Datebook.Text.lenientUtf8`
* `Datebook.Text.Utf8Error`, `Datebook.Text.utf8Error?`: the first place that is not UTF-8
-/

namespace Datebook.Text

/-- The replacement character. -/
def replacement : Char :=
  '\ufffd'

/-- A character that has begun: the bits read so far, the range of the next byte, and how
many bytes follow after that one. -/
structure OpenChar where
  bits : Nat
  least : UInt8
  most : UInt8
  more : Nat

/-- What a byte begins: a character of its own, a character of several bytes, or nothing. -/
def beginChar (b : UInt8) : Option (Char ⊕ OpenChar) :=
  let n := b.toNat
  if n < 0x80 then some (.inl (Char.ofNat n))
  else if n < 0xC2 then none
  else if n < 0xE0 then some (.inr ⟨n - 0xC0, 0x80, 0xBF, 0⟩)
  else if n = 0xE0 then some (.inr ⟨0, 0xA0, 0xBF, 1⟩)
  else if n = 0xED then some (.inr ⟨0xD, 0x80, 0x9F, 1⟩)
  else if n < 0xF0 then some (.inr ⟨n - 0xE0, 0x80, 0xBF, 1⟩)
  else if n = 0xF0 then some (.inr ⟨0, 0x90, 0xBF, 2⟩)
  else if n < 0xF4 then some (.inr ⟨n - 0xF0, 0x80, 0xBF, 2⟩)
  else if n = 0xF4 then some (.inr ⟨4, 0x80, 0x8F, 2⟩)
  else none

/-! ### Reading leniently -/

/-- The characters of the bytes after those of a character that has begun. -/
def lenientFrom : Option OpenChar → List UInt8 → List Char
  | none, [] => []
  | some _, [] => [replacement]
  | some o, b :: bs =>
    if o.least ≤ b ∧ b ≤ o.most then
      let bits := o.bits * 64 + (b.toNat - 0x80)
      match o.more with
      | 0 => Char.ofNat bits :: lenientFrom none bs
      | more + 1 => lenientFrom (some ⟨bits, 0x80, 0xBF, more⟩) bs
    else replacement :: match beginChar b with
      | some (.inl c) => c :: lenientFrom none bs
      | some (.inr o) => lenientFrom (some o) bs
      | none => replacement :: lenientFrom none bs
  | none, b :: bs =>
    match beginChar b with
    | some (.inl c) => c :: lenientFrom none bs
    | some (.inr o) => lenientFrom (some o) bs
    | none => replacement :: lenientFrom none bs

/-- The text of bytes, with the replacement character where they are not UTF-8. -/
def lenientUtf8 (bs : List UInt8) : String :=
  String.ofList (lenientFrom none bs)

/-! ### Reading strictly -/

/-- The first place where bytes stop being UTF-8, by the number of bytes before it. -/
inductive Utf8Error where
  /-- So many bytes begin a character, and the next does not go on with it. -/
  | invalid (place length : Nat)
  /-- The bytes end within a character. -/
  | incomplete (place : Nat)
  deriving DecidableEq, Repr

/-- The wording of an error. -/
def Utf8Error.message : Utf8Error → String
  | .invalid place length =>
    "invalid utf-8 sequence of " ++ Numeral.text length ++ " bytes from index " ++
      Numeral.text place
  | .incomplete place => "incomplete utf-8 byte sequence from index " ++ Numeral.text place

/-- The first place that is not UTF-8, from a character on that begins at a place and of
which so many bytes were read. -/
def utf8ErrorFrom? : (place read : Nat) → Option OpenChar → List UInt8 → Option Utf8Error
  | _, _, none, [] => none
  | place, _, some _, [] => some (.incomplete place)
  | place, read, some o, b :: bs =>
    if o.least ≤ b ∧ b ≤ o.most then
      match o.more with
      | 0 => utf8ErrorFrom? (place + read + 1) 0 none bs
      | more + 1 =>
        let bits := o.bits * 64 + (b.toNat - 0x80)
        utf8ErrorFrom? place (read + 1) (some ⟨bits, 0x80, 0xBF, more⟩) bs
    else some (.invalid place read)
  | place, _, none, b :: bs =>
    match beginChar b with
    | some (.inl _) => utf8ErrorFrom? (place + 1) 0 none bs
    | some (.inr o) => utf8ErrorFrom? place 1 (some o) bs
    | none => some (.invalid place 1)

/-- The first place where bytes are not UTF-8, if there is one. -/
def utf8Error? (bs : List UInt8) : Option Utf8Error :=
  utf8ErrorFrom? 0 0 none bs

end Datebook.Text
