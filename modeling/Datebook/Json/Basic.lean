/-!
# Reading JSON from bytes

JSON text is read once, from left to right, and reading stops at the first problem. A
problem is one of three: the text is malformed, it ends too early, or it is well formed so
far and holds something other than what was asked for.

## Main definitions

* `Datebook.Json.Bytes`, `Datebook.Json.ReadError`
* `Datebook.Json.skipSpace`: white space between tokens
* `Datebook.Json.expectWord`: the rest of `null`, `true` or `false`
-/

namespace Datebook.Json

/-- A text as its bytes. -/
abbrev Bytes := List UInt8

/-- The bytes of a text in UTF-8. -/
def bytesOf (s : String) : Bytes :=
  s.toUTF8.data.toList

/-- The text that the bytes stand for in UTF-8, where they stand for one. -/
def textOf? (bs : Bytes) : Option String :=
  String.fromUTF8? ⟨bs.toArray⟩

/-- The first problem of a text. -/
inductive ReadError where
  /-- The text is no JSON. -/
  | malformed
  /-- The text ends where more of it is needed. -/
  | truncated
  /-- The text holds something other than what was asked for. -/
  | mismatch
  deriving DecidableEq, Repr

/-- The usual name of a problem's category. -/
def ReadError.category : ReadError → String
  | .malformed => "Syntax"
  | .truncated => "Eof"
  | .mismatch => "Data"

/-- The byte of an ASCII character. -/
def byte (c : Char) : UInt8 :=
  c.toUInt8

/-- Space, tab, line feed or carriage return. -/
def isSpace (b : UInt8) : Bool :=
  b == byte ' ' || b == byte '\t' || b == byte '\n' || b == byte '\r'

/-- The rest of a text after the white space it begins with. -/
def skipSpace (bs : Bytes) : Bytes :=
  bs.dropWhile isSpace

/-- One of the ten ASCII digits. -/
def isDigit (b : UInt8) : Bool :=
  byte '0' ≤ b && b ≤ byte '9'

/-- The value of a hexadecimal digit of either case. -/
def hexDigit? (b : UInt8) : Option Nat :=
  if isDigit b then some (b.toNat - 48)
  else if byte 'a' ≤ b && b ≤ byte 'f' then some (b.toNat - 87)
  else if byte 'A' ≤ b && b ≤ byte 'F' then some (b.toNat - 55)
  else none

/-- The value of a run of hexadecimal digits. -/
def hexValue? (bs : Bytes) : Option Nat :=
  bs.foldl (fun n b => do some (16 * (← n) + (← hexDigit? b))) (some 0)

/-- The rest of a text after the given bytes. -/
def expectWord : Bytes → Bytes → Except ReadError Bytes
  | [], bs => .ok bs
  | _ :: _, [] => .error .truncated
  | w :: word, b :: bs => if b = w then expectWord word bs else .error .malformed

/-! ### What is left of the text -/

theorem length_skipSpace_le (bs : Bytes) : (skipSpace bs).length ≤ bs.length :=
  (List.dropWhile_sublist _).length_le

theorem expectWord_length_le {word bs rest : Bytes} (h : expectWord word bs = .ok rest) :
    rest.length ≤ bs.length := by
  induction word generalizing bs with
  | nil => exact Nat.le_of_eq (congrArg List.length (Except.ok.inj h).symm)
  | cons w word ih =>
    match bs with
    | [] => simp [expectWord] at h
    | b :: bs =>
      simp only [expectWord] at h
      split at h
      · exact Nat.le_succ_of_le (ih h)
      · simp at h

end Datebook.Json
