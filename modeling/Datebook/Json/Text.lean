import Datebook.Json.Basic

/-!
# JSON strings

A string is read byte by byte, with a state that says what the next byte belongs to. The
bytes between the quotation marks have to be UTF-8; an escaped character outside the basic
plane comes as a pair of surrogates, and a surrogate outside a pair is refused. Skipping a
string asks for less: any bytes will do, and escaped surrogates need no partner.

A string is written with the short escapes where there is one, with four hexadecimal digits
for the other control characters, and with all else as it is.

## Main definitions

* `Datebook.Json.readString`: the string whose opening quotation mark has been read
* `Datebook.Json.skipString`: passing over such a string
* `Datebook.Json.quote`: the written form of a string
-/

namespace Datebook.Json

/-! ### Reading -/

/-- What the next byte of a string belongs to. -/
inductive StringState where
  /-- The text itself. -/
  | plain
  /-- An escape, whose backslash has been read. -/
  | escape
  /-- Four hexadecimal digits, of which some have been read, after the first half of a pair
  or on their own. -/
  | unicode (high : Option Nat) (seen : Bytes)
  /-- The backslash of the second half of a pair. -/
  | lowMark (high : Nat)
  /-- The letter of the second half of a pair. -/
  | lowLetter (high : Nat)

/-- The byte that an escape of one letter stands for. -/
def shortEscape? (b : UInt8) : Option UInt8 :=
  if b = byte '"' ∨ b = byte '\\' ∨ b = byte '/' then some b
  else if b = byte 'b' then some 8
  else if b = byte 'f' then some 12
  else if b = byte 'n' then some 10
  else if b = byte 'r' then some 13
  else if b = byte 't' then some 9
  else none

/-- The first half of a pair of surrogates. -/
def isHighSurrogate (n : Nat) : Bool :=
  0xD800 ≤ n && n ≤ 0xDBFF

/-- The second half of a pair of surrogates. -/
def isLowSurrogate (n : Nat) : Bool :=
  0xDC00 ≤ n && n ≤ 0xDFFF

/-- The character number that a pair of surrogates stands for. -/
def pairValue (high low : Nat) : Nat :=
  0x10000 + (high - 0xD800) * 0x400 + (low - 0xDC00)

/-- The bytes of a character, last first, before those already read. -/
def pushChar (n : Nat) (read : Bytes) : Bytes :=
  (String.utf8EncodeChar (Char.ofNat n)).reverse ++ read

/-- A string from inside, with the bytes read so far, last first. -/
def readStringFrom : StringState → Bytes → Bytes → Except ReadError (String × Bytes)
  | _, _, [] => .error .truncated
  | .plain, read, b :: bs =>
    if b = byte '"' then
      match textOf? read.reverse with
      | some s => .ok (s, bs)
      | none => .error .malformed
    else if b = byte '\\' then readStringFrom .escape read bs
    else if b < 0x20 then .error .malformed
    else readStringFrom .plain (b :: read) bs
  | .escape, read, b :: bs =>
    if b = byte 'u' then readStringFrom (.unicode none []) read bs
    else match shortEscape? b with
      | some c => readStringFrom .plain (c :: read) bs
      | none => .error .malformed
  | .unicode high seen, read, b :: bs =>
    if seen.length < 3 then readStringFrom (.unicode high (seen ++ [b])) read bs
    else match hexValue? (seen ++ [b]), high with
      | none, _ => .error .malformed
      | some n, none =>
        if isLowSurrogate n then .error .malformed
        else if isHighSurrogate n then readStringFrom (.lowMark n) read bs
        else readStringFrom .plain (pushChar n read) bs
      | some low, some high =>
        if isLowSurrogate low then
          readStringFrom .plain (pushChar (pairValue high low) read) bs
        else .error .malformed
  | .lowMark high, read, b :: bs =>
    if b = byte '\\' then readStringFrom (.lowLetter high) read bs else .error .malformed
  | .lowLetter high, read, b :: bs =>
    if b = byte 'u' then readStringFrom (.unicode (some high) []) read bs
    else .error .malformed

/-- The string whose opening quotation mark has been read, and what follows it. -/
def readString (bs : Bytes) : Except ReadError (String × Bytes) :=
  readStringFrom .plain [] bs

/-- What follows a string, from inside it: `seen` holds the hexadecimal digits read of an
escape, and `escaped` says that a backslash was read. -/
def skipStringFrom : (escaped : Bool) → (seen : Option Bytes) → Bytes → Except ReadError Bytes
  | _, _, [] => .error .truncated
  | escaped, some seen, b :: bs =>
    if seen.length < 3 then skipStringFrom escaped (some (seen ++ [b])) bs
    else match hexValue? (seen ++ [b]) with
      | some _ => skipStringFrom false none bs
      | none => .error .malformed
  | true, none, b :: bs =>
    if b = byte 'u' then skipStringFrom false (some []) bs
    else match shortEscape? b with
      | some _ => skipStringFrom false none bs
      | none => .error .malformed
  | false, none, b :: bs =>
    if b = byte '"' then .ok bs
    else if b = byte '\\' then skipStringFrom true none bs
    else if b < 0x20 then .error .malformed
    else skipStringFrom false none bs

/-- What follows the string whose opening quotation mark has been read. -/
def skipString (bs : Bytes) : Except ReadError Bytes :=
  skipStringFrom false none bs

theorem readStringFrom_length_lt {state : StringState} {read bs rest : Bytes} {s : String}
    (h : readStringFrom state read bs = .ok (s, rest)) : rest.length < bs.length := by
  fun_induction readStringFrom state read bs <;> simp_all <;> omega

theorem readString_length_lt {bs rest : Bytes} {s : String}
    (h : readString bs = .ok (s, rest)) : rest.length < bs.length :=
  readStringFrom_length_lt h

theorem skipStringFrom_length_lt {escaped : Bool} {seen : Option Bytes} {bs rest : Bytes}
    (h : skipStringFrom escaped seen bs = .ok rest) : rest.length < bs.length := by
  fun_induction skipStringFrom escaped seen bs <;> simp_all <;> omega

theorem skipString_length_lt {bs rest : Bytes} (h : skipString bs = .ok rest) :
    rest.length < bs.length :=
  skipStringFrom_length_lt h

/-! ### Writing -/

/-- The lower-case hexadecimal digit of a number below sixteen. -/
def hexChar (n : Nat) : Char :=
  if n < 10 then Char.ofNat (48 + n) else Char.ofNat (87 + n)

/-- The written form of a character of a string. -/
def quoteChar (c : Char) : List Char :=
  if c = '"' then ['\\', '"']
  else if c = '\\' then ['\\', '\\']
  else if c.toNat = 8 then ['\\', 'b']
  else if c.toNat = 12 then ['\\', 'f']
  else if c = '\n' then ['\\', 'n']
  else if c = '\r' then ['\\', 'r']
  else if c = '\t' then ['\\', 't']
  else if c.toNat < 32 then
    ['\\', 'u', '0', '0', hexChar (c.toNat / 16), hexChar (c.toNat % 16)]
  else [c]

/-- The written form of a string between its quotation marks. -/
def quoteChars (cs : List Char) : List Char :=
  '"' :: cs.flatMap quoteChar ++ ['"']

/-- The written form of a string. -/
def quote (s : String) : String :=
  String.ofList (quoteChars s.toList)

end Datebook.Json
