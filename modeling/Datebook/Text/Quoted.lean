import Datebook.Text.ExtendingMark
import Datebook.Text.Numeral
import Datebook.Text.Unseen

/-!
# Quoted texts in messages

A message shows a text that it was given between quotation marks: quotation marks and
backslashes are escaped, line breaks, tabs and the null character have escapes of one
letter, and characters that would not show, or would show on the character before them, are
given by their number.

## Main definitions

* `Datebook.Text.quoted`
-/

namespace Datebook.Text

/-- The digit of a number below sixteen. -/
def hexDigit (n : Nat) : Char :=
  if n < 10 then Char.ofNat (48 + n) else Char.ofNat (87 + n)

/-- The fewest hexadecimal digits that write a number. -/
def hexDigits (n : Nat) : List Char :=
  if n < 16 then [hexDigit n] else hexDigits (n / 16) ++ [hexDigit (n % 16)]

/-- The character is shown by its number in a quoted text. -/
def isShownByNumber (c : Char) : Bool :=
  isUnseen c || isExtendingMark c

/-- A character as a quoted text shows it. -/
def quotedChar (c : Char) : List Char :=
  if c = '"' ∨ c = '\\' then ['\\', c]
  else if c = '\n' then ['\\', 'n']
  else if c = '\r' then ['\\', 'r']
  else if c = '\t' then ['\\', 't']
  else if c.toNat = 0 then ['\\', '0']
  else if isShownByNumber c then ['\\', 'u', '\x7b'] ++ hexDigits c.toNat ++ ['\x7d']
  else [c]

/-- A text between quotation marks. -/
def quoted (s : String) : String :=
  String.ofList ('"' :: s.toList.flatMap quotedChar ++ ['"'])

end Datebook.Text
