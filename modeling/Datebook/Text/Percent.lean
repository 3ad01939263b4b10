import Datebook.Json.Basic
import Datebook.Text.Utf8

/-!
# Percent encoding and forms

A percent sign with two hexadecimal digits stands for a byte; any other percent sign stands
for itself. In a form, pairs are joined by ampersands, a name and its value by the first
equals sign, and a plus sign stands for a space.

## Main definitions

* `Datebook.Text.percentDecode`
* `Datebook.Text.formPairs`: the pairs of a form
-/

namespace Datebook.Text

open Json (Bytes byte bytesOf hexDigit?)

/-- The bytes that a percent-encoded text stands for. -/
def percentDecode : Bytes → Bytes
  | b :: h :: l :: rest =>
    match if b = byte '%' then hexDigit? h else none, hexDigit? l with
    | some high, some low => UInt8.ofNat (16 * high + low) :: percentDecode rest
    | _, _ => b :: percentDecode (h :: l :: rest)
  | b :: rest => b :: percentDecode rest
  | [] => []

/-- The text that a part of a form stands for. -/
def formText (cs : List Char) : String :=
  let spaced := cs.map fun c => if c = '+' then ' ' else c
  lenientUtf8 (percentDecode (bytesOf (String.ofList spaced)))

/-- A text cut at every occurrence of a character. -/
def splitAll (mark : Char) : List Char → List (List Char)
  | [] => [[]]
  | c :: cs =>
    if c = mark then [] :: splitAll mark cs
    else match splitAll mark cs with
      | part :: parts => (c :: part) :: parts
      | [] => [[c]]

/-- A text cut at the first occurrence of a character, if there is one. -/
def splitFirst (mark : Char) (cs : List Char) : List Char × List Char :=
  (cs.takeWhile (· != mark), (cs.dropWhile (· != mark)).drop 1)

/-- The pairs of a form; empty parts are passed over. -/
def formPairs (query : String) : List (String × String) :=
  ((splitAll '&' query.toList).filter (!·.isEmpty)).map fun part =>
    let (name, value) := splitFirst '=' part
    (formText name, formText value)

end Datebook.Text
