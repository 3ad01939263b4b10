import Datebook.Instant.Fields
import Datebook.Text.Blank

/-!
# The relaxed reading of an instant

White space may come before every number and before each mark between two numbers. Numbers
other than the year have one or two digits; the year has one to four, or a sign and any
number of them. Exactly one separator stands between date and time. The offset is `Z`, the
word `UTC`, or a sign with two digits of hours and two of minutes, with any colons and
white space between these.

## Main definitions

* `Datebook.Instant.relaxedFields?`: the numbers of a text
* `Datebook.Instant.ofRelaxed?`: the instant of a text
-/

namespace Datebook.Instant

open Text (skipBlanks isBlank)

/-- A number of one or two digits, after white space. -/
def shortNumber? (cs : List Char) : Option (Nat × List Char) :=
  Numeral.number? 1 2 (skipBlanks cs)

/-- A year, after white space: one to four digits, or a sign and any number of digits. -/
def relaxedYear? (cs : List Char) : Option (Int × List Char) :=
  match skipBlanks cs with
  | '-' :: rest => (Numeral.number? 1 rest.length rest).map fun (n, rest) => (-Int.ofNat n, rest)
  | '+' :: rest => (Numeral.number? 1 rest.length rest).map fun (n, rest) => (Int.ofNat n, rest)
  | rest => (Numeral.number? 1 4 rest).map fun (n, rest) => (Int.ofNat n, rest)

/-- What follows a mark, which white space may come before. -/
def afterMark? (mark : Char) (cs : List Char) : Option (List Char) :=
  match skipBlanks cs with
  | c :: rest => if c = mark then some rest else none
  | [] => none

/-- An offset in the relaxed form, with what follows it. -/
def relaxedOffset? : List Char → Option (Int × List Char)
  | 'Z' :: cs => some (0, cs)
  | 'z' :: cs => some (0, cs)
  | cs =>
    if (cs.take 3).map Char.toUpper = ['U', 'T', 'C'] then some (0, cs.drop 3)
    else do
      let (behind, cs) ← offsetSign? cs
      let (hours, cs) ← Numeral.number? 2 2 cs
      let (minutes, cs) ← offsetMinutes? (cs.dropWhile fun c => c == ':' || isBlank c)
      some (signedOffset behind (hours * 60 + minutes), cs)

/-- The numbers that a text in the relaxed form names. -/
def relaxedFields? (cs : List Char) : Option Fields := do
  let (year, cs) ← relaxedYear? cs
  let (month, cs) ← shortNumber? (← afterMark? '-' cs)
  let (day, cs) ← shortNumber? (← afterMark? '-' cs)
  let cs ← match cs with
    | c :: rest => if isSeparator c then some rest else none
    | [] => none
  let (hour, cs) ← shortNumber? cs
  let (minute, cs) ← shortNumber? (← afterMark? ':' cs)
  let (second, cs) ← shortNumber? (← afterMark? ':' cs)
  let (nano, cs) ← fraction? cs
  let (offset, cs) ← relaxedOffset? (skipBlanks cs)
  if cs.all isBlank then some ⟨year, month, day, hour, minute, second, nano, offset⟩ else none

/-- The instant that a text in the relaxed form names. -/
def ofRelaxed? (s : String) : Option Instant :=
  (relaxedFields? s.toList).bind Fields.toInstant?

end Datebook.Instant
