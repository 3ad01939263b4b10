import Datebook.Instant
import Datebook.Text.Numeral

/-!
# What a written instant says

The numbers that a written instant names, and the instant they stand for. The date and the
time are local; the offset, in minutes, is what local time is ahead of universal time.
A second 60 is the leap second that extends second 59.

## Main definitions

* `Datebook.Instant.Fields`
* `Datebook.Instant.Fields.toInstant?`: the instant, where the numbers name one
* `Datebook.Instant.fraction?`: reading the fraction of a second
-/

namespace Datebook.Instant

/-- The numbers of a written instant. -/
structure Fields where
  year : Int
  month : Nat
  day : Nat
  hour : Nat
  minute : Nat
  second : Nat
  nano : Nat
  /-- Minutes that the local time is ahead of universal time. -/
  offset : Int
  deriving DecidableEq, Repr

/-- The instant that the numbers name. The local date has to lie in the range of dates and
the offset has to stay below a day. -/
def Fields.toInstant? (f : Fields) : Option Instant :=
  let date : Date := ⟨f.year, f.month, f.day⟩
  if !date.isValid || 24 ≤ f.hour || 60 ≤ f.minute || 61 ≤ f.second || 1440 ≤ f.offset.natAbs
    || date.dayNumber < firstDay || lastDay < date.dayNumber then none
  else
    let leap := f.second / 60
    let local_ : Int := f.hour * 3600 + f.minute * 60 + (f.second - leap : Nat)
    let universal := local_ - f.offset * 60
    of? (date.dayNumber + universal / 86400) (universal % 86400).toNat
      (f.nano + 1000000000 * leap)

/-- The nanoseconds that a run of digits after a point stands for; digits past the ninth
count for nothing. -/
def nanoOfDigits (ds : List Char) : Nat :=
  Numeral.value (ds ++ List.replicate (9 - ds.length) '0')

/-- The nanoseconds of a fraction, none where the text does not begin with a point. A point
has to be followed by a digit. -/
def fraction? : List Char → Option (Nat × List Char)
  | '.' :: cs =>
    let (ds, rest) := Numeral.takeDigits 9 cs
    if ds.isEmpty then none else some (nanoOfDigits ds, rest.dropWhile Numeral.isDigit)
  | cs => some (0, cs)

/-- The character that stands between date and time. -/
def isSeparator (c : Char) : Bool :=
  c == 'T' || c == 't' || c == ' '

/-- The sign of an offset, which may also be the minus sign U+2212: `true` is behind. -/
def offsetSign? : List Char → Option (Bool × List Char)
  | '+' :: cs => some (false, cs)
  | '-' :: cs => some (true, cs)
  | '\u2212' :: cs => some (true, cs)
  | _ => none

/-- An offset of so many minutes, behind universal time or ahead of it. -/
def signedOffset (behind : Bool) (minutes : Nat) : Int :=
  if behind then -Int.ofNat minutes else Int.ofNat minutes

/-- The minutes of an offset: two digits below sixty. -/
def offsetMinutes? (cs : List Char) : Option (Nat × List Char) :=
  match Numeral.number? 2 2 cs with
  | some (minutes, rest) => if minutes < 60 then some (minutes, rest) else none
  | none => none

end Datebook.Instant
