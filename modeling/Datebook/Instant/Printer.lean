import Datebook.Instant
import Datebook.Text.Numeral

/-!
# The written form of an instant

An instant is written as date, `T`, time and `Z`. The fraction has no digits, three, six or
nine, the fewest that lose nothing; a leap second has the second 60. Years from 0 to 9999
have four digits, all others a sign and at least four.

## Main definitions

* `Datebook.Instant.toChars`, `Datebook.Instant.text`
-/

namespace Datebook.Instant

/-- At least four digits, with a sign unless four digits are enough for a year from 0. -/
def yearChars (year : Int) : List Char :=
  if 0 ≤ year ∧ year ≤ 9999 then Numeral.padded 4 year.toNat
  else
    let digits :=
      if year.natAbs < 10000 then Numeral.padded 4 year.natAbs else Numeral.digits year.natAbs
    (if year < 0 then '-' else '+') :: digits

/-- The fraction of a second, after its point, with the fewest digits of none, three, six
and nine. -/
def fractionChars (nano : Nat) : List Char :=
  if nano = 0 then []
  else if nano % 1000000 = 0 then '.' :: Numeral.padded 3 (nano / 1000000)
  else if nano % 1000 = 0 then '.' :: Numeral.padded 6 (nano / 1000)
  else '.' :: Numeral.padded 9 nano

/-- Year, month and day with hyphens between them. -/
def dateChars (date : Date) : List Char :=
  yearChars date.year ++ '-' :: Numeral.padded 2 date.month ++ '-' :: Numeral.padded 2 date.day

/-- Hour, minute and second with colons between them, and the fraction. -/
def timeChars (second nano : Nat) : List Char :=
  let leap := nano / 1000000000
  Numeral.padded 2 (second / 3600) ++ ':' :: Numeral.padded 2 (second / 60 % 60) ++
    ':' :: Numeral.padded 2 (second % 60 + leap) ++ fractionChars (nano % 1000000000)

/-- The written form of an instant. -/
def toChars (i : Instant) : List Char :=
  dateChars i.date ++ 'T' :: timeChars i.second i.nano ++ ['Z']

/-- The written form of an instant. -/
def text (i : Instant) : String :=
  String.ofList i.toChars

end Datebook.Instant
