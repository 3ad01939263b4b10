import Datebook.Instant.Fields
import Datebook.Instant.Relaxed

/-!
# The strict reading of an instant, and plain dates

In the strict form every number has its full width, nothing but the marks stands between
the numbers, and the offset is `Z` or a sign with hours, a colon and minutes. A plain date
names its midnight; white space may come before each of its numbers.

## Main definitions

* `Datebook.Instant.ofStrict?`: the instant of a text in the strict form
* `Datebook.Instant.ofPlainDate?`: the midnight of a plain date
-/

namespace Datebook.Instant

/-- What follows a mark at the head of a text. -/
def afterExactly? (mark : Char) : List Char → Option (List Char)
  | c :: rest => if c = mark then some rest else none
  | [] => none

/-- An offset in the strict form, with what follows it. -/
def strictOffset? : List Char → Option (Int × List Char)
  | 'Z' :: cs => some (0, cs)
  | 'z' :: cs => some (0, cs)
  | cs => do
    let (behind, cs) ← offsetSign? cs
    let (hours, cs) ← Numeral.number? 2 2 cs
    let (minutes, cs) ← offsetMinutes? (← afterExactly? ':' cs)
    some (signedOffset behind (hours * 60 + minutes), cs)

/-- The numbers that a text in the strict form names. -/
def strictFields? (cs : List Char) : Option Fields := do
  let (year, cs) ← Numeral.number? 4 4 cs
  let (month, cs) ← Numeral.number? 2 2 (← afterExactly? '-' cs)
  let (day, cs) ← Numeral.number? 2 2 (← afterExactly? '-' cs)
  let cs ← match cs with
    | c :: rest => if isSeparator c then some rest else none
    | [] => none
  let (hour, cs) ← Numeral.number? 2 2 cs
  let (minute, cs) ← Numeral.number? 2 2 (← afterExactly? ':' cs)
  let (second, cs) ← Numeral.number? 2 2 (← afterExactly? ':' cs)
  let (nano, cs) ← fraction? cs
  let (offset, cs) ← strictOffset? cs
  if cs.isEmpty then some ⟨Int.ofNat year, month, day, hour, minute, second, nano, offset⟩
  else none

/-- The instant that a text in the strict form names. -/
def ofStrict? (cs : List Char) : Option Instant :=
  (strictFields? cs).bind Fields.toInstant?

/-- The date that a plain date names. -/
def plainDate? (cs : List Char) : Option Date := do
  let (year, cs) ← relaxedYear? cs
  let (month, cs) ← shortNumber? (← afterExactly? '-' cs)
  let (day, cs) ← shortNumber? (← afterExactly? '-' cs)
  if cs.isEmpty then some ⟨year, month, day⟩ else none

/-- The midnight that a plain date names. -/
def ofPlainDate? (cs : List Char) : Option Instant := do
  let date ← plainDate? cs
  if date.isValid then midnight? date.dayNumber else none

end Datebook.Instant
