import Datebook.Text.Numeral

/-!
# Durations

A duration is a number of seconds with nanoseconds below a thousand million. It is written
in the largest unit of which it holds at least one, with a decimal fraction that loses
nothing.

## Main definitions

* `Datebook.Duration`
* `Datebook.Duration.text`: the written form
* `Datebook.Duration.wholeMillis`: the milliseconds that a wait of this length takes
* `Datebook.longestWait`: the most milliseconds of a wait
-/

namespace Datebook

/-- A length of time. -/
structure Duration where
  seconds : Nat
  nanos : Nat
  nanos_lt : nanos < 1000000000 := by omega
  deriving DecidableEq

namespace Duration

/-- The duration of a number of nanoseconds. -/
def ofNanos (n : Nat) : Duration :=
  ⟨n / 1000000000, n % 1000000000, by omega⟩

/-- The duration of a number of milliseconds. -/
def ofMillis (n : Nat) : Duration :=
  ofNanos (n * 1000000)

/-- The duration of a number of seconds. -/
def ofSeconds (n : Nat) : Duration :=
  ⟨n, 0, by omega⟩

/-- The length in nanoseconds. -/
def toNanos (d : Duration) : Nat :=
  d.seconds * 1000000000 + d.nanos

/-- Waiting goes by whole milliseconds and ends no earlier than asked. -/
def wholeMillis (d : Duration) : Nat :=
  (d.toNanos + 999999) / 1000000

/-- The digits of a fraction of so many places, without the zeros at its end. -/
def fractionDigits (places n : Nat) : List Char :=
  ((Numeral.padded places n).reverse.dropWhile (· == '0')).reverse

/-- A whole number with a fraction of so many places and a unit. -/
def decimal (whole places fraction : Nat) (unit : String) : String :=
  let digits := fractionDigits places fraction
  let point := if digits.isEmpty then [] else '.' :: digits
  String.ofList (Numeral.digits whole ++ point) ++ unit

/-- The written form of a duration. -/
def text (d : Duration) : String :=
  if 0 < d.seconds then decimal d.seconds 9 d.nanos "s"
  else if 1000000 ≤ d.nanos then decimal (d.nanos / 1000000) 6 (d.nanos % 1000000) "ms"
  else if 1000 ≤ d.nanos then decimal (d.nanos / 1000) 3 (d.nanos % 1000) "µs"
  else decimal d.nanos 0 0 "ns"

end Duration

/-- The most milliseconds that anything waits for: thirty years of 365 days. -/
def longestWait : Nat := 30 * 365 * 86400000

end Datebook
