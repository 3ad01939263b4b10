import Datebook.Duration
import Datebook.Rounding

/-!
# Backing off

A consumer that has to ask for messages waits between two questions. The wait starts at
the least interval, is multiplied by a factor each time nothing was found, up to the most,
and starts over when a message was found.

The factor is a floating-point number of 64 bits. The product is formed in seconds and
rounded to the nearest nanosecond, a half to the even neighbour; a product of 2⁶⁴ seconds or
more is no duration.

## Main definitions

* `Datebook.Polling`: the least and the most interval, and the factor
* `Datebook.Backoff`, with `start`, `reset` and `increase?`
* `Datebook.Backoff.wait`: waiting for an interval or for the end
-/

namespace Datebook

namespace Duration

/-- The shorter of two durations. -/
def shorter (d e : Duration) : Duration :=
  if d.toNanos ≤ e.toNanos then d else e

/-- The length in seconds, as a floating-point number. -/
def toFloat (d : Duration) : Float :=
  d.seconds.toUInt64.toFloat + d.nanos.toUInt64.toFloat / 1000000000

/-- The nanoseconds in `mantissa * 2 ^ exponent` seconds, rounded. -/
def scaledNanos (mantissa : Nat) (exponent : Int) : Nat :=
  if 0 ≤ exponent then mantissa * powerOfTwo exponent.toNat * 1000000000
  else roundedQuotient (mantissa * 1000000000) (powerOfTwo (-exponent).toNat)

/-- The duration of a floating-point number of seconds that is not negative, where it is
finite and below 2⁶⁴ seconds. -/
def ofFloat? (seconds : Float) : Option Duration :=
  let bits := seconds.toBits.toNat
  let field := bits / powerOfTwo 52 % 2048
  let fraction := bits % powerOfTwo 52
  if field = 2047 then none
  else
    let mantissa := if field = 0 then fraction else fraction + powerOfTwo 52
    let exponent : Int := (if field = 0 then 1 else field : Nat) - 1075
    let duration := ofNanos (scaledNanos mantissa exponent)
    if duration.seconds < powerOfTwo 64 then some duration else none

end Duration

/-- How a consumer waits between two questions. -/
structure Polling where
  least : Duration := .ofMillis 100
  most : Duration := .ofSeconds 5
  factor : Float := 1.5

namespace Polling

/-- A wait never shrinks: the factor is at least one, also in place of a factor that is no
number. -/
def withFactor (p : Polling) (factor : Float) : Polling :=
  { p with factor := if 1.0 < factor then factor else 1.0 }

end Polling

/-- The wait before the next question. -/
structure Backoff where
  polling : Polling
  current : Duration

namespace Backoff

/-- The first wait is the least. -/
def start (polling : Polling) : Backoff :=
  ⟨polling, polling.least⟩

/-- A message was found: start over. -/
def reset (b : Backoff) : Backoff :=
  start b.polling

/-- Nothing was found: wait longer. Gives `none` where the product is no duration. -/
def increase? (b : Backoff) : Option Backoff :=
  (Duration.ofFloat? (b.current.toFloat * b.polling.factor)).map fun next =>
    { b with current := next.shorter b.polling.most }

/-- Waiting for an interval of so many milliseconds, or as long as a wait can be, which ends
early with the first news of the end: whether it did, and after how long. -/
def wait (interval : Nat) (closed : Bool) (news : List Nat) : Bool × Nat :=
  let interval := min interval longestWait
  if closed then (true, 0)
  else match news.min? with
    | some time => if time < interval then (true, time) else (false, interval)
    | none => (false, interval)

end Backoff

end Datebook
