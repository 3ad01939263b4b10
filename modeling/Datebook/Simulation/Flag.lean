/-!
# The flag that stops the service

A flag is written by one side and watched by others. Every write is news, whatever it
writes. The writing side may also be dropped, which counts like a request to stop.

## Main definitions

* `Datebook.Flag`, `Datebook.Flag.write`, `Datebook.Flag.drop`
* `Datebook.Flag.asksToStop`
* `Datebook.Flag.watch`: whether someone who waits for the request has stopped waiting
-/

namespace Datebook

/-- A flag with the number of writes it has seen. -/
structure Flag where
  value : Bool := false
  writes : Nat := 0
  /-- There is no side left that writes. -/
  dropped : Bool := false
  deriving DecidableEq, Repr

namespace Flag

/-- Write a value, unless the writing side is gone. -/
def write (f : Flag) (value : Bool) : Flag :=
  if f.dropped then f else { f with value, writes := f.writes + 1 }

/-- Drop the writing side. -/
def drop (f : Flag) : Flag :=
  { f with dropped := true }

/-- There was a write after those already seen. -/
def hasNews (f : Flag) (seen : Nat) : Bool :=
  f.writes != seen

/-- Someone who waits for the request to stop need not wait any longer. -/
def asksToStop (f : Flag) : Bool :=
  f.value || f.dropped

/-- What may happen to a flag. -/
inductive Change where
  | write (value : Bool)
  | drop
  | nothing
  deriving DecidableEq, Repr

/-- The flag after a change. -/
def apply (f : Flag) : Change → Flag
  | .write value => f.write value
  | .drop => f.drop
  | .nothing => f

/-- After each change, whether someone who looks at the flag after every change has stopped
waiting for the request to stop. -/
def watch (stopped : Bool) : Flag → List Change → List Bool
  | _, [] => []
  | f, change :: changes =>
    let f := f.apply change
    let stopped := stopped || f.asksToStop
    stopped :: watch stopped f changes

end Flag

end Datebook
