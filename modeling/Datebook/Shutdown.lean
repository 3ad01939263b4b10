import Datebook.Routine

/-!
# Orderly shutdown

Every part is closed within a grace period of its own, so that a part that is slow to close
holds up no other.

## Main definitions

* `Datebook.ShutdownError`
* `Datebook.closeWithin`: close one part
* `Datebook.closeBoth`: close one part after the other, whatever comes of the first
-/

namespace Datebook

/-- Why a part did not close. -/
inductive ShutdownError where
  | timedOut (part : String) (grace : Duration)
  | failed (part message : String)
  deriving DecidableEq

/-- The wording of a shutdown error. -/
def ShutdownError.message : ShutdownError → String
  | .timedOut part grace => "closing " ++ part ++ " timed out after " ++ grace.text
  | .failed part message => "closing " ++ part ++ " failed: " ++ message

/-- The wording of what made a call fail. -/
def Call.failureMessage : (c : Call) → c.Failure → String
  | .store _, e => StoreError.message e
  | .channel _, e => ChannelError.message e

/-- What comes of closing a part: nothing in time, a failure, or success. -/
def closeResult (part : String) (grace : Duration) :
    Option (Except String Unit) → Except ShutdownError Unit
  | none => .error (.timedOut part grace)
  | some (.error message) => .error (.failed part message)
  | some (.ok ()) => .ok ()

/-- Close a part within a grace period. -/
def closeWithin (part : String) (grace : Duration) (c : Call) :
    Routine (Except ShutdownError Unit) :=
  .within grace c fun outcome =>
    .done (closeResult part grace (outcome.map fun
      | .error e => .error (c.failureMessage e)
      | .ok _ => .ok ()))

/-- Close one part and then, whatever comes of that, the other. The first failure counts. -/
def closeBoth (first second : Routine (Except ShutdownError Unit)) :
    Routine (Except ShutdownError Unit) :=
  first.bind fun a => second.bind fun b => .done (a.bind fun _ => b)

/-- What comes of closing a part that takes so many milliseconds to close and then fails with
a message or succeeds. A part that closes at the very end of the grace period is in time. -/
def closeAfter (part : String) (grace : Duration) (delay : Nat) (failure : Option String) :
    Except ShutdownError Unit :=
  closeResult part grace <|
    if min delay longestWait ≤ grace.wholeMillis then
      some (match failure with
        | some message => .error message
        | none => .ok ())
    else none

end Datebook
