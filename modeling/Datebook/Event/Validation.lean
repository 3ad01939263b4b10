import Datebook.Event
import Datebook.Text.Numeral

/-!
# The rules an event has to keep

Rules are checked in a fixed order and the first that is broken is reported. A change of a
stored event also has to name it.

## Main definitions

* `Datebook.Violation`: the rules, by how they are broken
* `Datebook.Event.validate`: the rules of a new event
* `Datebook.Event.validateChange`: the rules of a change
-/

namespace Datebook

/-- The most characters a title may have. -/
def maxTitleLength : Nat := 150

/-- How an event breaks a rule. -/
inductive Violation where
  | missingId
  | missingUserId
  | titleTooLong (length : Nat)
  | missingOnTime
  | missingOffTime
  | offTimeNotAfterOnTime
  | notifyTimeOutOfRange
  deriving DecidableEq, Repr

namespace Violation

/-- The wording of a violation. -/
def message : Violation → String
  | .missingId => "wrong id: id is zero"
  | .missingUserId => "wrong userId: must be non-zero"
  | .titleTooLong length =>
    "wrong title: length " ++ Numeral.text length ++ ", must be <= " ++ Numeral.text maxTitleLength
  | .missingOnTime => "wrong onTime: empty"
  | .missingOffTime => "wrong offTime: empty"
  | .offTimeNotAfterOnTime => "wrong offTime: must be after onTime"
  | .notifyTimeOutOfRange => "wrong notifyTime: must be within [onTime, offTime]"

/-- The field at fault. -/
def field : Violation → String
  | .missingId => "id"
  | .missingUserId => "userId"
  | .titleTooLong _ => "title"
  | .missingOnTime => "onTime"
  | .missingOffTime => "offTime"
  | .offTimeNotAfterOnTime => "offTime"
  | .notifyTimeOutOfRange => "notifyTime"

end Violation

namespace Event

/-- The reminder, where one is asked for, falls within the event's span. -/
def reminderInSpan (e : Event) : Bool :=
  match e.notifyTime with
  | some t => e.span.holds t
  | none => true

/-- The first rule that a new event breaks. -/
def violation? (e : Event) : Option Violation :=
  if e.userId = 0 then some .missingUserId
  else if maxTitleLength < e.title.length then some (.titleTooLong e.title.length)
  else if e.onTime = .epoch then some .missingOnTime
  else if e.offTime = .epoch then some .missingOffTime
  else if e.offTime ≤ e.onTime then some .offTimeNotAfterOnTime
  else if !e.reminderInSpan then some .notifyTimeOutOfRange
  else none

/-- Accept a new event or report the first rule it breaks. -/
def validate (e : Event) : Except Violation Unit :=
  match e.violation? with
  | some v => .error v
  | none => .ok ()

/-- Accept a change of a stored event or report the first rule it breaks. -/
def validateChange (e : Event) : Except Violation Unit :=
  if e.id = 0 then .error .missingId else e.validate

end Event

end Datebook
