import Datebook.Span

/-!
# Events and reminders

An event belongs to a user and occupies a closed span of time. It may ask for a reminder,
and remembers whether the reminder was delivered. The reminder itself is a message that
names the event, its title, its beginning and its user.

## Main definitions

* `Datebook.Event`, `Datebook.Event.isDue`
* `Datebook.Reminder`, `Datebook.Reminder.ofEvent`
-/

namespace Datebook

/-- An entry of a user's calendar. An instant that was not given is the epoch. -/
structure Event where
  id : Int := 0
  userId : Int := 0
  title : String := ""
  description : String := ""
  onTime : Instant := .epoch
  offTime : Instant := .epoch
  notifyTime : Option Instant := none
  /-- The reminder was delivered. -/
  notified : Bool := false
  deriving DecidableEq

namespace Event

/-- The closed span that the event occupies. -/
def span (e : Event) : Span :=
  ⟨e.onTime, e.offTime⟩

/-- The event asks for a reminder no later than the instant, and has not had it. -/
def isDue (e : Event) (asOf : Instant) : Bool :=
  !e.notified && match e.notifyTime with
    | some t => t ≤ asOf
    | none => false

end Event

/-- The message that reminds a user of an event. -/
structure Reminder where
  id : Int
  title : String
  /-- The beginning of the event. -/
  date : Instant
  userId : Int
  deriving DecidableEq

/-- The reminder of an event. -/
def Reminder.ofEvent (e : Event) : Reminder :=
  ⟨e.id, e.title, e.onTime, e.userId⟩

end Datebook
