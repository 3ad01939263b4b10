import Datebook.Routine

/-!
# The calendar

The calendar is what users work with: it checks what it is given before it asks the store,
and bounds every call on the store in time. The views of a day, a week and a month ask for
a span; where a part of that span lies outside the range of instants there is no view, and
the request is abandoned.

## Main definitions

* `Datebook.CalendarError`
* `Datebook.Calendar`, with `insert`, `update`, `delete`, `get`, `all`
* `Datebook.Calendar.day?`, `Datebook.Calendar.week?`, `Datebook.Calendar.month`
-/

namespace Datebook

/-- Why a request to the calendar fails. -/
inductive CalendarError where
  | validation (violation : Violation)
  | store (source : StoreError)
  | timedOut (operation : String) (after : Duration)
  deriving DecidableEq

namespace CalendarError

/-- The wording of a calendar error. -/
def message : CalendarError → String
  | .validation v => v.message
  | .store source => source.message
  | .timedOut operation after => operation ++ " timed out after " ++ after.text

/-- An error of the store, as an error of the calendar: a violation is one in itself. -/
def ofStore : StoreError → CalendarError
  | .validation v => .validation v
  | source => .store source

end CalendarError

/-- A calendar, by the time limit on its calls. -/
structure Calendar where
  limit : Duration := .ofSeconds 2

namespace Calendar

/-- The outcome of a call that was made within the limit, or was abandoned. -/
def outcome {α : Type} (cal : Calendar) (operation : String) :
    Option (Except StoreError α) → Except CalendarError α
  | none => .error (.timedOut operation cal.limit)
  | some (.error e) => .error (.ofStore e)
  | some (.ok a) => .ok a

/-- A call on the store within the limit. -/
def bounded (cal : Calendar) (operation : String) (c : StoreCall) :
    Routine (Except CalendarError c.Reply) :=
  .within cal.limit (.store c) fun o => .done (cal.outcome operation o)

/-! ### Single events -/

/-- Store a new event under an id of the store's choice; the event is given back with it. -/
def insert (cal : Calendar) (e : Event) : Routine (Except CalendarError Event) :=
  match e.validate with
  | .error v => .done (.error (.validation v))
  | .ok () =>
    let fresh := { e with id := 0, notified := false }
    (cal.bounded "insert_event" (.insert fresh)).bind fun
      | .error e => .done (.error e)
      | .ok (id : Int) => .done (.ok { fresh with id := id })

/-- Change a stored event. -/
def update (cal : Calendar) (e : Event) : Routine (Except CalendarError Unit) :=
  match e.validateChange with
  | .error v => .done (.error (.validation v))
  | .ok () => cal.bounded "update_event" (.update e)

/-- Remove an event, if there is one with the id. -/
def delete (cal : Calendar) (id : Int) : Routine (Except CalendarError Unit) :=
  cal.bounded "delete_event" (.delete id)

/-- The event with an id. -/
def get (cal : Calendar) (id : Int) : Routine (Except CalendarError Event) :=
  if id = 0 then .done (.error (.validation .missingId))
  else cal.bounded "get_event_by_id" (.get id)

/-! ### Views -/

/-- All events of a user. -/
def all (cal : Calendar) (userId : Int) : Routine (Except CalendarError (List Event)) :=
  if userId = 0 then .done (.error (.validation .missingUserId))
  else cal.bounded "get_all_events" (.all userId)

/-- The events of a user that begin or end in a span. -/
def within (cal : Calendar) (operation : String) (userId : Int) (span : Option Span) :
    Option (Routine (Except CalendarError (List Event))) :=
  if userId = 0 then some (.done (.error (.validation .missingUserId)))
  else span.map fun span => cal.bounded operation (.range userId span)

/-- The events of a user on the day of an instant. -/
def day? (cal : Calendar) (userId : Int) (date : Instant) :
    Option (Routine (Except CalendarError (List Event))) :=
  cal.within "get_all_events_day" userId (Span.day? date)

/-- The events of a user in the week of an instant. -/
def week? (cal : Calendar) (userId : Int) (date : Instant) :
    Option (Routine (Except CalendarError (List Event))) :=
  cal.within "get_all_events_week" userId (Span.week? date)

/-- The events of a user in the month of an instant. -/
def month? (cal : Calendar) (userId : Int) (date : Instant) :
    Option (Routine (Except CalendarError (List Event))) :=
  cal.within "get_all_events_month" userId (some (Span.month date))

end Calendar

end Datebook
