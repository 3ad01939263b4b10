import Datebook.Event.Validation

/-!
# The event store

Events are kept by ascending id; ids are given out in order and never given out twice. No
two events of a user share an instant: a new or changed event that would is refused, and the
event with the smallest id that stands in its way is named. An event that is changed keeps
its delivered reminder only if the time of the reminder stays the same.

An operation that fails gives no store back, so that the store stays as it was.

## Main definitions

* `Datebook.EventStore`, `Datebook.StoreError`
* `Datebook.EventStore.insert`, `Datebook.EventStore.update`, `Datebook.EventStore.delete`,
  `Datebook.EventStore.purge`, `Datebook.EventStore.markNotified`: changing the store
* `Datebook.EventStore.get`, `Datebook.EventStore.ofUser`, `Datebook.EventStore.inRange`,
  `Datebook.EventStore.checkFree`, `Datebook.EventStore.due`: reading it
-/

namespace Datebook

/-- Why the store refuses an operation. -/
inductive StoreError where
  | validation (violation : Violation)
  /-- The event shares an instant with a stored event of its user. -/
  | conflict (userId conflictingId : Int)
  | notFound (id : Int)
  /-- The database that holds the events has failed. -/
  | database (message : String)
  deriving DecidableEq, Repr

/-- The wording of a store error. -/
def StoreError.message : StoreError → String
  | .validation v => v.message
  | .conflict userId conflictingId =>
    "date is busy: overlaps event " ++ Numeral.text conflictingId ++ " of user " ++
      Numeral.text userId
  | .notFound id => "event not found: " ++ Numeral.text id
  | .database message => "database error: " ++ message

/-- The stored events by ascending id, and the last id that was given out. -/
structure EventStore where
  events : List Event := []
  lastId : Int := 0
  deriving DecidableEq

namespace EventStore

/-! ### Reading -/

/-- The event with an id. -/
def find? (s : EventStore) (id : Int) : Option Event :=
  s.events.find? (·.id == id)

/-- The event with an id. -/
def get (s : EventStore) (id : Int) : Except StoreError Event :=
  match s.find? id with
  | some e => .ok e
  | none => .error (.notFound id)

/-- All events of a user. -/
def ofUser (s : EventStore) (userId : Int) : List Event :=
  s.events.filter (·.userId == userId)

/-- The events of a user that begin or end in a span. -/
def inRange (s : EventStore) (userId : Int) (range : Span) : List Event :=
  (s.ofUser userId).filter fun e => range.holdsEndOf e.span

/-- The events whose reminder is due. -/
def due (s : EventStore) (asOf : Instant) : List Event :=
  s.events.filter (·.isDue asOf)

/-- The event of a user, other than the one with the excluded id, that shares an instant
with a span and has the smallest id of those that do. -/
def conflict? (s : EventStore) (exclude userId : Int) (span : Span) : Option Event :=
  (s.ofUser userId).find? fun e => e.id != exclude && e.span.meets span

/-- A user is free in a span, events with the excluded id apart. -/
def checkFree (s : EventStore) (exclude userId : Int) (span : Span) : Except StoreError Unit :=
  match s.conflict? exclude userId span with
  | some e => .error (.conflict userId e.id)
  | none => .ok ()

/-! ### Changing -/

/-- Store a new event under the next id, which is given back. -/
def insert (s : EventStore) (e : Event) : Except StoreError (Int × EventStore) := do
  e.validate.mapError StoreError.validation
  s.checkFree 0 e.userId e.span
  let id := s.lastId + 1
  .ok (id, { events := s.events ++ [{ e with id := id, notified := false }], lastId := id })

/-- The event that takes the place of an earlier one. Its reminder counts as delivered only
if it was delivered for the same time. -/
def replacing (old e : Event) : Event :=
  { e with notified := old.notified && old.notifyTime == e.notifyTime }

/-- Change the stored event that has the id of the given one. -/
def update (s : EventStore) (e : Event) : Except StoreError EventStore := do
  e.validateChange.mapError StoreError.validation
  let old ← s.get e.id
  s.checkFree e.id e.userId e.span
  .ok { s with events := s.events.map fun stored =>
    if stored.id = e.id then replacing old e else stored }

/-- Remove the event with an id, if there is one. -/
def delete (s : EventStore) (id : Int) : EventStore :=
  { s with events := s.events.filter (·.id != id) }

/-- Remove the events that end before the cutoff; their number is given back. -/
def purge (s : EventStore) (cutoff : Instant) : Nat × EventStore :=
  let (kept, old) := s.events.partition fun e => cutoff ≤ e.offTime
  (old.length, { s with events := kept })

/-- Note that the reminder of an event was delivered. -/
def markNotified (s : EventStore) (id : Int) : Except StoreError EventStore := do
  let _ ← s.get id
  .ok { s with events := s.events.map fun e =>
    if e.id = id then { e with notified := true } else e }

end EventStore

end Datebook
