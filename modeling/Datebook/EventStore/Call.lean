import Datebook.EventStore

/-!
# Calls on an event store

The operations of a store as data, each with the type of its reply. The store in memory
answers them at once; connecting to it and closing it have no effect.

## Main definitions

* `Datebook.StoreCall`, `Datebook.StoreCall.Reply`
* `Datebook.EventStore.answer`: the reply of the store in memory, and the store after it
-/

namespace Datebook

/-- An operation of an event store. -/
inductive StoreCall where
  | connect
  | close
  | insert (event : Event)
  | update (event : Event)
  | delete (id : Int)
  | get (id : Int)
  | all (userId : Int)
  | range (userId : Int) (span : Span)
  | busy (exclude userId : Int) (span : Span)
  | due (asOf : Instant)
  | purge (cutoff : Instant)
  | markNotified (id : Int)
  deriving DecidableEq

/-- What a call gives back where it succeeds. -/
def StoreCall.Reply : StoreCall → Type
  | .connect | .close | .update _ | .delete _ | .busy _ _ _ | .markNotified _ => Unit
  | .insert _ => Int
  | .get _ => Event
  | .all _ | .range _ _ | .due _ => List Event
  | .purge _ => Nat

namespace EventStore

/-- A new state with nothing else to give back, where an operation succeeded. -/
def orUnchanged (s : EventStore) : Except StoreError EventStore → Except StoreError Unit × EventStore
  | .ok t => (.ok (), t)
  | .error e => (.error e, s)

/-- The reply to a call, and the store after it. -/
def answer (s : EventStore) : (c : StoreCall) → Except StoreError c.Reply × EventStore
  | .connect => (.ok (), s)
  | .close => (.ok (), s)
  | .insert e =>
    match s.insert e with
    | .ok (id, t) => (.ok id, t)
    | .error e => (.error e, s)
  | .update e => s.orUnchanged (s.update e)
  | .delete id => (.ok (), s.delete id)
  | .get id => (s.get id, s)
  | .all userId => (.ok (s.ofUser userId), s)
  | .range userId span => (.ok (s.inRange userId span), s)
  | .busy exclude userId span => (s.checkFree exclude userId span, s)
  | .due asOf => (.ok (s.due asOf), s)
  | .purge cutoff => (.ok (s.purge cutoff).1, (s.purge cutoff).2)
  | .markNotified id => s.orUnchanged (s.markNotified id)

end EventStore

end Datebook
