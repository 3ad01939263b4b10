import Datebook.Calendar
import Datebook.Proofs.EventStore.Footprint

/-!
# What a request to the calendar may touch

A request to the calendar is refused, or it comes down to one call on the store, within a limit that
no call on the store in memory reaches. An error of the store becomes an error of the calendar, and
success becomes success, so that what the request may touch is what the call may touch: an insertion
the event that is given back, a change or a deletion the event that is named, a view nothing.

## Main definitions

* `Datebook.Calendar.Call`, with `Datebook.Calendar.Call.routine?` and
  `Datebook.Calendar.Call.touches`

## Main results

* `Datebook.Calendar.spares_routine?`
* `Datebook.Calendar.update_run_cases`
-/

namespace Datebook

/-- Running one routine after the other on a service. -/
theorem Routine.run_bind {α β : Type} (r : Routine α) (f : α → Routine β) (s : Service) :
    (r.bind f).run s = (f (r.run s).1).run (r.run s).2 :=
  runWith_bind Service.handler r f s

namespace Calendar

/-- A request to the calendar. -/
inductive Call where
  | insert (e : Event)
  | update (e : Event)
  | delete (id : Int)
  | get (id : Int)
  | all (userId : Int)
  | day (userId : Int) (date : Instant)
  | week (userId : Int) (date : Instant)
  | month (userId : Int) (date : Instant)

namespace Call

/-- What a request gives back where it succeeds. -/
def Reply : Call → Type
  | .insert _ | .get _ => Event
  | .update _ | .delete _ => Unit
  | .all _ | .day _ _ | .week _ _ | .month _ _ => List Event

/-- What is done for a request; there is nothing to be done for a view outside the range. -/
def routine? (cal : Calendar) : (c : Call) → Option (Routine (Except CalendarError c.Reply))
  | .insert e => some (cal.insert e)
  | .update e => some (cal.update e)
  | .delete id => some (cal.delete id)
  | .get id => some (cal.get id)
  | .all userId => some (cal.all userId)
  | .day userId date => cal.day? userId date
  | .week userId date => cal.week? userId date
  | .month userId date => cal.month? userId date

/-- What a request may touch where it succeeds. -/
def touches : (c : Call) → c.Reply → Footprint
  | .insert _, (e : Event) => .fresh e.id
  | .update e, _ => .event e.id
  | .delete id, _ => .event id
  | .get _, _ | .all _, _ | .day _ _, _ | .week _ _, _ | .month _ _, _ => .nothing

end Call

variable {cal : Calendar} {s : Service}

/-! ### Requests on a service -/

/-- The store answers within the limit. -/
theorem bounded_run (cal : Calendar) (operation : String) (c : StoreCall) (s : Service) :
    (cal.bounded operation c).run s =
      (cal.outcome operation (some (s.store.answer c).1),
        { s with store := (s.store.answer c).2 }) :=
  rfl

/-- An insertion is refused, or the event is added under the next id and given back with it. -/
theorem insert_run_cases (cal : Calendar) (e : Event) (s : Service) :
    (∃ err, (cal.insert e).run s = (.error err, s)) ∨
      (cal.insert e).run s = (.ok { e with id := s.store.lastId + 1, notified := false },
        { s with store := s.store.added { e with id := 0, notified := false } }) := by
  rw [insert]
  cases e.validate with
  | error v => exact Or.inl ⟨_, rfl⟩
  | ok u =>
    dsimp only
    rw [Routine.run_bind, bounded_run]
    rcases s.store.answer_insert_cases { e with id := 0, notified := false } with
      ⟨err, hanswer⟩ | hanswer
    · rw [hanswer]
      exact Or.inl ⟨_, rfl⟩
    · rw [hanswer]
      exact Or.inr rfl

/-- A change is refused, or the event with the id, which is not zero, is replaced. -/
theorem update_run_cases (cal : Calendar) (e : Event) (s : Service) :
    (∃ err, (cal.update e).run s = (.error err, s)) ∨
      ∃ old, e.id ≠ 0 ∧ s.store.find? e.id = some old ∧
        (cal.update e).run s = (.ok (), { s with store := s.store.replaced old e }) := by
  cases hvalid : e.validateChange with
  | error v =>
    refine Or.inl ⟨.validation v, ?_⟩
    rw [update, hvalid]
    rfl
  | ok u =>
    have hrun : (cal.update e).run s =
        (cal.outcome "update_event" (some (s.store.answer (.update e)).1),
          { s with store := (s.store.answer (.update e)).2 }) := by
      rw [update, hvalid]
      rfl
    rcases s.store.answer_update_cases e with ⟨err, hanswer⟩ | ⟨old, hold, hanswer⟩
    · rw [hrun, hanswer]
      exact Or.inl ⟨_, rfl⟩
    · rw [hrun, hanswer]
      exact Or.inr ⟨old, (Event.validateChange_eq_ok_iff.mp hvalid).1, hold, rfl⟩

/-- Reading an event leaves the service as it was, and an event that is stored is found. -/
theorem get_run (cal : Calendar) (id : Int) (s : Service) :
    ((cal.get id).run s).2 = s ∧
      ∀ e, id ≠ 0 → s.store.find? id = some e → (cal.get id).run s = (.ok e, s) := by
  by_cases hid : id = 0
  · have hget : cal.get id = .done (.error (.validation .missingId)) := if_pos hid
    rw [hget]
    exact ⟨rfl, fun _ hne => absurd hid hne⟩
  · have hrun : (cal.get id).run s =
        (cal.outcome "get_event_by_id" (some (s.store.get id)), s) :=
      congrArg (Routine.run · s) (show cal.get id = cal.bounded "get_event_by_id" (.get id) from
        if_neg hid)
    refine ⟨congrArg Prod.snd hrun, fun e _ he => ?_⟩
    rw [hrun, EventStore.get_eq_ok_iff.mpr he]
    rfl

/-- Reading all events of a user leaves the service as it was. -/
theorem all_run (cal : Calendar) (userId : Int) (s : Service) :
    ((cal.all userId).run s).2 = s := by
  by_cases huser : userId = 0
  · have hall : cal.all userId = .done (.error (.validation .missingUserId)) := if_pos huser
    rw [hall]
    rfl
  · exact congrArg (fun routine => (Routine.run routine s).2)
      (show cal.all userId = cal.bounded "get_all_events" (.all userId) from if_neg huser)

/-- Reading the events in a span leaves the service as it was. -/
theorem run_of_within {operation : String} {userId : Int} {span : Option Span}
    {routine : Routine (Except CalendarError (List Event))}
    (h : cal.within operation userId span = some routine) : (routine.run s).2 = s := by
  rw [within] at h
  split at h
  · obtain rfl := Option.some.inj h
    rfl
  · obtain ⟨span, -, rfl⟩ := Option.map_eq_some_iff.mp h
    rfl

/-! ### Footprints -/

variable {α : Type} {touches : α → Footprint} {routine : Routine (Except CalendarError α)}

theorem spares_of_run {answer : Except CalendarError α} {after : Service}
    (hrun : routine.run s = (answer, after))
    (h : (Footprint.ofAnswer touches answer).Spares s.store after.store) :
    (Footprint.ofAnswer touches (routine.run s).1).Spares s.store (routine.run s).2.store := by
  rw [hrun]
  exact h

/-- What leaves the service as it was touches nothing. -/
theorem spares_of_snd_eq (htouches : ∀ a, touches a = .nothing) (h : (routine.run s).2 = s) :
    (Footprint.ofAnswer touches (routine.run s).1).Spares s.store (routine.run s).2.store := by
  rw [h]
  cases (routine.run s).1 with
  | error err => exact rfl
  | ok a =>
    rw [Footprint.ofAnswer, htouches]
    exact rfl

/-- **A request touches no more than it is meant to.** -/
theorem spares_routine? (hs : s.store.Sound) {c : Call}
    {routine : Routine (Except CalendarError c.Reply)} (h : c.routine? cal = some routine) :
    (Footprint.ofAnswer c.touches (routine.run s).1).Spares s.store (routine.run s).2.store := by
  cases c with
  | insert e =>
    obtain rfl := Option.some.inj h
    rcases cal.insert_run_cases e s with ⟨err, hrun⟩ | hrun
    · exact spares_of_run hrun rfl
    · exact spares_of_run hrun (hs.spares_added _)
  | update e =>
    obtain rfl := Option.some.inj h
    rcases cal.update_run_cases e s with ⟨err, hrun⟩ | ⟨old, -, -, hrun⟩
    · exact spares_of_run hrun rfl
    · exact spares_of_run hrun (EventStore.spares_replaced old e)
  | delete id =>
    obtain rfl := Option.some.inj h
    exact EventStore.spares_delete id
  | get id =>
    obtain rfl := Option.some.inj h
    exact spares_of_snd_eq (fun _ => rfl) (cal.get_run id s).1
  | all userId =>
    obtain rfl := Option.some.inj h
    exact spares_of_snd_eq (fun _ => rfl) (cal.all_run userId s)
  | day userId date | week userId date | month userId date =>
    exact spares_of_snd_eq (fun _ => rfl) (run_of_within h)

end Calendar

end Datebook
