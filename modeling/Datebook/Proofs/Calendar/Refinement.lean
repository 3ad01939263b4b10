import Datebook.Database.Pool
import Datebook.Proofs.Calendar.Footprint
import Datebook.Proofs.EventStore.Acceptance

/-!
# The calendar and its store

The calendar checks an event before it asks the store, and the store checks it again, after the
calendar has set the fields that no client decides. Both checks come to the same, because no rule
reads these fields; so a request to the calendar has the outcome and the effect of the operation of
the store that it stands for, with an error of the store turned into one of the calendar. What the
calendar refuses by itself is only a zero id or a zero user where something is looked up, and then
the store is not asked at all.

A store in a database that was never reached checks events by the same rules, and does so before it
needs a connection.

## Main definitions

* `Datebook.EventStore.insertAndGet`: an insertion, with the event as it is then found.
* `Datebook.Calendar.Call.refusal?`: what the calendar refuses without asking the store.
* `Datebook.Calendar.Call.onStore?`: what a request comes to on the store alone.
* `Datebook.Routine.Ends`: what a routine comes to, however its calls are answered.

## Main results

* `Datebook.Calendar.run_eq_onStore?`
* `Datebook.Calendar.ends_routine?`
* `Datebook.Calendar.refines_store`
-/

namespace Datebook

/-! ### However calls are answered -/

namespace Routine

variable {α β : Type}

/-- However its calls are answered and whichever limits strike, a routine ends with a value of a
kind. -/
def Ends (kind : α → Prop) : Routine α → Prop
  | .done a => kind a
  | .call _ next => ∀ o, (next o).Ends kind
  | .within _ _ next => ∀ o, (next o).Ends kind
  | .enter _ next => next.Ends kind

theorem Ends.bind {kind : α → Prop} {kind' : β → Prop} {r : Routine α} (hr : r.Ends kind)
    {f : α → Routine β} (hf : ∀ a, kind a → (f a).Ends kind') : (r.bind f).Ends kind' := by
  induction r with
  | done a => exact hf a hr
  | call c next ih => exact fun o => ih o (hr o)
  | within limit c next ih => exact fun o => ih o (hr o)
  | enter phase next ih => exact ih hr

end Routine

namespace EventStore

/-- Store a new event and look it up under the id that it was given. -/
def insertAndGet (s : EventStore) (e : Event) : Except StoreError Event × EventStore :=
  match s.answer (.insert e) with
  | (.ok (id : Int), t) => (t.get id, t)
  | (.error err, t) => (.error err, t)

/-- An insertion is refused, or the event is added and found as it was inserted. -/
theorem Sound.insertAndGet_cases {s : EventStore} (h : s.Sound) (e : Event) :
    (∃ err, s.answer (.insert e) = (.error err, s) ∧ s.insertAndGet e = (.error err, s)) ∨
      s.answer (.insert e) = (.ok (s.lastId + 1), s.added e) ∧
        s.insertAndGet e =
          (.ok { e with id := s.lastId + 1, notified := false }, s.added e) := by
  rcases s.answer_insert_cases e with ⟨err, hanswer⟩ | hanswer
  · exact Or.inl ⟨err, hanswer, by rw [insertAndGet, hanswer]⟩
  · refine Or.inr ⟨hanswer, ?_⟩
    rw [insertAndGet, hanswer]
    exact congrArg (·, s.added e) (h.get_added e)

end EventStore

namespace Database.RemoteStore

variable {remote : RemoteStore} {α : Type} {check : Except Violation Unit}

/-- What is checked first is refused whether or not a server can be reached. -/
theorem checked?_eq_validation_iff {v : Violation} :
    (remote.checked? check : Option (Except StoreError α)) = some (.error (.validation v)) ↔
      check = .error v := by
  cases check with
  | error w => simp [checked?]
  | ok u =>
    rw [checked?, query?]
    split <;> simp

/-- What passes the check gets as far as the pool. -/
theorem checked?_of_closed (hclosed : remote.closed = true)
    (hcheck : ∀ v, check ≠ .error v) :
    (remote.checked? check : Option (Except StoreError α)) =
      some (.error (.database closedPool)) := by
  cases check with
  | error v => exact absurd rfl (hcheck v)
  | ok u => rw [checked?, query?, if_pos hclosed]

end Database.RemoteStore

namespace Calendar

open Database (RemoteStore closedPool)

namespace Call

/-- What the calendar refuses without asking the store: to look for an event without an id, or for
the events of nobody. -/
def refusal? : Call → Option Violation
  | .get id => if id = 0 then some .missingId else none
  | .all userId | .day userId _ | .week userId _ | .month userId _ =>
    if userId = 0 then some .missingUserId else none
  | .insert _ | .update _ | .delete _ => none

/-- The outcome of a request on the store alone, and the store after it. There is none for a view
that is no span. -/
def onStore? (s : EventStore) : (c : Call) → Option (Except StoreError c.Reply × EventStore)
  | .insert e => some (s.insertAndGet e)
  | .update e => some (s.answer (.update e))
  | .delete id => some (s.answer (.delete id))
  | .get id => some (s.answer (.get id))
  | .all userId => some (s.answer (.all userId))
  | .day userId date => (Span.day? date).map fun span => s.answer (.range userId span)
  | .week userId date => (Span.week? date).map fun span => s.answer (.range userId span)
  | .month userId date => some (s.answer (.range userId (Span.month date)))

end Call

variable {cal : Calendar} {s : Service}

/-- An outcome of the store, as one of the calendar on a service with the store after it. -/
def concluded {α : Type} (s : Service) (done : Except StoreError α × EventStore) :
    Except CalendarError α × Service :=
  (done.1.mapError .ofStore, { s with store := done.2 })

theorem outcome_some {α : Type} (cal : Calendar) (operation : String) (o : Except StoreError α) :
    cal.outcome operation (some o) = o.mapError .ofStore := by
  cases o <;> rfl

/-! ### Requests and operations -/

theorem get_eq_bounded (cal : Calendar) {id : Int} (hid : id ≠ 0) :
    cal.get id = cal.bounded "get_event_by_id" (.get id) :=
  if_neg hid

theorem all_eq_bounded (cal : Calendar) {userId : Int} (huser : userId ≠ 0) :
    cal.all userId = cal.bounded "get_all_events" (.all userId) :=
  if_neg huser

theorem within_eq_bounded (cal : Calendar) {userId : Int} (huser : userId ≠ 0) (operation : String)
    (span : Option Span) :
    cal.within operation userId span =
      span.map fun span => cal.bounded operation (.range userId span) :=
  if_neg huser

/-- A call on the store within the limit has the outcome and the effect of the call. -/
theorem bounded_run_eq (cal : Calendar) (operation : String) (c : StoreCall) (s : Service) :
    (cal.bounded operation c).run s = concluded s (s.store.answer c) := by
  rw [bounded_run, outcome_some]
  rfl

/-- An insertion gives back the event that is then found. -/
theorem insert_run_eq (hs : s.store.Sound) (cal : Calendar) (e : Event) :
    (cal.insert e).run s = concluded s (s.store.insertAndGet e) := by
  -- No rule reads the fields that the calendar sets, and the store sets them once more.
  have hfresh : s.store.answer (.insert { e with id := 0, notified := false }) =
      s.store.answer (.insert e) := rfl
  cases hvalid : e.validate with
  | error v =>
    have hrefused := EventStore.answer_insert_validation_iff (s := s.store).mpr hvalid
    rcases hs.insertAndGet_cases e with ⟨err, hanswer, hget⟩ | ⟨hanswer, -⟩
    · rw [hanswer] at hrefused
      obtain rfl := Except.error.inj hrefused
      rw [insert, hvalid, hget]
      rfl
    · simp [hanswer] at hrefused
  | ok u =>
    rw [insert, hvalid]
    dsimp only
    rw [Routine.run_bind, bounded_run, hfresh]
    rcases hs.insertAndGet_cases e with ⟨err, hanswer, hget⟩ | ⟨hanswer, hget⟩
    · rw [hanswer, hget]
      rfl
    · rw [hanswer, hget]
      rfl

/-- The rules that the calendar checks are those of the store. -/
theorem update_run_eq (cal : Calendar) (e : Event) (s : Service) :
    (cal.update e).run s = concluded s (s.store.answer (.update e)) := by
  cases hvalid : e.validateChange with
  | error v =>
    have hrefused := EventStore.answer_update_validation_iff (s := s.store).mpr hvalid
    rcases s.store.answer_update_cases e with ⟨err, hanswer⟩ | ⟨old, -, hanswer⟩
    · rw [hanswer] at hrefused
      obtain rfl := Except.error.inj hrefused
      rw [update, hvalid, hanswer]
      rfl
    · simp [hanswer] at hrefused
  | ok u =>
    rw [update, hvalid]
    exact cal.bounded_run_eq "update_event" (.update e) s

/-- What the calendar does not refuse by itself comes to the same as on the store alone. -/
theorem run_eq_onStore? (hs : s.store.Sound) (cal : Calendar) {c : Call} (h : c.refusal? = none) :
    (c.routine? cal).map (·.run s) = (c.onStore? s.store).map (concluded s) := by
  have hview {operation : String} {userId : Int} (span : Option Span)
      (huser : (if userId = 0 then some Violation.missingUserId else none) = none) :
      (cal.within operation userId span).map (·.run s) =
        (span.map fun span => s.store.answer (.range userId span)).map (concluded s) := by
    rw [cal.within_eq_bounded (by simpa using huser)]
    cases span with
    | none => rfl
    | some span => exact congrArg some (cal.bounded_run_eq operation (.range userId span) s)
  cases c with
  | insert e => exact congrArg some (insert_run_eq hs cal e)
  | update e => exact congrArg some (cal.update_run_eq e s)
  | delete id => exact congrArg some (cal.bounded_run_eq "delete_event" (.delete id) s)
  | get id =>
    rw [Call.routine?, cal.get_eq_bounded (by simpa [Call.refusal?] using h)]
    exact congrArg some (cal.bounded_run_eq "get_event_by_id" (.get id) s)
  | all userId =>
    rw [Call.routine?, cal.all_eq_bounded (by simpa [Call.refusal?] using h)]
    exact congrArg some (cal.bounded_run_eq "get_all_events" (.all userId) s)
  | day userId date => exact hview (Span.day? date) h
  | week userId date => exact hview (Span.week? date) h
  | month userId date => exact hview (some (Span.month date)) h

/-- What the calendar refuses by itself is refused before any call. -/
theorem routine?_of_refusal? {cal : Calendar} {c : Call} {v : Violation}
    (h : c.refusal? = some v) : c.routine? cal = some (.done (.error (.validation v))) := by
  cases c with
  | insert | update | delete => simp [Call.refusal?] at h
  | get id =>
    obtain ⟨hid, rfl⟩ : id = 0 ∧ .missingId = v := by simpa [Call.refusal?] using h
    exact congrArg some (if_pos hid)
  | all userId =>
    obtain ⟨huser, rfl⟩ : userId = 0 ∧ .missingUserId = v := by simpa [Call.refusal?] using h
    exact congrArg some (if_pos huser)
  | day userId date | week userId date | month userId date =>
    obtain ⟨huser, rfl⟩ : userId = 0 ∧ .missingUserId = v := by simpa [Call.refusal?] using h
    exact if_pos huser

/-! ### No violation is reported as an error of the store -/

/-- The error is not a violation that the store reports. -/
def NotStoreViolation {α : Type} (o : Except CalendarError α) : Prop :=
  ∀ v, o ≠ .error (.store (.validation v))

theorem notStoreViolation_outcome {α : Type} (cal : Calendar) (operation : String)
    (o : Option (Except StoreError α)) : NotStoreViolation (cal.outcome operation o) := by
  intro v
  match o with
  | none => simp [outcome]
  | some (.ok a) => simp [outcome]
  | some (.error err) => cases err <;> simp [outcome, CalendarError.ofStore]

theorem ends_bounded (cal : Calendar) (operation : String) (c : StoreCall) :
    (cal.bounded operation c).Ends NotStoreViolation :=
  fun o => notStoreViolation_outcome cal operation o

theorem ends_refused {α : Type} (v : Violation) :
    (Routine.done (.error (.validation v)) : Routine (Except CalendarError α)).Ends
      NotStoreViolation := by
  intro w
  simp

theorem ends_within {operation : String} {userId : Int} {span : Option Span}
    {routine : Routine (Except CalendarError (List Event))}
    (h : cal.within operation userId span = some routine) : routine.Ends NotStoreViolation := by
  rw [within] at h
  split at h
  · obtain rfl := Option.some.inj h
    exact ends_refused _
  · obtain ⟨span, -, rfl⟩ := Option.map_eq_some_iff.mp h
    exact cal.ends_bounded operation (.range userId span)

/-- Whatever the store is and however long it takes, a violation that it reports is reported as the
calendar's own. -/
theorem ends_routine? {c : Call} {routine : Routine (Except CalendarError c.Reply)}
    (h : c.routine? cal = some routine) : routine.Ends NotStoreViolation := by
  cases c with
  | insert e =>
    obtain rfl := Option.some.inj h
    rw [insert]
    cases e.validate with
    | error v => exact ends_refused v
    | ok u =>
      refine (cal.ends_bounded "insert_event" _).bind ?_
      rintro (err | id) hkind
      · exact fun v hv => hkind v (congrArg _ (Except.error.inj hv))
      · rintro v ⟨⟩
  | update e =>
    obtain rfl := Option.some.inj h
    rw [update]
    cases e.validateChange with
    | error v => exact ends_refused v
    | ok u => exact cal.ends_bounded "update_event" (.update e)
  | delete id =>
    obtain rfl := Option.some.inj h
    exact cal.ends_bounded "delete_event" (.delete id)
  | get id =>
    obtain rfl := Option.some.inj h
    by_cases hid : id = 0
    · have hget : cal.get id = .done (.error (.validation .missingId)) := if_pos hid
      exact hget ▸ ends_refused _
    · exact cal.get_eq_bounded hid ▸ cal.ends_bounded "get_event_by_id" (.get id)
  | all userId =>
    obtain rfl := Option.some.inj h
    by_cases huser : userId = 0
    · have hall : cal.all userId = .done (.error (.validation .missingUserId)) := if_pos huser
      exact hall ▸ ends_refused _
    · exact cal.all_eq_bounded huser ▸ cal.ends_bounded "get_all_events" (.all userId)
  | day userId date | week userId date | month userId date => exact ends_within h

/-- **The calendar refines its store.** After any calls on an empty store, a request to the calendar
that does not look for a zero id or the events of the user zero has the outcome and the effect of
the operation of the store that it stands for, an error of the store being turned into one of the
calendar: an insertion gives back the event that is then found under its id, and a view the events
in its span, or there is none because its span leaves the range. The other requests are refused
without any call. Whatever the store answers, and if it does not answer in time, no request ends
with a violation wrapped as an error of the store. A store in a database refuses the same insertions
and changes by the same rules, whether or not a server can be reached, and on a closed pool all
others only for want of a connection. -/
theorem refines_store (calls : List StoreCall) (rest : Service) (cal : Calendar) :
    let s : Service := { rest with store := ({} : EventStore).run calls }
    (∀ c : Call, c.refusal? = none →
        (c.routine? cal).map (·.run s) = (c.onStore? s.store).map (concluded s)) ∧
      (∀ (c : Call) (v : Violation), c.refusal? = some v →
        c.routine? cal = some (.done (.error (.validation v)))) ∧
      (∀ (c : Call) routine, c.routine? cal = some routine →
        routine.Ends NotStoreViolation) ∧
      ∀ (remote : RemoteStore) (e : Event),
        (∀ v, (remote.answer? (.insert e)).1 = some (.error (.validation v)) ↔
          (s.store.answer (.insert e)).1 = .error (.validation v)) ∧
        (∀ v, (remote.answer? (.update e)).1 = some (.error (.validation v)) ↔
          (s.store.answer (.update e)).1 = .error (.validation v)) ∧
        (remote.closed = true →
          ((∀ v, (s.store.answer (.insert e)).1 ≠ .error (.validation v)) →
            (remote.answer? (.insert e)).1 = some (.error (.database closedPool))) ∧
          ((∀ v, (s.store.answer (.update e)).1 ≠ .error (.validation v)) →
            (remote.answer? (.update e)).1 = some (.error (.database closedPool)))) := by
  intro s
  have hs : s.store.Sound := EventStore.sound_empty.run calls
  refine ⟨fun c => run_eq_onStore? hs cal, fun c v => routine?_of_refusal?,
    fun c routine => ends_routine?, fun remote e => ⟨fun v => ?_, fun v => ?_, fun hclosed => ?_⟩⟩
  · rw [EventStore.answer_insert_validation_iff]
    exact RemoteStore.checked?_eq_validation_iff
  · rw [EventStore.answer_update_validation_iff]
    exact RemoteStore.checked?_eq_validation_iff
  · simp only [ne_eq, EventStore.answer_insert_validation_iff,
      EventStore.answer_update_validation_iff]
    exact ⟨RemoteStore.checked?_of_closed hclosed, RemoteStore.checked?_of_closed hclosed⟩

end Calendar

end Datebook
