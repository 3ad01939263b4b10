import Datebook.Http.Router
import Datebook.Proofs.Calendar.Footprint

/-!
# What a request may touch

A response tells what its request may have touched: nothing unless the status reports success, and
then the event that was created, which the body holds, or the one that the path names, whatever id
the body of the request has. Everything that is shown is only read. A change is two requests to the
calendar, of which the second reads what the first has changed; it finds it, so that no request has
changed anything when its response reports a failure.

## Main definitions

* `Datebook.Http.Response.isSuccess`, `Datebook.Http.touches`

## Main results

* `Datebook.Http.spares_respond?`
* `Datebook.Http.every_layer_spares`
-/

namespace Datebook.Http

/-- The status reports success. -/
def Response.isSuccess (response : Response) : Bool :=
  200 ≤ response.status && response.status < 300

/-- The id of the event that the path of a request names. -/
def Request.eventId? (r : Request) : Option Int :=
  match Route.ofPath? r.path with
  | some (.event segment) => (readNumber "id" segment).toOption
  | _ => none

/-- What a request with a response may touch. -/
def touches (r : Request) (response : Response) : Footprint :=
  if response.isSuccess then
    match r.method, r.eventId?, response.content with
    | .post, _, some (.event e) => .fresh e.id
    | .put, some id, _ | .delete, some id, _ => .event id
    | _, _, _ => .nothing
  else .nothing

variable {cal : Calendar} {r : Request} {s : Service} {response : Response}

/-! ### Failures -/

/-- Errors of the calendar are reported as failures. -/
theorem isSuccess_ofError (e : CalendarError) : (Response.ofError e).isSuccess = false := by
  have hstatus : e.status = 400 ∨ e.status = 404 ∨ e.status = 409 ∨ e.status = 500 ∨
      e.status = 504 := by
    cases e with
    | validation v => exact Or.inl rfl
    | store source => cases source <;> simp [CalendarError.status]
    | timedOut operation limit => simp [CalendarError.status]
  have hresponse : (Response.ofError e).status = e.status := rfl
  rw [Response.isSuccess, hresponse]
  rcases hstatus with h | h | h | h | h <;> rw [h] <;> rfl

/-- A body that cannot be read as an event is reported as a failure. -/
theorem isSuccess_of_readEvent_eq_error (h : r.readEvent = .error response) :
    response.isSuccess = false := by
  rw [Request.readEvent] at h
  split at h
  · exact (Except.error.inj h) ▸ rfl
  split at h
  · exact (Except.error.inj h) ▸ rfl
  split at h
  · simp at h
  · exact (Except.error.inj h) ▸ rfl
  · exact (Except.error.inj h) ▸ rfl

theorem touches_of_failure (h : response.isSuccess = false) : touches r response = .nothing := by
  simp [touches, h]

theorem spares_of_failure (h : response.isSuccess = false) (store : EventStore) :
    (touches r response).Spares store store := by
  rw [touches_of_failure h]
  rfl

/-- A request that reads touches nothing. -/
theorem touches_of_read (h : r.method ≠ .post ∧ r.method ≠ .put ∧ r.method ≠ .delete) :
    touches r response = .nothing := by
  obtain ⟨hpost, hput, hdelete⟩ := h
  rw [touches]
  split
  · split <;> simp_all
  · rfl

/-! ### Reading -/

/-- A result of the calendar is given its response. -/
theorem conclude_run {α : Type} (ok : α → Response) (routine : Routine (Except CalendarError α))
    (s : Service) :
    (conclude ok routine).run s =
      (match (routine.run s).1 with
        | .ok a => ok a
        | .error e => .ofError e, (routine.run s).2) := by
  rw [conclude, Routine.run_bind]
  cases (routine.run s).1 <;> rfl

/-- A view of a user's events leaves the service as it was. -/
theorem view?_run {userId : Int} {view : View} {date : Instant}
    {routine : Routine (Except CalendarError (List Event))}
    (h : view? cal userId view date = some routine) : (routine.run s).2 = s := by
  cases view with
  | all =>
    obtain rfl := Option.some.inj h
    exact cal.all_run userId s
  | day | week | month => exact Calendar.run_of_within h

theorem list?_run {userId : Int} {view : View} {routine : Routine Response}
    (h : list? cal userId view r = some routine) : (routine.run s).2 = s := by
  have hlisted {listed : Routine (Except CalendarError (List Event))}
      (hlisted : (listed.run s).2 = s) :
      ((conclude (fun es => .withContent 200 (.events es)) listed).run s).2 = s := by
    rw [conclude_run]
    exact hlisted
  cases view with
  | all =>
    obtain rfl := Option.some.inj h
    exact hlisted (cal.all_run userId s)
  | day | week | month =>
    simp only [list?] at h
    split at h
    · obtain rfl := Option.some.inj h
      rfl
    · obtain ⟨listed, hview, rfl⟩ := Option.map_eq_some_iff.mp h
      exact hlisted (view?_run hview)

/-- A number in the path is read, or the request is answered at once. -/
theorem withNumber_cases {name segment : String} {go : Int → Option (Routine Response)}
    {routine : Routine Response} (h : withNumber name segment go = some routine) :
    (∃ response, readNumber name segment = .error response ∧ routine = .done response) ∨
      ∃ n, readNumber name segment = .ok n ∧ go n = some routine := by
  rw [withNumber] at h
  split at h
  · next response hread => exact Or.inl ⟨response, hread, (Option.some.inj h).symm⟩
  · next n hread => exact Or.inr ⟨n, hread, h⟩

/-- Showing what a route holds leaves the service as it was. -/
theorem show?_run {route : Route} {routine : Routine Response}
    (h : show? cal r route = some routine) : (routine.run s).2 = s := by
  cases route with
  | health | events =>
    obtain rfl := Option.some.inj h
    rfl
  | event segment =>
    rcases withNumber_cases h with ⟨response, -, rfl⟩ | ⟨id, -, hfetch⟩
    · rfl
    · obtain rfl := Option.some.inj hfetch
      rw [fetch, conclude_run]
      exact (cal.get_run id s).1
  | ofUser segment view =>
    rcases withNumber_cases h with ⟨response, -, rfl⟩ | ⟨userId, -, hlist⟩
    · rfl
    · exact list?_run hlist

/-! ### Changing -/

/-- Creating an event adds it under the id that the response gives. -/
theorem spares_create (hs : s.store.Sound) (hmethod : r.method = .post) :
    (touches r ((create cal r).run s).1).Spares s.store ((create cal r).run s).2.store := by
  rw [create]
  cases hbody : r.readEvent with
  | error response => exact spares_of_failure (isSuccess_of_readEvent_eq_error hbody) s.store
  | ok e =>
    dsimp only
    rw [conclude_run]
    rcases cal.insert_run_cases e s with ⟨err, hrun⟩ | hrun
    · rw [hrun]
      exact spares_of_failure (isSuccess_ofError err) s.store
    · rw [hrun]
      simp only [touches, hmethod]
      exact hs.spares_added _

/-- Replacing an event is refused and changes nothing, or is done and shown. -/
theorem replace_run_cases (cal : Calendar) (id : Int) (r : Request) (s : Service) :
    (∃ response, response.isSuccess = false ∧ (replace cal id r).run s = (response, s)) ∨
      ∃ old e : Event, id ≠ 0 ∧ r.readEvent = .ok e ∧ s.store.find? id = some old ∧
        (replace cal id r).run s =
          (.withContent 200 (.event (EventStore.replacing old { e with id := id })),
            { s with store := s.store.replaced old { e with id := id } }) := by
  cases hbody : r.readEvent with
  | error response =>
    refine Or.inl ⟨response, isSuccess_of_readEvent_eq_error hbody, ?_⟩
    rw [replace, hbody]
    rfl
  | ok e =>
    rw [replace, hbody]
    dsimp only
    rw [Routine.run_bind]
    rcases cal.update_run_cases { e with id := id } s with
      ⟨err, hrun⟩ | ⟨old, hid, hold, hrun⟩
    · rw [hrun]
      exact Or.inl ⟨_, isSuccess_ofError err, rfl⟩
    · rw [hrun]
      refine Or.inr ⟨old, e, hid, rfl, hold, ?_⟩
      -- What was changed is found again under its id.
      have hfound : (s.store.replaced old { e with id := id }).find? id =
          some (EventStore.replacing old { e with id := id }) :=
        EventStore.find?_replaced hold
      have hget := (cal.get_run id
        { s with store := s.store.replaced old { e with id := id } }).2 _ hid hfound
      have hfetch := conclude_run (fun e => .withContent 200 (.event e)) (cal.get id)
        { s with store := s.store.replaced old { e with id := id } }
      rw [hget] at hfetch
      exact hfetch

/-- Replacing an event leaves all but the named one as they were. -/
theorem spares_replace {id : Int} (hmethod : r.method = .put) (hid : r.eventId? = some id) :
    (touches r ((replace cal id r).run s).1).Spares s.store
      ((replace cal id r).run s).2.store := by
  rcases replace_run_cases cal id r s with
    ⟨response, hfailure, hrun⟩ | ⟨old, e, -, -, -, hrun⟩
  · rw [hrun]
    exact spares_of_failure hfailure s.store
  · rw [hrun]
    simp only [touches, hmethod, hid]
    exact EventStore.spares_replaced old _

/-- Removing an event, which is always done, leaves all others as they were. -/
theorem spares_remove {id : Int} (hmethod : r.method = .delete) (hid : r.eventId? = some id) :
    (touches r ((remove cal id).run s).1).Spares s.store ((remove cal id).run s).2.store := by
  have hrun : (remove cal id).run s = (.noContent, { s with store := s.store.delete id }) := rfl
  rw [hrun]
  simp only [touches, hmethod, hid]
  exact EventStore.spares_delete id

/-- A request that names no event in its path neither changes nor removes one. -/
theorem touches_of_eventId?_eq_none (hmethod : r.method ≠ .post) (h : r.eventId? = none) :
    touches r response = .nothing := by
  rw [touches]
  split
  · split <;> simp_all
  · rfl

/-- A request that changes an event leaves all but the named one as they were if whatever is done
under the id in its path does. Where no id can be read it is answered at once. -/
theorem spares_named {segment : String} {go : Int → Option (Routine Response)}
    {routine : Routine Response} (hroute : Route.ofPath? r.path = some (.event segment))
    (hmethod : r.method ≠ .post) (h : withNumber "id" segment go = some routine)
    (hgo : ∀ id, r.eventId? = some id → go id = some routine →
      (touches r (routine.run s).1).Spares s.store (routine.run s).2.store) :
    (touches r (routine.run s).1).Spares s.store (routine.run s).2.store := by
  have hid : r.eventId? = (readNumber "id" segment).toOption := by
    rw [Request.eventId?, hroute]
  rcases withNumber_cases h with ⟨response, hread, rfl⟩ | ⟨id, hread, hdone⟩
  · rw [hread] at hid
    dsimp only [Routine.run, Routine.runWith]
    rw [touches_of_eventId?_eq_none hmethod hid]
    rfl
  · rw [hread] at hid
    exact hgo id hid hdone

/-- **A request touches no more than it is meant to.** -/
theorem spares_respond? (hs : s.store.Sound) {routine : Routine Response}
    (h : respond? cal r = some routine) :
    (touches r (routine.run s).1).Spares s.store (routine.run s).2.store := by
  rw [respond?] at h
  cases hroute : Route.ofPath? r.path with
  | none =>
    rw [hroute] at h
    obtain rfl := Option.some.inj h
    exact spares_of_failure rfl s.store
  | some route =>
    rw [hroute] at h
    dsimp only at h
    rw [handle?.eq_def] at h
    split at h
    · next hmethod =>
      rw [touches_of_read (by simp [hmethod])]
      exact congrArg Service.store (show?_run h)
    · next hmethod =>
      obtain ⟨shown, hshown, rfl⟩ := Option.map_eq_some_iff.mp h
      rw [touches_of_read (by simp [hmethod]), Routine.run_bind]
      exact congrArg Service.store (show?_run hshown)
    · next hmethod =>
      obtain rfl := Option.some.inj h
      exact spares_create hs hmethod
    · next segment hmethod =>
      refine spares_named hroute (by simp [hmethod]) h fun id hid hdone => ?_
      obtain rfl := Option.some.inj hdone
      exact spares_replace hmethod hid
    · next segment hmethod =>
      refine spares_named hroute (by simp [hmethod]) h fun id hid hdone => ?_
      obtain rfl := Option.some.inj hdone
      exact spares_remove hmethod hid
    · obtain rfl := Option.some.inj h
      exact spares_of_failure rfl s.store

/-- **Errors leave everything as it was, and operations touch only their own event.** On a store
that any calls have built up from the empty one this holds of a call on the store, of a request to
the calendar, whatever its limit, and of a request with any method, path, query and body. What
answers with an error, or with a status that does not report success, leaves all events and the last
id as they were, and so does whatever only reads. An insertion or a POST adds an event under an id
that was not there. A change, a deletion and a mark leave all events but the named one identical and
the last id as it was; a PUT and a DELETE name the event in the path. -/
theorem every_layer_spares (calls : List StoreCall) (rest : Service) :
    let s : Service := { rest with store := ({} : EventStore).run calls }
    (∀ c : StoreCall,
        (Footprint.ofAnswer c.touches (s.store.answer c).1).Spares s.store (s.store.answer c).2) ∧
      (∀ (cal : Calendar) (c : Calendar.Call) routine, c.routine? cal = some routine →
        (Footprint.ofAnswer c.touches (routine.run s).1).Spares s.store
          (routine.run s).2.store) ∧
      ∀ (cal : Calendar) (r : Request) routine, respond? cal r = some routine →
        (touches r (routine.run s).1).Spares s.store (routine.run s).2.store := by
  intro s
  have hs : s.store.Sound := EventStore.sound_empty.run calls
  exact ⟨fun c => hs.spares_answer c, fun cal c routine => Calendar.spares_routine? hs,
    fun cal r routine => spares_respond? hs⟩

/-- Two events, of which each has an hour to itself, on 2024-06-03 and the day after it. -/
def twoHours : List StoreCall :=
  let hour (day : Int) (second : Nat) : Instant := (Instant.of? day second 0).getD .epoch
  [.insert
    { userId := 1
      title := "first"
      onTime := hour 19877 0
      offTime := hour 19877 3600 },
   .insert
    { userId := 1
      title := "second"
      onTime := hour 19878 0
      offTime := hour 19878 3600 }]

/-- A request to move the first event, with the id of the second in its body. -/
def misleading : Request :=
  .ofTarget .put "/v1/events/1" (some "application/json") (Json.bytesOf
    ("\x7b\"id\":2,\"userId\":1,\"title\":\"moved\",\"onTime\":\"2024-06-05T00:00:00Z\"," ++
      "\"offTime\":\"2024-06-05T01:00:00Z\"\x7d"))

/-- The misleading request moves the first event and spares the second, and a deletion of the second
spares the first. -/
theorem misleading_spares :
    let s : Service := { store := ({} : EventStore).run twoHours }
    s.store.events.map Event.id = [1, 2] ∧
      (∃ routine, respond? {} misleading = some routine ∧
        (routine.run s).1.status = 200 ∧ touches misleading (routine.run s).1 = .event 1 ∧
        (Footprint.event 1).Spares s.store (routine.run s).2.store) ∧
      ∃ routine, (Calendar.Call.delete 2).routine? {} = some routine ∧
        (Footprint.event 2).Spares s.store (routine.run s).2.store := by
  intro s
  have hresponse : respond? {} misleading = some (replace {} 1 misleading) := rfl
  have hdone : ((replace {} 1 misleading).run s).1.status = 200 ∧
      touches misleading ((replace {} 1 misleading).run s).1 = .event 1 := by
    decide +kernel
  obtain ⟨-, hcalendar, hhttp⟩ := every_layer_spares twoHours {}
  have hmoved := hhttp {} misleading _ hresponse
  rw [hdone.2] at hmoved
  have hdeleted := hcalendar {} (.delete 2) _ rfl
  exact ⟨by decide, ⟨_, hresponse, hdone.1, hdone.2, hmoved⟩, _, rfl, hdeleted⟩

end Datebook.Http
