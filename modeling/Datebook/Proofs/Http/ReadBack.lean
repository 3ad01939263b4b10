import Datebook.Proofs.Calendar.Refinement
import Datebook.Proofs.Event.WrittenForm
import Datebook.Proofs.EventStore.Undisturbed
import Datebook.Proofs.Http.Paths
import Datebook.Proofs.Service.Answers

/-!
# Reading back what was written

The response to a POST is made from the event in the body and the id that was given out, that to a
PUT is read from the store. Either is the written form of the event that is then stored, with the id
that it has there; so the event in the body is read from it again, and every later GET for that id
repeats it byte for byte, whoever makes whatever calls in between, until one changes or removes the
event. A mark changes the stored event but not what is written of it.

## Main definitions

* `Datebook.Http.Request.IsPost`
* `Datebook.Http.Response.bodyText`
* `Datebook.Http.Repeats`: later requests for an event are answered by the same body.

## Main results

* `Datebook.Http.repeats_of_find?`
* `Datebook.Http.create_run_cases`
* `Datebook.Http.reads_back_what_was_written`
-/

namespace Datebook

/-- Whatever a routine does on a service, its store has answered some calls. -/
theorem Routine.exists_store_run {α : Type} (routine : Routine α) (s : Service) :
    ∃ calls, (routine.run s).2.store = s.store.run calls := by
  have hcall (s : Service) (c : Call) : ∃ calls, (s.answer c).2.store = s.store.run calls := by
    cases c with
    | store c => exact ⟨[c], rfl⟩
    | channel c =>
      refine ⟨[], ?_⟩
      rw [Service.answer]
      rcases s.answerChannel_cases c with ⟨_, _, -, -, hsame⟩ | ⟨_, _, -, hsame⟩ | ⟨hsame, -⟩
      · rw [hsame]
        rfl
      · rw [hsame]
        rfl
      · exact hsame
  induction routine generalizing s with
  | done a => exact ⟨[], rfl⟩
  | enter phase next ih => exact ih { s with phase }
  | call c next ih | within limit c next ih =>
    obtain ⟨calls, hanswer⟩ := hcall s c
    obtain ⟨more, hrest⟩ := ih _ (s.answer c).2
    exact ⟨calls ++ more, by rw [EventStore.run_append, ← hanswer]; exact hrest⟩

/-- Routines keep the store of a service sound. -/
theorem EventStore.Sound.routine {α : Type} {s : Service} (hs : s.store.Sound)
    (routine : Routine α) : (routine.run s).2.store.Sound := by
  obtain ⟨calls, hcalls⟩ := routine.exists_store_run s
  exact hcalls ▸ hs.run calls

namespace Http

open Json (bytesOf inWord)

variable {cal : Calendar} {r : Request} {s : Service}

/-! ### Bodies -/

/-- The text of a body, if there is one. -/
def Response.bodyText (response : Response) : Option String :=
  response.content.map Content.body

/-- The event in a body is read where the body is announced as JSON and short enough. -/
theorem readEvent_eq_ok_iff {e : Event} :
    r.readEvent = .ok e ↔ r.contentType.any isJsonType = true ∧ r.body.length ≤ maxBodyLength ∧
      Event.decode r.body = .ok e := by
  rw [Request.readEvent]
  cases htype : r.contentType.any isJsonType with
  | false => simp
  | true =>
    by_cases hlong : maxBodyLength < r.body.length
    · simp [hlong, Nat.not_le.mpr hlong]
    · cases hdecode : Event.decode r.body with
      | ok d => simp [hlong, Nat.not_lt.mp hlong]
      | error err => cases err <;> simp [hlong]

/-- An event that was read is read again from its written form under another id. -/
theorem decode_encode_withId {bs : Json.Bytes} {e d : Event} {id : Int}
    (hdecode : Event.decode bs = .ok e) (hid : inWord id = true)
    (hd : { d with notified := false } = { e with id := id, notified := false }) :
    Event.decode (bytesOf d.encode) = .ok { e with id := id, notified := false } := by
  obtain ⟨hrepresentable, -⟩ := Event.representable_of_decode hdecode
  have hwithId : ({ e with id := id } : Event).Representable := { hrepresentable with id := hid }
  have hsame : d.encode = ({ e with id := id } : Event).encode := Event.encode_of_eq hd
  rw [hsame, Event.decode_encode hid hwithId.userId, Event.asWritten_of_representable hwithId]

/-! ### Later requests -/

/-- Whatever calls a store answers, as long as none disturbs the event with an id, a GET for that
event is answered with the same body. -/
def Repeats (s : Service) (id : Int) (body : String) : Prop :=
  ∀ calls, s.store.Undisturbed id calls →
    ∀ (later : Service) (cal : Calendar) (r : Request), later.store = s.store.run calls →
      r.method = .get → r.eventId? = some id →
        ∃ routine, respond? cal r = some routine ∧ (routine.run later).1.status = 200 ∧
          (routine.run later).1.bodyText = some body

/-- The event that is stored is shown. -/
theorem fetch_run_of_find? {id : Int} {e : Event} (hid : id ≠ 0)
    (he : s.store.find? id = some e) :
    (fetch cal id).run s = (.withContent 200 (.event e), s) := by
  rw [fetch, conclude_run, (cal.get_run id s).2 e hid he]

/-- A stored event is shown until it is disturbed. -/
theorem repeats_of_find? (hs : s.store.Sound) {id : Int} {e : Event}
    (he : s.store.find? id = some e) : Repeats s id e.encode := by
  intro calls hcalls later cal r hlater hmethod hid
  have hne : id ≠ 0 := by
    obtain ⟨hmem, rfl⟩ := EventStore.mem_of_find?_eq_some he
    have hpos := hs.id_pos e hmem
    omega
  obtain ⟨d, hd, hsame⟩ := hs.find?_run_of_undisturbed he hcalls
  rw [← hlater] at hd
  refine ⟨_, respond?_get hmethod hid, ?_⟩
  rw [fetch_run_of_find? hne hd]
  exact ⟨rfl, congrArg some (Event.encode_of_eq hsame)⟩

/-! ### Creating -/

/-- A request for an event to be created, with a body that may be read. -/
structure Request.IsPost (r : Request) : Prop where
  method : r.method = .post
  path : r.path = "/v1/events"
  announced : r.contentType.any isJsonType = true
  short : r.body.length ≤ maxBodyLength

theorem respond?_post (h : r.IsPost) : respond? cal r = some (create cal r) := by
  have hroute : Route.ofPath? r.path = some .events := by
    rw [h.path]
    rfl
  rw [respond?, hroute]
  simp only [handle?, h.method]

/-- An event is refused, or it is admitted, added and shown under its new id. -/
theorem create_run_cases (hs : s.store.Sound) (cal : Calendar) (r : Request) :
    (∀ e, r.readEvent = .ok e → ¬ s.store.Admits e) ∧
        (∃ response, response.isSuccess = false ∧ (create cal r).run s = (response, s)) ∨
      ∃ e, r.readEvent = .ok e ∧ s.store.Admits e ∧ (create cal r).run s =
        (.withContent 201 (.event { e with id := s.store.lastId + 1, notified := false }),
          { s with store := s.store.added e }) := by
  rw [create]
  cases hbody : r.readEvent with
  | error response =>
    refine Or.inl ⟨fun e hread => ?_, response, isSuccess_of_readEvent_eq_error hbody, rfl⟩
    cases hread
  | ok e =>
    dsimp only
    rw [conclude_run, Calendar.insert_run_eq hs]
    rcases hs.insertAndGet_cases e with ⟨err, hanswer, hget⟩ | ⟨hanswer, hget⟩
    · rw [hget]
      refine Or.inl ⟨fun d hd hadmits => ?_, _, isSuccess_ofError _, rfl⟩
      obtain rfl := Except.ok.inj hd
      have hrefused := hanswer.symm.trans (hs.admits_iff.mp hadmits)
      simp at hrefused
    · rw [hget]
      exact Or.inr ⟨e, rfl, hs.admits_iff.mpr hanswer, rfl⟩

theorem status_ne_of_failure {response : Response} (h : response.isSuccess = false) :
    response.status ≠ 200 ∧ response.status ≠ 201 := by
  constructor <;> intro hstatus <;> simp [Response.isSuccess, hstatus] at h

/-! ### Reading back -/

/-- The body of a response stands for an event with the id that it was stored under, and later
requests for that id are answered by the same body. -/
def ReadsBack (after : Service) (response : Response) (e : Event) (id : Int) : Prop :=
  ∃ body, response.bodyText = some body ∧
    Event.decode (bytesOf body) = .ok { e with id := id, notified := false } ∧
    Repeats after id body

/-- A response that shows what is stored of an event that was read reads it back. -/
theorem readsBack_of_find? (hs : s.store.Sound) {bs : Json.Bytes} {e d : Event} {id : Int}
    {status : Nat} (hdecode : Event.decode bs = .ok e) (hid : inWord id = true)
    (hfind : s.store.find? id = some d)
    (hd : { d with notified := false } = { e with id := id, notified := false }) :
    ReadsBack s (.withContent status (.event d)) e id :=
  ⟨d.encode, rfl, decode_encode_withId hdecode hid hd, repeats_of_find? hs hfind⟩

/-- A POST is answered 201 exactly for an event that is admitted, which is then read back under the
next id. -/
theorem create_reads_back (hs : s.store.Sound) (hlast : s.store.lastId < Numeral.maxInt64)
    (cal : Calendar) (hpost : r.IsPost) :
    let (response, after) := (create cal r).run s
    (response.status = 201 ↔ ∃ e, Event.decode r.body = .ok e ∧ s.store.Admits e) ∧
      (response.status = 201 →
        ∃ e, Event.decode r.body = .ok e ∧ ReadsBack after response e (s.store.lastId + 1)) := by
  have hread {e : Event} : r.readEvent = .ok e ↔ Event.decode r.body = .ok e := by
    rw [readEvent_eq_ok_iff, and_iff_right hpost.announced, and_iff_right hpost.short]
  have hafter := hs.routine (create cal r)
  rcases create_run_cases hs cal r with
    ⟨hrefused, response, hfailure, hrun⟩ | ⟨e, hbody, hadmits, hrun⟩
  · rw [hrun]
    obtain ⟨-, hstatus⟩ := status_ne_of_failure hfailure
    refine ⟨iff_of_false hstatus ?_, fun hdone => absurd hdone hstatus⟩
    rintro ⟨e, hdecode, hadmits⟩
    exact hrefused e (hread.mpr hdecode) hadmits
  · rw [hrun] at hafter ⊢
    have hdecode := hread.mp hbody
    have hword : inWord (s.store.lastId + 1) = true := by
      have hleast := hs.lastId_nonneg
      simp only [inWord, Bool.and_eq_true, decide_eq_true_eq]
      rw [Numeral.maxInt64] at hlast
      omega
    have hstored := EventStore.get_eq_ok_iff.mp (hs.get_added e)
    exact ⟨iff_of_true rfl ⟨e, hdecode, hadmits⟩,
      fun _ => ⟨e, hdecode, readsBack_of_find? hafter hdecode hword hstored rfl⟩⟩

/-- An event that a PUT has changed is read back under the id in the path. -/
theorem replace_reads_back (hs : s.store.Sound) (cal : Calendar) {id : Int}
    (hid : r.eventId? = some id) :
    let (response, after) := (replace cal id r).run s
    response.status = 200 →
      ∃ e, Event.decode r.body = .ok e ∧ ReadsBack after response e id := by
  have hafter := hs.routine (replace cal id r)
  rcases replace_run_cases cal id r s with
    ⟨response, hfailure, hrun⟩ | ⟨old, e, -, hbody, hold, hrun⟩
  · rw [hrun]
    exact fun hdone => absurd hdone (status_ne_of_failure hfailure).1
  · rw [hrun] at hafter ⊢
    obtain ⟨-, -, hdecode⟩ := readEvent_eq_ok_iff.mp hbody
    have hstored : (s.store.replaced old { e with id := id }).find? id =
        some (EventStore.replacing old { e with id := id }) := EventStore.find?_replaced hold
    exact fun _ =>
      ⟨e, hdecode, readsBack_of_find? hafter hdecode (inWord_of_eventId? hid) hstored rfl⟩

/-- **An event is read back as it was written.** On a store that any calls have built up from the
empty one, with fewer than 2⁶³ - 1 insertions, a POST with a body of a readable size and type is
answered 201 exactly if the body stands for an event that keeps the rules and shares no instant with
an event of its user. The body of that response, and of every PUT that is answered 200, stands for
the event in the request under its id, which is the one in the path of a PUT, and for a POST a
positive one that was not given out before; the id in the body of the request and the flag are not
read. Every later GET for that id is answered by the same body, until a call removes or replaces the
event. The plain path of the event is among those that such a GET may have. -/
theorem reads_back_what_was_written (calls : List StoreCall)
    (hfew : (({} : EventStore).issued calls).length < Numeral.maxInt64) (rest : Service)
    (cal : Calendar) (r : Request) :
    let s : Service := { rest with store := ({} : EventStore).run calls }
    (r.IsPost → ∃ routine response after, respond? cal r = some routine ∧
        routine.run s = (response, after) ∧
        (response.status = 201 ↔ ∃ e, Event.decode r.body = .ok e ∧ s.store.Admits e) ∧
        (response.status = 201 → ∃ e id, Event.decode r.body = .ok e ∧
          0 < id ∧ id ∉ ({} : EventStore).issued calls ∧ ReadsBack after response e id)) ∧
      (∀ id, r.method = .put → r.eventId? = some id → ∃ routine response after,
        respond? cal r = some routine ∧ routine.run s = (response, after) ∧
        (response.status = 200 → ∃ e, Event.decode r.body = .ok e ∧
          ReadsBack after response e id)) ∧
      ∀ (get : Request) id, inWord id = true → get.path = eventPath id →
        get.eventId? = some id := by
  intro s
  have hs : s.store.Sound := EventStore.sound_empty.run calls
  refine ⟨fun hpost => ?_, fun id hmethod hid => ?_, fun get id => eventId?_eventPath⟩
  · have hlast : s.store.lastId = (({} : EventStore).issued calls).length := by
      rw [EventStore.lastId_run, Int.zero_add]
    obtain ⟨response, after, hrun⟩ : ∃ response after, (create cal r).run s = (response, after) :=
      ⟨_, _, rfl⟩
    have hcreate := create_reads_back hs (by omega) cal hpost
    rw [hrun] at hcreate
    refine ⟨_, response, after, respond?_post hpost, hrun, hcreate.1, fun hstatus => ?_⟩
    obtain ⟨e, hdecode, hread⟩ := hcreate.2 hstatus
    have hnew : s.store.lastId + 1 ∉ ({} : EventStore).issued calls := fun hissued =>
      Int.not_le.mpr (Int.lt_succ s.store.lastId) (EventStore.mem_issued_iff.mp hissued).2
    exact ⟨e, s.store.lastId + 1, hdecode, by omega, hnew, hread⟩
  · obtain ⟨response, after, hrun⟩ : ∃ response after, (replace cal id r).run s = (response, after) :=
      ⟨_, _, rfl⟩
    have hreplace := replace_reads_back hs cal hid
    rw [hrun] at hreplace
    exact ⟨_, response, after, respond?_put hmethod hid, hrun, hreplace⟩

/-- A request for a third event, with an id and a flag that are not read. -/
def boastful : Request :=
  .ofTarget .post "/v1/events" (some "application/json") (bytesOf
    ("\x7b\"id\":1,\"userId\":1,\"title\":\"third\",\"onTime\":\"2024-06-05T00:00:00Z\"," ++
      "\"offTime\":\"2024-06-05T01:00:00Z\",\"notified\":true\x7d"))

/-- The boastful request is answered 201, and after the new event was marked and another one was
deleted, a GET for it is answered by the same body. -/
theorem boastful_reads_back :
    let s : Service := { store := ({} : EventStore).run twoHours }
    let later := [StoreCall.markNotified 3, .delete 1]
    (({} : EventStore).issued twoHours).length < Numeral.maxInt64 ∧ boastful.IsPost ∧
      ∃ routine, respond? {} boastful = some routine ∧ (routine.run s).1.status = 201 ∧
        (routine.run s).2.store.Undisturbed 3 later ∧
        ∃ shown, respond? {} { method := .get, path := eventPath 3 } = some shown ∧
          (shown.run { store := (routine.run s).2.store.run later }).1.bodyText =
            (routine.run s).1.bodyText := by
  intro s later
  have hfew : (({} : EventStore).issued twoHours).length < Numeral.maxInt64 := by decide +kernel
  have hpost : boastful.IsPost := ⟨rfl, rfl, by decide, by decide +kernel⟩
  obtain ⟨hcreate, -, hpath⟩ := reads_back_what_was_written twoHours hfew {} {} boastful
  obtain ⟨routine, response, after, hroutine, hrun, -, hreads⟩ := hcreate hpost
  obtain rfl : create {} boastful = routine :=
    Option.some.inj ((respond?_post hpost).symm.trans hroutine)
  have hstatus : ((create {} boastful).run s).1.status = 201 := by decide +kernel
  have hshown : ((create {} boastful).run s).1.bodyText.bind
      (fun body => (Event.decode (bytesOf body)).toOption.map Event.id) = some 3 := by
    decide +kernel
  rw [hrun] at hstatus hshown
  obtain ⟨e, id, -, -, -, body, hbody, hread, hrepeats⟩ := hreads hstatus
  rw [hbody, Option.bind_some, hread] at hshown
  obtain rfl : id = 3 := Option.some.inj hshown
  have hlater : after.store.Undisturbed 3 later := by
    simp [later, EventStore.Undisturbed, EventStore.Disturbs, EventStore.Removes]
  obtain ⟨shown, hget, -, hsame⟩ := hrepeats later hlater { store := after.store.run later } {}
    { method := .get, path := eventPath 3 } rfl rfl (hpath _ 3 rfl rfl)
  refine ⟨hfew, hpost, _, hroutine, ?_⟩
  rw [hrun]
  exact ⟨hstatus, hlater, shown, hget, hsame.trans hbody.symm⟩

end Http

end Datebook
