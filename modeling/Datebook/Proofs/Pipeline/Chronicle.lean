import Datebook.Proofs.EventStore.Invariant
import Datebook.Proofs.Reminder.Payload
import Datebook.Proofs.Service.Answers
import Datebook.Routine

/-!
# The history of reminders

Beside a service a log is kept, the latest entry first, of what the history of a reminder consists
of: when the reminder of an event was set, by an insertion or by a change of its time, and when a
message for the event was published.

Reminders are *kept* if every reminder that counts as delivered was published, after it was set, as
of an instant at which it was due. No call but one that notes a delivery can change this, and that
one does so only where it marks an event of which no such message was published.

## Main definitions

* `Datebook.Chronicle`, `Datebook.Chronicle.Entry`, `Datebook.Chronicle.answer`
* `Datebook.Chronicle.sinceSet`: the log since a reminder was set.
* `Datebook.Chronicle.Kept`, `Datebook.Chronicle.Unannounced`
* `Datebook.Chronicle.Traced`: the log tells of all messages.
* `Datebook.Chronicle.Premature`: deliveries that come before their time.

## Main results

* `Datebook.Chronicle.Kept.answer`, `Datebook.Chronicle.Kept.answer_markNotified_iff`
* `Datebook.Chronicle.Traced.answer`, `Datebook.Chronicle.premature_iff_unannounced`
-/

namespace Datebook

/-- What is entered in the log. -/
inductive Chronicle.Entry where
  /-- The reminder of an event was set. -/
  | set (id : Int)
  /-- A message for an event was published under a tag, as of an instant. -/
  | published (tag id : Int) (asOf : Instant)
  deriving DecidableEq

/-- A service with the log, and the instant that is taken for the present. -/
structure Chronicle where
  service : Service
  clock : Instant := .epoch
  log : List Chronicle.Entry := []

namespace Chronicle

/-- What a call enters in the log, where it succeeds. A change that leaves the time of the reminder
as it was does not set it. -/
def logged? (x : Chronicle) : Call → Option Entry
  | .store (.insert e) =>
    match x.service.store.insert e with
    | .ok (id, _) => some (.set id)
    | .error _ => none
  | .store (.update e) =>
    match x.service.store.update e, x.service.store.find? e.id with
    | .ok _, some old => if old.notifyTime = e.notifyTime then none else some (.set e.id)
    | _, _ => none
  | .channel (.publish k r) =>
    match (x.service.producer k).ensureOpen with
    | .ok () => some (.published (x.service.queue.lastTag + 1) r.id x.clock)
    | .error _ => none
  | _ => none

/-- The outcome of a call, and the chronicle after it. -/
def answer (c : Call) (x : Chronicle) : c.Outcome × Chronicle :=
  ((x.service.answer c).1,
    { x with service := (x.service.answer c).2, log := (x.logged? c).toList ++ x.log })

/-- A chronicle answers calls at once. -/
def handler : Handler Chronicle where
  answer := answer
  enter phase x := { x with service.phase := phase }

/-! ### The log since a reminder was set -/

/-- The entries since the reminder of an event was last set. -/
def sinceSet (id : Int) (log : List Entry) : List Entry :=
  log.takeWhile (· != .set id)

/-- The entries up to the one by which the reminder of an event was last set. -/
def upToSet (id : Int) (log : List Entry) : List Entry :=
  log.dropWhile (· != .set id)

section Log

variable {id tag : Int} {now : Instant} {log : List Entry}

theorem mem_sinceSet_set_iff {n : Int} :
    .published tag id now ∈ sinceSet id (.set n :: log) ↔
      n ≠ id ∧ .published tag id now ∈ sinceSet id log := by
  by_cases h : n = id <;> simp [sinceSet, h]

theorem mem_sinceSet_published_iff {tag' id' : Int} {now' : Instant} :
    .published tag id now ∈ sinceSet id (.published tag' id' now' :: log) ↔
      tag = tag' ∧ id = id' ∧ now = now' ∨ .published tag id now ∈ sinceSet id log := by
  simp [sinceSet]

/-- What is in the log was entered since the reminder was set, or before that. -/
theorem mem_sinceSet_or_mem_upToSet {x : Entry} (id : Int) (hx : x ∈ log) :
    x ∈ sinceSet id log ∨ x ∈ upToSet id log := by
  rw [← List.mem_append, sinceSet, upToSet, List.takeWhile_append_dropWhile]
  exact hx

end Log

/-! ### What calls do -/

section Calls

variable (x : Chronicle)

/-- An insertion is refused, or the event is added and its reminder set. -/
theorem answer_insert_cases (e : Event) :
    (x.answer (.store (.insert e))).2 = x ∨
      (x.answer (.store (.insert e))).2 = { x with
        service.store := x.service.store.added e
        log := .set (x.service.store.lastId + 1) :: x.log } := by
  cases h : x.service.store.insert e with
  | error err =>
    refine Or.inl ?_
    simp [answer, logged?, Service.answer, EventStore.answer, h]
  | ok r =>
    obtain ⟨id, t⟩ := r
    obtain ⟨-, -, rfl, rfl⟩ := EventStore.insert_eq_ok_iff.mp h
    refine Or.inr ?_
    simp [answer, logged?, Service.answer, EventStore.answer, h]

/-- A change is refused, or the event is replaced, and its reminder set if it has another time. -/
theorem answer_update_cases (e : Event) :
    (x.answer (.store (.update e))).2 = x ∨
      ∃ old, x.service.store.find? e.id = some old ∧
        (x.answer (.store (.update e))).2 = { x with
          service.store := x.service.store.replaced old e
          log := if old.notifyTime = e.notifyTime then x.log else .set e.id :: x.log } := by
  cases h : x.service.store.update e with
  | error err =>
    refine Or.inl ?_
    simp [answer, logged?, Service.answer, EventStore.answer, EventStore.orUnchanged, h]
  | ok t =>
    obtain ⟨-, -, old, hold, -, rfl⟩ := EventStore.update_eq_ok_iff.mp h
    refine Or.inr ⟨old, hold, ?_⟩
    by_cases hsame : old.notifyTime = e.notifyTime <;>
      simp [answer, logged?, Service.answer, EventStore.answer, EventStore.orUnchanged, h, hold,
        hsame]

/-- Noting a delivery marks the event that is named, if there is one. -/
theorem answer_markNotified_cases (id : Int) :
    x.service.store.find? id = none ∧ (x.answer (.store (.markNotified id))).2 = x ∨
      ∃ e, x.service.store.find? id = some e ∧
        (x.answer (.store (.markNotified id))).2 =
          { x with service.store := x.service.store.marked id } := by
  rcases x.service.store.answer_markNotified_cases id with ⟨hnone, hanswer⟩ | ⟨e, he, hanswer⟩
  · refine Or.inl ⟨hnone, ?_⟩
    rw [answer, Service.answer, hanswer]
    rfl
  · refine Or.inr ⟨e, he, ?_⟩
    rw [answer, Service.answer, hanswer]
    rfl

/-- A call on a handle publishes a message, which is entered in the log; or it enters nothing and
at most acknowledges a tag. -/
theorem answer_channel_cases (c : ChannelCall) :
    (∃ r : Reminder, (x.answer (.channel c)).2 = { x with
        service.queue := x.service.queue.push r.payload
        log := .published (x.service.queue.lastTag + 1) r.id x.clock :: x.log }) ∨
      (x.answer (.channel c)).2.service.store = x.service.store ∧
        (x.answer (.channel c)).2.log = x.log ∧
        ((x.answer (.channel c)).2.service.queue = x.service.queue ∨
          ∃ tag, (x.answer (.channel c)).2.service.queue = x.service.queue.ack tag) := by
  rcases x.service.answerChannel_cases c with
    ⟨k, r, rfl, hopen, hpushed⟩ | ⟨k, tag, rfl, hacked⟩ | ⟨hstore, hqueue, hclosed⟩
  · refine Or.inl ⟨r, ?_⟩
    rw [answer, Service.answer, hpushed, logged?, hopen]
    rfl
  · refine Or.inr ?_
    rw [answer, Service.answer, hacked]
    exact ⟨rfl, rfl, Or.inr ⟨tag, rfl⟩⟩
  · have hentry : x.logged? (.channel c) = none := by
      cases c with
      | publish k r =>
        obtain ⟨e, he⟩ := hclosed k r rfl
        rw [logged?, he]
      | connectProducer | closeProducer | connectConsumer | ack | closeConsumer => rfl
    refine Or.inr ⟨hstore, ?_, Or.inl hqueue⟩
    rw [answer, hentry]
    rfl

end Calls

/-! ### Reminders that are kept -/

/-- Every reminder that counts as delivered was published since it was set, as of an instant at
which it was due. -/
def Kept (x : Chronicle) : Prop :=
  ∀ e ∈ x.service.store.events, e.notified = true → ∀ t, e.notifyTime = some t →
    ∃ tag now, .published tag e.id now ∈ sinceSet e.id x.log ∧ t ≤ now

/-- The id names an event whose reminder has still to be delivered, and since that was set no
message for it was published as of an instant at which it was due. -/
def Unannounced (x : Chronicle) (id : Int) : Prop :=
  ∃ e t, x.service.store.find? id = some e ∧ e.notified = false ∧ e.notifyTime = some t ∧
    ∀ tag now, .published tag e.id now ∈ sinceSet e.id x.log → now < t

variable {x : Chronicle}

namespace Kept

theorem insert (h : x.Kept) (hs : x.service.store.Sound) (e : Event) :
    (x.answer (.store (.insert e))).2.Kept := by
  rcases x.answer_insert_cases e with hsame | hanswer
  · rw [hsame]
    exact h
  rw [hanswer]
  intro a ha hnotified t ht
  rcases List.mem_append.mp ha with ha | ha
  · obtain ⟨tag, now, hmem, hdue⟩ := h a ha hnotified t ht
    have hle : a.id ≤ x.service.store.lastId := hs.id_le a ha
    exact ⟨tag, now, mem_sinceSet_set_iff.mpr ⟨by omega, hmem⟩, hdue⟩
  · obtain rfl := List.mem_singleton.mp ha
    simp at hnotified

theorem update (h : x.Kept) (e : Event) : (x.answer (.store (.update e))).2.Kept := by
  rcases x.answer_update_cases e with hsame | ⟨old, hold, hanswer⟩
  · rw [hsame]
    exact h
  rw [hanswer]
  obtain ⟨holdmem, holdid⟩ := EventStore.mem_of_find?_eq_some hold
  intro a ha hnotified t ht
  dsimp only
  rcases EventStore.mem_replaced ha with ⟨ha, hne⟩ | rfl
  · obtain ⟨tag, now, hmem, hdue⟩ := h a ha hnotified t ht
    refine ⟨tag, now, ?_, hdue⟩
    split
    · exact hmem
    · exact mem_sinceSet_set_iff.mpr ⟨hne.symm, hmem⟩
  · -- The note of delivery was kept, so that the time is the one it was delivered for.
    obtain ⟨hdelivered, hsame⟩ : old.notified = true ∧ old.notifyTime = e.notifyTime := by
      simpa [EventStore.replacing] using hnotified
    obtain ⟨tag, now, hmem, hdue⟩ := h old holdmem hdelivered t (hsame.trans ht)
    rw [if_pos hsame]
    exact ⟨tag, now, holdid ▸ hmem, hdue⟩

/-- A call on a handle publishes at most, and never takes a message back. -/
theorem channel (h : x.Kept) (c : ChannelCall) : (x.answer (.channel c)).2.Kept := by
  rcases x.answer_channel_cases c with ⟨r, hanswer⟩ | ⟨hstore, hlog, -⟩
  · rw [hanswer]
    intro e he hnotified t ht
    obtain ⟨tag, now, hmem, hdue⟩ := h e he hnotified t ht
    exact ⟨tag, now, mem_sinceSet_published_iff.mpr (Or.inr hmem), hdue⟩
  · rw [Kept, hstore, hlog]
    exact h

/-- No call but one that notes a delivery fails to keep the reminders. -/
theorem answer (h : x.Kept) (hs : x.service.store.Sound) (c : Call)
    (hc : ∀ id, c ≠ .store (.markNotified id)) : (x.answer c).2.Kept := by
  cases c with
  | channel c => exact h.channel c
  | store c =>
    cases c with
    | connect | close | get | all | range | busy | due => exact h
    | insert e => exact h.insert hs e
    | update e => exact h.update e
    | delete id => exact fun e he => h e (List.mem_filter.mp he).1
    | purge cutoff =>
      intro e he
      have hkept : e ∈ (x.service.store.purge cutoff).2.events := he
      rw [EventStore.purge_eq] at hkept
      exact h e (List.mem_filter.mp hkept).1
    | markNotified id => exact absurd rfl (hc id)

/-- Noting a delivery keeps the reminders unless it names an event that was not announced. -/
theorem answer_markNotified_iff (h : x.Kept) (hs : x.service.store.Sound) (id : Int) :
    (x.answer (.store (.markNotified id))).2.Kept ↔ ¬ x.Unannounced id := by
  rcases x.answer_markNotified_cases id with ⟨hnone, hsame⟩ | ⟨e, he, hanswer⟩
  · rw [hsame]
    refine iff_of_true h ?_
    rintro ⟨e, t, he, -⟩
    simp [hnone] at he
  rw [hanswer]
  obtain ⟨hmem, hid⟩ := EventStore.mem_of_find?_eq_some he
  constructor
  · rintro hkept ⟨e', t, he', hnotified, ht, hnone⟩
    obtain rfl : e = e' := Option.some.inj (he.symm.trans he')
    have hmarked : { e with notified := true } ∈ (x.service.store.marked id).events :=
      EventStore.mem_marked_iff.mpr (Or.inr ⟨e, hmem, hid, rfl⟩)
    obtain ⟨tag, now, hpublished, hdue⟩ := hkept _ hmarked rfl t ht
    exact Instant.not_le.mpr (hnone tag now hpublished) hdue
  · intro hannounced a ha hnotified t ht
    rcases EventStore.mem_marked_iff.mp ha with ⟨ha, -⟩ | ⟨b, hb, hbid, rfl⟩
    · exact h a ha hnotified t ht
    obtain rfl : b = e := hs.eq_of_id_eq hb hmem (hbid.trans hid.symm)
    by_cases hmarked : b.notified = true
    · exact h b hb hmarked t ht
    · by_contra hnone
      refine hannounced ⟨b, t, he, by simpa using hmarked, ht, fun tag now hpublished => ?_⟩
      rw [← Instant.not_le]
      exact fun hdue => hnone ⟨tag, now, hpublished, hdue⟩

end Kept

/-! ### Messages are traced -/

/-- Every call leaves the store sound. -/
theorem sound_answer (hs : x.service.store.Sound) (c : Call) :
    (x.answer c).2.service.store.Sound := by
  cases c with
  | store c => exact hs.answer c
  | channel c =>
    rcases x.answer_channel_cases c with ⟨r, hanswer⟩ | ⟨hstore, -⟩
    · rw [hanswer]
      exact hs
    · rw [hstore]
      exact hs

/-- The log tells of every message in the queue that it was published for the event it names. -/
structure Traced (x : Chronicle) : Prop where
  inOrder : x.service.queue.InOrder
  published : ∀ tag payload r, x.service.queue.Holds tag payload →
    Reminder.decode payload = .ok r → ∃ now, .published tag r.id now ∈ x.log

/-- Every call leaves all messages traced. -/
theorem Traced.answer (h : x.Traced) (c : Call) : (x.answer c).2.Traced := by
  cases c with
  | store c =>
    refine ⟨h.inOrder, fun tag payload r hheld hread => ?_⟩
    obtain ⟨now, hnow⟩ := h.published tag payload r hheld hread
    exact ⟨now, List.mem_append_right _ hnow⟩
  | channel c =>
    rcases x.answer_channel_cases c with ⟨s, hanswer⟩ | ⟨-, hlog, hqueue⟩
    · rw [hanswer]
      refine ⟨h.inOrder.push _, fun tag payload r hheld hread => ?_⟩
      rcases MessageQueue.holds_push_iff.mp hheld with hheld | ⟨rfl, rfl⟩
      · obtain ⟨now, hnow⟩ := h.published tag payload r hheld hread
        exact ⟨now, List.mem_cons_of_mem _ hnow⟩
      · refine ⟨x.clock, ?_⟩
        rw [Reminder.id_eq_of_decode_payload hread]
        exact List.mem_cons_self
    · rcases hqueue with hqueue | ⟨tag, hqueue⟩
      · refine ⟨hqueue ▸ h.inOrder, fun tag payload r hheld hread => ?_⟩
        rw [hlog]
        exact h.published tag payload r (hqueue ▸ hheld) hread
      · refine ⟨hqueue ▸ h.inOrder.ack tag, fun tag' payload r hheld hread => ?_⟩
        rw [hlog]
        exact h.published tag' payload r (MessageQueue.holds_of_ack (hqueue ▸ hheld)) hread

/-- The delivery names an event whose reminder has still to be delivered. Its message was published
before that reminder was set, or as of an instant before it was due; and since the reminder was set
no message for it was published as of an instant at which it was due. -/
def Premature (x : Chronicle) (d : Delivery) : Prop :=
  ∃ e t, x.service.store.find? d.reminder.id = some e ∧ e.notified = false ∧
    e.notifyTime = some t ∧
    (∃ now, .published d.tag e.id now ∈ upToSet e.id x.log ∨
      .published d.tag e.id now ∈ x.log ∧ now < t) ∧
    ∀ tag now, .published tag e.id now ∈ sinceSet e.id x.log → now < t

/-- A delivery of a published message that names an event which was not announced is premature. -/
theorem premature_iff_unannounced {d : Delivery}
    (hd : ∃ now, .published d.tag d.reminder.id now ∈ x.log) :
    x.Premature d ↔ x.Unannounced d.reminder.id := by
  constructor
  · rintro ⟨e, t, he, hnotified, ht, -, hnone⟩
    exact ⟨e, t, he, hnotified, ht, hnone⟩
  · rintro ⟨e, t, he, hnotified, ht, hnone⟩
    obtain ⟨-, hid⟩ := EventStore.mem_of_find?_eq_some he
    obtain ⟨now, hnow⟩ := hd
    rw [← hid] at hnow
    refine ⟨e, t, he, hnotified, ht, ⟨now, ?_⟩, hnone⟩
    rcases mem_sinceSet_or_mem_upToSet e.id hnow with hsince | hbefore
    · exact Or.inr ⟨hnow, hnone d.tag now hsince⟩
    · exact Or.inl hbefore

end Chronicle

end Datebook
