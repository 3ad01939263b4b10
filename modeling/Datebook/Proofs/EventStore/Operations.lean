import Datebook.Attempt
import Datebook.EventStore.Call
import Datebook.Proofs.Instant.Order
import Mathlib.Logic.Unique

/-!
# What a call does to the event store

Every operation of the store is described by when it succeeds and by the store it leaves. A
call either leaves the store as it was or makes one of five changes to it, and each change is
made under the conditions that the operation has checked.

## Main definitions

* `Datebook.EventStore.IsFree`: a user has no event that shares an instant with a span.
* `Datebook.EventStore.Change`: the stores that a call may leave.

## Main results

* `Datebook.Event.validate_eq_ok_iff`
* `Datebook.EventStore.insert_eq_ok_iff`, `Datebook.EventStore.update_eq_ok_iff`,
  `Datebook.EventStore.markNotified_eq_ok_iff`
* `Datebook.EventStore.change_answer`: every call makes one of the changes.
-/

namespace Datebook

/-! ### The rules of an event -/

namespace Event

/-- What the rules ask of an event. -/
theorem validate_eq_ok_iff {e : Event} :
    e.validate = .ok () ↔
      e.userId ≠ 0 ∧ e.title.length ≤ maxTitleLength ∧ e.onTime ≠ .epoch ∧ e.offTime ≠ .epoch ∧
        e.onTime < e.offTime ∧ ∀ t, e.notifyTime = some t → e.onTime ≤ t ∧ t ≤ e.offTime := by
  have hreminder : e.reminderInSpan = true ↔
      ∀ t, e.notifyTime = some t → e.onTime ≤ t ∧ t ≤ e.offTime := by
    rw [reminderInSpan]
    cases e.notifyTime with
    | none => simp
    | some t => simp [Span.holds_eq_true_iff, span]
  have hnone : e.validate = .ok () ↔ e.violation? = none := by
    rw [validate]
    cases e.violation? <;> simp
  rw [hnone, ← hreminder, ← Instant.not_le, ← Nat.not_lt]
  unfold violation?
  repeat' split
  all_goals simp_all

/-- An event that keeps the rules begins before it ends. -/
theorem onTime_le_offTime {e : Event} (hvalid : e.validate = .ok ()) : e.onTime ≤ e.offTime := by
  obtain ⟨-, -, -, -, hlt, -⟩ := validate_eq_ok_iff.mp hvalid
  exact Instant.le_of_lt hlt

theorem validateChange_eq_ok_iff {e : Event} :
    e.validateChange = .ok () ↔ e.id ≠ 0 ∧ e.validate = .ok () := by
  rw [validateChange]
  split <;> simp_all

/-- An event is due where its reminder has still to be delivered and its time has come. -/
theorem isDue_eq_true_iff {e : Event} {now : Instant} :
    e.isDue now = true ↔ e.notified = false ∧ ∃ t, e.notifyTime = some t ∧ t ≤ now := by
  cases h : e.notifyTime <;> simp [isDue, h]

end Event

namespace EventStore

variable {s t : EventStore}

/-! ### Looking up -/

theorem mem_of_find?_eq_some {id : Int} {e : Event} (h : s.find? id = some e) :
    e ∈ s.events ∧ e.id = id :=
  ⟨List.mem_of_find?_eq_some h, by simpa using List.find?_some h⟩

theorem find?_eq_none_iff {id : Int} : s.find? id = none ↔ ∀ e ∈ s.events, e.id ≠ id := by
  simp [find?, List.find?_eq_none]

theorem get_eq_ok_iff {id : Int} {e : Event} : s.get id = .ok e ↔ s.find? id = some e := by
  rw [get]
  split <;> simp_all

/-- An event is missed exactly under the id that was asked for. -/
theorem get_eq_error_iff {id : Int} {err : StoreError} :
    s.get id = .error err ↔ s.find? id = none ∧ err = .notFound id := by
  rw [get]
  cases s.find? id <;> simp [eq_comm]

/-! ### Free time -/

/-- No event of the user, the one with the excluded id apart, shares an instant with the span. -/
def IsFree (s : EventStore) (exclude userId : Int) (span : Span) : Prop :=
  ∀ e ∈ s.events, e.userId = userId → e.id ≠ exclude → e.span.meets span = false

/-- The check of free time finds every event that is in the way. -/
theorem checkFree_eq_ok_iff {exclude userId : Int} {span : Span} :
    s.checkFree exclude userId span = .ok () ↔ s.IsFree exclude userId span := by
  have hnone : s.conflict? exclude userId span = none ↔ s.IsFree exclude userId span := by
    simp only [conflict?, ofUser, IsFree, List.find?_eq_none, List.mem_filter, beq_iff_eq,
      Bool.and_eq_true, bne_iff_ne, ne_eq, not_and, Bool.not_eq_true, and_imp]
  rw [← hnone]
  rw [checkFree]
  split <;> simp_all

/-- What is in the way is named by its id. -/
theorem checkFree_eq_error_iff {exclude userId : Int} {span : Span} {err : StoreError} :
    s.checkFree exclude userId span = .error err ↔
      ∃ e, s.conflict? exclude userId span = some e ∧ err = .conflict userId e.id := by
  rw [checkFree]
  cases s.conflict? exclude userId span <;> simp [eq_comm]

/-! ### Changes -/

/-- The store with one more event, under the next id and without a delivered reminder. -/
def added (s : EventStore) (e : Event) : EventStore where
  events := s.events ++ [{ e with id := s.lastId + 1, notified := false }]
  lastId := s.lastId + 1

/-- The store with an event in the place of the one that has its id. -/
def replaced (s : EventStore) (old e : Event) : EventStore :=
  { s with events := s.events.map fun stored =>
      if stored.id = e.id then replacing old e else stored }

/-- The store with only the events that are to be kept. -/
def kept (s : EventStore) (keep : Event → Bool) : EventStore :=
  { s with events := s.events.filter keep }

/-- The store with the reminder of an event noted as delivered. -/
def marked (s : EventStore) (id : Int) : EventStore :=
  { s with events := s.events.map fun e => if e.id = id then { e with notified := true } else e }

/-- Looking up an id after events were exchanged for others of the same ids. -/
theorem find?_map {f : Event → Event} (hf : ∀ e, (f e).id = e.id) (id : Int) :
    ({ s with events := s.events.map f } : EventStore).find? id = (s.find? id).map f := by
  have hid : ((fun e : Event => e.id == id) ∘ f) = fun e => e.id == id := by
    funext e
    exact congrArg (· == id) (hf e)
  rw [find?, find?, List.find?_map, hid]

theorem find?_marked {id : Int} {e : Event} (h : s.find? id = some e) :
    (s.marked id).find? id = some { e with notified := true } := by
  rw [marked, find?_map fun e => by split <;> rfl, h, Option.map_some,
    if_pos (mem_of_find?_eq_some h).2]

theorem find?_replaced {old e : Event} (h : s.find? e.id = some old) :
    (s.replaced old e).find? e.id = some (replacing old e) := by
  have hkept : ∀ a : Event, (if a.id = e.id then replacing old e else a).id = a.id := by
    intro a
    split
    · next hid => exact hid.symm
    · rfl
  rw [replaced, find?_map hkept, h, Option.map_some, if_pos (mem_of_find?_eq_some h).2]

theorem insert_eq_ok_iff {e : Event} {id : Int} :
    s.insert e = .ok (id, t) ↔
      e.validate = .ok () ∧ s.IsFree 0 e.userId e.span ∧ id = s.lastId + 1 ∧ t = s.added e := by
  simp only [insert, bind_eq_ok_iff, mapError_eq_ok_iff, added, Except.ok.injEq, Prod.mk.injEq]
  constructor
  · rintro ⟨⟨⟩, hvalid, ⟨⟩, hfree, rfl, rfl⟩
    exact ⟨hvalid, checkFree_eq_ok_iff.mp hfree, rfl, rfl⟩
  · rintro ⟨hvalid, hfree, rfl, rfl⟩
    exact ⟨(), hvalid, (), checkFree_eq_ok_iff.mpr hfree, rfl, rfl⟩

theorem update_eq_ok_iff {e : Event} :
    s.update e = .ok t ↔
      e.id ≠ 0 ∧ e.validate = .ok () ∧ ∃ old, s.find? e.id = some old ∧
        s.IsFree e.id e.userId e.span ∧ t = s.replaced old e := by
  simp only [update, bind_eq_ok_iff, mapError_eq_ok_iff, get_eq_ok_iff, replaced,
    Except.ok.injEq]
  constructor
  · rintro ⟨⟨⟩, hvalid, old, hold, ⟨⟩, hfree, rfl⟩
    obtain ⟨hnamed, hvalid⟩ := Event.validateChange_eq_ok_iff.mp hvalid
    exact ⟨hnamed, hvalid, old, hold, checkFree_eq_ok_iff.mp hfree, rfl⟩
  · rintro ⟨hnamed, hvalid, old, hold, hfree, rfl⟩
    exact ⟨(), Event.validateChange_eq_ok_iff.mpr ⟨hnamed, hvalid⟩, old, hold, (),
      checkFree_eq_ok_iff.mpr hfree, rfl⟩

theorem markNotified_eq_ok_iff {id : Int} :
    s.markNotified id = .ok t ↔ (∃ e, s.find? id = some e) ∧ t = s.marked id := by
  simp only [markNotified, bind_eq_ok_iff, get_eq_ok_iff, marked, Except.ok.injEq]
  constructor
  · rintro ⟨e, he, rfl⟩
    exact ⟨⟨e, he⟩, rfl⟩
  · rintro ⟨⟨e, he⟩, rfl⟩
    exact ⟨e, he, rfl⟩

/-- Noting a delivery fails only where there is no event with the id. -/
theorem markNotified_eq_error_iff {id : Int} {err : StoreError} :
    s.markNotified id = .error err ↔ s.find? id = none ∧ err = .notFound id := by
  simp only [← get_eq_error_iff, markNotified, bind_eq_error_iff, reduceCtorEq, and_false,
    exists_false, or_false]

/-- An insertion is refused by the rules or, where these are kept, for an event in the way. -/
theorem insert_eq_error_iff {e : Event} {err : StoreError} :
    s.insert e = .error err ↔
      (∃ v, e.validate = .error v ∧ err = .validation v) ∨
        e.validate = .ok () ∧ s.checkFree 0 e.userId e.span = .error err := by
  simp only [insert, bind_eq_error_iff, mapError_eq_error_iff, mapError_eq_ok_iff, reduceCtorEq,
    and_false, exists_false, or_false]
  exact or_congr_right Unique.exists_iff

/-- A change is refused by the rules, for want of the event or for another in the way, in this
order. -/
theorem update_eq_error_iff {e : Event} {err : StoreError} :
    s.update e = .error err ↔
      (∃ v, e.validateChange = .error v ∧ err = .validation v) ∨
        e.validateChange = .ok () ∧
          (s.get e.id = .error err ∨
            ∃ old, s.get e.id = .ok old ∧ s.checkFree e.id e.userId e.span = .error err) := by
  simp only [update, bind_eq_error_iff, mapError_eq_error_iff, mapError_eq_ok_iff, reduceCtorEq,
    and_false, exists_false, or_false]
  exact or_congr_right Unique.exists_iff

/-- The events of a store in which one was replaced: those with other ids, and the one that has
taken its place. -/
theorem mem_replaced {old e a : Event} (ha : a ∈ (s.replaced old e).events) :
    a ∈ s.events ∧ a.id ≠ e.id ∨ a = replacing old e := by
  obtain ⟨b, hb, rfl⟩ := List.mem_map.mp ha
  by_cases hid : b.id = e.id
  · rw [if_pos hid]
    exact Or.inr rfl
  · rw [if_neg hid]
    exact Or.inl ⟨hb, hid⟩

/-- The events of a store in which one was marked. -/
theorem mem_marked_iff {id : Int} {a : Event} :
    a ∈ (s.marked id).events ↔
      a ∈ s.events ∧ a.id ≠ id ∨ ∃ e ∈ s.events, e.id = id ∧ a = { e with notified := true } := by
  simp only [marked, List.mem_map]
  constructor
  · rintro ⟨b, hb, rfl⟩
    by_cases hid : b.id = id
    · rw [if_pos hid]
      exact Or.inr ⟨b, hb, hid, rfl⟩
    · rw [if_neg hid]
      exact Or.inl ⟨hb, hid⟩
  · rintro (⟨ha, hid⟩ | ⟨e, he, hid, rfl⟩)
    · exact ⟨a, ha, if_neg hid⟩
    · exact ⟨e, he, if_pos hid⟩

theorem purge_eq (s : EventStore) (cutoff : Instant) :
    (s.purge cutoff).2 = s.kept fun e => cutoff ≤ e.offTime := by
  simp [purge, kept, List.partition_eq_filter_filter]

/-- The number that a purge gives back is that of the events that end before the cutoff. -/
theorem purge_fst (s : EventStore) (cutoff : Instant) :
    (s.purge cutoff).1 = s.events.countP (·.offTime < cutoff) := by
  simp only [purge, List.partition_eq_filter_filter, List.countP_eq_length_filter]
  refine congrArg List.length (List.filter_congr fun e _ => ?_)
  rw [Function.comp_apply, ← decide_not]
  exact decide_eq_decide.mpr Instant.not_le

/-! ### Calls -/

/-- The stores that a call may leave, with what the operation has checked before a change. -/
inductive Change (s : EventStore) : StoreCall → EventStore → Prop
  | nothing (c : StoreCall) : Change s c s
  | add (e : Event) (valid : e.validate = .ok ()) (free : s.IsFree 0 e.userId e.span) :
      Change s (.insert e) (s.added e)
  | replace (e old : Event) (valid : e.validate = .ok ()) (stored : s.find? e.id = some old)
      (free : s.IsFree e.id e.userId e.span) : Change s (.update e) (s.replaced old e)
  | delete (id : Int) : Change s (.delete id) (s.kept (·.id != id))
  | purge (cutoff : Instant) : Change s (.purge cutoff) (s.kept fun e => cutoff ≤ e.offTime)
  | mark (id : Int) (e : Event) (stored : s.find? id = some e) :
      Change s (.markNotified id) (s.marked id)

/-- An operation that fails leaves the store as it was. -/
theorem orUnchanged_snd {x : Except StoreError EventStore} :
    (s.orUnchanged x).2 = s ∧ (∃ err, x = .error err) ∨
      ∃ t, x = .ok t ∧ (s.orUnchanged x).2 = t := by
  cases x with
  | error err => exact Or.inl ⟨rfl, err, rfl⟩
  | ok t => exact Or.inr ⟨t, rfl, rfl⟩

/-- Every call makes one of the changes, under the conditions that belong to it. -/
theorem change_answer (s : EventStore) (c : StoreCall) : s.Change c (s.answer c).2 := by
  cases c with
  | connect | close | get | all | range | busy | due => exact .nothing _
  | insert e =>
    cases h : s.insert e with
    | error err => simpa only [answer, h] using Change.nothing _
    | ok r =>
      obtain ⟨hvalid, hfree, -, ht⟩ := insert_eq_ok_iff.mp h
      simpa only [answer, h, ht] using Change.add e hvalid hfree
  | update e =>
    rcases s.orUnchanged_snd (x := s.update e) with ⟨hsame, -⟩ | ⟨t, hok, ht⟩
    · simpa only [answer, hsame] using Change.nothing _
    · obtain ⟨-, hvalid, old, hold, hfree, rfl⟩ := update_eq_ok_iff.mp hok
      simpa only [answer, ht] using Change.replace e old hvalid hold hfree
  | delete id => exact .delete id
  | purge cutoff => simpa only [answer, purge_eq] using Change.purge cutoff
  | markNotified id =>
    rcases s.orUnchanged_snd (x := s.markNotified id) with ⟨hsame, -⟩ | ⟨t, hok, ht⟩
    · simpa only [answer, hsame] using Change.nothing _
    · obtain ⟨⟨e, he⟩, rfl⟩ := markNotified_eq_ok_iff.mp hok
      simpa only [answer, ht] using Change.mark id e he

/-- An insertion is refused, or the event is added under the next id. -/
theorem answer_insert_cases (s : EventStore) (e : Event) :
    (∃ err, s.answer (.insert e) = (.error err, s)) ∨
      s.answer (.insert e) = (.ok (s.lastId + 1), s.added e) := by
  cases h : s.insert e with
  | error err => exact Or.inl ⟨err, by rw [answer, h]⟩
  | ok r =>
    obtain ⟨id, t⟩ := r
    obtain ⟨-, -, rfl, rfl⟩ := insert_eq_ok_iff.mp h
    refine Or.inr ?_
    simp only [answer, h]
    rfl

/-- A change is refused, or the event that has the id is replaced. -/
theorem answer_update_cases (s : EventStore) (e : Event) :
    (∃ err, s.answer (.update e) = (.error err, s)) ∨
      ∃ old, s.find? e.id = some old ∧ s.answer (.update e) = (.ok (), s.replaced old e) := by
  cases h : s.update e with
  | error err => exact Or.inl ⟨err, by rw [answer, h]; rfl⟩
  | ok t =>
    obtain ⟨-, -, old, hold, -, rfl⟩ := update_eq_ok_iff.mp h
    exact Or.inr ⟨old, hold, by rw [answer, h]; rfl⟩

/-- Noting a delivery marks the event that is named, or misses it and changes nothing. -/
theorem answer_markNotified_cases (s : EventStore) (id : Int) :
    s.find? id = none ∧ s.answer (.markNotified id) = (.error (.notFound id), s) ∨
      ∃ e, s.find? id = some e ∧ s.answer (.markNotified id) = (.ok (), s.marked id) := by
  cases hmark : s.markNotified id with
  | error err =>
    obtain ⟨hnone, rfl⟩ := markNotified_eq_error_iff.mp hmark
    refine Or.inl ⟨hnone, ?_⟩
    rw [answer, hmark]
    rfl
  | ok t =>
    obtain ⟨⟨e, he⟩, rfl⟩ := markNotified_eq_ok_iff.mp hmark
    refine Or.inr ⟨e, he, ?_⟩
    rw [answer, hmark]
    rfl

end EventStore

end Datebook
