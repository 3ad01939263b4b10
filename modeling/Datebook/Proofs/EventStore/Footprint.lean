import Datebook.Proofs.EventStore.Invariant

/-!
# What an operation may touch

An operation on the store that fails touches nothing, and one that succeeds touches no more than it
is meant to: reading touches nothing, an insertion only adds an event under an id that no stored
event has, and whatever names an event leaves all others as they were, in every field and in their
order. A purge only takes away what ended before the cutoff. Which of these an operation is may
depend on its reply, since an insertion names its event only there.

## Main definitions

* `Datebook.Footprint`, `Datebook.Footprint.Spares`: what may be touched, and that all else was not.
* `Datebook.Footprint.ofAnswer`: an error touches nothing.
* `Datebook.StoreCall.touches`: what a call on the store may touch where it succeeds.

## Main results

* `Datebook.EventStore.Sound.spares_answer`
-/

namespace Datebook

/-- What an operation may touch in the store. -/
inductive Footprint where
  | nothing
  /-- An event that was not there before. -/
  | fresh (id : Int)
  | event (id : Int)
  /-- The events that ended before an instant. -/
  | ended (cutoff : Instant)
  deriving DecidableEq

namespace Footprint

/-- From one store to the next, all that lies outside the footprint stays as it is. -/
def Spares : Footprint → EventStore → EventStore → Prop
  | .nothing, s, t => t = s
  | .fresh id, s, t => s.find? id = none ∧ t.events.filter (·.id != id) = s.events
  | .event id, s, t =>
    t.lastId = s.lastId ∧ t.events.filter (·.id != id) = s.events.filter (·.id != id)
  | .ended cutoff, s, t =>
    t.lastId = s.lastId ∧ t.events = s.events.filter fun e => cutoff ≤ e.offTime

/-- An operation that fails may touch nothing, and what one that succeeds may touch can depend on
what it gives back. -/
def ofAnswer {ε α : Type} (touches : α → Footprint) : Except ε α → Footprint
  | .error _ => .nothing
  | .ok a => touches a

end Footprint

/-- What a call on the store may touch where it succeeds. -/
def StoreCall.touches : (c : StoreCall) → c.Reply → Footprint
  | .insert _, (id : Int) => .fresh id
  | .update e, _ => .event e.id
  | .delete id, _ | .markNotified id, _ => .event id
  | .purge cutoff, _ => .ended cutoff
  | .connect, _ | .close, _ | .get _, _ | .all _, _ | .range _ _, _ | .busy _ _ _, _ | .due _, _ =>
    .nothing

namespace EventStore

variable {s : EventStore}

/-- Events may be exchanged for others of the same ids where only the one with an id changes. -/
theorem filter_map_of_eq {f : Event → Event} {id : Int} (hf : ∀ e, (f e).id = e.id)
    (hother : ∀ e, e.id ≠ id → f e = e) :
    (s.events.map f).filter (·.id != id) = s.events.filter (·.id != id) := by
  have hkeep : (fun e : Event => e.id != id) ∘ f = fun e => e.id != id := by
    funext e
    exact congrArg (· != id) (hf e)
  rw [List.filter_map, hkeep]
  refine (List.map_congr_left fun e he => hother e ?_).trans (List.map_id _)
  simpa using (List.mem_filter.mp he).2

/-- The next id is that of no stored event. -/
theorem Sound.find?_next_eq_none (h : s.Sound) : s.find? (s.lastId + 1) = none := by
  refine find?_eq_none_iff.mpr fun e he hid => ?_
  have hle := h.id_le e he
  omega

/-- Adding an event leaves all that were there. -/
theorem Sound.spares_added (h : s.Sound) (e : Event) :
    (Footprint.fresh (s.lastId + 1)).Spares s (s.added e) := by
  have hnone := h.find?_next_eq_none
  refine ⟨hnone, ?_⟩
  have hkept : s.events.filter (·.id != s.lastId + 1) = s.events :=
    List.filter_eq_self.mpr fun a ha => by simpa using find?_eq_none_iff.mp hnone a ha
  rw [added, List.filter_append, hkept, List.filter_cons_of_neg (by simp), List.filter_nil,
    List.append_nil]

theorem spares_replaced (old e : Event) : (Footprint.event e.id).Spares s (s.replaced old e) := by
  refine ⟨rfl, filter_map_of_eq (fun a => ?_) fun a ha => if_neg ha⟩
  split
  · next hid => exact hid.symm
  · rfl

theorem spares_marked (id : Int) : (Footprint.event id).Spares s (s.marked id) := by
  refine ⟨rfl, filter_map_of_eq (fun a => ?_) fun a ha => if_neg ha⟩
  split <;> rfl

theorem spares_delete (id : Int) : (Footprint.event id).Spares s (s.delete id) := by
  refine ⟨rfl, ?_⟩
  rw [delete, List.filter_filter]
  simp only [Bool.and_self]

/-- **A call touches no more than it is meant to.** -/
theorem Sound.spares_answer (h : s.Sound) (c : StoreCall) :
    (Footprint.ofAnswer c.touches (s.answer c).1).Spares s (s.answer c).2 := by
  cases c with
  | connect | close | all | range | due => exact rfl
  | get id =>
    rw [EventStore.answer]
    cases s.get id <;> exact rfl
  | busy exclude userId span =>
    rw [EventStore.answer]
    cases s.checkFree exclude userId span <;> exact rfl
  | insert e =>
    rcases s.answer_insert_cases e with ⟨err, hanswer⟩ | hanswer
    · rw [hanswer]
      exact rfl
    · rw [hanswer]
      exact h.spares_added e
  | update e =>
    rcases s.answer_update_cases e with ⟨err, hanswer⟩ | ⟨old, -, hanswer⟩
    · rw [hanswer]
      exact rfl
    · rw [hanswer]
      exact spares_replaced old e
  | delete id => exact spares_delete id
  | purge cutoff =>
    have hpurge : (s.answer (.purge cutoff)).2 = s.kept fun e => cutoff ≤ e.offTime :=
      s.purge_eq cutoff
    rw [hpurge]
    exact ⟨rfl, rfl⟩
  | markNotified id =>
    rcases s.answer_markNotified_cases id with ⟨-, hanswer⟩ | ⟨e, -, hanswer⟩
    · rw [hanswer]
      exact rfl
    · rw [hanswer]
      exact spares_marked id

end EventStore

end Datebook
