import Datebook.Proofs.EventStore.Footprint

/-!
# Events that no call disturbs

A stored event stays what it is until a call changes, deletes or purges it. Calls that are refused,
calls on other events and calls that only read leave it alone, and a mark sets nothing but its flag;
so after any calls that do not disturb it, the event is found as it was, up to its flag.

## Main definitions

* `Datebook.EventStore.Admits`: an event that the store takes in.
* `Datebook.EventStore.Disturbs`: the calls that change an event or remove it.
* `Datebook.EventStore.Undisturbed`: no call of a run disturbs an event.

## Main results

* `Datebook.EventStore.Sound.admits_iff`
* `Datebook.EventStore.Sound.find?_run_of_undisturbed`
-/

namespace Datebook.EventStore

variable {s : EventStore} {id : Int}

/-! ### What is taken in -/

/-- An event keeps the rules, and every event of its user ends before it begins or begins after it
ends. -/
def Admits (s : EventStore) (e : Event) : Prop :=
  e.validate = .ok () ∧
    ∀ a ∈ s.events, a.userId = e.userId → a.offTime < e.onTime ∨ e.offTime < a.onTime

/-- The id that an insertion leaves out of its check is that of no event. -/
theorem Sound.isFree_zero_iff (h : s.Sound) {userId : Int} {span : Span} :
    s.IsFree 0 userId span ↔
      ∀ a ∈ s.events, a.userId = userId → a.offTime < span.first ∨ span.last < a.onTime := by
  refine forall₃_congr fun a ha _ => ?_
  have hpos := h.id_pos a ha
  have hid : a.id ≠ 0 := by omega
  rw [Span.meets_eq_false_iff]
  exact ⟨fun hmeets => hmeets hid, fun hmeets _ => hmeets⟩

/-- An insertion succeeds exactly for the events that are admitted. -/
theorem Sound.admits_iff (h : s.Sound) {e : Event} :
    s.Admits e ↔ s.answer (.insert e) = (.ok (s.lastId + 1), s.added e) := by
  have hinsert : s.insert e = .ok (s.lastId + 1, s.added e) ↔ s.Admits e := by
    rw [insert_eq_ok_iff, h.isFree_zero_iff, Admits]
    exact ⟨fun h => ⟨h.1, h.2.1⟩, fun h => ⟨h.1, h.2, rfl, rfl⟩⟩
  rw [← hinsert]
  cases hresult : s.insert e with
  | error err =>
    have hanswer : s.answer (.insert e) = (.error err, s) := by
      rw [EventStore.answer, hresult]
    simp only [hanswer, reduceCtorEq, Prod.mk.injEq, false_and]
  | ok r =>
    obtain ⟨-, -, hid, hstore⟩ := insert_eq_ok_iff.mp hresult
    obtain rfl : r = (s.lastId + 1, s.added e) := Prod.ext hid hstore
    refine iff_of_true rfl ?_
    simp only [EventStore.answer, hresult]
    rfl

/-! ### What is left alone -/

/-- The call removes the event with an id, or changes it and succeeds. -/
def Disturbs (s : EventStore) (id : Int) (c : StoreCall) : Prop :=
  s.Removes id c ∨ ∃ e t, c = .update e ∧ e.id = id ∧ s.update e = .ok t

/-- Of calls that are made one after the other none disturbs the event with an id. -/
def Undisturbed (s : EventStore) (id : Int) : List StoreCall → Prop
  | [] => True
  | c :: calls => ¬ s.Disturbs id c ∧ (s.answer c).2.Undisturbed id calls

/-- What is kept is found. -/
theorem Sound.find?_kept (h : s.Sound) {keep : Event → Bool} {e : Event} (he : s.find? id = some e)
    (hkeep : keep e = true) : (s.kept keep).find? id = some e := by
  obtain ⟨hmem, hid⟩ := mem_of_find?_eq_some he
  exact (h.kept keep).find?_eq_some_iff.mpr ⟨List.mem_filter.mpr ⟨hmem, hkeep⟩, hid⟩

theorem find?_marked_of_ne {other : Int} {e : Event} (he : s.find? id = some e)
    (hne : id ≠ other) : (s.marked other).find? id = some e := by
  obtain ⟨-, rfl⟩ := mem_of_find?_eq_some he
  rw [marked, find?_map fun e => by split <;> rfl, he, Option.map_some, if_neg hne]

theorem find?_replaced_of_ne {old new e : Event} (he : s.find? id = some e) (hne : id ≠ new.id) :
    (s.replaced old new).find? id = some e := by
  obtain ⟨-, rfl⟩ := mem_of_find?_eq_some he
  have hkept : ∀ a : Event, (if a.id = new.id then replacing old new else a).id = a.id := by
    intro a
    split
    · next hid => exact hid.symm
    · rfl
  rw [replaced, find?_map hkept, he, Option.map_some, if_neg hne]

/-- A call that does not disturb an event leaves it as it was, up to its flag. -/
theorem Sound.find?_answer_of_not_disturbs (h : s.Sound) {c : StoreCall} {e : Event}
    (he : s.find? id = some e) (hc : ¬ s.Disturbs id c) :
    ∃ d, (s.answer c).2.find? id = some d ∧
      { d with notified := false } = { e with notified := false } := by
  rw [Disturbs, not_or] at hc
  obtain ⟨hremoves, hchanges⟩ := hc
  cases c with
  | connect | close | get | all | range | busy | due => exact ⟨e, he, rfl⟩
  | insert new =>
    rcases s.answer_insert_cases new with ⟨err, hanswer⟩ | hanswer
    · exact ⟨e, by rw [hanswer]; exact he, rfl⟩
    · refine ⟨e, ?_, rfl⟩
      rw [find?] at he
      rw [hanswer, find?, added, List.find?_append, he]
      rfl
  | update new =>
    rcases s.orUnchanged_snd (x := s.update new) with ⟨hsame, -⟩ | ⟨t, hok, ht⟩
    · exact ⟨e, by rw [EventStore.answer, hsame]; exact he, rfl⟩
    · have hne : id ≠ new.id := fun hid => hchanges ⟨new, t, rfl, hid.symm, hok⟩
      obtain ⟨-, -, old, -, -, rfl⟩ := update_eq_ok_iff.mp hok
      exact ⟨e, by rw [EventStore.answer, ht]; exact find?_replaced_of_ne he hne, rfl⟩
  | delete other =>
    have hne : id ≠ other := fun hid => hremoves ⟨e, he, Or.inl (by rw [hid])⟩
    refine ⟨e, h.find?_kept he ?_, rfl⟩
    rw [(mem_of_find?_eq_some he).2]
    exact bne_iff_ne.mpr hne
  | purge cutoff =>
    have hlate : cutoff ≤ e.offTime := by
      by_contra hended
      exact hremoves ⟨e, he, Or.inr ⟨cutoff, rfl, Instant.not_le.mp hended⟩⟩
    have hanswer : (s.answer (.purge cutoff)).2 = s.kept fun e => cutoff ≤ e.offTime :=
      s.purge_eq cutoff
    exact ⟨e, by rw [hanswer]; exact h.find?_kept he (by simpa using hlate), rfl⟩
  | markNotified other =>
    rcases s.answer_markNotified_cases other with ⟨-, hanswer⟩ | ⟨-, -, hanswer⟩
    · exact ⟨e, by rw [hanswer]; exact he, rfl⟩
    · rw [hanswer]
      by_cases hid : id = other
      · exact ⟨{ e with notified := true }, hid ▸ find?_marked he, rfl⟩
      · exact ⟨e, find?_marked_of_ne he hid, rfl⟩

/-- An event that no call of a run disturbs is found in the end as it was, up to its flag. -/
theorem Sound.find?_run_of_undisturbed (h : s.Sound) {calls : List StoreCall} {e : Event}
    (he : s.find? id = some e) (hcalls : s.Undisturbed id calls) :
    ∃ d, (s.run calls).find? id = some d ∧
      { d with notified := false } = { e with notified := false } := by
  induction calls generalizing s e with
  | nil => exact ⟨e, he, rfl⟩
  | cons c calls ih =>
    obtain ⟨hc, hcalls⟩ := hcalls
    obtain ⟨d, hd, hsame⟩ := h.find?_answer_of_not_disturbs he hc
    obtain ⟨d', hd', hsame'⟩ := ih (h.answer c) hd hcalls
    exact ⟨d', hd', hsame'.trans hsame⟩

end Datebook.EventStore
