import Datebook.Proofs.EventStore.Invariant
import Mathlib.Data.List.Induction

/-!
# The history of the flag

The flag of a stored event says whether its reminder was delivered. It is set by noting the
delivery, and cleared by a change of the reminder's time and by nothing else; so it is the
calls of a run that decide it. An event that is stored in the end has its flag set exactly if
a delivery was noted for it and its reminder was not moved after that. A reminder that is moved
away and back, or taken out and put in again, was moved.

The flag on an event that a client gives to the store is not read. A run goes the same way
whatever flags its calls carry.

## Main definitions

* `Datebook.StoreCall.withFlag`: a call with another flag on the event that it carries.
* `Datebook.EventStore.Marks`, `Datebook.EventStore.Moves`: the calls that set and clear a flag.
* `Datebook.EventStore.MarkedSinceMoved`: what the calls of a run say about a flag.

## Main results

* `Datebook.EventStore.flag_answer_cases`: what one call does to the flags.
* `Datebook.EventStore.run_map_withFlag`
* `Datebook.EventStore.notified_iff_marked_since_moved`
-/

namespace Datebook

/-- The call with another flag on the event that it carries. -/
def StoreCall.withFlag (flag : Bool) : StoreCall → StoreCall
  | .insert e => .insert { e with notified := flag }
  | .update e => .update { e with notified := flag }
  | c => c

namespace EventStore

variable {s : EventStore}

/-! ### Calls that set and clear a flag -/

/-- The call notes that the reminder of an event was delivered, and succeeds. -/
def Marks (s : EventStore) (id : Int) (c : StoreCall) : Prop :=
  c = .markNotified id ∧ (s.answer (.markNotified id)).1 = .ok ()

/-- The call gives the reminder of an event a time other than the one that is stored, or takes it
out or puts it in, and succeeds. -/
def Moves (s : EventStore) (id : Int) (c : StoreCall) : Prop :=
  ∃ e old, c = .update e ∧ e.id = id ∧ s.find? id = some old ∧ old.notifyTime ≠ e.notifyTime ∧
    (s.answer (.update e)).1 = .ok ()

/-- Calls that were made on a store contain one that notes the delivery of an event's reminder,
after the event was inserted, and none after it moves that reminder. -/
def MarkedSinceMoved (s : EventStore) (calls : List StoreCall) (id : Int) : Prop :=
  ∃ before mark after, calls = before ++ mark :: after ∧ id ∈ s.issued before ∧
    (s.run before).Marks id mark ∧
    ∀ between c later, after = between ++ c :: later →
      ¬ (s.run (before ++ mark :: between)).Moves id c

/-- A delivery is noted only of an event that is stored. -/
theorem Marks.exists_find? {id : Int} {c : StoreCall} (h : s.Marks id c) :
    ∃ e, s.find? id = some e := by
  obtain ⟨rfl, hok⟩ := h
  rcases s.answer_markNotified_cases id with ⟨-, hanswer⟩ | ⟨e, he, -⟩
  · rw [hanswer] at hok
    cases hok
  · exact ⟨e, he⟩

/-- A call that leaves an event as it was, and neither marks it nor moves its reminder. -/
private theorem flag_of_same {e : Event} {c : StoreCall} (he : e ∈ s.events)
    (hmarks : ¬ s.Marks e.id c) (hmoves : ¬ s.Moves e.id c) :
    ∃ a ∈ s.events, a.id = e.id ∧
      (e.notified = true ↔ s.Marks e.id c ∨ a.notified = true ∧ ¬ s.Moves e.id c) :=
  ⟨e, he, rfl, by simp [hmarks, hmoves]⟩

/-- What one call does to the flags: an event that was stored before has its flag set if the call
marks it, or if it was set and the call does not move the reminder; an event that the call adds has
it cleared. -/
theorem flag_answer_cases (s : EventStore) (c : StoreCall) {e : Event}
    (he : e ∈ (s.answer c).2.events) :
    (∃ a ∈ s.events, a.id = e.id ∧
        (e.notified = true ↔ s.Marks e.id c ∨ a.notified = true ∧ ¬ s.Moves e.id c)) ∨
      s.issued? c = some e.id ∧ e.notified = false := by
  cases c with
  | connect | close | get | all | range | busy | due =>
    exact Or.inl (flag_of_same he (by simp [Marks]) (by simp [Moves]))
  | delete id =>
    exact Or.inl (flag_of_same (List.mem_filter.mp he).1 (by simp [Marks]) (by simp [Moves]))
  | purge cutoff =>
    have hkept : e ∈ (s.purge cutoff).2.events := he
    rw [purge_eq] at hkept
    exact Or.inl (flag_of_same (List.mem_filter.mp hkept).1 (by simp [Marks]) (by simp [Moves]))
  | insert new =>
    rcases s.answer_insert_cases new with ⟨err, hanswer⟩ | hanswer
    · rw [hanswer] at he
      exact Or.inl (flag_of_same he (by simp [Marks]) (by simp [Moves]))
    · rw [hanswer] at he
      rcases List.mem_append.mp he with he | he
      · exact Or.inl (flag_of_same he (by simp [Marks]) (by simp [Moves]))
      · obtain rfl := List.mem_singleton.mp he
        refine Or.inr ⟨?_, rfl⟩
        simp only [issued?, hanswer]
        rfl
  | update new =>
    rcases s.answer_update_cases new with ⟨err, hanswer⟩ | ⟨old, hold, hanswer⟩
    · rw [hanswer] at he
      refine Or.inl (flag_of_same he (by simp [Marks]) ?_)
      rintro ⟨new', _, hcall, -, -, -, hok⟩
      obtain rfl := StoreCall.update.inj hcall
      rw [hanswer] at hok
      cases hok
    rw [hanswer] at he
    obtain ⟨holdmem, holdid⟩ := mem_of_find?_eq_some hold
    rcases mem_replaced he with ⟨he, hne⟩ | rfl
    · refine Or.inl (flag_of_same he (by simp [Marks]) ?_)
      rintro ⟨new', _, hcall, hid, -⟩
      obtain rfl := StoreCall.update.inj hcall
      exact hne hid.symm
    · refine Or.inl ⟨old, holdmem, holdid, ?_⟩
      have hmoves : s.Moves (replacing old new).id (.update new) ↔
          old.notifyTime ≠ new.notifyTime := by
        constructor
        · rintro ⟨new', old', hcall, -, hold', hne, -⟩
          obtain rfl := StoreCall.update.inj hcall
          obtain rfl : old = old' := Option.some.inj (hold.symm.trans hold')
          exact hne
        · intro hne
          exact ⟨new, old, rfl, rfl, hold, hne, by rw [hanswer]⟩
      rw [hmoves]
      simp [replacing, Marks]
  | markNotified id =>
    rcases s.answer_markNotified_cases id with ⟨hnone, hanswer⟩ | ⟨stored, hstored, hanswer⟩
    · rw [hanswer] at he
      refine Or.inl (flag_of_same he ?_ (by simp [Moves]))
      intro hmarks
      obtain ⟨stored, hstored⟩ := hmarks.exists_find?
      obtain rfl := StoreCall.markNotified.inj hmarks.1
      simp [hnone] at hstored
    rw [hanswer] at he
    rcases mem_marked_iff.mp he with ⟨he, hne⟩ | ⟨a, ha, rfl, rfl⟩
    · refine Or.inl (flag_of_same he ?_ (by simp [Moves]))
      rintro ⟨hcall, -⟩
      exact hne (StoreCall.markNotified.inj hcall).symm
    · refine Or.inl ⟨a, ha, rfl, iff_of_true rfl (Or.inl ⟨rfl, by rw [hanswer]⟩)⟩

/-! ### Runs -/

/-- A reminder that was noted as delivered is of an event that was inserted. -/
theorem MarkedSinceMoved.mem_issued {calls : List StoreCall} {id : Int}
    (h : s.MarkedSinceMoved calls id) : id ∈ s.issued calls := by
  obtain ⟨before, mark, after, rfl, hissued, -⟩ := h
  rw [issued_append]
  exact List.mem_append_left _ hissued

/-- What a further call does to what the calls say about a flag. -/
theorem markedSinceMoved_concat_iff {calls : List StoreCall} {c : StoreCall} {id : Int} :
    s.MarkedSinceMoved (calls ++ [c]) id ↔
      id ∈ s.issued calls ∧ (s.run calls).Marks id c ∨
        s.MarkedSinceMoved calls id ∧ ¬ (s.run calls).Moves id c := by
  constructor
  · rintro ⟨before, mark, after, hsplit, hissued, hmarks, hstill⟩
    rcases List.eq_nil_or_concat after with rfl | ⟨after, last, rfl⟩
    · obtain ⟨rfl, hmark⟩ := List.append_inj' hsplit rfl
      obtain rfl := List.singleton_inj.mp hmark
      exact Or.inl ⟨hissued, hmarks⟩
    · rw [List.concat_eq_append] at hsplit hstill
      rw [← List.cons_append, ← List.append_assoc] at hsplit
      obtain ⟨rfl, hlast⟩ := List.append_inj' hsplit rfl
      obtain rfl := List.singleton_inj.mp hlast
      refine Or.inr ⟨⟨before, mark, after, rfl, hissued, hmarks, ?_⟩, hstill after c [] rfl⟩
      rintro between d later rfl
      exact hstill between d (later ++ [c]) (by simp)
  · rintro (⟨hissued, hmarks⟩ | ⟨⟨before, mark, after, rfl, hissued, hmarks, hstill⟩, hmoves⟩)
    · exact ⟨calls, c, [], rfl, hissued, hmarks, by simp⟩
    · refine ⟨before, mark, after ++ [c], by simp, hissued, hmarks, ?_⟩
      intro between d later hsplit
      rcases List.eq_nil_or_concat later with rfl | ⟨later, last, rfl⟩
      · obtain ⟨rfl, hd⟩ := List.append_inj' hsplit rfl
        obtain rfl := List.singleton_inj.mp hd
        exact hmoves
      · rw [List.concat_eq_append, ← List.cons_append, ← List.append_assoc] at hsplit
        exact hstill between d later (List.append_inj' hsplit rfl).1

/-- The flags that a store has after calls on an empty one are those that the calls say. -/
theorem notified_run_iff (calls : List StoreCall) :
    ∀ e ∈ (({} : EventStore).run calls).events,
      (e.notified = true ↔ ({} : EventStore).MarkedSinceMoved calls e.id) := by
  induction calls using List.reverseRecOn with
  | nil => simp [run]
  | append_singleton calls c ih =>
    intro e he
    have hsound : (({} : EventStore).run calls).Sound := sound_empty.run calls
    rw [markedSinceMoved_concat_iff]
    rw [run_append, run, run] at he
    rcases flag_answer_cases _ c he with ⟨a, ha, hid, hflag⟩ | ⟨hissued, hclear⟩
    · have hid_issued : e.id ∈ ({} : EventStore).issued calls := by
        rw [← hid, mem_issued_iff]
        exact ⟨hsound.id_pos a ha, hsound.id_le a ha⟩
      rw [hflag, ih a ha, hid, and_iff_right hid_issued]
    · -- The event is new, so that no earlier call can have marked it.
      have hnew : e.id ∉ ({} : EventStore).issued calls := by
        rw [mem_issued_iff]
        rcases (({} : EventStore).run calls).issued?_cases c with ⟨hnone, -⟩ | ⟨hsome, -⟩
        · simp [hnone] at hissued
        · have hid := Option.some.inj (hsome.symm.trans hissued)
          omega
      refine iff_of_false (by simp [hclear]) ?_
      rintro (⟨hmem, -⟩ | ⟨hmarked, -⟩)
      · exact hnew hmem
      · exact hnew hmarked.mem_issued

/-! ### The flag that a call carries -/

/-- The answer to an insertion does not depend on the flag of the event. -/
theorem answer_insert_notified (s : EventStore) (e : Event) (flag : Bool) :
    s.answer (.insert { e with notified := flag }) = s.answer (.insert e) :=
  rfl

/-- The answer to a change does not depend on the flag of the event. -/
theorem answer_update_notified (s : EventStore) (e : Event) (flag : Bool) :
    s.answer (.update { e with notified := flag }) = s.answer (.update e) :=
  rfl

/-- A run goes the same way whatever flags its calls carry. -/
theorem run_map_withFlag (s : EventStore) (calls : List StoreCall) (flag : StoreCall → Bool) :
    s.run (calls.map fun c => c.withFlag (flag c)) = s.run calls := by
  induction calls generalizing s with
  | nil => rfl
  | cons c calls ih =>
    have hsame : (s.answer (c.withFlag (flag c))).2 = (s.answer c).2 := by
      cases c <;> rfl
    rw [List.map_cons, run, run, hsame, ih]

/-- **The history of the flag.** After any calls on an empty store, a stored event has its flag set
exactly if one of the calls noted the delivery of its reminder, after the event was inserted, and
none after that one moved the reminder. The flag of an event that a call carries is not read: the
call is answered alike whatever it is, and a run leaves the same store. -/
theorem notified_iff_marked_since_moved :
    (∀ calls, ∀ e ∈ (({} : EventStore).run calls).events,
      (e.notified = true ↔ ({} : EventStore).MarkedSinceMoved calls e.id)) ∧
      (∀ (s : EventStore) (e : Event) (flag : Bool),
        s.answer (.insert { e with notified := flag }) = s.answer (.insert e) ∧
          s.answer (.update { e with notified := flag }) = s.answer (.update e)) ∧
      ∀ (s : EventStore) (calls : List StoreCall) (flag : StoreCall → Bool),
        s.run (calls.map fun c => c.withFlag (flag c)) = s.run calls :=
  ⟨notified_run_iff, fun s e flag => ⟨s.answer_insert_notified e flag, s.answer_update_notified e flag⟩,
    run_map_withFlag⟩

/-- A reminder that is moved away and back is to be delivered again. -/
example :
    let midnight (day : Int) : Instant := (Instant.of? day 0 0).getD .epoch
    let first : Event := {
      id := 1
      userId := 1
      onTime := midnight 19877
      offTime := midnight 19884
      notifyTime := some (midnight 19878) }
    let calls := [.insert first, .markNotified 1, .update { first with notifyTime := none },
      .update { first with notified := true }]
    (({} : EventStore).run calls).events = [first] := by
  decide +kernel

end EventStore

end Datebook
