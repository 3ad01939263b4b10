import Datebook.Proofs.EventStore.Operations
import Mathlib.Data.List.Nodup

/-!
# The invariant of the event store

A store that was empty once and has answered calls since, in whatever order they came and
whoever made them, is *sound*: its ids ascend and were all given out by it, its events keep the
rules, and no two events of a user have an instant in common. An insertion is checked against
all events of its user, because the id that it excludes, zero, belongs to no event; a change is
checked against all but the event it replaces, also where it hands the event to another user.

## Main definitions

* `Datebook.EventStore.Sound`
* `Datebook.EventStore.run`: the store after a list of calls.
* `Datebook.EventStore.issued`: the ids that a list of calls gives out.
* `Datebook.EventStore.Removes`: the calls that take an event out of the store.

## Main results

* `Datebook.EventStore.Sound.answer`: every call keeps the store sound.
* `Datebook.EventStore.pairwise_issued`: ids are given out in ascending order.
* `Datebook.EventStore.Sound.find?_answer_eq_none_iff`: what was inserted is found until a call
  removes it.
* `Datebook.EventStore.run_empty_sound`
-/

namespace Datebook

namespace EventStore

variable {s t : EventStore}

/-- Ids ascend from one to the last that was given out, every event keeps the rules, and
different events of a user occupy spans that do not meet. -/
structure Sound (s : EventStore) : Prop where
  lastId_nonneg : 0 ≤ s.lastId
  ascending : s.events.Pairwise fun a b => a.id < b.id
  id_pos : ∀ e ∈ s.events, 1 ≤ e.id
  id_le : ∀ e ∈ s.events, e.id ≤ s.lastId
  valid : ∀ e ∈ s.events, e.validate = .ok ()
  apart : ∀ a ∈ s.events, ∀ b ∈ s.events, a.id ≠ b.id → a.userId = b.userId →
    a.span.meets b.span = false

theorem sound_empty : ({} : EventStore).Sound where
  lastId_nonneg := Int.le_refl 0
  ascending := .nil
  id_pos := by simp
  id_le := by simp
  valid := by simp
  apart := by simp

namespace Sound

/-! ### Looking up -/

/-- An id names one event. -/
theorem eq_of_id_eq (h : s.Sound) {a b : Event} (ha : a ∈ s.events) (hb : b ∈ s.events)
    (hid : a.id = b.id) : a = b := by
  have hnodup : (s.events.map Event.id).Nodup :=
    List.pairwise_map.mpr (h.ascending.imp fun hlt => Int.ne_of_lt hlt)
  exact List.inj_on_of_nodup_map hnodup ha hb hid

/-- Looking up an id finds the one event that carries it. -/
theorem find?_eq_some_iff (h : s.Sound) {id : Int} {e : Event} :
    s.find? id = some e ↔ e ∈ s.events ∧ e.id = id := by
  constructor
  · exact mem_of_find?_eq_some
  · rintro ⟨he, rfl⟩
    cases hfind : s.find? e.id with
    | none => exact absurd rfl (find?_eq_none_iff.mp hfind e he)
    | some f =>
      obtain ⟨hf, hid⟩ := mem_of_find?_eq_some hfind
      rw [h.eq_of_id_eq hf he hid]

/-! ### Every change keeps the store sound -/

/-- A user who is free of the events with id zero is free of all. -/
theorem meets_eq_false_of_isFree (h : s.Sound) {userId : Int} {span : Span}
    (hfree : s.IsFree 0 userId span) {e : Event} (he : e ∈ s.events) (huser : e.userId = userId) :
    e.span.meets span = false := by
  have hpos := h.id_pos e he
  exact hfree e he huser (by omega)

protected theorem added (h : s.Sound) {e : Event} (hvalid : e.validate = .ok ())
    (hfree : s.IsFree 0 e.userId e.span) : (s.added e).Sound where
  lastId_nonneg := by
    have := h.lastId_nonneg
    simp only [EventStore.added]
    omega
  ascending := by
    refine List.pairwise_append.mpr ⟨h.ascending, List.pairwise_singleton _ _, ?_⟩
    intro a ha b hb
    obtain rfl := List.mem_singleton.mp hb
    exact Int.lt_add_one_of_le (h.id_le a ha)
  id_pos a ha := by
    rcases List.mem_append.mp ha with ha | ha
    · exact h.id_pos a ha
    · obtain rfl := List.mem_singleton.mp ha
      have := h.lastId_nonneg
      simp only
      omega
  id_le a ha := by
    rcases List.mem_append.mp ha with ha | ha
    · exact Int.le_add_one (h.id_le a ha)
    · obtain rfl := List.mem_singleton.mp ha
      exact Int.le_refl _
  valid a ha := by
    rcases List.mem_append.mp ha with ha | ha
    · exact h.valid a ha
    · obtain rfl := List.mem_singleton.mp ha
      exact hvalid
  apart a ha b hb hid huser := by
    rcases List.mem_append.mp ha with ha | ha <;> rcases List.mem_append.mp hb with hb | hb
    · exact h.apart a ha b hb hid huser
    · obtain rfl := List.mem_singleton.mp hb
      exact h.meets_eq_false_of_isFree hfree ha huser
    · obtain rfl := List.mem_singleton.mp ha
      rw [Span.meets_comm]
      exact h.meets_eq_false_of_isFree hfree hb huser.symm
    · obtain rfl := List.mem_singleton.mp ha
      obtain rfl := List.mem_singleton.mp hb
      exact absurd rfl hid

protected theorem kept (h : s.Sound) (keep : Event → Bool) : (s.kept keep).Sound where
  lastId_nonneg := h.lastId_nonneg
  ascending := h.ascending.filter keep
  id_pos e he := h.id_pos e (List.mem_filter.mp he).1
  id_le e he := h.id_le e (List.mem_filter.mp he).1
  valid e he := h.valid e (List.mem_filter.mp he).1
  apart a ha b hb := h.apart a (List.mem_filter.mp ha).1 b (List.mem_filter.mp hb).1

/-- Events may be exchanged for others of the same ids, as long as these keep the rules and stay
apart. -/
theorem exchange (h : s.Sound) {f : Event → Event} (hid : ∀ e ∈ s.events, (f e).id = e.id)
    (hvalid : ∀ e ∈ s.events, (f e).validate = .ok ())
    (hapart : ∀ a ∈ s.events, ∀ b ∈ s.events, a.id ≠ b.id → (f a).userId = (f b).userId →
      (f a).span.meets (f b).span = false) :
    ({ s with events := s.events.map f } : EventStore).Sound where
  lastId_nonneg := h.lastId_nonneg
  ascending := by
    refine List.pairwise_map.mpr (h.ascending.imp_of_mem ?_)
    intro a b ha hb hlt
    rwa [hid a ha, hid b hb]
  id_pos e he := by
    obtain ⟨a, ha, rfl⟩ := List.mem_map.mp he
    rw [hid a ha]
    exact h.id_pos a ha
  id_le e he := by
    obtain ⟨a, ha, rfl⟩ := List.mem_map.mp he
    rw [hid a ha]
    exact h.id_le a ha
  valid e he := by
    obtain ⟨a, ha, rfl⟩ := List.mem_map.mp he
    exact hvalid a ha
  apart e he e' he' hne := by
    obtain ⟨a, ha, rfl⟩ := List.mem_map.mp he
    obtain ⟨b, hb, rfl⟩ := List.mem_map.mp he'
    rw [hid a ha, hid b hb] at hne
    exact hapart a ha b hb hne

protected theorem replaced (h : s.Sound) {old e : Event} (hvalid : e.validate = .ok ())
    (hfree : s.IsFree e.id e.userId e.span) : (s.replaced old e).Sound := by
  refine h.exchange ?_ ?_ ?_
  · intro a _
    split
    · next hid => exact hid.symm
    · rfl
  · intro a ha
    split
    · exact hvalid
    · exact h.valid a ha
  · intro a ha b hb hne
    -- Only one of the two events can be the one that is replaced.
    split <;> split <;> intro huser
    · next ha' hb' => exact absurd (ha'.trans hb'.symm) hne
    · next _ hb' =>
      rw [Span.meets_comm]
      exact hfree b hb huser.symm hb'
    · next ha' _ => exact hfree a ha huser ha'
    · exact h.apart a ha b hb hne huser

protected theorem marked (h : s.Sound) (id : Int) : (s.marked id).Sound := by
  refine h.exchange ?_ ?_ ?_
  · intro a _
    split <;> rfl
  · intro a ha
    split
    · exact h.valid a ha
    · exact h.valid a ha
  · intro a ha b hb hne huser
    have hspan : ∀ e : Event, (if e.id = id then { e with notified := true } else e).span = e.span ∧
        (if e.id = id then { e with notified := true } else e).userId = e.userId := by
      intro e
      split <;> exact ⟨rfl, rfl⟩
    rw [(hspan a).1, (hspan b).1]
    rw [(hspan a).2, (hspan b).2] at huser
    exact h.apart a ha b hb hne huser

theorem change (h : s.Sound) {c : StoreCall} (hc : s.Change c t) : t.Sound := by
  cases hc with
  | nothing => exact h
  | add e hvalid hfree => exact h.added hvalid hfree
  | replace e old hvalid _ hfree => exact h.replaced hvalid hfree
  | delete id => exact h.kept _
  | purge cutoff => exact h.kept _
  | mark id => exact h.marked id

/-- Every call keeps the store sound. -/
theorem answer (h : s.Sound) (c : StoreCall) : (s.answer c).2.Sound :=
  h.change (s.change_answer c)

end Sound

/-! ### Runs -/

/-- The store after a list of calls. -/
def run (s : EventStore) : List StoreCall → EventStore
  | [] => s
  | c :: calls => (s.answer c).2.run calls

/-- The id that a call gives out, where it is an insertion that succeeds. -/
def issued? (s : EventStore) : StoreCall → Option Int
  | .insert e => match (s.answer (.insert e)).1 with
    | .ok (id : Int) => some id
    | .error _ => none
  | _ => none

/-- The ids that a list of calls gives out, in order. -/
def issued (s : EventStore) : List StoreCall → List Int
  | [] => []
  | c :: calls => (s.issued? c).toList ++ (s.answer c).2.issued calls

theorem run_append (s : EventStore) (calls more : List StoreCall) :
    s.run (calls ++ more) = (s.run calls).run more := by
  induction calls generalizing s with
  | nil => rfl
  | cons c calls ih => exact ih (s.answer c).2

theorem issued_append (s : EventStore) (calls more : List StoreCall) :
    s.issued (calls ++ more) = s.issued calls ++ (s.run calls).issued more := by
  induction calls generalizing s with
  | nil => rfl
  | cons c calls ih => rw [List.cons_append, issued, ih, issued, run, List.append_assoc]

theorem Sound.run (h : s.Sound) (calls : List StoreCall) : (s.run calls).Sound := by
  induction calls generalizing s with
  | nil => exact h
  | cons c calls ih => exact ih (h.answer c)

/-- Only an insertion changes the last id. -/
theorem Change.lastId_eq {c : StoreCall} (hc : s.Change c t) (hinsert : ∀ e, c ≠ .insert e) :
    t.lastId = s.lastId := by
  cases hc with
  | add e => exact absurd rfl (hinsert e)
  | nothing | replace | delete | purge | mark => rfl

/-- A call gives out the next id or none, and only then is the last id another one. -/
theorem issued?_cases (s : EventStore) (c : StoreCall) :
    s.issued? c = none ∧ (s.answer c).2.lastId = s.lastId ∨
      s.issued? c = some (s.lastId + 1) ∧ (s.answer c).2.lastId = s.lastId + 1 := by
  cases c with
  | insert e =>
    cases h : s.insert e with
    | error err => exact Or.inl (by simp only [issued?, answer, h, and_self])
    | ok r =>
      obtain ⟨id, t⟩ := r
      obtain ⟨-, -, rfl, rfl⟩ := insert_eq_ok_iff.mp h
      exact Or.inr (by simp only [issued?, answer, h, added, and_self])
  | connect | close | update | delete | get | all | range | busy | due | purge | markNotified =>
    exact Or.inl ⟨rfl, (s.change_answer _).lastId_eq (by simp)⟩

/-- An id that counts as given out only after a call was given out by it. -/
theorem issued?_eq_some_of_lt {c : StoreCall} {id : Int} (hlt : s.lastId < id)
    (hle : id ≤ (s.answer c).2.lastId) : s.issued? c = some id := by
  rcases s.issued?_cases c with ⟨-, hlast⟩ | ⟨hissued, hlast⟩
  · omega
  · obtain rfl : id = s.lastId + 1 := by omega
    exact hissued

/-- The last id counts the ids that were given out. -/
theorem lastId_run (s : EventStore) (calls : List StoreCall) :
    (s.run calls).lastId = s.lastId + (s.issued calls).length := by
  induction calls generalizing s with
  | nil => simp [run, issued]
  | cons c calls ih =>
    rw [run, ih, issued]
    rcases s.issued?_cases c with ⟨hnone, hlast⟩ | ⟨hsome, hlast⟩
    · rw [hnone, hlast]
      rfl
    · rw [hsome, hlast, List.length_append, Option.toList_some, List.length_singleton]
      omega

/-- The ids that are given out are all those after the last one, up to the one that is then the
last. -/
theorem mem_issued_iff {calls : List StoreCall} {id : Int} :
    id ∈ s.issued calls ↔ s.lastId < id ∧ id ≤ (s.run calls).lastId := by
  induction calls generalizing s with
  | nil =>
    simp only [issued, List.not_mem_nil, run, false_iff]
    omega
  | cons c calls ih =>
    have hlast := (s.answer c).2.lastId_run calls
    rw [issued, List.mem_append, Option.mem_toList, ih, run]
    rcases s.issued?_cases c with ⟨hissued, hanswer⟩ | ⟨hissued, hanswer⟩
    · simp only [hissued, hanswer, reduceCtorEq, false_or]
    · rw [hissued, hanswer, Option.some.injEq]
      omega

/-- Every id that is given out is new. -/
theorem lt_of_mem_issued {calls : List StoreCall} {id : Int} (h : id ∈ s.issued calls) :
    s.lastId < id :=
  (mem_issued_iff.mp h).1

/-- Ids are given out in ascending order, so that none is given out twice. -/
theorem pairwise_issued (s : EventStore) (calls : List StoreCall) :
    (s.issued calls).Pairwise (· < ·) := by
  induction calls generalizing s with
  | nil => exact .nil
  | cons c calls ih =>
    rw [issued]
    rcases s.issued?_cases c with ⟨hnone, -⟩ | ⟨hsome, hlast⟩
    · rw [hnone]
      exact ih _
    · rw [hsome]
      refine List.pairwise_cons.mpr ⟨fun id hid => ?_, ih _⟩
      exact hlast ▸ lt_of_mem_issued hid

/-- The id was given out at some time. -/
def HasIssued (s : EventStore) (id : Int) : Prop :=
  1 ≤ id ∧ id ≤ s.lastId

/-- The id of a stored event was given out. -/
theorem Sound.hasIssued (h : s.Sound) {e : Event} (he : e ∈ s.events) : s.HasIssued e.id :=
  ⟨h.id_pos e he, h.id_le e he⟩

/-- No call takes back an id that was given out. -/
theorem lastId_le_answer (s : EventStore) (c : StoreCall) : s.lastId ≤ (s.answer c).2.lastId := by
  rcases s.issued?_cases c with ⟨-, hlast⟩ | ⟨-, hlast⟩ <;> omega

/-! ### Removal -/

/-- The call takes the event with an id out of the store: it deletes the event, or it purges it
because the event ended before the cutoff. -/
def Removes (s : EventStore) (id : Int) (c : StoreCall) : Prop :=
  ∃ e, s.find? id = some e ∧ (c = .delete id ∨ ∃ cutoff, c = .purge cutoff ∧ e.offTime < cutoff)

theorem Sound.find?_kept_eq_none_iff (h : s.Sound) {keep : Event → Bool} {id : Int} :
    (s.kept keep).find? id = none ↔
      s.find? id = none ∨ ∃ e, s.find? id = some e ∧ keep e = false := by
  constructor
  · intro hgone
    cases hfind : s.find? id with
    | none => exact Or.inl rfl
    | some e =>
      refine Or.inr ⟨e, rfl, ?_⟩
      obtain ⟨he, hid⟩ := mem_of_find?_eq_some hfind
      by_contra hkeep
      have hkept : e ∈ (s.kept keep).events := List.mem_filter.mpr ⟨he, by simpa using hkeep⟩
      exact find?_eq_none_iff.mp hgone e hkept hid
  · intro hgone
    refine find?_eq_none_iff.mpr fun a ha hid => ?_
    obtain ⟨ha, hkeep⟩ := List.mem_filter.mp ha
    have hfind : s.find? id = some a := h.find?_eq_some_iff.mpr ⟨ha, hid⟩
    rcases hgone with hnone | ⟨e, he, hdrop⟩
    · simp [hfind] at hnone
    · obtain rfl : a = e := Option.some.inj (hfind.symm.trans he)
      simp [hkeep] at hdrop

/-- Of an id that was given out there is no event after a call exactly if there was none before or
the call removes it. -/
theorem Sound.find?_answer_eq_none_iff (h : s.Sound) (c : StoreCall) {id : Int}
    (hid : id ≤ s.lastId) :
    (s.answer c).2.find? id = none ↔ s.find? id = none ∨ s.Removes id c := by
  cases c with
  | connect | close | get | all | range | busy | due => simp [EventStore.answer, Removes]
  | insert e =>
    rcases s.answer_insert_cases e with ⟨err, hanswer⟩ | hanswer
    · simp [hanswer, Removes]
    · have hne : s.lastId + 1 ≠ id := by omega
      simp [hanswer, Removes, EventStore.added, find?, hne]
  | update e =>
    rcases s.answer_update_cases e with ⟨err, hanswer⟩ | ⟨old, -, hanswer⟩
    · simp [hanswer, Removes]
    · rw [hanswer, EventStore.replaced, find?_map]
      · simp [Removes]
      · intro a
        split
        · next ha => exact ha.symm
        · rfl
  | markNotified n =>
    rcases s.answer_markNotified_cases n with ⟨-, hanswer⟩ | ⟨e, -, hanswer⟩
    · simp [hanswer, Removes]
    · rw [hanswer, EventStore.marked, find?_map fun a => by split <;> rfl]
      simp [Removes]
  | delete n =>
    have hanswer : (s.answer (.delete n)).2 = s.kept (·.id != n) := rfl
    rw [hanswer, h.find?_kept_eq_none_iff]
    refine or_congr_right (exists_congr fun e => and_congr_right fun he => ?_)
    obtain ⟨-, rfl⟩ := mem_of_find?_eq_some he
    simp only [bne_eq_false_iff_eq, StoreCall.delete.injEq, reduceCtorEq, false_and, exists_false,
      or_false]
    exact eq_comm
  | purge cutoff =>
    have hanswer : (s.answer (.purge cutoff)).2 = s.kept fun e => cutoff ≤ e.offTime :=
      s.purge_eq cutoff
    rw [hanswer, h.find?_kept_eq_none_iff]
    refine or_congr_right (exists_congr fun e => and_congr_right fun _ => ?_)
    rw [decide_eq_false_iff_not, Instant.not_le]
    simp only [reduceCtorEq, false_or, StoreCall.purge.injEq, exists_eq_left']

/-- An event is found under the id that its insertion gives out. -/
theorem find?_answer_of_issued? {c : StoreCall} {id : Int} (h : s.issued? c = some id) :
    (s.answer c).2.find? id ≠ none := by
  cases c with
  | insert e =>
    rcases s.answer_insert_cases e with ⟨err, hanswer⟩ | hanswer
    · simp [issued?, hanswer] at h
    · simp only [issued?, hanswer] at h
      obtain rfl : s.lastId + 1 = id := Option.some.inj h
      rw [hanswer, ne_eq, find?_eq_none_iff]
      exact fun hnone => hnone _ (List.mem_append_right _ List.mem_cons_self) rfl
  | connect | close | update | delete | get | all | range | busy | due | purge | markNotified =>
    simp [issued?] at h

/-- **The invariant of the store.** After any calls on an empty store, looking up an id finds the
one event that carries it, and that id was given out; every event keeps the rules; of two events
of one user, one ends before the other begins; and no id was given out twice, their number being
the last of them. -/
theorem run_empty_sound (calls : List StoreCall) :
    let s := ({} : EventStore).run calls
    (∀ id e, s.find? id = some e ↔ e ∈ s.events ∧ e.id = id) ∧
      (∀ e ∈ s.events, 1 ≤ e.id ∧ e.id ≤ s.lastId) ∧
      (∀ e ∈ s.events, e.validate = .ok ()) ∧
      (∀ a ∈ s.events, ∀ b ∈ s.events, a ≠ b → a.userId = b.userId →
        a.offTime < b.onTime ∨ b.offTime < a.onTime) ∧
      (({} : EventStore).issued calls).Nodup ∧
      s.lastId = (({} : EventStore).issued calls).length := by
  have h : (({} : EventStore).run calls).Sound := sound_empty.run calls
  refine ⟨fun id e => h.find?_eq_some_iff, fun e he => ⟨h.id_pos e he, h.id_le e he⟩, h.valid, ?_,
    (pairwise_issued _ calls).imp Int.ne_of_lt, ?_⟩
  · intro a ha b hb hne huser
    have hid : a.id ≠ b.id := fun hid => hne (h.eq_of_id_eq ha hb hid)
    exact Span.meets_eq_false_iff.mp (h.apart a ha b hb hid huser)
  · rw [lastId_run, Int.zero_add]

end EventStore

end Datebook
