import Datebook.Proofs.EventStore.Invariant

/-!
# To whom the ids were given

All users draw their ids from one sequence. The register of a run notes for every id that the run
gives out the user whose event it was given to; an id stands in it once. An event that changes hands
would carry an id that was given to someone else. As long as every change leaves its event to the
user that stands in the register, so does the store, and an id then tells whose event it is.

## Main definitions

* `Datebook.Register`, `Datebook.Register.idsOf`
* `Datebook.EventStore.assigned`, `Datebook.EventStore.register`: the ids that a list of calls gives
  out, with their users.
* `Datebook.StoreCall.keepsUser`: a change that does not hand its event to another user.

## Main results

* `Datebook.Register.user_eq`: an id belongs to one user.
* `Datebook.EventStore.Owned.answer`: what the register says of the store stays true.
-/

namespace Datebook

/-- Ids, each with the user it was given to. -/
structure Register where
  entries : List (Int × Int)
  nodup : (entries.map Prod.fst).Nodup
  pos : ∀ p ∈ entries, 1 ≤ p.1

namespace Register

variable {r : Register}

/-- The id was given to the user. -/
def Gives (r : Register) (id userId : Int) : Prop :=
  (id, userId) ∈ r.entries

/-- The ids that were given to a user. -/
def idsOf (r : Register) (userId : Int) : List Int :=
  (r.entries.filter (·.2 == userId)).map Prod.fst

/-- An id was given to one user. -/
theorem user_eq {id u v : Int} (hu : r.Gives id u) (hv : r.Gives id v) : u = v :=
  congrArg Prod.snd (List.inj_on_of_nodup_map r.nodup hu hv rfl)

theorem mem_idsOf_iff {id userId : Int} : id ∈ r.idsOf userId ↔ r.Gives id userId := by
  simp only [idsOf, Gives, List.mem_map, List.mem_filter, beq_iff_eq]
  constructor
  · rintro ⟨⟨_, _⟩, ⟨h, rfl⟩, rfl⟩
    exact h
  · exact fun h => ⟨(id, userId), ⟨h, rfl⟩, rfl⟩

theorem nodup_idsOf (r : Register) (userId : Int) : (r.idsOf userId).Nodup :=
  r.nodup.sublist (List.filter_sublist.map Prod.fst)

theorem pos_of_mem_idsOf {id userId : Int} (h : id ∈ r.idsOf userId) : 1 ≤ id :=
  r.pos _ (mem_idsOf_iff.mp h)

end Register

/-- A change leaves its event to the user whom the id was given to; where the id was given to nobody
there is nothing to change. -/
def StoreCall.keepsUser (r : Register) : StoreCall → Bool
  | .update e => r.entries.all fun p => p.1 != e.id || p.2 == e.userId
  | _ => true

theorem StoreCall.user_eq_of_keepsUser {r : Register} {e : Event} {userId : Int}
    (h : (StoreCall.update e).keepsUser r = true) (hgiven : r.Gives e.id userId) :
    userId = e.userId := by
  simpa using List.all_eq_true.mp h _ hgiven

namespace EventStore

variable {s t : EventStore} {r : Register}

/-! ### Keeping the register -/

/-- The id that a call gives out, and the user it is given to. -/
def assigned? (s : EventStore) : StoreCall → Option (Int × Int)
  | .insert e => (s.issued? (.insert e)).map fun id => (id, e.userId)
  | _ => none

/-- The ids that a list of calls gives out, with their users and in order. -/
def assigned (s : EventStore) : List StoreCall → List (Int × Int)
  | [] => []
  | c :: calls => (s.assigned? c).toList ++ (s.answer c).2.assigned calls

theorem assigned_append (s : EventStore) (calls more : List StoreCall) :
    s.assigned (calls ++ more) = s.assigned calls ++ (s.run calls).assigned more := by
  induction calls generalizing s with
  | nil => rfl
  | cons c calls ih => rw [List.cons_append, assigned, ih, assigned, run, List.append_assoc]

/-- An event that is added is given the next id. -/
theorem assigned?_of_added {e : Event}
    (h : s.answer (.insert e) = (.ok (s.lastId + 1), s.added e)) :
    s.assigned? (.insert e) = some (s.lastId + 1, e.userId) := by
  simp only [assigned?, issued?, h]
  rfl

theorem map_fst_assigned? (s : EventStore) (c : StoreCall) :
    (s.assigned? c).map Prod.fst = s.issued? c := by
  cases c with
  | insert e => rw [assigned?, Option.map_map, Function.comp_def, Option.map_id']
  | connect | close | update | delete | get | all | range | busy | due | purge | markNotified => rfl

theorem map_fst_assigned (s : EventStore) (calls : List StoreCall) :
    (s.assigned calls).map Prod.fst = s.issued calls := by
  induction calls generalizing s with
  | nil => rfl
  | cons c calls ih =>
    rw [assigned, issued, List.map_append, ih, ← map_fst_assigned?, Option.toList_map]

/-- The register of a list of calls on an empty store. -/
def register (calls : List StoreCall) : Register where
  entries := ({} : EventStore).assigned calls
  nodup := by
    rw [map_fst_assigned]
    exact (pairwise_issued _ calls).imp Int.ne_of_lt
  pos p hp := by
    have hissued : p.1 ∈ ({} : EventStore).issued calls := by
      rw [← map_fst_assigned]
      exact List.mem_map_of_mem hp
    exact lt_of_mem_issued hissued

/-- What a call in the middle of a list gives out stands in the register of the list. -/
theorem gives_register_of_assigned? {before after : List StoreCall} {c : StoreCall} {p : Int × Int}
    (h : (({} : EventStore).run before).assigned? c = some p) :
    (register (before ++ c :: after)).Gives p.1 p.2 := by
  have hmem : p ∈ ({} : EventStore).assigned (before ++ c :: after) := by
    rw [assigned_append, assigned, h]
    exact List.mem_append_right _ List.mem_cons_self
  exact hmem

/-! ### What the register says of the store -/

/-- Every stored event belongs to the user whom its id was given to. -/
def Owned (s : EventStore) (r : Register) : Prop :=
  ∀ e ∈ s.events, r.Gives e.id e.userId

theorem owned_empty (r : Register) : ({} : EventStore).Owned r := by
  simp [Owned]

namespace Owned

/-- The id of an event tells its user. -/
theorem mem_idsOf_iff (h : s.Owned r) {e : Event} (he : e ∈ s.events) {userId : Int} :
    e.id ∈ r.idsOf userId ↔ e.userId = userId := by
  rw [Register.mem_idsOf_iff]
  constructor
  · exact Register.user_eq (h e he)
  · rintro rfl
    exact h e he

/-- A change that the register admits finds the event with the user that it names. -/
theorem user_eq_of_keepsUser (h : s.Owned r) {e stored : Event}
    (hkeeps : (StoreCall.update e).keepsUser r = true) (hstored : stored ∈ s.events)
    (hid : stored.id = e.id) : stored.userId = e.userId :=
  StoreCall.user_eq_of_keepsUser hkeeps (hid ▸ h stored hstored)

/-- No call that the register admits makes it wrong. -/
theorem answer (h : s.Owned r) {c : StoreCall} (hkeeps : c.keepsUser r = true)
    (hnew : ∀ p, s.assigned? c = some p → r.Gives p.1 p.2) : (s.answer c).2.Owned r := by
  cases c with
  | connect | close | get | all | range | busy | due => exact h
  | insert e =>
    rcases s.answer_insert_cases e with ⟨err, hanswer⟩ | hanswer
    · rwa [hanswer]
    · rw [hanswer]
      intro a ha
      rcases List.mem_append.mp ha with ha | ha
      · exact h a ha
      · obtain rfl := List.mem_singleton.mp ha
        exact hnew _ (assigned?_of_added hanswer)
  | update e =>
    rcases s.answer_update_cases e with ⟨err, hanswer⟩ | ⟨old, hold, hanswer⟩
    · rwa [hanswer]
    · rw [hanswer]
      intro a ha
      rcases mem_replaced ha with ⟨ha, -⟩ | rfl
      · exact h a ha
      · obtain ⟨hmem, hid⟩ := mem_of_find?_eq_some hold
        have huser := h.user_eq_of_keepsUser hkeeps hmem hid
        have hgives := h old hmem
        rwa [hid, huser] at hgives
  | delete id => exact fun a ha => h a (List.mem_filter.mp ha).1
  | purge cutoff =>
    have hanswer : (s.answer (.purge cutoff)).2 = s.kept fun e => cutoff ≤ e.offTime :=
      s.purge_eq cutoff
    rw [hanswer]
    exact fun a ha => h a (List.mem_filter.mp ha).1
  | markNotified id =>
    rcases s.answer_markNotified_cases id with ⟨-, hanswer⟩ | ⟨e, -, hanswer⟩
    · rwa [hanswer]
    · rw [hanswer]
      intro a ha
      rcases mem_marked_iff.mp ha with ⟨ha, -⟩ | ⟨b, hb, -, rfl⟩
      · exact h a ha
      · exact h b hb

end Owned

end EventStore

end Datebook
