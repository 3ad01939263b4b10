import Datebook.Proofs.EventStore.Footprint

/-!
# What is taken in, and why the rest is refused

An event that keeps the rules is taken in unless a stored event of its user is in the way, that is,
has an instant in common with it. A change asks in addition that there is an event to be changed,
and that event is not in the way, whomever it belonged to. What is refused is refused for the first
reason that applies: a rule, a missing event, an event in the way. The check of free time that users
can ask for by itself comes to the same as the one that insertions and changes make.

## Main definitions

* `Datebook.Span.Overlaps`: two spans have an instant in common.
* `Datebook.EventStore.Obstructs`: a stored event is in the way of another.
* `Datebook.EventStore.Insertion`, `Datebook.EventStore.Replacement`: the answers to an insertion
  and to a change, by what they depend on.

## Main results

* `Datebook.EventStore.Sound.insertion`, `Datebook.EventStore.Sound.replacement`
* `Datebook.EventStore.Sound.get_added`, `Datebook.EventStore.get_replaced`
* `Datebook.EventStore.taken_in_iff_unobstructed`
-/

namespace Datebook

namespace Span

variable {s t : Span}

/-- An instant lies in both spans. -/
def Overlaps (s t : Span) : Prop :=
  ∃ i, s.holds i = true ∧ t.holds i = true

/-- Two spans that end no earlier than they begin meet exactly if they have an instant in common. -/
theorem meets_iff_overlaps (hs : s.first ≤ s.last) (ht : t.first ≤ t.last) :
    s.meets t = true ↔ s.Overlaps t := by
  simp only [meets_eq_true_iff, Overlaps, holds_eq_true_iff]
  constructor
  · rintro ⟨hst, hts⟩
    -- The later of the two beginnings lies in both spans.
    by_cases hle : s.first ≤ t.first
    · exact ⟨t.first, ⟨hle, hts⟩, Int.le_refl _, ht⟩
    · exact ⟨s.first, ⟨Int.le_refl _, hs⟩, Instant.le_of_lt (Instant.not_le.mp hle), hst⟩
  · rintro ⟨i, ⟨hsi, his⟩, hti, hit⟩
    exact ⟨Instant.le_trans hsi hit, Instant.le_trans hti his⟩

end Span

namespace EventStore

variable {s : EventStore} {e old : Event} {err : StoreError}

/-! ### What is in the way -/

/-- A stored event is in the way of another: it belongs to the same user, and there is an instant at
which both take place. -/
def Obstructs (s : EventStore) (a e : Event) : Prop :=
  a ∈ s.events ∧ a.userId = e.userId ∧ a.span.Overlaps e.span

/-- The check of free time names an event that is in the way, the one with the excluded id apart, or
there is none. -/
theorem Sound.checkFree_cases (h : s.Sound) (hvalid : e.validate = .ok ()) (exclude : Int) :
    (∃ a, s.Obstructs a e ∧ a.id ≠ exclude ∧
        s.checkFree exclude e.userId e.span = .error (.conflict e.userId a.id)) ∨
      (∀ a, s.Obstructs a e → a.id = exclude) ∧
        s.checkFree exclude e.userId e.span = .ok () := by
  have hmeets {a : Event} (ha : a ∈ s.events) :
      a.span.meets e.span = true ↔ a.span.Overlaps e.span :=
    Span.meets_iff_overlaps (Event.onTime_le_offTime (h.valid a ha))
      (Event.onTime_le_offTime hvalid)
  cases hcheck : s.checkFree exclude e.userId e.span with
  | error err =>
    obtain ⟨a, hfound, rfl⟩ := checkFree_eq_error_iff.mp hcheck
    rw [conflict?] at hfound
    obtain ⟨ha, huser⟩ := List.mem_filter.mp (List.mem_of_find?_eq_some hfound)
    have hway := List.find?_some hfound
    simp only [Bool.and_eq_true, bne_iff_ne] at hway
    exact Or.inl ⟨a, ⟨ha, beq_iff_eq.mp huser, (hmeets ha).mp hway.2⟩, hway.1, rfl⟩
  | ok u =>
    refine Or.inr ⟨fun a ha => ?_, rfl⟩
    obtain ⟨hmem, huser, hoverlaps⟩ := ha
    by_contra hid
    have hapart := checkFree_eq_ok_iff.mp hcheck a hmem huser hid
    rw [(hmeets hmem).mpr hoverlaps] at hapart
    exact Bool.noConfusion hapart

/-- What is in the way of an event is no violation of its rules. -/
theorem checkFree_ne_validation {exclude userId : Int} {span : Span} {v : Violation} :
    s.checkFree exclude userId span ≠ .error (.validation v) := by
  rw [ne_eq, checkFree_eq_error_iff]
  rintro ⟨e, -, h⟩
  simp at h

/-! ### Insertions -/

/-- The answers to an insertion: an event is refused by the rules or for an event that is in its
way, or it is added. -/
inductive Insertion (s : EventStore) (e : Event) : Except StoreError Int × EventStore → Prop
  | violation {v : Violation} (broken : e.validate = .error v) :
      Insertion s e (.error (.validation v), s)
  | conflict {a : Event} (valid : e.validate = .ok ()) (obstructs : s.Obstructs a e) :
      Insertion s e (.error (.conflict e.userId a.id), s)
  | added (valid : e.validate = .ok ()) (free : ∀ a, ¬ s.Obstructs a e) :
      Insertion s e (.ok (s.lastId + 1), s.added e)

theorem answer_insert_of_error (h : s.insert e = .error err) :
    s.answer (.insert e) = (.error err, s) := by
  rw [answer, h]

/-- An event that keeps the rules is added where the check of free time finds nothing. -/
theorem answer_insert_of_free (hvalid : e.validate = .ok ())
    (hfree : s.checkFree 0 e.userId e.span = .ok ()) :
    s.answer (.insert e) = (.ok (s.lastId + 1), s.added e) := by
  have hinsert : s.insert e = .ok (s.lastId + 1, s.added e) :=
    insert_eq_ok_iff.mpr ⟨hvalid, checkFree_eq_ok_iff.mp hfree, rfl, rfl⟩
  simp only [answer, hinsert]
  rfl

/-- An insertion has the answer that the rules and the events in the way call for. -/
theorem Sound.insertion (h : s.Sound) (e : Event) : s.Insertion e (s.answer (.insert e)) := by
  cases hvalid : e.validate with
  | error v =>
    rw [answer_insert_of_error (insert_eq_error_iff.mpr (Or.inl ⟨v, hvalid, rfl⟩))]
    exact .violation hvalid
  | ok u =>
    rcases h.checkFree_cases hvalid 0 with ⟨a, ha, -, hbusy⟩ | ⟨hnone, hfree⟩
    · rw [answer_insert_of_error (insert_eq_error_iff.mpr (Or.inr ⟨hvalid, hbusy⟩))]
      exact .conflict hvalid ha
    · rw [answer_insert_of_free hvalid hfree]
      refine .added hvalid fun a ha => ?_
      -- The id that is excluded is that of no event.
      have hpos := h.id_pos a ha.1
      have hzero := hnone a ha
      omega

/-- An insertion is refused by the rules exactly where they refuse the event. -/
theorem answer_insert_validation_iff {v : Violation} :
    (s.answer (.insert e)).1 = .error (.validation v) ↔ e.validate = .error v := by
  have hinsert : (s.answer (.insert e)).1 = .error (.validation v) ↔
      s.insert e = .error (.validation v) := by
    rw [answer]
    cases s.insert e with
    | error err => rw [Except.error.injEq, Except.error.injEq]
    | ok r => simp
  rw [hinsert, insert_eq_error_iff]
  simp [checkFree_ne_validation]

/-- For an event that keeps the rules an insertion comes to the same as the check of free time. -/
theorem map_answer_insert (hvalid : e.validate = .ok ()) :
    (s.answer (.insert e)).1.map (fun _ => ()) = s.checkFree 0 e.userId e.span := by
  cases hcheck : s.checkFree 0 e.userId e.span with
  | error err =>
    rw [answer_insert_of_error (insert_eq_error_iff.mpr (Or.inr ⟨hvalid, hcheck⟩))]
    rfl
  | ok u =>
    rw [answer_insert_of_free hvalid hcheck]
    rfl

/-- An event is found as it was inserted, under its id and with a reminder to be delivered. -/
theorem Sound.get_added (h : s.Sound) (e : Event) :
    (s.added e).get (s.lastId + 1) = .ok { e with id := s.lastId + 1, notified := false } := by
  have hnew : s.find? (s.lastId + 1) = none := h.find?_next_eq_none
  rw [get_eq_ok_iff, find?, added, List.find?_append]
  rw [find?] at hnew
  simp [hnew]

/-! ### Changes -/

/-- The answers to a change: an event is refused by the rules, for want of an event with its id or
for another event that is in its way, in this order, or it takes the place of the one that has its
id. -/
inductive Replacement (s : EventStore) (e : Event) : Except StoreError Unit × EventStore → Prop
  | violation {v : Violation} (broken : e.validateChange = .error v) :
      Replacement s e (.error (.validation v), s)
  | missing (valid : e.validateChange = .ok ()) (missing : s.find? e.id = none) :
      Replacement s e (.error (.notFound e.id), s)
  | conflict {old a : Event} (valid : e.validateChange = .ok ()) (stored : s.find? e.id = some old)
      (obstructs : s.Obstructs a e) (other : a.id ≠ e.id) :
      Replacement s e (.error (.conflict e.userId a.id), s)
  | replaced {old : Event} (valid : e.validateChange = .ok ()) (stored : s.find? e.id = some old)
      (free : ∀ a, s.Obstructs a e → a.id = e.id) : Replacement s e (.ok (), s.replaced old e)

theorem answer_update_of_error (h : s.update e = .error err) :
    s.answer (.update e) = (.error err, s) := by
  rw [answer, h]
  rfl

/-- An event that keeps the rules of a change takes the place of the one with its id where the check
of free time finds no other. -/
theorem answer_update_of_free (hvalid : e.validateChange = .ok ()) (hold : s.find? e.id = some old)
    (hfree : s.checkFree e.id e.userId e.span = .ok ()) :
    s.answer (.update e) = (.ok (), s.replaced old e) := by
  obtain ⟨hnamed, hrules⟩ := Event.validateChange_eq_ok_iff.mp hvalid
  have hupdate : s.update e = .ok (s.replaced old e) :=
    update_eq_ok_iff.mpr ⟨hnamed, hrules, old, hold, checkFree_eq_ok_iff.mp hfree, rfl⟩
  rw [answer, hupdate]
  rfl

theorem update_eq_error_of_checkFree (hvalid : e.validateChange = .ok ())
    (hold : s.find? e.id = some old) (hbusy : s.checkFree e.id e.userId e.span = .error err) :
    s.update e = .error err :=
  update_eq_error_iff.mpr (Or.inr ⟨hvalid, Or.inr ⟨old, get_eq_ok_iff.mpr hold, hbusy⟩⟩)

/-- A change has the answer that the rules, the event with its id and those in the way call for. -/
theorem Sound.replacement (h : s.Sound) (e : Event) : s.Replacement e (s.answer (.update e)) := by
  cases hvalid : e.validateChange with
  | error v =>
    rw [answer_update_of_error (update_eq_error_iff.mpr (Or.inl ⟨v, hvalid, rfl⟩))]
    exact .violation hvalid
  | ok u =>
    obtain ⟨-, hrules⟩ := Event.validateChange_eq_ok_iff.mp hvalid
    cases hold : s.find? e.id with
    | none =>
      have hget : s.get e.id = .error (.notFound e.id) := get_eq_error_iff.mpr ⟨hold, rfl⟩
      rw [answer_update_of_error (update_eq_error_iff.mpr (Or.inr ⟨hvalid, Or.inl hget⟩))]
      exact .missing hvalid hold
    | some old =>
      rcases h.checkFree_cases hrules e.id with ⟨a, ha, hne, hbusy⟩ | ⟨hnone, hfree⟩
      · rw [answer_update_of_error (update_eq_error_of_checkFree hvalid hold hbusy)]
        exact .conflict hvalid hold ha hne
      · rw [answer_update_of_free hvalid hold hfree]
        exact .replaced hvalid hold hnone

/-- A change is refused by the rules exactly where they refuse the event. -/
theorem answer_update_validation_iff {v : Violation} :
    (s.answer (.update e)).1 = .error (.validation v) ↔ e.validateChange = .error v := by
  have hupdate : (s.answer (.update e)).1 = .error (.validation v) ↔
      s.update e = .error (.validation v) := by
    rw [answer]
    cases s.update e with
    | error err => exact ⟨fun h => congrArg _ (Except.error.inj h),
        fun h => congrArg _ (Except.error.inj h)⟩
    | ok t => simp [orUnchanged]
  rw [hupdate, update_eq_error_iff]
  simp [checkFree_ne_validation, get_eq_error_iff]

/-- For an event that keeps the rules and takes the place of another, a change comes to the same as
the check of free time. -/
theorem answer_update_fst (hvalid : e.validateChange = .ok ()) (hold : s.find? e.id = some old) :
    (s.answer (.update e)).1 = s.checkFree e.id e.userId e.span := by
  cases hcheck : s.checkFree e.id e.userId e.span with
  | error err =>
    rw [answer_update_of_error (update_eq_error_of_checkFree hvalid hold hcheck)]
    rfl
  | ok u =>
    rw [answer_update_of_free hvalid hold hcheck]
    rfl

/-- An event is found as it was changed, up to its flag. -/
theorem get_replaced (hold : s.find? e.id = some old) :
    (s.replaced old e).get e.id = .ok (replacing old e) :=
  get_eq_ok_iff.mpr (find?_replaced hold)

/-! ### What decides -/

/-- An event is found under an id exactly if one is stored with it. -/
theorem exists_find?_iff {id : Int} :
    (∃ a, s.find? id = some a) ↔ ∃ a ∈ s.events, a.id = id := by
  constructor
  · rintro ⟨a, ha⟩
    exact ⟨a, mem_of_find?_eq_some ha⟩
  · rintro ⟨a, ha, hid⟩
    refine Option.ne_none_iff_exists'.mp fun hnone => ?_
    exact find?_eq_none_iff.mp hnone a ha hid

namespace Insertion

variable {out : Except StoreError Int × EventStore}

/-- An insertion succeeds exactly for an event that keeps the rules and has nothing in its way. -/
theorem ok_iff (h : s.Insertion e out) :
    (∃ id, out.1 = .ok id) ↔ e.validate = .ok () ∧ ∀ a, ¬ s.Obstructs a e := by
  cases h with
  | violation broken => simp [broken]
  | conflict valid obstructs =>
    exact ⟨by simp, fun hfree => absurd obstructs (hfree.2 _)⟩
  | added valid free => exact ⟨fun _ => ⟨valid, free⟩, fun _ => ⟨_, rfl⟩⟩

/-- What is refused for an event in the way keeps the rules, and the event that is named is one of
those in its way. -/
theorem conflict_iff (h : s.Insertion e out) :
    (∃ a, s.Obstructs a e ∧ out.1 = .error (.conflict e.userId a.id)) ↔
      e.validate = .ok () ∧ ∃ a, s.Obstructs a e := by
  cases h with
  | violation broken => simp [broken]
  | conflict valid obstructs =>
    exact ⟨fun _ => ⟨valid, _, obstructs⟩, fun _ => ⟨_, obstructs, rfl⟩⟩
  | added valid free => simp [free]

/-- After an insertion the event is found under the id that it was given. -/
theorem get_eq (h : s.Insertion e out) (hs : s.Sound) {id : Int} (hok : out.1 = .ok id) :
    out.2.get id = .ok { e with id := id, notified := false } := by
  cases h with
  | violation | conflict => simp at hok
  | added valid free =>
    obtain rfl : s.lastId + 1 = id := Except.ok.inj hok
    exact hs.get_added e

end Insertion

namespace Replacement

variable {out : Except StoreError Unit × EventStore}

/-- A change succeeds exactly for an event that keeps the rules, takes the place of a stored one and
has no other in its way. -/
theorem ok_iff (h : s.Replacement e out) :
    out.1 = .ok () ↔
      e.validateChange = .ok () ∧ (∃ old, s.find? e.id = some old) ∧
        ∀ a, s.Obstructs a e → a.id = e.id := by
  cases h with
  | violation broken => simp [broken]
  | missing valid missing => simp [missing]
  | conflict valid stored obstructs other =>
    exact ⟨by simp, fun hfree => absurd (hfree.2.2 _ obstructs) other⟩
  | replaced valid stored free => exact ⟨fun _ => ⟨valid, ⟨_, stored⟩, free⟩, fun _ => rfl⟩

/-- What is missed keeps the rules, and its own id is the one that is named. -/
theorem notFound_iff (h : s.Replacement e out) {id : Int} :
    out.1 = .error (.notFound id) ↔
      id = e.id ∧ e.validateChange = .ok () ∧ s.find? e.id = none := by
  cases h with
  | violation broken => simp [broken]
  | missing valid missing => simp [valid, missing, eq_comm]
  | conflict valid stored => simp [stored]
  | replaced valid stored => simp [stored]

/-- What is refused for an event in the way keeps the rules and would take the place of a stored
one, and the event that is named is another one that is in its way. -/
theorem conflict_iff (h : s.Replacement e out) :
    (∃ a, s.Obstructs a e ∧ a.id ≠ e.id ∧ out.1 = .error (.conflict e.userId a.id)) ↔
      e.validateChange = .ok () ∧ (∃ old, s.find? e.id = some old) ∧
        ∃ a, s.Obstructs a e ∧ a.id ≠ e.id := by
  cases h with
  | violation broken => simp [broken]
  | missing valid missing => simp [missing]
  | conflict valid stored obstructs other =>
    exact ⟨fun _ => ⟨valid, ⟨_, stored⟩, _, obstructs, other⟩,
      fun _ => ⟨_, obstructs, other, rfl⟩⟩
  | replaced valid stored free =>
    exact ⟨by simp, fun ⟨_, _, a, ha, hother⟩ => absurd (free a ha) hother⟩

/-- After a change the event is found as it was changed, up to its flag. -/
theorem exists_get_eq (h : s.Replacement e out) (hok : out.1 = .ok ()) :
    ∃ notified, out.2.get e.id = .ok { e with notified } := by
  cases h with
  | violation | missing | conflict => simp at hok
  | replaced valid stored free => exact ⟨_, get_replaced stored⟩

end Replacement

/-- **What is taken in has nothing in its way.** After any calls on an empty store, an event is
inserted exactly if it keeps the rules and no event of its user is in its way; it is changed exactly
if it keeps the rules of a change, one with its id is stored, and no other event of its user is in
its way. Otherwise the rules that refuse it are reported, then for a change that its id was missed,
and then the user and the id of an event that is in its way. For an event that keeps the rules the
check of free time comes to the same as an insertion, with nothing excluded, and as a change of a
stored event, with that one excluded. What was taken in is then found under its id, with no field
but the id and the flag another. -/
theorem taken_in_iff_unobstructed (calls : List StoreCall) (e : Event) :
    let s := ({} : EventStore).run calls
    let inserted := s.answer (.insert e)
    let updated := s.answer (.update e)
    (((∃ id : Int, inserted.1 = .ok id) ↔ e.validate = .ok () ∧ ∀ a, ¬ s.Obstructs a e) ∧
        (∀ v, inserted.1 = .error (.validation v) ↔ e.validate = .error v) ∧
        ((∃ a, s.Obstructs a e ∧ inserted.1 = .error (.conflict e.userId a.id)) ↔
          e.validate = .ok () ∧ ∃ a, s.Obstructs a e)) ∧
      ((updated.1 = .ok () ↔
          e.validateChange = .ok () ∧ (∃ old ∈ s.events, old.id = e.id) ∧
            ∀ a, s.Obstructs a e → a.id = e.id) ∧
        (∀ v, updated.1 = .error (.validation v) ↔ e.validateChange = .error v) ∧
        (∀ id, updated.1 = .error (.notFound id) ↔
          id = e.id ∧ e.validateChange = .ok () ∧ ∀ old ∈ s.events, old.id ≠ e.id) ∧
        ((∃ a, s.Obstructs a e ∧ a.id ≠ e.id ∧ updated.1 = .error (.conflict e.userId a.id)) ↔
          e.validateChange = .ok () ∧ (∃ old ∈ s.events, old.id = e.id) ∧
            ∃ a, s.Obstructs a e ∧ a.id ≠ e.id)) ∧
      (e.validate = .ok () →
        inserted.1.map (fun _ => ()) = (s.answer (.busy 0 e.userId e.span)).1 ∧
          ((∃ old ∈ s.events, old.id = e.id) →
            updated.1 = (s.answer (.busy e.id e.userId e.span)).1)) ∧
      (∀ id : Int, inserted.1 = .ok id →
        (inserted.2.answer (.get id)).1 = .ok { e with id := id, notified := false }) ∧
      (updated.1 = .ok () →
        ∃ notified, (updated.2.answer (.get e.id)).1 = .ok { e with notified }) := by
  intro s inserted updated
  have h : s.Sound := sound_empty.run calls
  have hinsertion : s.Insertion e inserted := h.insertion e
  have hreplacement : s.Replacement e updated := h.replacement e
  rw [← exists_find?_iff, ← find?_eq_none_iff]
  refine ⟨⟨hinsertion.ok_iff, fun _ => answer_insert_validation_iff, hinsertion.conflict_iff⟩,
    ⟨hreplacement.ok_iff, fun _ => answer_update_validation_iff, fun _ => hreplacement.notFound_iff,
      hreplacement.conflict_iff⟩, fun hvalid => ⟨map_answer_insert hvalid, ?_⟩,
    fun _ hok => hinsertion.get_eq h hok, fun hok => hreplacement.exists_get_eq hok⟩
  rintro ⟨old, hold⟩
  -- The id of a stored event is not zero, so that the rules of a change ask for no more.
  have hpos := h.id_pos old (mem_of_find?_eq_some hold).1
  have hid := (mem_of_find?_eq_some hold).2
  exact answer_update_fst (Event.validateChange_eq_ok_iff.mpr ⟨by omega, hvalid⟩) hold

end EventStore

end Datebook
