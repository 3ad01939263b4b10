import Datebook.Proofs.EventStore.Invariant

/-!
# What is shown in a range, and what keeps it busy

The view of a range shows the events of a user that begin or end in it. The check of free time asks
for more, namely for events that have an instant in common with the range, and so also finds one
that begins before the range and ends after it. Such an event shares an instant with whatever meets
the range. As no two events of a user meet, it is then the only one in the way, and nothing is
shown; in all other cases exactly the events that are in the way are shown.

## Main definitions

* `Datebook.Span.Encloses`: a span reaches beyond both ends of another.
* `Datebook.EventStore.meeting`: the events of a user that have an instant in common with a range.

## Main results

* `Datebook.EventStore.Sound.checkFree_eq`: the check fails where there is such an event.
* `Datebook.EventStore.range_shows_meeting_or_one_encloses`
-/

namespace Datebook

namespace Span

variable {s t u : Span}

/-- The span begins before the other and ends after it. -/
def Encloses (t s : Span) : Prop :=
  t.first < s.first ∧ s.last < t.last

/-- A span of which an end lies in a range meets the range. -/
theorem meets_of_holdsEndOf (ht : t.first ≤ t.last) (h : s.holdsEndOf t = true) :
    t.meets s = true := by
  rw [meets_eq_true_iff]
  rcases holdsEndOf_eq_true_iff.mp h with ⟨hbegin, hend⟩ | ⟨hbegin, hend⟩
  · exact ⟨hend, Instant.le_trans hbegin ht⟩
  · exact ⟨Instant.le_trans ht hend, hbegin⟩

/-- A span that meets a range has an end in it or encloses it. -/
theorem encloses_of_meets (h : t.meets s = true) (hends : s.holdsEndOf t = false) :
    t.Encloses s := by
  obtain ⟨hbegin, hend⟩ := meets_eq_true_iff.mp h
  have hnone := Bool.eq_false_iff.mp hends
  rw [ne_eq, holdsEndOf_eq_true_iff, not_or] at hnone
  constructor
  · exact Instant.not_le.mp fun hle => hnone.1 ⟨hle, hbegin⟩
  · exact Instant.not_le.mp fun hle => hnone.2 ⟨hend, hle⟩

/-- No end of a span that encloses a range lies in it. -/
theorem Encloses.holdsEndOf_eq_false (h : t.Encloses s) : s.holdsEndOf t = false := by
  refine Bool.eq_false_iff.mpr fun hends => ?_
  rcases holdsEndOf_eq_true_iff.mp hends with ⟨hbegin, -⟩ | ⟨-, hend⟩
  · exact Instant.not_le.mpr h.1 hbegin
  · exact Instant.not_le.mpr h.2 hend

/-- What meets a range meets every span that encloses the range. -/
theorem Encloses.meets (h : t.Encloses s) (hu : u.meets s = true) : u.meets t = true := by
  obtain ⟨hbegin, hend⟩ := meets_eq_true_iff.mp hu
  exact meets_eq_true_iff.mpr
    ⟨Instant.le_trans hbegin (Instant.le_of_lt h.2), Instant.le_trans (Instant.le_of_lt h.1) hend⟩

end Span

namespace EventStore

variable {s : EventStore} {userId : Int} {range : Span}

/-- The events of a user that have an instant in common with a range. -/
def meeting (s : EventStore) (userId : Int) (range : Span) : List Event :=
  (s.ofUser userId).filter (·.span.meets range)

theorem mem_meeting_iff {e : Event} :
    e ∈ s.meeting userId range ↔ e ∈ s.events ∧ e.userId = userId ∧ e.span.meets range = true := by
  simp only [meeting, ofUser, List.mem_filter, beq_iff_eq, and_assoc]

namespace Sound

/-- No event is stored twice. -/
theorem nodup (h : s.Sound) : s.events.Nodup :=
  h.ascending.imp fun hlt heq => absurd (congrArg Event.id heq) (Int.ne_of_lt hlt)

/-- The span of a stored event begins before it ends. -/
theorem first_le_last (h : s.Sound) {e : Event} (he : e ∈ s.events) :
    e.span.first ≤ e.span.last :=
  Event.onTime_le_offTime (h.valid e he)

/-- An event of a user that encloses a range is the only one that meets it. -/
theorem meeting_eq_singleton (h : s.Sound) {e : Event} (he : e ∈ s.meeting userId range)
    (hencloses : e.span.Encloses range) : s.meeting userId range = [e] := by
  obtain ⟨hmem, huser, -⟩ := mem_meeting_iff.mp he
  have hall : ∀ a ∈ s.meeting userId range, a = e := by
    intro a ha
    obtain ⟨hamem, hauser, hmeets⟩ := mem_meeting_iff.mp ha
    by_contra hne
    have hid : a.id ≠ e.id := fun hid => hne (h.eq_of_id_eq hamem hmem hid)
    have hapart := h.apart a hamem e hmem hid (hauser.trans huser.symm)
    rw [hencloses.meets hmeets] at hapart
    exact Bool.noConfusion hapart
  have hnodup : (s.meeting userId range).Nodup := (h.nodup.filter _).filter _
  have hreplicate := List.eq_replicate_of_mem hall
  have hone : (s.meeting userId range).length ≤ 1 := by
    rw [hreplicate] at hnodup
    exact List.nodup_replicate.mp hnodup
  have hpos : 0 < (s.meeting userId range).length := List.length_pos_of_mem he
  rw [hreplicate, Nat.le_antisymm hone hpos, List.replicate_one]

/-- Where no event of a user encloses a range, those that meet it are those with an end in it. -/
theorem inRange_eq_meeting (h : s.Sound)
    (hnone : ∀ e ∈ s.meeting userId range, ¬ e.span.Encloses range) :
    s.inRange userId range = s.meeting userId range := by
  refine List.filter_congr fun e he => ?_
  obtain ⟨hmem, huser⟩ := List.mem_filter.mp he
  cases hends : range.holdsEndOf e.span with
  | true => exact (Span.meets_of_holdsEndOf (h.first_le_last hmem) hends).symm
  | false =>
    refine (Bool.eq_false_iff.mpr fun hmeets => ?_).symm
    exact hnone e (List.mem_filter.mpr ⟨he, hmeets⟩) (Span.encloses_of_meets hmeets hends)

/-- Nothing excluded, the check of free time fails where an event of the user meets the range, and
names the one with the smallest id. -/
theorem checkFree_eq (h : s.Sound) (userId : Int) (range : Span) :
    s.checkFree 0 userId range =
      match s.meeting userId range with
      | [] => .ok ()
      | e :: _ => .error (.conflict userId e.id) := by
  have hconflict : s.conflict? 0 userId range = (s.meeting userId range).head? := by
    rw [conflict?, ← List.head?_filter, meeting]
    refine congrArg List.head? (List.filter_congr fun e he => ?_)
    have hpos := h.id_pos e (List.mem_filter.mp he).1
    have hid : (e.id != 0) = true := bne_iff_ne.mpr (by omega)
    rw [hid, Bool.true_and]
  rw [checkFree, hconflict]
  cases s.meeting userId range <;> rfl

end Sound

/-- **What is shown is what is in the way, unless one event encloses the range.** After any calls on
an empty store, and for every range of a user, the check of free time fails exactly if an event of
the user has an instant in common with the range. Those events are the ones that are shown in the
range, each of them once; or there is exactly one of them, which begins before the range and ends
after it, and nothing is shown. -/
theorem range_shows_meeting_or_one_encloses (calls : List StoreCall) (userId : Int)
    (range : Span) :
    let s := ({} : EventStore).run calls
    let shown := s.inRange userId range
    let meeting := s.meeting userId range
    (∀ e, e ∈ meeting ↔ e ∈ s.events ∧ e.userId = userId ∧ e.onTime ≤ range.last ∧
        range.first ≤ e.offTime) ∧
      (s.checkFree 0 userId range = .ok () ↔ meeting = []) ∧
      shown.Nodup ∧ meeting.Nodup ∧
      (shown = meeting ∨
        shown = [] ∧ ∃ e, meeting = [e] ∧ e.onTime < range.first ∧ range.last < e.offTime) := by
  intro s shown meeting
  have h : s.Sound := sound_empty.run calls
  refine ⟨fun e => ?_, ?_, (h.nodup.filter _).filter _, (h.nodup.filter _).filter _, ?_⟩
  · rw [mem_meeting_iff, Span.meets_eq_true_iff, Event.span]
  · rw [h.checkFree_eq]
    change _ ↔ s.meeting userId range = []
    cases s.meeting userId range <;> simp
  by_cases hencloses : ∃ e ∈ meeting, e.span.Encloses range
  · obtain ⟨e, he, hencloses⟩ := hencloses
    have hone : s.meeting userId range = [e] := h.meeting_eq_singleton he hencloses
    refine Or.inr ⟨List.filter_eq_nil_iff.mpr fun a ha hends => ?_, e, hone, hencloses⟩
    -- What is shown meets the range, and the one event that does has no end in it.
    have hle := h.first_le_last (List.mem_filter.mp ha).1
    have hmeets : a ∈ s.meeting userId range :=
      List.mem_filter.mpr ⟨ha, Span.meets_of_holdsEndOf hle hends⟩
    rw [hone, List.mem_singleton] at hmeets
    rw [hmeets, hencloses.holdsEndOf_eq_false] at hends
    exact Bool.noConfusion hends
  · refine Or.inl (h.inRange_eq_meeting fun e he hcovers => hencloses ⟨e, he, hcovers⟩)

end EventStore

end Datebook
