import Datebook.Proofs.EventStore.Range
import Mathlib.Data.List.Perm.Subperm

/-!
# The order of insertions

Events of any users are inserted into a store one after the other, and the store refuses what is in
the way of an event that it holds already. As spans are closed, an event may be in the way of two
others that are not in each other's way, so that it depends on the order which of them are stored.
Whatever the order is, nothing that was refused could be added to them.

## Main definitions

* `Datebook.Event.Clashes`: two events of one user share an instant.
* `Datebook.EventStore.accepted`, `Datebook.EventStore.refused`: the events of a list by the replies
  to their insertion.
* `Datebook.Event.MaximalFree`: a part of a list without clashes that is as large as it can be.

## Main results

* `Datebook.EventStore.events_run_inserts`: the events that are stored.
* `Datebook.EventStore.Sound.exists_clash_of_mem_refused`: why the others are not.
* `Datebook.EventStore.maximalFree_accepted`
* `Datebook.EventStore.inserts_in_any_order`
-/

namespace Datebook

namespace Event

/-- Two events of one user share an instant. -/
def Clashes (a b : Event) : Prop :=
  a.userId = b.userId ∧ a.span.meets b.span = true

theorem Clashes.symm {a b : Event} (h : a.Clashes b) : b.Clashes a :=
  ⟨h.1.symm, Span.meets_comm b.span a.span ▸ h.2⟩

/-- No two of the events clash. -/
def Free (es : List Event) : Prop :=
  es.Pairwise fun a b => ¬ a.Clashes b

/-- Whether events clash does not depend on their order. -/
theorem Free.perm {es order : List Event} (h : Free es) (hperm : es.Perm order) : Free order :=
  hperm.pairwise h fun hab hba => hab hba.symm

/-- Of events without clashes no part has any. -/
theorem Free.subperm {es part : List Event} (h : Free es) (hpart : part.Subperm es) :
    Free part := by
  obtain ⟨order, hperm, hsub⟩ := hpart
  exact Free.perm (List.Pairwise.sublist hsub h) hperm

/-- A part of a list of events in which no two clash, and which is no smaller than any other such
part that it belongs to. -/
structure MaximalFree (es part : List Event) : Prop where
  subperm : part.Subperm es
  free : Free part
  maximal : ∀ larger : List Event, part.Subperm larger → larger.Subperm es → Free larger →
    larger.Perm part

/-- A part without clashes is as large as it can be if each of the other events clashes with one of
it. -/
theorem maximalFree_of_clashes {es part others : List Event} (hperm : (part ++ others).Perm es)
    (hfree : Free part) (hothers : ∀ e ∈ others, ∃ a ∈ part, a.Clashes e) :
    MaximalFree es part where
  subperm := (List.sublist_append_left part others).subperm.trans hperm.subperm
  free := hfree
  maximal larger hpart hes hlarger := by
    refine (hpart.perm_of_length_le ?_).symm
    by_contra hlength
    -- One more event would be one of the others, and clash.
    obtain ⟨e, he⟩ := hpart.exists_of_length_lt (Nat.not_le.mp hlength)
    have hnone : ∀ a ∈ part, ¬ e.Clashes a := (List.pairwise_cons.mp (hlarger.subperm he)).1
    have hmem : e ∈ others := by
      have hadded : (part ++ [e]).Subperm (part ++ others) :=
        (List.perm_append_singleton e part).subperm.trans
          ((he.trans hes).trans hperm.symm.subperm)
      exact ((List.subperm_append_left part).mp hadded).subset (List.mem_singleton_self e)
    obtain ⟨a, ha, hclash⟩ := hothers e hmem
    exact hnone a ha hclash.symm

/-- Where no two events of the list clash all of it is the largest part. -/
theorem MaximalFree.perm_of_free {es part : List Event} (h : MaximalFree es part) (hes : Free es) :
    es.Perm part :=
  h.maximal es h.subperm (.refl es) hes

/-- The event as the store keeps it, under no id. -/
def unnumbered (e : Event) : Event :=
  { e with id := 0, notified := false }

end Event

namespace EventStore

variable {s : EventStore}

/-! ### Insertions one after the other -/

/-- The store accepts an event: its insertion gives an id back. -/
def accepts (s : EventStore) (e : Event) : Bool :=
  (s.answer (.insert e)).1.toBool

/-- The events that are accepted when those of a list are inserted in their order. -/
def accepted (s : EventStore) : List Event → List Event
  | [] => []
  | e :: es =>
    if s.accepts e then e :: (s.answer (.insert e)).2.accepted es
    else (s.answer (.insert e)).2.accepted es

/-- The events that are refused when those of a list are inserted in their order. -/
def refused (s : EventStore) : List Event → List Event
  | [] => []
  | e :: es =>
    if s.accepts e then (s.answer (.insert e)).2.refused es
    else e :: (s.answer (.insert e)).2.refused es

/-- Events under the ids that follow an id, without delivered reminders. -/
def numbered (last : Int) : List Event → List Event
  | [] => []
  | e :: es => { e with id := last + 1, notified := false } :: numbered (last + 1) es

theorem map_unnumbered_numbered (last : Int) (es : List Event) :
    (numbered last es).map Event.unnumbered = es.map Event.unnumbered := by
  induction es generalizing last with
  | nil => rfl
  | cons e es ih => exact congrArg (e.unnumbered :: ·) (ih (last + 1))

/-- Every event that is stored under an id is one of the events. -/
theorem exists_of_mem_numbered {last : Int} {es : List Event} {a : Event}
    (ha : a ∈ numbered last es) : ∃ e ∈ es, a.userId = e.userId ∧ a.span = e.span := by
  induction es generalizing last with
  | nil => simp [numbered] at ha
  | cons e es ih =>
    rcases List.mem_cons.mp ha with rfl | ha
    · exact ⟨e, List.mem_cons_self, rfl, rfl⟩
    · obtain ⟨b, hb, hsame⟩ := ih ha
      exact ⟨b, List.mem_cons_of_mem _ hb, hsame⟩

/-- Every event of the list is accepted or refused. -/
theorem accepted_append_refused_perm (s : EventStore) (es : List Event) :
    (s.accepted es ++ s.refused es).Perm es := by
  induction es generalizing s with
  | nil => exact .refl _
  | cons e es ih =>
    rw [accepted, refused]
    split
    · exact (ih _).cons e
    · exact List.perm_middle.trans ((ih _).cons e)

theorem accepted_sublist (s : EventStore) (es : List Event) : (s.accepted es).Sublist es := by
  induction es generalizing s with
  | nil => exact .refl _
  | cons e es ih =>
    rw [accepted]
    split
    · exact (ih _).cons_cons e
    · exact (ih _).cons e

/-- An event that is accepted is added, and one that is refused changes nothing. -/
theorem answer_insert_snd (s : EventStore) (e : Event) :
    (s.answer (.insert e)).2 = if s.accepts e then s.added e else s := by
  rcases s.answer_insert_cases e with ⟨err, hanswer⟩ | hanswer <;>
    simp [accepts, hanswer, Except.toBool]

namespace Sound

/-- A store that is sound accepts an event that keeps the rules exactly if it holds none that
clashes with it. -/
theorem accepts_iff (h : s.Sound) {e : Event} (hvalid : e.validate = .ok ()) :
    s.accepts e = true ↔ ∀ a ∈ s.events, ¬ a.Clashes e := by
  have hfree : s.IsFree 0 e.userId e.span ↔ ∀ a ∈ s.events, ¬ a.Clashes e := by
    constructor
    · rintro hfree a ha ⟨huser, hmeets⟩
      exact Bool.eq_false_iff.mp (h.meets_eq_false_of_isFree hfree ha huser) hmeets
    · intro hnone a ha huser _
      exact Bool.eq_false_iff.mpr fun hmeets => hnone a ha ⟨huser, hmeets⟩
  rw [← hfree, accepts, EventStore.answer]
  cases hinsert : s.insert e with
  | ok r =>
    obtain ⟨-, hfree, -⟩ := insert_eq_ok_iff.mp hinsert
    exact iff_of_true rfl hfree
  | error err =>
    refine iff_of_false Bool.false_ne_true fun hfree => ?_
    have hok := insert_eq_ok_iff.mpr ⟨hvalid, hfree, rfl, rfl⟩
    rw [hinsert] at hok
    cases hok

end Sound

/-- After a list of insertions the store holds what was accepted, in the order in which it was,
under the next ids. -/
theorem events_run_inserts (s : EventStore) (es : List Event) :
    (s.run (es.map .insert)).events = s.events ++ numbered s.lastId (s.accepted es) := by
  induction es generalizing s with
  | nil => exact (List.append_nil _).symm
  | cons e es ih =>
    rw [List.map_cons, run, ih, accepted, answer_insert_snd]
    split
    · simp [added, numbered]
    · rfl

/-- No insertion takes anything out of the store. -/
theorem mem_answer_insert {a : Event} (ha : a ∈ s.events) (e : Event) :
    a ∈ (s.answer (.insert e)).2.events := by
  rw [answer_insert_snd]
  split
  · exact List.mem_append_left _ ha
  · exact ha

namespace Sound

/-- What is accepted does not clash with what was stored before. -/
theorem not_clashes_of_mem_accepted (h : s.Sound) {es : List Event}
    (hvalid : ∀ e ∈ es, e.validate = .ok ()) {a : Event} (ha : a ∈ s.events) :
    ∀ e ∈ s.accepted es, ¬ a.Clashes e := by
  induction es generalizing s with
  | nil => simp [accepted]
  | cons first es ih =>
    obtain ⟨hfirst, hvalid⟩ := List.forall_mem_cons.mp hvalid
    have hlater := ih (h.answer (.insert first)) hvalid (mem_answer_insert ha first)
    rw [accepted]
    split
    · next haccepts =>
      exact List.forall_mem_cons.mpr ⟨(h.accepts_iff hfirst).mp haccepts a ha, hlater⟩
    · exact hlater

/-- No two of the events that are accepted clash. -/
theorem free_accepted (h : s.Sound) {es : List Event} (hvalid : ∀ e ∈ es, e.validate = .ok ()) :
    Event.Free (s.accepted es) := by
  induction es generalizing s with
  | nil => exact .nil
  | cons first es ih =>
    obtain ⟨hfirst, hvalid⟩ := List.forall_mem_cons.mp hvalid
    have hnext := h.answer (.insert first)
    rw [accepted]
    split
    · next haccepts =>
      -- Under its id the event occupies the same span of the same user.
      have hstored : { first with id := s.lastId + 1, notified := false } ∈
          (s.answer (.insert first)).2.events := by
        rw [answer_insert_snd, if_pos haccepts]
        exact List.mem_append_right _ List.mem_cons_self
      refine List.pairwise_cons.mpr ⟨fun e he hclash => ?_, ih hnext hvalid⟩
      exact hnext.not_clashes_of_mem_accepted hvalid hstored e he hclash
    · exact ih hnext hvalid

/-- Whatever is refused clashes with an event that is stored, and stays so. -/
theorem exists_clash_of_mem_refused (h : s.Sound) {es : List Event}
    (hvalid : ∀ e ∈ es, e.validate = .ok ()) :
    ∀ e ∈ s.refused es, ∃ a ∈ (s.run (es.map .insert)).events, a.Clashes e := by
  induction es generalizing s with
  | nil => simp [refused]
  | cons first es ih =>
    obtain ⟨hfirst, hvalid⟩ := List.forall_mem_cons.mp hvalid
    have hlater := ih (h.answer (.insert first)) hvalid
    rw [refused]
    split
    · exact hlater
    · next hrefuses =>
      refine List.forall_mem_cons.mpr ⟨?_, hlater⟩
      have hbusy : ∃ a ∈ s.events, a.Clashes first := by
        by_contra hnone
        exact hrefuses ((h.accepts_iff hfirst).mpr fun a ha hclash => hnone ⟨a, ha, hclash⟩)
      obtain ⟨a, ha, hclash⟩ := hbusy
      refine ⟨a, ?_, hclash⟩
      rw [List.map_cons, EventStore.run, events_run_inserts]
      exact List.mem_append_left _ (mem_answer_insert ha first)

end Sound

/-! ### Insertions into an empty store -/

section Empty

variable {es order : List Event}

theorem events_run_inserts_empty (order : List Event) :
    (({} : EventStore).run (order.map .insert)).events =
      numbered 0 (({} : EventStore).accepted order) :=
  events_run_inserts {} order

/-- Whatever is refused clashes with an event that was accepted. -/
theorem exists_accepted_clash (hvalid : ∀ e ∈ order, e.validate = .ok ()) :
    ∀ e ∈ ({} : EventStore).refused order, ∃ a ∈ ({} : EventStore).accepted order, a.Clashes e := by
  intro e he
  obtain ⟨a, ha, huser, hmeets⟩ := sound_empty.exists_clash_of_mem_refused hvalid e he
  rw [events_run_inserts_empty] at ha
  obtain ⟨b, hb, hbuser, hbspan⟩ := exists_of_mem_numbered ha
  exact ⟨b, hb, hbuser.symm.trans huser, hbspan ▸ hmeets⟩

/-- In whatever order events are inserted, a part that is as large as it can be without clashes is
accepted. -/
theorem maximalFree_accepted (hvalid : ∀ e ∈ es, e.validate = .ok ()) (horder : order.Perm es) :
    Event.MaximalFree es (({} : EventStore).accepted order) := by
  have hvalid : ∀ e ∈ order, e.validate = .ok () := fun e he => hvalid e (horder.mem_iff.mp he)
  exact Event.maximalFree_of_clashes
    ((accepted_append_refused_perm {} order).trans horder) (sound_empty.free_accepted hvalid)
    (exists_accepted_clash hvalid)

/-- Where no two events clash all are accepted. -/
theorem accepted_eq_self (hvalid : ∀ e ∈ es, e.validate = .ok ()) (horder : order.Perm es)
    (hfree : Event.Free es) : ({} : EventStore).accepted order = order := by
  have hall : es.Perm (({} : EventStore).accepted order) :=
    (maximalFree_accepted hvalid horder).perm_of_free hfree
  exact (accepted_sublist {} order).eq_of_length (hall.length_eq.symm.trans horder.length_eq.symm)

/-- An empty store accepts what keeps the rules. -/
theorem accepted_cons {first : Event} (rest : List Event) (hfirst : first.validate = .ok ()) :
    ∃ others, ({} : EventStore).accepted (first :: rest) = first :: others := by
  have haccepts : ({} : EventStore).accepts first = true :=
    (sound_empty.accepts_iff hfirst).mpr (by simp)
  rw [accepted, if_pos haccepts]
  exact ⟨_, rfl⟩

/-- Where any two events clash only the first one is accepted. -/
theorem accepted_eq_singleton {first : Event} {rest : List Event}
    (hvalid : ∀ e ∈ first :: rest, e.validate = .ok ())
    (hclash : (first :: rest).Pairwise Event.Clashes) :
    ({} : EventStore).accepted (first :: rest) = [first] := by
  obtain ⟨others, hothers⟩ := accepted_cons rest (hvalid first List.mem_cons_self)
  have hfree : Event.Free (first :: others) := hothers ▸ sound_empty.free_accepted hvalid
  have hsub : (first :: others).Sublist (first :: rest) := hothers ▸ accepted_sublist {} _
  cases others with
  | nil => exact hothers
  | cons second others =>
    have hboth := (List.pairwise_cons.mp (hclash.sublist hsub)).1 second List.mem_cons_self
    exact absurd hboth ((List.pairwise_cons.mp hfree).1 second List.mem_cons_self)

end Empty

/-- **Insertions in any order.** Let events that keep the rules be inserted into an empty store, in
any order. Each of them is accepted or refused, and the store holds those that were accepted, under
the ids from one on. No two of these clash, every other one clashes with one of them, and they
cannot be added to without a clash. If no two of the events clash, every order accepts all of them,
and what is stored differs in its ids only. If all events are of one user and any two of them share
an instant, every order stores the one event that was inserted first. -/
theorem inserts_in_any_order (es : List Event) (hvalid : ∀ e ∈ es, e.validate = .ok ()) :
    let stored (order : List Event) := (({} : EventStore).run (order.map .insert)).events
    let accepted (order : List Event) := ({} : EventStore).accepted order
    let refused (order : List Event) := ({} : EventStore).refused order
    (∀ order, order.Perm es →
      (accepted order ++ refused order).Perm es ∧ stored order = numbered 0 (accepted order) ∧
        (stored order).Pairwise (fun a b => ¬ a.Clashes b) ∧
        (∀ e ∈ refused order, ∃ a ∈ stored order, a.Clashes e) ∧
        Event.MaximalFree es (accepted order)) ∧
      (Event.Free es → ∀ order other, order.Perm es → other.Perm es → accepted order = order ∧
        ((stored order).map Event.unnumbered).Perm (es.map Event.unnumbered) ∧
        ((stored order).map Event.unnumbered).Perm ((stored other).map Event.unnumbered)) ∧
      ∀ userId, (∀ e ∈ es, e.userId = userId) →
        es.Pairwise (fun a b => a.span.meets b.span = true) →
          ∀ first rest, (first :: rest).Perm es → accepted (first :: rest) = [first] ∧
            stored (first :: rest) = [{ first with id := 1, notified := false }] := by
  intro stored accepted refused
  have hvalid_order {order : List Event} (horder : order.Perm es) :
      ∀ e ∈ order, e.validate = .ok () := fun e he => hvalid e (horder.mem_iff.mp he)
  have hstored (order : List Event) : stored order = numbered 0 (accepted order) :=
    events_run_inserts_empty order
  have hsame {order : List Event} (hfree : Event.Free es) (horder : order.Perm es) :
      ((stored order).map Event.unnumbered).Perm (es.map Event.unnumbered) := by
    have hall : accepted order = order := accepted_eq_self hvalid horder hfree
    rw [hstored, map_unnumbered_numbered, hall]
    exact horder.map _
  refine ⟨fun order horder => ?_, fun hfree order other horder hother => ?_, ?_⟩
  · have hsound : (({} : EventStore).run (order.map .insert)).Sound := sound_empty.run _
    refine ⟨(accepted_append_refused_perm {} order).trans horder, hstored order, ?_,
      sound_empty.exists_clash_of_mem_refused (hvalid_order horder),
      maximalFree_accepted hvalid horder⟩
    refine hsound.ascending.imp_of_mem fun ha hb hlt hclash => ?_
    have hapart := hsound.apart _ ha _ hb (Int.ne_of_lt hlt) hclash.1
    exact Bool.eq_false_iff.mp hapart hclash.2
  · exact ⟨accepted_eq_self hvalid horder hfree, hsame hfree horder,
      (hsame hfree horder).trans (hsame hfree hother).symm⟩
  · intro userId huser hmeets first rest horder
    have hclash : es.Pairwise Event.Clashes :=
      hmeets.imp_of_mem fun ha hb hmeets => ⟨(huser _ ha).trans (huser _ hb).symm, hmeets⟩
    have hone : accepted (first :: rest) = [first] :=
      accepted_eq_singleton (hvalid_order horder)
        (horder.symm.pairwise hclash fun hab => hab.symm)
    exact ⟨hone, by rw [hstored, hone]; rfl⟩

/-- A meal of the first user on the second of January 1970, from one hour to another. -/
def meal (title : String) (begins ends : Nat) : Event where
  userId := 1
  title
  onTime := (Instant.of? 1 (3600 * begins) 0).getD .epoch
  offTime := (Instant.of? 1 (3600 * ends) 0).getD .epoch

/-- Brunch begins when breakfast ends, and ends when lunch begins. -/
def meals : List Event :=
  [meal "breakfast" 8 10, meal "brunch" 10 12, meal "lunch" 12 14]

/-- Breakfast and lunch are one of the largest parts of the day that go together, and brunch alone
is another; which of them is stored depends on whether brunch is inserted first. -/
theorem meals_in_two_orders :
    (∀ e ∈ meals, e.validate = .ok ()) ∧
      (({} : EventStore).run (meals.map .insert)).events.map Event.title = ["breakfast", "lunch"] ∧
      Event.MaximalFree meals [meal "breakfast" 8 10, meal "lunch" 12 14] ∧
      Event.MaximalFree meals [meal "brunch" 10 12] := by
  have hvalid : ∀ e ∈ meals, e.validate = .ok () := by decide +kernel
  obtain ⟨hany, -, -⟩ := inserts_in_any_order meals hvalid
  have hbreakfast : ({} : EventStore).accepted meals =
      [meal "breakfast" 8 10, meal "lunch" 12 14] := by
    decide +kernel
  have hbrunch : ({} : EventStore).accepted
      [meal "brunch" 10 12, meal "breakfast" 8 10, meal "lunch" 12 14] =
        [meal "brunch" 10 12] := by
    decide +kernel
  obtain ⟨-, hstored, -, -, hmaximal⟩ := hany meals (.refl meals)
  obtain ⟨-, -, -, -, hother⟩ := hany _ (.swap (meal "breakfast" 8 10) _ _)
  refine ⟨hvalid, ?_, hbreakfast ▸ hmaximal, hbrunch ▸ hother⟩
  dsimp only at hstored
  rw [hstored, hbreakfast]
  rfl

end EventStore

end Datebook
