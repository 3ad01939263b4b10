import Datebook.Queue.MessageQueue
import Mathlib.Data.List.Nodup
import Mathlib.Tactic.Tauto

/-!
# What a message queue holds

The messages of a queue, those in flight before those that are ready, always stand in the order
of their tags. Delivering the first readable message therefore sets it behind all that are in
flight, and putting back what is in flight changes nothing but the marks of the messages.

A queue *holds* a payload under a tag. Putting messages back never changes what is held. A
delivery that has to be acknowledged ends the stay of unreadable messages only, and an
acknowledgement that of the message with its tag.

## Main definitions

* `Datebook.MessageQueue.messages`, `Datebook.MessageQueue.Holds`
* `Datebook.MessageQueue.InOrder`, `Datebook.MessageQueue.Follows`
* `Datebook.Message.Unreadable`

## Main results

* `Datebook.MessageQueue.InOrder.take_cases`: what is delivered, and the queue after it.
* `Datebook.MessageQueue.InOrder.push`, `Datebook.MessageQueue.InOrder.take`,
  `Datebook.MessageQueue.InOrder.ack`, `Datebook.MessageQueue.InOrder.requeue`
-/

namespace Datebook

/-- A message that does not decode. -/
def Message.Unreadable (m : Message) : Prop :=
  ∀ r, Reminder.decode m.payload ≠ .ok r

namespace MessageQueue

variable {q : MessageQueue}

/-! ### The first readable message -/

theorem firstReadable?_eq_none_iff {ms : List Message} :
    firstReadable? ms = none ↔ ∀ m ∈ ms, m.Unreadable := by
  induction ms with
  | nil => simp [firstReadable?]
  | cons m ms ih =>
    cases hdecode : Reminder.decode m.payload with
    | ok r => simp [firstReadable?, Message.Unreadable, hdecode]
    | error e => simp [firstReadable?, Message.Unreadable, hdecode, ih]

/-- The messages before the first readable one are dropped. -/
theorem eq_append_of_firstReadable?_eq_some {ms rest : List Message} {m : Message} {r : Reminder}
    (h : firstReadable? ms = some (m, r, rest)) :
    Reminder.decode m.payload = .ok r ∧
      ∃ dropped, ms = dropped ++ m :: rest ∧ ∀ n ∈ dropped, n.Unreadable := by
  induction ms with
  | nil => simp [firstReadable?] at h
  | cons n ms ih =>
    cases hdecode : Reminder.decode n.payload with
    | ok r' =>
      simp only [firstReadable?, hdecode, Option.some.injEq, Prod.mk.injEq] at h
      obtain ⟨rfl, rfl, rfl⟩ := h
      exact ⟨hdecode, [], rfl, by simp⟩
    | error e =>
      simp only [firstReadable?, hdecode] at h
      obtain ⟨hread, dropped, rfl, hdropped⟩ := ih h
      refine ⟨hread, n :: dropped, rfl, ?_⟩
      rw [List.forall_mem_cons]
      exact ⟨fun r' hr' => by simp [hdecode] at hr', hdropped⟩

/-- A message with a greater tag than all others is set behind them. -/
theorem insertByTag_eq_append {m : Message} {ms : List Message} (h : ∀ n ∈ ms, n.tag < m.tag) :
    insertByTag m ms = ms ++ [m] := by
  induction ms with
  | nil => rfl
  | cons n ms ih =>
    rw [List.forall_mem_cons] at h
    rw [insertByTag, if_neg (Int.not_lt.mpr (Int.le_of_lt h.1)), ih h.2, List.cons_append]

/-! ### Order -/

/-- All messages of a queue, those in flight first. -/
def messages (q : MessageQueue) : List Message :=
  q.inFlight ++ q.ready

/-- The messages stand in the order of their tags, none of which is still to be given out. -/
structure InOrder (q : MessageQueue) : Prop where
  ascending : q.messages.Pairwise fun m n => m.tag < n.tag
  tag_le : ∀ m ∈ q.messages, m.tag ≤ q.lastTag

theorem inOrder_empty (mode : AckMode) : ({ mode } : MessageQueue).InOrder where
  ascending := .nil
  tag_le := by simp [messages]

/-- What a queue in order delivers: nothing where no message is readable, and otherwise the first
readable one, which is in flight after that if it has to be acknowledged. -/
theorem InOrder.take_cases (h : q.InOrder) :
    q.take = (none, { q with ready := [] }) ∧ (∀ m ∈ q.ready, m.Unreadable) ∨
      ∃ dropped m r rest, q.ready = dropped ++ m :: rest ∧ (∀ n ∈ dropped, n.Unreadable) ∧
        Reminder.decode m.payload = .ok r ∧
        q.take = (some ⟨m.tag, r, m.redelivered⟩,
          { q with
            ready := rest
            inFlight := if q.mode = .manual then q.inFlight ++ [m] else q.inFlight }) := by
  cases hfirst : firstReadable? q.ready with
  | none =>
    refine Or.inl ⟨?_, firstReadable?_eq_none_iff.mp hfirst⟩
    rw [take, hfirst]
  | some found =>
    obtain ⟨m, r, rest⟩ := found
    obtain ⟨hread, dropped, hready, hdropped⟩ := eq_append_of_firstReadable?_eq_some hfirst
    refine Or.inr ⟨dropped, m, r, rest, hready, hdropped, hread, ?_⟩
    have hm : m ∈ q.ready := hready ▸ List.mem_append_right _ List.mem_cons_self
    have hbehind : ∀ n ∈ q.inFlight, n.tag < m.tag := fun n hn =>
      (List.pairwise_append.mp h.ascending).2.2 n hn m hm
    rw [take, hfirst]
    simp only [insertByTag_eq_append hbehind]

theorem mode_take (q : MessageQueue) : q.take.2.mode = q.mode := by
  rw [take]
  split <;> rfl

theorem lastTag_take (q : MessageQueue) : q.take.2.lastTag = q.lastTag := by
  rw [take]
  split <;> rfl

theorem mode_ack (q : MessageQueue) (tag : Int) : (q.ack tag).mode = q.mode := by
  rw [ack]
  split <;> rfl

theorem lastTag_ack (q : MessageQueue) (tag : Int) : (q.ack tag).lastTag = q.lastTag := by
  rw [ack]
  split <;> rfl

theorem ready_ack (q : MessageQueue) (tag : Int) : (q.ack tag).ready = q.ready := by
  rw [ack]
  split <;> rfl

/-- A message with the payload that is pushed gets ready. -/
theorem exists_mem_ready_push (q : MessageQueue) (payload : Json.Bytes) :
    ∃ m ∈ (q.push payload).ready, m.payload = payload :=
  ⟨⟨q.lastTag + 1, payload, false⟩, List.mem_append_right _ List.mem_cons_self, rfl⟩

/-- An acknowledgement only takes messages away, and only such as are in flight. -/
theorem inFlight_ack_sublist {tag : Int} : (q.ack tag).inFlight.Sublist q.inFlight := by
  rw [ack]
  split
  · exact List.filter_sublist
  · exact .refl _

theorem messages_ack_sublist {tag : Int} : (q.ack tag).messages.Sublist q.messages := by
  rw [messages, ready_ack]
  exact inFlight_ack_sublist.append_right _

namespace InOrder

/-- Messages may leave a queue in order. -/
theorem of_sublist (h : q.InOrder) {q' : MessageQueue} (hsub : q'.messages.Sublist q.messages)
    (hlast : q'.lastTag = q.lastTag) : q'.InOrder where
  ascending := h.ascending.sublist hsub
  tag_le m hm := hlast ▸ h.tag_le m (hsub.mem hm)

protected theorem push (h : q.InOrder) (payload : Json.Bytes) : (q.push payload).InOrder where
  ascending := by
    rw [messages, push, ← List.append_assoc]
    refine List.pairwise_append.mpr ⟨h.ascending, List.pairwise_singleton _ _, ?_⟩
    intro m hm n hn
    obtain rfl := List.mem_singleton.mp hn
    exact Int.lt_add_one_of_le (h.tag_le m hm)
  tag_le m hm := by
    rw [messages, push, ← List.append_assoc] at hm
    rcases List.mem_append.mp hm with hm | hm
    · exact Int.le_add_one (h.tag_le m hm)
    · obtain rfl := List.mem_singleton.mp hm
      exact Int.le_refl _

/-- What waits behind a message has a greater tag. -/
theorem lt_of_mem_rest (h : q.InOrder) {before rest : List Message} {m : Message}
    (hready : q.ready = before ++ m :: rest) : ∀ n ∈ rest, m.tag < n.tag := by
  have hwaiting := (List.pairwise_append.mp h.ascending).2.1
  rw [hready] at hwaiting
  exact (List.pairwise_cons.mp (List.pairwise_append.mp hwaiting).2.1).1

/-- A delivery only takes messages away. -/
theorem messages_take_sublist (h : q.InOrder) : q.take.2.messages.Sublist q.messages := by
  rcases h.take_cases with ⟨htake, -⟩ | ⟨dropped, m, r, rest, hready, -, -, htake⟩
  · rw [htake]
    exact (List.nil_sublist _).append_left _
  · rw [htake]
    have hrest : (m :: rest).Sublist q.ready := hready ▸ List.sublist_append_right _ _
    simp only [messages]
    split
    · rw [List.append_assoc, List.singleton_append]
      exact hrest.append_left _
    · exact ((List.sublist_cons_self m rest).trans hrest).append_left _

protected theorem take (h : q.InOrder) : q.take.2.InOrder :=
  h.of_sublist h.messages_take_sublist (lastTag_take q)

protected theorem ack (h : q.InOrder) (tag : Int) : (q.ack tag).InOrder :=
  h.of_sublist messages_ack_sublist (lastTag_ack q tag)

protected theorem requeue (h : q.InOrder) : q.requeue.InOrder where
  ascending := by
    have hascending := h.ascending
    rw [messages, List.pairwise_append] at hascending
    obtain ⟨hinFlight, hready, hbetween⟩ := hascending
    rw [messages, requeue, List.nil_append, List.pairwise_append, List.pairwise_map]
    refine ⟨hinFlight, hready, ?_⟩
    intro m hm n hn
    obtain ⟨a, ha, rfl⟩ := List.mem_map.mp hm
    exact hbetween a ha n hn
  tag_le m hm := by
    rw [messages, requeue, List.nil_append, List.mem_append] at hm
    rcases hm with hm | hm
    · obtain ⟨a, ha, rfl⟩ := List.mem_map.mp hm
      exact h.tag_le a (List.mem_append_left _ ha)
    · exact h.tag_le m (List.mem_append_right _ hm)

end InOrder

/-! ### What is held -/

/-- A message with the tag and the payload is in the queue, ready or in flight. -/
def Holds (q : MessageQueue) (tag : Int) (payload : Json.Bytes) : Prop :=
  ∃ m ∈ q.messages, m.tag = tag ∧ m.payload = payload

section Holds

variable {tag : Int} {payload : Json.Bytes}

theorem Holds.tag_le (hheld : q.Holds tag payload) (h : q.InOrder) : tag ≤ q.lastTag := by
  obtain ⟨m, hm, rfl, -⟩ := hheld
  exact h.tag_le m hm

/-- A tag carries one payload. -/
theorem Holds.payload_eq {other : Json.Bytes} (hheld : q.Holds tag payload)
    (hother : q.Holds tag other) (h : q.InOrder) : payload = other := by
  obtain ⟨m, hm, hmtag, rfl⟩ := hheld
  obtain ⟨n, hn, hntag, rfl⟩ := hother
  have hnodup : (q.messages.map Message.tag).Nodup :=
    List.pairwise_map.mpr (h.ascending.imp fun hlt => Int.ne_of_lt hlt)
  rw [List.inj_on_of_nodup_map hnodup hm hn (hmtag.trans hntag.symm)]

theorem holds_push_iff {pushed : Json.Bytes} :
    (q.push pushed).Holds tag payload ↔
      q.Holds tag payload ∨ tag = q.lastTag + 1 ∧ payload = pushed := by
  have hmessages : (q.push pushed).messages = q.messages ++ [⟨q.lastTag + 1, pushed, false⟩] :=
    (List.append_assoc _ _ _).symm
  simp only [Holds, hmessages, List.mem_append, List.mem_singleton, or_and_right, exists_or,
    exists_eq_left, eq_comm (a := tag), eq_comm (a := payload)]

theorem holds_requeue_iff : q.requeue.Holds tag payload ↔ q.Holds tag payload := by
  simp only [Holds, messages, requeue, List.nil_append, List.mem_append, List.mem_map,
    or_and_right, exists_or]
  refine or_congr_left ⟨?_, ?_⟩
  · rintro ⟨_, ⟨m, hm, rfl⟩, htag, hpayload⟩
    exact ⟨m, hm, htag, hpayload⟩
  · rintro ⟨m, hm, htag, hpayload⟩
    exact ⟨_, ⟨m, hm, rfl⟩, htag, hpayload⟩

/-- A delivery adds nothing to what is held. -/
theorem holds_of_take (hheld : q.take.2.Holds tag payload) (h : q.InOrder) :
    q.Holds tag payload := by
  obtain ⟨m, hm, htag, hpayload⟩ := hheld
  exact ⟨m, h.messages_take_sublist.mem hm, htag, hpayload⟩

/-- Where deliveries have to be acknowledged, a delivery takes no readable message away. -/
theorem Holds.take {r : Reminder} (hheld : q.Holds tag payload) (h : q.InOrder)
    (hmode : q.mode = .manual) (hread : Reminder.decode payload = .ok r) :
    q.take.2.Holds tag payload := by
  obtain ⟨m, hm, htag, rfl⟩ := hheld
  refine ⟨m, ?_, htag, rfl⟩
  have hreadable : ¬ m.Unreadable := fun hunreadable => hunreadable r hread
  rw [messages, List.mem_append] at hm
  rcases h.take_cases with ⟨htake, hnone⟩ | ⟨dropped, n, r, rest, hready, hdropped, -, htake⟩
  · rw [htake]
    rcases hm with hm | hm
    · exact List.mem_append_left _ hm
    · exact absurd (hnone m hm) hreadable
  · rw [htake, messages, if_pos hmode]
    simp only [hready, List.mem_append, List.mem_cons] at hm
    simp only [List.mem_append, List.mem_singleton]
    have hkept : m ∉ dropped := fun hm => hreadable (hdropped m hm)
    tauto

/-- What is delivered is held under its tag before. -/
theorem holds_of_take_eq_some {d : Delivery} (hd : q.take.1 = some d) (h : q.InOrder) :
    ∃ payload, q.Holds d.tag payload ∧ Reminder.decode payload = .ok d.reminder := by
  rcases h.take_cases with ⟨htake, -⟩ | ⟨dropped, m, r, rest, hready, -, hread, htake⟩
  · simp [htake] at hd
  · rw [htake, Option.some.injEq] at hd
    subst hd
    refine ⟨m.payload, ⟨m, ?_, rfl, rfl⟩, hread⟩
    rw [messages, hready]
    simp

/-- An acknowledgement adds nothing to what is held. -/
theorem holds_of_ack {acked : Int} (hheld : (q.ack acked).Holds tag payload) :
    q.Holds tag payload := by
  obtain ⟨m, hm, htag, hpayload⟩ := hheld
  exact ⟨m, messages_ack_sublist.mem hm, htag, hpayload⟩

/-- An acknowledgement takes away only the message with its tag. -/
theorem Holds.ack {acked : Int} (hheld : q.Holds tag payload) (hne : tag ≠ acked) :
    (q.ack acked).Holds tag payload := by
  obtain ⟨m, hm, rfl, hpayload⟩ := hheld
  refine ⟨m, ?_, rfl, hpayload⟩
  rw [MessageQueue.ack]
  split
  · rw [messages, List.mem_append] at hm ⊢
    refine hm.imp_left fun hm => List.mem_filter.mpr ⟨hm, ?_⟩
    rw [bne_iff_ne]
    exact hne
  · exact hm

end Holds

/-! ### Queues that follow one another -/

/-- A queue that an operation leaves: it is in order, and under the tags that were already given
out nothing new is held. -/
structure Follows (q q' : MessageQueue) : Prop where
  mode_eq : q'.mode = q.mode
  inOrder : q'.InOrder
  lastTag_le : q.lastTag ≤ q'.lastTag
  holds : ∀ tag payload, tag ≤ q.lastTag → q'.Holds tag payload → q.Holds tag payload

theorem InOrder.follows_self (h : q.InOrder) : q.Follows q :=
  ⟨rfl, h, Int.le_refl _, fun _ _ _ => id⟩

theorem InOrder.follows_push (h : q.InOrder) (payload : Json.Bytes) :
    q.Follows (q.push payload) where
  mode_eq := rfl
  inOrder := h.push payload
  lastTag_le := Int.le_add_one (Int.le_refl _)
  holds tag other htag hheld := by
    rcases holds_push_iff.mp hheld with hheld | ⟨rfl, -⟩
    · exact hheld
    · omega

theorem InOrder.follows_take (h : q.InOrder) : q.Follows q.take.2 where
  mode_eq := mode_take q
  inOrder := h.take
  lastTag_le := Int.le_of_eq (lastTag_take q).symm
  holds _ _ _ hheld := holds_of_take hheld h

theorem InOrder.follows_ack (h : q.InOrder) (tag : Int) : q.Follows (q.ack tag) where
  mode_eq := mode_ack q tag
  inOrder := h.ack tag
  lastTag_le := Int.le_of_eq (lastTag_ack q tag).symm
  holds _ _ _ := holds_of_ack

theorem InOrder.follows_requeue (h : q.InOrder) : q.Follows q.requeue where
  mode_eq := rfl
  inOrder := h.requeue
  lastTag_le := Int.le_refl _
  holds _ _ _ := holds_requeue_iff.mp

end MessageQueue

end Datebook
