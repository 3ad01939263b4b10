import Datebook.Proofs.Queue.Conservation

/-!
# The order of deliveries

Messages wait in the order of their tags, and those in flight come before all that wait. What is put
back therefore takes its old place in front, and from one return of messages to the next deliveries
have ascending tags. A delivery is marked as repeated exactly where its tag was delivered before:
messages in flight were delivered, a message that is put back is marked, and one that waits unmarked
was never delivered.

Where a delivery settles the message nothing is ever put back. Deliveries are then the readable
payloads, each once and in the order in which they were accepted, as far as they do not wait still.

## Main definitions

* `Datebook.MessageQueue.Ledger.Marked`: the invariant on marks.
* `Datebook.MessageQueue.Ledger.Ahead`: deliveries with ascending tags, before all that wait.
* `Datebook.MessageQueue.Ledger.remindersOf`: the readable ones of accepted payloads.

## Main results

* `Datebook.MessageQueue.Ledger.Marked.forward`, `Datebook.MessageQueue.Ledger.Marked.requeue`
* `Datebook.Exchange.ahead_run`: deliveries while nothing is put back.
* `Datebook.Exchange.deliveries_in_order`
-/

namespace Datebook

namespace MessageQueue

namespace Ledger

variable {l : Ledger}

/-! ### Marks -/

/-- A delivery is marked as repeated exactly where its tag was delivered before. -/
def MarksRepeats (deliveries : List Delivery) : Prop :=
  ∀ earlier d later, deliveries = earlier ++ d :: later →
    (d.redelivered = true ↔ d.tag ∈ earlier.map Delivery.tag)

theorem MarksRepeats.concat {deliveries : List Delivery} (h : MarksRepeats deliveries) {d : Delivery}
    (hd : d.redelivered = true ↔ d.tag ∈ deliveries.map Delivery.tag) :
    MarksRepeats (deliveries ++ [d]) := by
  intro earlier e later hsplit
  rcases List.eq_nil_or_concat later with rfl | ⟨later, last, rfl⟩
  · obtain ⟨rfl, he⟩ := List.append_inj' hsplit rfl
    obtain rfl := List.singleton_inj.mp he
    exact hd
  · rw [List.concat_eq_append, ← List.cons_append, ← List.append_assoc] at hsplit
    exact h earlier e later (List.append_inj' hsplit rfl).1

/-- What is in flight was delivered, and of what waits exactly that was delivered which is marked. -/
structure Marked (l : Ledger) : Prop where
  inOrder : l.queue.InOrder
  delivered_le : ∀ d ∈ l.delivered, d.tag ≤ l.queue.lastTag
  inFlight : ∀ m ∈ l.queue.inFlight, m.tag ∈ l.delivered.map Delivery.tag
  ready : ∀ m ∈ l.queue.ready, (m.redelivered = true ↔ m.tag ∈ l.delivered.map Delivery.tag)
  repeats : MarksRepeats l.delivered

theorem marked_empty (mode : AckMode) : ({ queue := { mode } } : Ledger).Marked where
  inOrder := inOrder_empty mode
  delivered_le := by simp
  inFlight := by simp
  ready := by simp
  repeats := by simp [MarksRepeats]

namespace Marked

protected theorem push (h : l.Marked) (payload : Json.Bytes) : (l.push payload).Marked where
  inOrder := h.inOrder.push payload
  delivered_le d hd := Int.le_add_one (h.delivered_le d hd)
  inFlight := h.inFlight
  ready m hm := by
    rcases List.mem_append.mp hm with hm | hm
    · exact h.ready m hm
    · -- The tag is new, so that nothing was delivered under it.
      obtain rfl := List.mem_singleton.mp hm
      refine iff_of_false (by simp) fun htag => ?_
      obtain ⟨d, hd, heq⟩ := List.mem_map.mp htag
      have hle := h.delivered_le d hd
      dsimp only at heq
      omega
  repeats := h.repeats

protected theorem take (h : l.Marked) : l.take.Marked := by
  rcases h.inOrder.take_cases with ⟨htake, -⟩ | ⟨dropped, m, r, rest, hready, -, -, htake⟩
  · refine ⟨h.inOrder.take, ?_, ?_, ?_, ?_⟩ <;>
      simp only [Ledger.take, htake, Option.toList_none, List.append_nil, List.not_mem_nil,
        false_implies, implies_true]
    · exact h.delivered_le
    · exact h.inFlight
    · exact h.repeats
  have hm : m ∈ l.queue.ready := hready ▸ List.mem_append_right _ List.mem_cons_self
  have hdelivered : l.take.delivered = l.delivered ++ [⟨m.tag, r, m.redelivered⟩] := by
    rw [Ledger.take, htake]
    rfl
  refine ⟨h.inOrder.take, ?_, ?_, ?_, ?_⟩
  · rw [hdelivered, Ledger.take, htake]
    intro d hd
    rcases List.mem_append.mp hd with hd | hd
    · exact h.delivered_le d hd
    · obtain rfl := List.mem_singleton.mp hd
      exact h.inOrder.tag_le m (List.mem_append_right _ hm)
  · rw [hdelivered, Ledger.take, htake, List.map_append]
    intro n hn
    have hn : n ∈ l.queue.inFlight ∨ n = m := by
      dsimp only at hn
      split at hn
      · simpa using hn
      · exact Or.inl hn
    rcases hn with hn | rfl
    · exact List.mem_append_left _ (h.inFlight n hn)
    · exact List.mem_append_right _ List.mem_cons_self
  · rw [hdelivered, Ledger.take, htake, List.map_append]
    intro n hn
    have hbefore : n ∈ l.queue.ready :=
      hready ▸ List.mem_append_right _ (List.mem_cons_of_mem _ hn)
    have hne : n.tag ≠ m.tag := Int.ne_of_gt (h.inOrder.lt_of_mem_rest hready n hn)
    rw [h.ready n hbefore, List.mem_append]
    simp [hne]
  · rw [hdelivered]
    exact h.repeats.concat (h.ready m hm)

protected theorem ack (h : l.Marked) (tag : Int) : (l.ack tag).Marked where
  inOrder := h.inOrder.ack tag
  delivered_le d hd := (lastTag_ack l.queue tag).symm ▸ h.delivered_le d hd
  inFlight m hm := h.inFlight m (inFlight_ack_sublist.mem hm)
  ready m hm := h.ready m (ready_ack l.queue tag ▸ hm)
  repeats := h.repeats

protected theorem requeue (h : l.Marked) : l.requeue.Marked where
  inOrder := h.inOrder.requeue
  delivered_le := h.delivered_le
  inFlight := by simp [Ledger.requeue, MessageQueue.requeue]
  ready m hm := by
    rcases List.mem_append.mp hm with hm | hm
    · obtain ⟨n, hn, rfl⟩ := List.mem_map.mp hm
      exact iff_of_true rfl (h.inFlight n hn)
    · exact h.ready m hm
  repeats := h.repeats

theorem forward (h : l.Marked) {l' : Ledger} (hl : l.Forward l') : l'.Marked := by
  cases hl with
  | nothing => exact h
  | push payload => exact h.push payload
  | take => exact h.take
  | ack tag => exact h.ack tag

end Marked

/-! ### Deliveries while nothing is put back -/

/-- The last deliveries have ascending tags, and smaller ones than all that waits or is still to
come. -/
structure Ahead (l : Ledger) (latest : List Delivery) : Prop where
  ascending : (latest.map Delivery.tag).Pairwise (· < ·)
  le : ∀ d ∈ latest, d.tag ≤ l.queue.lastTag
  lt : ∀ d ∈ latest, ∀ m ∈ l.queue.ready, d.tag < m.tag

theorem ahead_nil (l : Ledger) : l.Ahead [] where
  ascending := .nil
  le := by simp
  lt := by simp

/-- What is delivered while nothing is put back goes on with ascending tags. -/
theorem Ahead.forward {latest : List Delivery} (h : l.Ahead latest) (horder : l.queue.InOrder)
    {l' : Ledger} (hl : l.Forward l') :
    ∃ more, l'.delivered = l.delivered ++ more ∧ l'.Ahead (latest ++ more) := by
  cases hl with
  | nothing => exact ⟨[], (List.append_nil _).symm, (List.append_nil latest).symm ▸ h⟩
  | push payload =>
    refine ⟨[], (List.append_nil _).symm, ?_⟩
    rw [List.append_nil]
    refine ⟨h.ascending, fun d hd => Int.le_add_one (h.le d hd), ?_⟩
    intro d hd m hm
    rcases List.mem_append.mp hm with hm | hm
    · exact h.lt d hd m hm
    · obtain rfl := List.mem_singleton.mp hm
      exact Int.lt_add_one_of_le (h.le d hd)
  | ack tag =>
    refine ⟨[], (List.append_nil _).symm, ?_⟩
    rw [List.append_nil]
    refine ⟨h.ascending, fun d hd => (lastTag_ack l.queue tag).symm ▸ h.le d hd, ?_⟩
    intro d hd m hm
    exact h.lt d hd m (ready_ack l.queue tag ▸ hm)
  | take =>
    rcases horder.take_cases with ⟨htake, -⟩ | ⟨dropped, m, r, rest, hready, -, -, htake⟩
    · refine ⟨[], by simp [Ledger.take, htake], ?_⟩
      rw [List.append_nil]
      refine ⟨h.ascending, fun d hd => (lastTag_take l.queue).symm ▸ h.le d hd, ?_⟩
      simp [Ledger.take, htake]
    · have hm : m ∈ l.queue.ready := hready ▸ List.mem_append_right _ List.mem_cons_self
      refine ⟨[⟨m.tag, r, m.redelivered⟩], by simp [Ledger.take, htake], ?_, ?_, ?_⟩
      · rw [List.map_append]
        refine List.pairwise_append.mpr ⟨h.ascending, List.pairwise_singleton _ _, ?_⟩
        intro a ha b hb
        obtain ⟨d, hd, rfl⟩ := List.mem_map.mp ha
        obtain rfl := List.mem_singleton.mp hb
        exact h.lt d hd m hm
      · intro d hd
        rw [show l.take.queue.lastTag = l.queue.lastTag from lastTag_take l.queue]
        rcases List.mem_append.mp hd with hd | hd
        · exact h.le d hd
        · obtain rfl := List.mem_singleton.mp hd
          exact horder.tag_le m (List.mem_append_right _ hm)
      · intro d hd n hn
        rw [Ledger.take, htake] at hn
        have hlt : m.tag < n.tag := horder.lt_of_mem_rest hready n hn
        rcases List.mem_append.mp hd with hd | hd
        · exact Int.lt_trans (h.lt d hd m hm) hlt
        · obtain rfl := List.mem_singleton.mp hd
          exact hlt

/-! ### Deliveries that settle -/

/-- The reminders that accepted payloads hold, with their tags; payloads that do not decode hold
none. -/
def remindersOf (accepted : List (Int × Json.Bytes)) : List (Int × Reminder) :=
  accepted.filterMap fun p => (Reminder.decode p.2).toOption.map fun r => (p.1, r)

/-- The payloads that wait to be delivered, with their tags. -/
def waiting (l : Ledger) : List (Int × Json.Bytes) :=
  l.queue.ready.map fun m => (m.tag, m.payload)

/-- What was delivered and what is readable of what waits is, in this order, what was accepted. -/
def Straight (l : Ledger) : Prop :=
  l.delivered.map (fun d => (d.tag, d.reminder)) ++ remindersOf l.waiting = remindersOf l.accepted

theorem remindersOf_append (ps qs : List (Int × Json.Bytes)) :
    remindersOf (ps ++ qs) = remindersOf ps ++ remindersOf qs :=
  List.filterMap_append

theorem remindersOf_eq_nil {ms : List Message} (h : ∀ m ∈ ms, m.Unreadable) :
    remindersOf (ms.map fun m => (m.tag, m.payload)) = [] := by
  refine List.filterMap_eq_nil_iff.mpr fun p hp => ?_
  obtain ⟨m, hm, rfl⟩ := List.mem_map.mp hp
  have hnone := unreadable_iff.mp (h m hm)
  rw [Option.isNone_iff_eq_none.mp hnone]
  rfl

theorem straight_empty (mode : AckMode) : ({ queue := { mode } } : Ledger).Straight :=
  rfl

/-- Whatever is entered while nothing is put back leaves the ledger straight. -/
theorem Straight.forward (h : l.Straight) (horder : l.queue.InOrder) {l' : Ledger}
    (hl : l.Forward l') : l'.Straight := by
  cases hl with
  | nothing => exact h
  | push payload =>
    have hwaiting : (l.push payload).waiting = l.waiting ++ [(l.queue.lastTag + 1, payload)] := by
      simp [waiting, Ledger.push, MessageQueue.push]
    rw [Straight, hwaiting, Ledger.push, remindersOf_append, remindersOf_append, ← List.append_assoc,
      h]
  | ack tag =>
    have hwaiting : (l.ack tag).waiting = l.waiting := by
      rw [waiting, Ledger.ack, ready_ack]
      rfl
    rw [Straight, hwaiting]
    exact h
  | take =>
    rw [Straight, waiting] at h ⊢
    rcases horder.take_dropped_cases with
      ⟨htake, -, hnone⟩ | ⟨m, r, rest, hready, hdropped, hread, htake⟩
    · rw [remindersOf_eq_nil hnone] at h
      simpa [Ledger.take, htake, remindersOf] using h
    · have hfirst : remindersOf [(m.tag, m.payload)] = [(m.tag, r)] := by
        simp [remindersOf, hread, Except.toOption]
      rw [hready, List.map_append, remindersOf_append, remindersOf_eq_nil hdropped, List.nil_append,
        List.map_cons, ← List.singleton_append, remindersOf_append, hfirst] at h
      simpa [Ledger.take, htake] using h

/-- Nothing is put back where nothing is in flight. -/
theorem Straight.requeue (h : l.Straight) (hnone : l.queue.inFlight = []) :
    l.requeue.Straight := by
  have hwaiting : l.requeue.waiting = l.waiting := by
    simp [waiting, Ledger.requeue, MessageQueue.requeue, hnone]
  rw [Straight, hwaiting]
  exact h

end Ledger

end MessageQueue

/-! ### Runs -/

namespace Exchange

open MessageQueue (Ledger)

theorem marked_run {x : Exchange} (h : x.ledger.Marked) (acts : List Act) :
    (x.run acts).ledger.Marked := by
  induction acts generalizing x with
  | nil => exact h
  | cons act acts ih =>
    refine ih ?_
    rcases x.step_cases act with ⟨-, hrequeue⟩ | hforward
    · rw [hrequeue]
      exact h.requeue
    · exact h.forward hforward

/-- While nothing is put back, deliveries go on with ascending tags. -/
theorem ahead_run {x : Exchange} (horder : x.ledger.queue.InOrder) {latest : List Delivery}
    (h : x.ledger.Ahead latest) {acts : List Act} (hacts : .requeue ∉ acts) :
    ∃ more, (x.run acts).ledger.delivered = x.ledger.delivered ++ more ∧
      (x.run acts).ledger.Ahead (latest ++ more) := by
  induction acts generalizing x latest with
  | nil => exact ⟨[], (List.append_nil _).symm, (List.append_nil latest).symm ▸ h⟩
  | cons act acts ih =>
    rw [List.mem_cons, not_or] at hacts
    rcases x.step_cases act with ⟨rfl, -⟩ | hforward
    · exact absurd rfl hacts.1
    obtain ⟨first, hfirst, hahead⟩ := h.forward horder hforward
    obtain ⟨more, hmore, hlast⟩ := ih (hforward.inOrder horder) hahead hacts.2
    refine ⟨first ++ more, ?_, ?_⟩
    · rw [run, hmore, hfirst, List.append_assoc]
    · rw [← List.append_assoc]
      exact hlast

/-- Where a delivery settles the message the ledger stays straight. -/
theorem straight_run {x : Exchange} (h : x.ledger.Straight) (hbalanced : x.ledger.Balanced)
    (hauto : x.ledger.queue.mode = .auto) (acts : List Act) :
    (x.run acts).ledger.Straight := by
  induction acts generalizing x with
  | nil => exact h
  | cons act acts ih =>
    refine ih ?_ (balanced_step hbalanced act) ((x.mode_step act).trans hauto)
    rcases x.step_cases act with ⟨-, hrequeue⟩ | hforward
    · rw [hrequeue]
      exact h.requeue (hbalanced.auto hauto)
    · exact h.forward hbalanced.inOrder hforward

/-- **Deliveries are in order.** Whatever was done with a queue that was empty once, messages wait
in the order of their tags and behind those in flight. From one return of messages to the next the
tags of deliveries ascend. Where a delivery settles the message, what was delivered and then what is
readable of what waits are the readable payloads in the order in which they were accepted. And a
delivery is marked as repeated exactly where its tag was delivered before. -/
theorem deliveries_in_order (mode : AckMode) (producers consumers : List Link) (acts : List Act) :
    let x := opened mode producers consumers
    let l := (x.run acts).ledger
    (l.queue.ready.map Message.tag).Pairwise (· < ·) ∧
      (∀ m ∈ l.queue.inFlight, ∀ n ∈ l.queue.ready, m.tag < n.tag) ∧
      (∀ before between after, acts = before ++ between ++ after → .requeue ∉ between →
        ∃ latest, (x.run (before ++ between)).ledger.delivered =
            (x.run before).ledger.delivered ++ latest ∧
          (latest.map Delivery.tag).Pairwise (· < ·)) ∧
      (mode = .auto → l.delivered.map (fun d => (d.tag, d.reminder)) ++ Ledger.remindersOf l.waiting =
        Ledger.remindersOf l.accepted) ∧
      ∀ earlier d later, l.delivered = earlier ++ d :: later →
        (d.redelivered = true ↔ d.tag ∈ earlier.map Delivery.tag) := by
  intro x l
  have hmarked (acts : List Act) : (x.run acts).ledger.Marked :=
    marked_run (Ledger.marked_empty mode) acts
  obtain ⟨-, hready, hbetween⟩ := List.pairwise_append.mp (hmarked acts).inOrder.ascending
  refine ⟨List.pairwise_map.mpr hready, hbetween, ?_, ?_, (hmarked acts).repeats⟩
  · rintro before between after - hno
    obtain ⟨latest, hlatest, hahead⟩ :=
      ahead_run (hmarked before).inOrder (Ledger.ahead_nil _) hno
    rw [run_append]
    exact ⟨latest, hlatest, hahead.ascending⟩
  · rintro rfl
    exact straight_run (Ledger.straight_empty .auto) (Ledger.balanced_empty .auto) rfl acts

/-- A message that is put back is delivered before one that was published after it, and marked. -/
example :
    let reminder (id : Int) : Reminder := ⟨id, "", .epoch, 1⟩
    let x := (opened .manual [.connected] [.connected, .connected]).run
      [.channel (.publish 0 (reminder 7)), .channel (.publish 0 (reminder 8)), .receive 0, .requeue,
        .receive 1, .receive 0]
    x.ledger.delivered.map (fun d => (d.tag, d.redelivered)) =
      [(1, false), (1, true), (2, false)] := by
  decide +kernel

end Exchange

end Datebook
