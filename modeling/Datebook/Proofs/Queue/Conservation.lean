import Datebook.Proofs.Queue.Ledger
import Datebook.Simulation.Session
import Mathlib.Data.List.Nodup

/-!
# Every message has its place

A tag that was given out is in exactly one place, and there once: its message is ready or in flight,
or it was acknowledged, or it was discarded because it does not decode, or, where a delivery settles
the message, it was delivered. Nothing that is done with a queue, through whichever handle and in
whatever order, loses a tag or doubles it. Acknowledgements of tags that are not in flight, because
they were acknowledged before, put back or never given out, change nothing.

## Main definitions

* `Datebook.MessageQueue.Ledger.places`: the tags by the places where they are.
* `Datebook.MessageQueue.Ledger.Balanced`: the invariant.

## Main results

* `Datebook.MessageQueue.Ledger.Balanced.push`, `Datebook.MessageQueue.Ledger.Balanced.take`,
  `Datebook.MessageQueue.Ledger.Balanced.ack`, `Datebook.MessageQueue.Ledger.Balanced.requeue`
* `Datebook.Exchange.every_tag_in_one_place`
-/

namespace Datebook

namespace MessageQueue

namespace Ledger

variable {l : Ledger}

/-- The tags that a delivery has settled. -/
def settled (l : Ledger) : List Int :=
  if l.queue.mode = .auto then l.delivered.map Delivery.tag else []

/-- The tags by their places: ready, in flight, acknowledged, discarded, or settled by delivery. -/
def places (l : Ledger) : List Int :=
  l.queue.ready.map Message.tag ++ l.queue.inFlight.map Message.tag ++ l.acknowledged ++
    l.discarded ++ l.settled

/-- The tags that were given out. -/
def issued (l : Ledger) : List Int :=
  l.accepted.map Prod.fst

/-- An element of a list without repetitions may be set before the others. -/
theorem perm_cons_of_mem {ms : List Message} (hnodup : (ms.map Message.tag).Nodup) {tag : Int}
    (htag : tag ∈ ms.map Message.tag) :
    (ms.map Message.tag).Perm (tag :: (ms.filter (·.tag != tag)).map Message.tag) := by
  have herase : (ms.filter (·.tag != tag)).map Message.tag = (ms.map Message.tag).erase tag := by
    rw [hnodup.erase_eq_filter, List.filter_map]
    rfl
  rw [herase]
  exact List.perm_cons_erase htag

/-- Every tag that was given out is in one place; messages, deliveries and discarded tags are true
to what was accepted, and nothing is in flight that does not decode. -/
structure Balanced (l : Ledger) : Prop where
  inOrder : l.queue.InOrder
  ascending : l.issued.Pairwise (· < ·)
  issued_le : ∀ tag ∈ l.issued, tag ≤ l.queue.lastTag
  places : l.places.Perm l.issued
  genuine : ∀ m ∈ l.queue.messages, (m.tag, m.payload) ∈ l.accepted
  auto : l.queue.mode = .auto → l.queue.inFlight = []
  readable : ∀ m ∈ l.queue.inFlight, ¬ m.Unreadable
  delivered : ∀ d ∈ l.delivered,
    ∃ payload, (d.tag, payload) ∈ l.accepted ∧ Reminder.decode payload = .ok d.reminder
  discarded : ∀ tag ∈ l.discarded,
    ∃ payload, (tag, payload) ∈ l.accepted ∧ ∀ r, Reminder.decode payload ≠ .ok r

theorem balanced_empty (mode : AckMode) : ({ queue := { mode } } : Ledger).Balanced where
  inOrder := inOrder_empty mode
  ascending := .nil
  issued_le := by simp [issued]
  places := by cases mode <;> exact .refl _
  genuine := by simp [messages]
  auto _ := rfl
  readable := by simp
  delivered := by simp
  discarded := by simp

namespace Balanced

protected theorem push (h : l.Balanced) (payload : Json.Bytes) : (l.push payload).Balanced where
  inOrder := h.inOrder.push payload
  ascending := by
    rw [issued, Ledger.push, List.map_append]
    refine List.pairwise_append.mpr ⟨h.ascending, List.pairwise_singleton _ _, ?_⟩
    intro a ha b hb
    obtain rfl := List.mem_singleton.mp hb
    exact Int.lt_add_one_of_le (h.issued_le a ha)
  issued_le tag htag := by
    rw [issued, Ledger.push, List.map_append] at htag
    rcases List.mem_append.mp htag with htag | htag
    · exact Int.le_add_one (h.issued_le tag htag)
    · obtain rfl := List.mem_singleton.mp htag
      exact Int.le_refl _
  places := by
    refine List.perm_iff_count.mpr fun a => ?_
    have hcount := List.perm_iff_count.mp h.places a
    have hsettled : (l.push payload).settled = l.settled := rfl
    rw [Ledger.places, hsettled]
    simp only [Ledger.places, issued, Ledger.push, MessageQueue.push, List.map_append,
      List.count_append, List.map_cons, List.map_nil] at hcount ⊢
    omega
  genuine m hm := by
    rw [messages, Ledger.push, MessageQueue.push, ← List.append_assoc] at hm
    rcases List.mem_append.mp hm with hm | hm
    · exact List.mem_append_left _ (h.genuine m hm)
    · obtain rfl := List.mem_singleton.mp hm
      exact List.mem_append_right _ List.mem_cons_self
  auto := h.auto
  readable := h.readable
  delivered d hd := by
    obtain ⟨payload, hmem, hread⟩ := h.delivered d hd
    exact ⟨payload, List.mem_append_left _ hmem, hread⟩
  discarded tag htag := by
    obtain ⟨payload, hmem, hread⟩ := h.discarded tag htag
    exact ⟨payload, List.mem_append_left _ hmem, hread⟩

/-- A look at the queue moves the dropped messages to the discarded ones, and the delivered message
in flight or to the settled ones. -/
theorem places_take (h : l.Balanced) : l.take.places.Perm l.issued := by
  refine List.perm_iff_count.mpr fun a => ?_
  have hcount := List.perm_iff_count.mp h.places a
  rcases h.inOrder.take_dropped_cases with
    ⟨htake, hdropped, -⟩ | ⟨m, r, rest, hready, -, -, htake⟩
  · have hsettled : l.take.settled = l.settled := by
      simp [settled, Ledger.take, htake]
    rw [Ledger.places, hsettled]
    simp only [Ledger.places, Ledger.take, htake, hdropped, List.map_nil, List.count_append,
      List.count_nil] at hcount ⊢
    omega
  · cases hmode : l.queue.mode with
    | auto =>
      have hsettled : l.take.settled = l.settled ++ [m.tag] := by
        simp [settled, Ledger.take, htake, hmode]
      rw [Ledger.places, hsettled]
      simp only [Ledger.places, Ledger.take, htake, hready, hmode, List.map_append, List.map_cons,
        List.count_append, List.count_cons, List.count_nil, reduceCtorEq, if_false] at hcount ⊢
      omega
    | manual =>
      have hsettled : l.take.settled = l.settled := by
        simp [settled, Ledger.take, htake, hmode]
      rw [Ledger.places, hsettled]
      simp only [Ledger.places, Ledger.take, htake, hready, hmode, if_true, List.map_append,
        List.map_cons, List.map_nil, List.count_append, List.count_cons,
        List.count_nil] at hcount ⊢
      omega

protected theorem take (h : l.Balanced) : l.take.Balanced where
  inOrder := h.inOrder.take
  ascending := h.ascending
  issued_le tag htag := lastTag_take l.queue ▸ h.issued_le tag htag
  places := h.places_take
  genuine m hm := h.genuine m (h.inOrder.messages_take_sublist.mem hm)
  auto hmode := by
    have hbefore : l.queue.mode = .auto := (mode_take l.queue).symm.trans hmode
    rcases h.inOrder.take_cases with ⟨htake, -⟩ | ⟨dropped, m, r, rest, -, -, -, htake⟩
    · rw [Ledger.take, htake]
      exact h.auto hbefore
    · rw [Ledger.take, htake]
      simpa [hbefore] using h.auto hbefore
  readable n hn := by
    rcases h.inOrder.take_cases with ⟨htake, -⟩ | ⟨dropped, m, r, rest, -, -, hread, htake⟩
    · rw [Ledger.take, htake] at hn
      exact h.readable n hn
    · rw [Ledger.take, htake] at hn
      dsimp only at hn
      split at hn
      · rcases List.mem_append.mp hn with hn | hn
        · exact h.readable n hn
        · obtain rfl := List.mem_singleton.mp hn
          exact fun hunreadable => hunreadable r hread
      · exact h.readable n hn
  delivered d hd := by
    rcases List.mem_append.mp hd with hd | hd
    · exact h.delivered d hd
    · obtain ⟨payload, ⟨m, hm, htag, rfl⟩, hread⟩ :=
        holds_of_take_eq_some (Option.mem_toList.mp hd) h.inOrder
      exact ⟨m.payload, htag ▸ h.genuine m hm, hread⟩
  discarded tag htag := by
    rcases List.mem_append.mp htag with htag | htag
    · exact h.discarded tag htag
    · obtain ⟨m, hm, rfl⟩ := List.mem_map.mp htag
      have hunreadable : m.Unreadable := unreadable_of_mem_dropped hm
      have hready : m ∈ l.queue.ready := (List.takeWhile_sublist _).mem hm
      exact ⟨m.payload, h.genuine m (List.mem_append_right _ hready), hunreadable⟩

/-- An acknowledgement moves the tag of a message in flight to the acknowledged ones. -/
theorem places_ack (h : l.Balanced) (tag : Int) : (l.ack tag).places.Perm l.issued := by
  refine List.perm_iff_count.mpr fun a => ?_
  have hcount := List.perm_iff_count.mp h.places a
  have hsettled : (l.ack tag).settled = l.settled := by
    rw [settled, Ledger.ack, mode_ack]
    rfl
  rw [Ledger.places, hsettled]
  by_cases hflight : l.queue.mode = .manual ∧ tag ∈ l.queue.inFlight.map Message.tag
  · have hnodup : (l.queue.inFlight.map Message.tag).Nodup :=
      List.pairwise_map.mpr ((List.pairwise_append.mp h.inOrder.ascending).1.imp Int.ne_of_lt)
    have hmoved := List.perm_iff_count.mp (perm_cons_of_mem hnodup hflight.2) a
    simp only [Ledger.places, Ledger.ack, MessageQueue.ack, if_pos hflight, if_pos hflight.1,
      List.count_append, List.count_cons, List.count_nil] at hcount hmoved ⊢
    omega
  · have hqueue : l.queue.ack tag = l.queue := by
      rw [MessageQueue.ack]
      split
      · next hmode =>
        have hnone : ∀ m ∈ l.queue.inFlight, (m.tag != tag) = true := fun m hm =>
          bne_iff_ne.mpr fun htag => hflight ⟨hmode, List.mem_map.mpr ⟨m, hm, htag⟩⟩
        rw [List.filter_eq_self.mpr hnone]
      · rfl
    simp only [Ledger.places, Ledger.ack, if_neg hflight, hqueue, List.append_nil] at hcount ⊢
    exact hcount

protected theorem ack (h : l.Balanced) (tag : Int) : (l.ack tag).Balanced where
  inOrder := h.inOrder.ack tag
  ascending := h.ascending
  issued_le t ht := Int.le_trans (h.issued_le t ht) (h.inOrder.follows_ack tag).lastTag_le
  places := h.places_ack tag
  genuine m hm := h.genuine m (messages_ack_sublist.mem hm)
  auto hmode := by
    have hbefore : l.queue.inFlight = [] := h.auto ((mode_ack l.queue tag).symm.trans hmode)
    exact List.sublist_nil.mp (hbefore ▸ inFlight_ack_sublist)
  readable m hm := h.readable m (inFlight_ack_sublist.mem hm)
  delivered := h.delivered
  discarded := h.discarded

protected theorem requeue (h : l.Balanced) : l.requeue.Balanced where
  inOrder := h.inOrder.requeue
  ascending := h.ascending
  issued_le := h.issued_le
  places := by
    refine List.perm_iff_count.mpr fun a => ?_
    have hcount := List.perm_iff_count.mp h.places a
    have hsettled : l.requeue.settled = l.settled := rfl
    have htags : l.requeue.queue.ready.map Message.tag =
        l.queue.inFlight.map Message.tag ++ l.queue.ready.map Message.tag := by
      simp [Ledger.requeue, MessageQueue.requeue, Function.comp_def]
    have hissued : l.requeue.issued = l.issued := rfl
    rw [Ledger.places, hsettled, htags, hissued]
    simp only [Ledger.places, Ledger.requeue, MessageQueue.requeue, List.map_nil, List.count_append,
      List.count_nil] at hcount ⊢
    omega
  genuine m hm := by
    rw [messages, Ledger.requeue, MessageQueue.requeue, List.nil_append] at hm
    rcases List.mem_append.mp hm with hm | hm
    · obtain ⟨n, hn, rfl⟩ := List.mem_map.mp hm
      exact h.genuine n (List.mem_append_left _ hn)
    · exact h.genuine m (List.mem_append_right _ hm)
  auto _ := rfl
  readable := by simp [Ledger.requeue, MessageQueue.requeue]
  delivered := h.delivered
  discarded := h.discarded

theorem forward (h : l.Balanced) {l' : Ledger} (hl : l.Forward l') : l'.Balanced := by
  cases hl with
  | nothing => exact h
  | push payload => exact h.push payload
  | take => exact h.take
  | ack tag => exact h.ack tag

/-- A tag carries one payload. -/
theorem payload_eq (h : l.Balanced) {tag : Int} {payload other : Json.Bytes}
    (hpayload : (tag, payload) ∈ l.accepted) (hother : (tag, other) ∈ l.accepted) :
    payload = other := by
  have hnodup : (l.accepted.map Prod.fst).Nodup := h.ascending.imp Int.ne_of_lt
  have heq := List.inj_on_of_nodup_map hnodup hpayload hother rfl
  exact congrArg Prod.snd heq

end Balanced

end Ledger

end MessageQueue

namespace Exchange

open MessageQueue (Ledger)

/-- Every act leaves the ledger balanced. -/
theorem balanced_step {x : Exchange} (h : x.ledger.Balanced) (act : Act) :
    (x.step act).ledger.Balanced := by
  rcases x.step_cases act with ⟨-, hrequeue⟩ | hforward
  · rw [hrequeue]
    exact h.requeue
  · exact h.forward hforward

theorem balanced_run {x : Exchange} (h : x.ledger.Balanced) (acts : List Act) :
    (x.run acts).ledger.Balanced := by
  induction acts generalizing x with
  | nil => exact h
  | cons act acts ih => exact ih (balanced_step h act)

/-- **Every tag is in one place.** Whatever was done with a queue that was empty once, tags were
given out once, and each is in exactly one place: ready, in flight, acknowledged, discarded or, if
deliveries need no acknowledgement, delivered. What is in the queue carries the payload that was
accepted under its tag, and what was delivered is read from it. Payloads that do not decode are
never delivered nor in flight, and no others are discarded. Without acknowledgements nothing is in
flight and no tag is delivered twice. Putting back what is in flight leaves nothing there, sets it
before what is ready, and tells how many messages it was. -/
theorem every_tag_in_one_place (mode : AckMode) (producers consumers : List Link)
    (acts : List Act) :
    let l := ((opened mode producers consumers).run acts).ledger
    l.issued.Nodup ∧ l.places.Perm l.issued ∧
      (∀ m ∈ l.queue.messages, (m.tag, m.payload) ∈ l.accepted) ∧
      (∀ d ∈ l.delivered,
        ∃ payload, (d.tag, payload) ∈ l.accepted ∧ Reminder.decode payload = .ok d.reminder) ∧
      (∀ tag payload, (tag, payload) ∈ l.accepted → (∀ r, Reminder.decode payload ≠ .ok r) →
        tag ∉ l.delivered.map Delivery.tag ∧ tag ∉ l.queue.inFlight.map Message.tag) ∧
      (∀ tag ∈ l.discarded,
        ∃ payload, (tag, payload) ∈ l.accepted ∧ ∀ r, Reminder.decode payload ≠ .ok r) ∧
      (mode = .auto → l.queue.inFlight = [] ∧ (l.delivered.map Delivery.tag).Nodup) ∧
      (mode = .manual → l.settled = []) ∧
      ∀ s : Session, s.service.queue = l.queue →
        s.requeue.1 = l.queue.inFlight.length ∧ s.requeue.2.service.queue.inFlight = [] ∧
          s.requeue.2.service.queue.ready =
            l.queue.inFlight.map (fun m => { m with redelivered := true }) ++ l.queue.ready := by
  intro l
  have h : l.Balanced := balanced_run (Ledger.balanced_empty mode) acts
  have hnodup : l.issued.Nodup := h.ascending.imp Int.ne_of_lt
  have hmode : l.queue.mode = mode := mode_run _ acts
  refine ⟨hnodup, h.places, h.genuine, h.delivered, ?_, h.discarded, ?_, ?_, ?_⟩
  · intro tag payload hpayload hunreadable
    constructor
    · intro htag
      obtain ⟨d, hd, rfl⟩ := List.mem_map.mp htag
      obtain ⟨other, hother, hread⟩ := h.delivered d hd
      exact hunreadable _ (h.payload_eq hpayload hother ▸ hread)
    · intro htag
      obtain ⟨m, hm, rfl⟩ := List.mem_map.mp htag
      have hgenuine := h.genuine m (List.mem_append_left _ hm)
      refine h.readable m hm ?_
      rw [Message.Unreadable, h.payload_eq hgenuine hpayload]
      exact hunreadable
  · intro hauto
    have hsettled : l.settled = l.delivered.map Delivery.tag := if_pos (hmode.trans hauto)
    refine ⟨h.auto (hmode.trans hauto), ?_⟩
    rw [← hsettled]
    exact (h.places.nodup_iff.mpr hnodup).sublist (List.sublist_append_right _ _)
  · intro hmanual
    exact if_neg (by simp [hmode, hmanual])
  · intro s hs
    refine ⟨congrArg (fun q => q.inFlight.length) hs, rfl, ?_⟩
    rw [← hs]
    rfl

end Exchange

end Datebook
