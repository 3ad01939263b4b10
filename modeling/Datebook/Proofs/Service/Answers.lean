import Datebook.Proofs.Queue.Contents
import Datebook.Service

/-!
# What calls do to the queue of a service

Calls on the store and on the state of handles leave the queue alone. Only publishing,
acknowledging and receiving reach it, each through a handle that is open.

## Main definitions

* `Datebook.Service.delivery?`: the delivery that a consumer receives.

## Main results

* `Datebook.Service.answerChannel_cases`: what a call on a handle does.
* `Datebook.Service.follows_answer`, `Datebook.Service.holds_answer`
* `Datebook.Service.answer_ack_cases`: an acknowledgement fails and does nothing, or is done.
* `Datebook.Service.receive?_cases`: what a consumer receives is what the queue delivers.
-/

namespace Datebook

namespace Service

variable (s : Service)

/-- A call on a handle publishes through an open producer, or acknowledges, or leaves the store and
the queue as they were. -/
theorem answerChannel_cases (c : ChannelCall) :
    (∃ k r, c = .publish k r ∧ (s.producer k).ensureOpen = .ok () ∧
        (s.answerChannel c).2 = { s with queue := s.queue.push r.payload }) ∨
      (∃ k tag, c = .ack k tag ∧
        (s.answerChannel c).2 = { s with queue := s.queue.ack tag }) ∨
      (s.answerChannel c).2.store = s.store ∧ (s.answerChannel c).2.queue = s.queue ∧
        ∀ k r, c = .publish k r → ∃ e, (s.producer k).ensureOpen = .error e := by
  cases c with
  | connectProducer k =>
    refine Or.inr (Or.inr ?_)
    rw [answerChannel]
    split <;> exact ⟨rfl, rfl, by simp⟩
  | connectConsumer k =>
    refine Or.inr (Or.inr ?_)
    rw [answerChannel]
    split <;> exact ⟨rfl, rfl, by simp⟩
  | closeProducer | closeConsumer => exact Or.inr (Or.inr ⟨rfl, rfl, by simp⟩)
  | publish k r =>
    cases hopen : (s.producer k).ensureOpen with
    | ok u => exact Or.inl ⟨k, r, rfl, hopen, by rw [answerChannel, hopen]⟩
    | error e =>
      refine Or.inr (Or.inr ?_)
      rw [answerChannel, hopen]
      refine ⟨rfl, rfl, ?_⟩
      rintro _ _ ⟨⟩
      exact ⟨e, hopen⟩
  | ack k tag =>
    rw [answerChannel]
    split
    · exact Or.inr (Or.inl ⟨k, tag, rfl, rfl⟩)
    · exact Or.inr (Or.inr ⟨rfl, rfl, by simp⟩)

/-- Every call leaves a queue that follows. -/
theorem follows_answer {s : Service} (h : s.queue.InOrder) (c : Call) :
    s.queue.Follows (s.answer c).2.queue := by
  cases c with
  | store c => exact h.follows_self
  | channel c =>
    rw [answer]
    rcases s.answerChannel_cases c with
      ⟨k, r, -, -, hpushed⟩ | ⟨k, tag, -, hacked⟩ | ⟨-, hqueue, -⟩
    · rw [hpushed]
      exact h.follows_push r.payload
    · rw [hacked]
      exact h.follows_ack tag
    · rw [hqueue]
      exact h.follows_self

/-- A call that is no acknowledgement takes nothing out of the queue. -/
theorem holds_answer {s : Service} {tag : Int} {payload : Json.Bytes}
    (h : s.queue.Holds tag payload) {c : Call} (hc : ∀ k t, c ≠ .channel (.ack k t)) :
    (s.answer c).2.queue.Holds tag payload := by
  cases c with
  | store c => exact h
  | channel c =>
    rw [answer]
    rcases s.answerChannel_cases c with
      ⟨k, r, -, -, hpushed⟩ | ⟨k, t, rfl, -⟩ | ⟨-, hqueue, -⟩
    · rw [hpushed]
      exact MessageQueue.holds_push_iff.mpr (Or.inl h)
    · exact absurd rfl (hc k t)
    · rw [hqueue]
      exact h

/-- An acknowledgement fails and changes nothing, or the message is taken out. -/
theorem answer_ack_cases (k : Nat) (tag : Int) :
    (∃ e, s.answer (.channel (.ack k tag)) = (.error e, s)) ∨
      s.answer (.channel (.ack k tag)) = (.ok (), { s with queue := s.queue.ack tag }) := by
  rw [answer, answerChannel]
  cases (s.consumer k).ensureOpen with
  | ok u => exact Or.inr rfl
  | error e => exact Or.inl ⟨e, rfl⟩

/-- What a consumer receives, if it is a delivery. -/
def delivery? (k : Nat) : Option Delivery :=
  match (s.receive? k).1 with
  | some (.ok d) => d
  | _ => none

/-- A consumer receives what the queue delivers, or nothing is taken from the queue. -/
theorem receive?_cases (k : Nat) :
    (s.receive? k).2 = s ∧ s.delivery? k = none ∨
      (s.receive? k).2 = { s with queue := s.queue.take.2 } ∧ s.delivery? k = s.queue.take.1 := by
  rw [delivery?]
  cases hlink : s.consumer k with
  | disconnected => exact Or.inl (by simp [receive?, hlink])
  | closed => exact Or.inl (by simp [receive?, hlink])
  | connected =>
    refine Or.inr ?_
    cases htake : s.queue.take with
    | mk delivery queue => cases delivery <;> simp [receive?, hlink, htake]

end Service

end Datebook
