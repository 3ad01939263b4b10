import Datebook.Proofs.Queue.Conservation
import Datebook.Proofs.Reminder.Payload

/-!
# A published reminder is delivered as it is

The message of a reminder that a producer publishes carries its written form, from which the
reminder is read as it is. It is therefore readable, is never among the messages that are dropped,
and brings the reminder itself to whoever receives it, also when it was put back before. What the
ledger says of the tag is enough for that, because a tag carries one payload.

## Main results

* `Datebook.Exchange.mem_accepted_publish`, `Datebook.Exchange.mem_accepted_run`
* `Datebook.Exchange.delivered_as_published`
-/

namespace Datebook

namespace Exchange

open Json (inWord)

/-- What was accepted stays entered. -/
theorem mem_accepted_step {x : Exchange} {entry : Int × Json.Bytes}
    (h : entry ∈ x.ledger.accepted) (act : Act) : entry ∈ (x.step act).ledger.accepted := by
  rcases x.step_cases act with ⟨-, hrequeue⟩ | hforward
  · rw [hrequeue]
    exact h
  · generalize (x.step act).ledger = l at hforward
    cases hforward with
    | nothing | take | ack => exact h
    | push payload => exact List.mem_append_left _ h

theorem mem_accepted_run {x : Exchange} {entry : Int × Json.Bytes}
    (h : entry ∈ x.ledger.accepted) (acts : List Act) : entry ∈ (x.run acts).ledger.accepted := by
  induction acts generalizing x with
  | nil => exact h
  | cons act acts ih => exact ih (mem_accepted_step h act)

/-- What an open producer publishes is accepted under the next tag. -/
theorem mem_accepted_publish {x : Exchange} {k : Nat}
    (hopen : (x.service.producer k).ensureOpen = .ok ()) (r : Reminder) :
    (x.ledger.queue.lastTag + 1, r.payload) ∈
      (x.step (.channel (.publish k r))).ledger.accepted := by
  have hentry : x.service.accepted? (.publish k r) =
      some (x.ledger.queue.lastTag + 1, r.payload) := by
    rw [Service.accepted?, hopen]
    rfl
  rw [step, hentry]
  exact List.mem_append_right _ (List.mem_singleton_self _)

/-- **A reminder is delivered as it was published.** A reminder with numbers of 64 bits and with any
instant that a text can stand for, a leap second at the end of a minute included
(`Instant.leapEndsMinute_iff`), is read from its written form as it is. Hence, whatever is done with
a queue that was empty once, the message that an open producer publishes for it under the next tag
is not among those that were dropped because they do not decode, and whatever is delivered under its
tag, then or later, is the reminder that was published. -/
theorem delivered_as_published {r : Reminder} (hid : inWord r.id = true)
    (huser : inWord r.userId = true) (hdate : r.date.LeapEndsMinute) :
    Reminder.decode r.payload = .ok r ∧
      ∀ (mode : AckMode) (producers consumers : List Link) (before after : List Act) (k : Nat),
        let x := (opened mode producers consumers).run before
        let tag := x.ledger.queue.lastTag + 1
        let l := (x.run (.channel (.publish k r) :: after)).ledger
        (x.service.producer k).ensureOpen = .ok () →
          (tag, r.payload) ∈ l.accepted ∧ tag ∉ l.discarded ∧
            ∀ d ∈ l.delivered, d.tag = tag → d.reminder = r := by
  have hround : Reminder.decode r.payload = .ok r := by
    rw [Reminder.decode_payload hid huser, Instant.asWritten_eq_self hdate]
  refine ⟨hround, ?_⟩
  intro mode producers consumers before after k x tag l hopen
  have haccepted : (tag, r.payload) ∈ l.accepted :=
    mem_accepted_run (mem_accepted_publish hopen r) after
  have hbalanced : l.Balanced :=
    balanced_run (balanced_run (MessageQueue.Ledger.balanced_empty mode) before)
      (.channel (.publish k r) :: after)
  refine ⟨haccepted, ?_, ?_⟩
  · intro hdiscarded
    obtain ⟨payload, hpayload, hunreadable⟩ := hbalanced.discarded tag hdiscarded
    obtain rfl := hbalanced.payload_eq hpayload haccepted
    exact hunreadable r hround
  · intro d hd htag
    obtain ⟨payload, hpayload, hread⟩ := hbalanced.delivered d hd
    rw [htag] at hpayload
    obtain rfl := hbalanced.payload_eq hpayload haccepted
    exact Except.ok.inj (hread.symm.trans hround)

/-- A reminder with the least and the largest number, a text that has to be escaped, and a leap
second before the year 0. -/
def demanding : Reminder where
  id := -9223372036854775808
  title := "\"\\\n\x01é😀"
  date := (Instant.of? (-719529) 86399 1000000001).getD .epoch
  userId := 9223372036854775807

/-- The demanding reminder is published behind a payload that does not decode, delivered, put back
and delivered again. -/
theorem demanding_delivered :
    (inWord demanding.id = true ∧ inWord demanding.userId = true ∧
        demanding.date.LeapEndsMinute) ∧
      Reminder.decode demanding.payload = .ok demanding ∧
      let x := (opened .manual [.connected] [.connected]).run [.push []]
      let l := (x.run [.channel (.publish 0 demanding), .receive 0, .requeue, .receive 0]).ledger
      (2, demanding.payload) ∈ l.accepted ∧ 2 ∉ l.discarded ∧
        ∀ d ∈ l.delivered, d.tag = 2 → d.reminder = demanding := by
  have hid : inWord demanding.id = true := by decide
  have huser : inWord demanding.userId = true := by decide
  have hdate : demanding.date.LeapEndsMinute := fun _ => rfl
  obtain ⟨hround, hdelivered⟩ := delivered_as_published hid huser hdate
  exact ⟨⟨hid, huser, hdate⟩, hround,
    hdelivered .manual [.connected] [.connected] [.push []] [.receive 0, .requeue, .receive 0] 0
      rfl⟩

end Exchange

end Datebook
