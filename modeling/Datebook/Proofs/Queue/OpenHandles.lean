import Datebook.Database.Pool
import Datebook.Proofs.Simulation.Lobby

/-!
# Only open handles reach the queue

Producers and consumers, of any number, connect, publish, receive, acknowledge and close in any
order. What is done through a handle that was never connected is refused, and so is what is done
through one that was closed, which then is final; neither touches the queue. Nobody but who holds a
handle is concerned by its closing, and a receiver that waits for a message is told of it.

A handle on a queue in a database that reaches no server cannot be connected. It gives back what a
handle on a queue of this process does that was never connected.

## Main definitions

* `Datebook.Database.RemoteHandle.after`, `Datebook.Database.RemoteHandle.reply?`: a handle that
  reaches no server.

## Main results

* `Datebook.Database.RemoteHandle.reply?_run`
* `Datebook.Service.only_open_handles_reach_the_queue`
-/

namespace Datebook

open Exchange (Act)

namespace Database.RemoteHandle

/-- The handle after an act that reaches no server: to connect it fails, and only closing it changes
it. -/
def after (r : RemoteHandle) : Act → RemoteHandle
  | .channel (.closeProducer _) | .channel (.closeConsumer _) => r.close
  | _ => r

/-- The handle after a list of acts that reach no server. -/
def run (r : RemoteHandle) : List Act → RemoteHandle
  | [] => r
  | act :: acts => (r.after act).run acts

/-- What an act on a handle gives back, where it does not depend on a server. -/
def reply? (r : RemoteHandle) (mode : AckMode) : Act → Option Service.Reply
  | .channel (.connectProducer _) | .channel (.connectConsumer _) => r.connect?.map .outcome
  | .channel (.publish _ _) => r.publish?.map .outcome
  | .channel (.ack _ _) => (r.ack? mode).map .outcome
  | .channel (.closeProducer _) | .channel (.closeConsumer _) => some (.outcome (.ok ()))
  | .receive _ => r.receive?.map fun o => .receipt (some o)
  | .push _ | .requeue => none

variable {r : RemoteHandle} {h : Handle} {act : Act}

/-- Only to close the handle changes it. -/
theorem after_of_ne (hhandle : act.handle? = some h) (hclose : act ≠ .channel h.closing) :
    r.after act = r := by
  cases act with
  | push | requeue | receive => rfl
  | channel c =>
    obtain rfl := Option.some.inj hhandle
    cases c with
    | closeProducer | closeConsumer => exact absurd rfl hclose
    | connectProducer | publish | connectConsumer | ack => rfl

theorem run_of_notMem {acts : List Act} (hhandle : ∀ act ∈ acts, act.handle? = some h)
    (hclose : .channel h.closing ∉ acts) : r.run acts = r := by
  induction acts with
  | nil => rfl
  | cons act acts ih =>
    rw [List.forall_mem_cons] at hhandle
    rw [List.mem_cons, not_or] at hclose
    rw [run, after_of_ne hhandle.1 (Ne.symm hclose.1)]
    exact ih hhandle.2 hclose.2

theorem link_after_closing : (r.after (.channel h.closing)).link = .closed := by
  cases h <;> rfl

theorem link_run_of_closed (hlink : r.link = .closed) (acts : List Act) :
    (r.run acts).link = .closed := by
  induction acts generalizing r with
  | nil => exact hlink
  | cons act acts ih =>
    refine ih ?_
    unfold after
    split
    · rfl
    · rfl
    · exact hlink

theorem link_run_of_mem {acts : List Act} (hclose : .channel h.closing ∈ acts) :
    (r.run acts).link = .closed := by
  induction acts generalizing r with
  | nil => cases hclose
  | cons act acts ih =>
    rcases List.mem_cons.mp hclose with rfl | hclose
    · exact link_run_of_closed link_after_closing acts
    · exact ih hclose

theorem reply?_of_closed (mode : AckMode) (hlink : r.link = .closed)
    (hhandle : act.handle? = some h) : r.reply? mode act = some act.closed := by
  cases act with
  | push | requeue => cases hhandle
  | receive k => simp [reply?, receive?, hlink, Act.closed]
  | channel c =>
    cases c <;> simp [reply?, connect?, publish?, ack?, hlink, Act.closed, Link.ensureOpen]

theorem reply?_of_disconnected (mode : AckMode) (hlink : r.link = .disconnected)
    (huses : act.Uses h) : r.reply? mode act = some act.unconnected := by
  obtain ⟨hhandle, hconnect, hclose⟩ := huses
  cases act with
  | push | requeue => cases hhandle
  | receive k => simp [reply?, receive?, hlink, Act.unconnected]
  | channel c =>
    obtain rfl := Option.some.inj hhandle
    cases c with
    | connectProducer | connectConsumer => exact absurd rfl hconnect
    | closeProducer | closeConsumer => exact absurd rfl hclose
    | publish | ack => simp [reply?, publish?, ack?, hlink, Act.unconnected, Link.ensureOpen]

end Database.RemoteHandle

namespace Exchange.Act

/-- The act connects the handle. -/
def connects (h : Handle) : Act → Bool
  | .channel c => c == h.connecting
  | _ => false

theorem connects_eq_true_iff {h : Handle} {act : Act} :
    act.connects h = true ↔ act = .channel h.connecting := by
  cases act <;> simp [connects]

end Exchange.Act

namespace Database.RemoteHandle

/-- A handle that reaches no server gives back what one in this process does that is never
connected, whatever others do there. Only whether it can be connected is left open until it is
closed. -/
theorem reply?_run (mode : AckMode) (producers consumers : Nat) {h : Handle}
    (hhas : (Service.fresh mode producers consumers).HasHandle h) (acts : List Act) {act : Act}
    (hhandle : act.handle? = some h)
    (hconnect : act = .channel h.connecting → .channel h.closing ∈ acts) :
    (({} : RemoteHandle).run (acts.filter (·.handle? == some h))).reply? mode act =
      some (((Service.fresh mode producers consumers).run
        (acts.filter (!·.connects h))).reply act) := by
  by_cases hclose : .channel h.closing ∈ acts
  · have hremote : .channel h.closing ∈ acts.filter (·.handle? == some h) :=
      List.mem_filter.mpr ⟨hclose, beq_iff_eq.mpr (Act.handle?_closing h)⟩
    have hlocal : .channel h.closing ∈ acts.filter (!·.connects h) :=
      List.mem_filter.mpr ⟨hclose, by cases h <;> rfl⟩
    rw [reply?_of_closed mode (link_run_of_mem hremote) hhandle,
      (Service.after_of_closed (Service.linkOf_run_of_mem hlocal hhas) hhandle).2]
  · have hremote : .channel h.closing ∉ acts.filter (·.handle? == some h) :=
      fun hmem => hclose (List.mem_filter.mp hmem).1
    have hsame : ({} : RemoteHandle).run (acts.filter (·.handle? == some h)) = {} :=
      run_of_notMem (fun act hact => by simpa using (List.mem_filter.mp hact).2) hremote
    have hlink : ((Service.fresh mode producers consumers).run
        (acts.filter (!·.connects h))).linkOf h = .disconnected := by
      rw [Service.linkOf_run_of_notMem (fun hmem => ?_)
        (fun hmem => hclose (List.mem_filter.mp hmem).1), Service.linkOf_fresh]
      have hnot := (List.mem_filter.mp hmem).2
      rw [Act.connects_eq_true_iff.mpr rfl] at hnot
      cases hnot
    rw [hsame]
    by_cases hself : act = .channel h.closing
    · subst hself
      rw [Service.reply, Service.answerChannel_closing]
      cases h <;> rfl
    · have huses : act.Uses h := ⟨hhandle, fun heq => hclose (hconnect heq), hself⟩
      rw [reply?_of_disconnected mode rfl huses, (Service.after_of_unconnected hlink huses).2]

end Database.RemoteHandle

namespace Service

/-- **Only open handles reach the queue.** On an empty queue with a number of handles anything is
done in any order. Then, of any of these handles:

* If it was neither connected nor closed, to publish, to receive and to acknowledge through it fails
  because it is not connected, and nothing changes.
* If it was closed, whatever is done with it changes nothing: one receives nothing through it, may
  close it again, and everything else fails because it is closed.
* To close it does nothing to the queue, and everybody else is given what they would have been given
  if nothing more had been done with it; in the end the service is the same but for the handle. A
  message that is in flight remains so until it is acknowledged through another consumer, which is
  open, or all that is in flight is put back.
* Receivers that wait for a message do no more than receiving again and again. One that waits when
  its consumer is closed receives nothing when it looks again, whatever happens before that, and
  nothing changes.
* A handle on a queue in a database that reaches no server gives back what this one would have given
  back if it had not been connected, except that connecting it is up to the server before it is
  closed. -/
theorem only_open_handles_reach_the_queue (mode : AckMode) (producers consumers : Nat) {h : Handle}
    (hhas : (fresh mode producers consumers).HasHandle h) (acts : List Act) :
    let s := (fresh mode producers consumers).run acts
    let closed := s.after (.channel h.closing)
    let others := fun act : Act => act.handle? != some h
    (.channel h.connecting ∉ acts → .channel h.closing ∉ acts →
        ∀ act : Act, act.Uses h → s.after act = s ∧ s.reply act = act.unconnected) ∧
      (.channel h.closing ∈ acts →
        ∀ act : Act, act.handle? = some h → s.after act = s ∧ s.reply act = act.closed) ∧
      (closed.queue = s.queue ∧ ∀ more : List Act,
        closed.run more = (s.run (more.filter others)).after (.channel h.closing) ∧
        (closed.replies more).filter (fun r => others r.1) = s.replies (more.filter others) ∧
        ∀ m ∈ s.queue.inFlight, m ∈ (closed.run more).queue.inFlight ∨
          ∃ before act later, more = before ++ act :: later ∧
            (act = .requeue ∨ ∃ k, Handle.consumer k ≠ h ∧ act = .channel (.ack k m.tag) ∧
              (closed.run before).consumer k = .connected)) ∧
      (∀ entering : List Lobby.Act,
        let x := (Lobby.fresh mode producers consumers).run entering
        (∃ acts, x.scene.service = (fresh mode producers consumers).run acts) ∧
          ∀ i k t, x.Waits i k t → ∀ later : List Lobby.Act,
            let y := (x.step (.call (.closeConsumer k))).run later
            (y.step (.look i)).receivers[i]? = some (k, .done (.ok none)) ∧
              (y.step (.look i)).scene.service = y.scene.service) ∧
      ∀ act : Act, act.handle? = some h →
        (act = .channel h.connecting → .channel h.closing ∈ acts) →
          (({} : Database.RemoteHandle).run (acts.filter (·.handle? == some h))).reply? mode act =
            some (((fresh mode producers consumers).run
              (acts.filter (!·.connects h))).reply act) := by
  intro s closed others
  have hhas' : s.HasHandle h := hasHandle_run.mpr hhas
  have hclosed : closed = s.withLink .closed h := by
    rw [show closed = s.after (.channel h.closing) from rfl, after, answerChannel_closing]
  refine ⟨fun hconnect hclose act huses => ?_, fun hclose act hhandle => ?_,
    ⟨?_, fun more => ?_⟩, fun entering => ?_, fun act hhandle hconnect => ?_⟩
  · refine after_of_unconnected ?_ huses
    rw [linkOf_run_of_notMem hconnect hclose, linkOf_fresh]
  · exact after_of_closed (linkOf_run_of_mem hclose hhas) hhandle
  · rw [hclosed, queue_withLink]
  · obtain ⟨hrun, hreplies⟩ := s.run_after_closing h hhas' more
    refine ⟨?_, ?_, fun m hm => ?_⟩
    · rw [hclosed, hrun, after, answerChannel_closing]
    · rw [hclosed]
      exact hreplies
    · have hm' : m ∈ closed.queue.inFlight := by rwa [hclosed, queue_withLink]
      refine (mem_inFlight_run_or_exists hm' more).imp_right ?_
      rintro ⟨before, act, later, hmore, hout⟩
      refine ⟨before, act, later, hmore, hout.imp_right ?_⟩
      rintro ⟨k, hack, hopen⟩
      refine ⟨k, ?_, hack, hopen⟩
      rintro rfl
      have hlink : (closed.run before).linkOf (.consumer k) = .closed :=
        linkOf_run_of_closed (linkOf_after_closing hhas') before
      exact Link.noConfusion (hopen.symm.trans hlink)
  · have horderly := Lobby.orderly_fresh mode producers consumers
    exact ⟨horderly.exists_service_run entering,
      fun i k t hw later => (horderly.run entering).look_after_close hw later⟩
  · exact Database.RemoteHandle.reply?_run mode producers consumers hhas acts hhandle hconnect

/-- A reminder of an event that is not stored. -/
def word (id : Int) : Reminder :=
  ⟨id, "", .epoch, 1⟩

/-- Two consumers are connected, and the first of them receives a message and is closed before it
acknowledges it. -/
def leaving : List Act :=
  [.channel (.connectProducer 0), .channel (.connectConsumer 0), .channel (.connectConsumer 1),
    .channel (.publish 0 (word 7)), .channel (.publish 0 (word 8)), .receive 0,
    .channel (.closeConsumer 0)]

/-- The consumer that was closed can neither receive nor acknowledge any more, and what it received
stays in flight until the other acknowledges it. -/
theorem leaving_consumer_is_silent :
    (fresh .manual 1 2).HasHandle (.consumer 0) ∧ .channel (Handle.consumer 0).closing ∈ leaving ∧
      let s := (fresh .manual 1 2).run leaving
      (s.after (.receive 0) = s ∧ s.reply (.receive 0) = .receipt (some (.ok none))) ∧
        (s.after (.channel (.ack 0 1)) = s ∧
          s.reply (.channel (.ack 0 1)) = .outcome (.error .closed)) ∧
        s.queue.inFlight.map Message.tag = [1] ∧
        (s.after (.channel (.ack 1 1))).queue.inFlight = [] := by
  have hhas : (fresh .manual 1 2).HasHandle (.consumer 0) := Nat.zero_lt_two
  have hclose : .channel (Handle.consumer 0).closing ∈ leaving := by simp [leaving, Handle.closing]
  obtain ⟨-, hclosed, -⟩ := only_open_handles_reach_the_queue .manual 1 2 hhas leaving
  exact ⟨hhas, hclose, hclosed hclose (.receive 0) rfl, hclosed hclose (.channel (.ack 0 1)) rfl,
    by decide +kernel, by decide +kernel⟩

end Service

end Datebook
