import Datebook.Proofs.Queue.Handles
import Datebook.Proofs.Simulation.Tickets

/-!
# Receivers that wait

A receiver that finds no message waits in line, and whatever may concern it calls it: a new message
calls the first in line, and the return of messages and the closing of a consumer call everybody.
Receivers, calls on handles and messages of any form meet in a lobby, in any order.

A receiver keeps its place until it is called, and remains called until it has looked again. When
its consumer is closed it is called, and then it finds the handle closed and receives nothing.

## Main definitions

* `Datebook.Lobby`, `Datebook.Lobby.Act`, `Datebook.Lobby.run`
* `Datebook.Lobby.Orderly`: the invariant.

## Main results

* `Datebook.Lobby.Orderly.run`
* `Datebook.Lobby.Orderly.exists_service_run`: what is done in a lobby is done with the queue.
* `Datebook.Lobby.Orderly.look_after_close`: a receiver that waits is told of the closing.
-/

namespace Datebook

/-! ### The lobby -/

/-- A service with its surroundings, and the receivers that were started. -/
structure Lobby where
  now : Nat := 0
  scene : Scene := {}
  /-- Each receiver with its consumer, in the order of starting. -/
  receivers : List (Nat × Receive) := []

namespace Lobby

/-- What may happen in a lobby. -/
inductive Act where
  | call (c : ChannelCall)
  | push (payload : Json.Bytes)
  | requeue
  /-- Somebody begins to receive through a consumer. -/
  | receive (consumer : Nat)
  /-- The receiver at a place looks again, if it was called. -/
  | look (place : Nat)
  | wait (millis : Nat)

/-- The lobby after an act. -/
def step (x : Lobby) : Act → Lobby
  | .call c => { x with scene := (x.scene.finish x.now (.channel c) none).2 }
  | .push payload =>
    { x with
      scene := { x.scene with
        service := { x.scene.service with queue := x.scene.service.queue.push payload }
        line := x.scene.line.callFirst } }
  | .requeue =>
    { x with
      scene := { x.scene with
        service := { x.scene.service with queue := x.scene.service.queue.requeue }
        line :=
          if 0 < x.scene.service.queue.inFlight.length then x.scene.line.callAll
          else x.scene.line } }
  | .receive k =>
    let (receive, scene) := x.scene.startReceive x.now k
    { x with scene, receivers := x.receivers ++ [(k, receive)] }
  | .look i =>
    match x.receivers[i]? with
    | none => x
    | some (k, receive) =>
      match receive.poll? x.now k x.scene with
      | none => x
      | some (receive, scene) => { x with scene, receivers := x.receivers.set i (k, receive) }
  | .wait millis => { x with now := x.now + millis }

/-- The lobby after a list of acts. -/
def run (x : Lobby) : List Act → Lobby
  | [] => x
  | act :: acts => (x.step act).run acts

/-- A lobby on an empty queue, with a number of handles that were never connected. -/
def fresh (mode : AckMode) (producers consumers : Nat) : Lobby where
  scene := { service := .fresh mode producers consumers }

end Lobby

namespace Lobby

variable {x : Lobby}

/-- The receiver at a place waits with a ticket. -/
def Waits (x : Lobby) (place consumer ticket : Nat) : Prop :=
  x.receivers[place]? = some (consumer, .waiting ticket)

/-- Every receiver that waits has a ticket of its own and the place that goes with it. -/
structure Orderly (x : Lobby) : Prop where
  faults : x.scene.faults = []
  started : ∀ r ∈ x.receivers, ∀ due failure, r.2 ≠ .held due failure
  below : ∀ {i k t}, x.Waits i k t → t < x.scene.line.nextTicket
  apart : ∀ {i j k l t}, x.Waits i k t → x.Waits j l t → i = j
  places : ∀ {i k t}, x.Waits i k t → x.scene.Places k t

theorem orderly_fresh (mode : AckMode) (producers consumers : Nat) :
    (fresh mode producers consumers).Orderly where
  faults := rfl
  started := by simp [fresh]
  below := by simp [Waits, fresh]
  apart := by simp [Waits, fresh]
  places := by simp [Waits, fresh]

namespace Orderly

/-- What takes no place away leaves the lobby orderly. -/
theorem of_keeps (h : x.Orderly) {scene : Scene} (hfaults : scene.faults = [])
    (hkeeps : ∀ t, x.scene.line.Keeps scene.line t)
    (hnext : scene.line.nextTicket = x.scene.line.nextTicket)
    (hlink : ∀ k, x.scene.service.consumer k ≠ .disconnected →
      scene.service.consumer k ≠ .disconnected)
    (hopen : scene.line.waiting ≠ [] → ∀ k, x.scene.service.consumer k = .connected →
      scene.service.consumer k = .connected) : { x with scene }.Orderly where
  faults := hfaults
  started := h.started
  below hwaits := hnext ▸ h.below hwaits
  apart := h.apart
  places {_ k t} hwaits := (h.places hwaits).of_keeps (hkeeps t) (hlink k) fun hne => hopen hne k

/-- The receiver at a place looks for a message, and then is done or waits with a new ticket. -/
theorem looked (h : x.Orderly) (i : Nat) (line : Line) {k : Nat}
    {receivers : List (Nat × Receive)}
    (hline : ∀ {j l t}, j ≠ i → x.Waits j l t → x.scene.line.Keeps line t)
    (hnext : line.nextTicket = x.scene.line.nextTicket)
    (hother : ∀ j, j ≠ i → receivers[j]? = x.receivers[j]?)
    (hself : receivers[i]? = some (k, (({ x.scene with line } : Scene).look x.now k).1)) :
    { x with scene := (({ x.scene with line } : Scene).look x.now k).2, receivers }.Orderly := by
  obtain ⟨hservice, hfaults, houtcome⟩ := Scene.look_cases { x.scene with line } x.now k
  generalize ({ x.scene with line } : Scene).look x.now k = out at *
  obtain ⟨receive, scene⟩ := out
  dsimp only at hservice hfaults houtcome hself ⊢
  have hconsumer (l : Nat) : scene.service.consumer l = x.scene.service.consumer l := by
    rw [hservice, Service.consumer_receive?]
  have hkeeps {j l t : Nat} (hj : j ≠ i) (hw : x.Waits j l t) :
      x.scene.line.Keeps scene.line t := by
    rcases houtcome with ⟨-, -, -, hsame⟩ | ⟨-, -, hjoined⟩
    · exact hsame ▸ hline hj hw
    · exact hjoined ▸ (hline hj hw).trans (line.keeps_join t)
  have hle : x.scene.line.nextTicket ≤ scene.line.nextTicket := by
    rcases houtcome with ⟨-, -, -, hsame⟩ | ⟨-, -, hjoined⟩
    · rw [hsame, hnext]
    · rw [hjoined, ← hnext]
      exact Nat.le_succ _
  -- The others wait as before, and this one only with the ticket that was to be handed out next.
  have hwaits {j l t : Nat} (hw : ({ x with scene, receivers } : Lobby).Waits j l t) :
      j ≠ i ∧ x.Waits j l t ∨
        j = i ∧ t = x.scene.line.nextTicket ∧ x.scene.service.consumer l = .connected ∧
          scene.line = line.join.2 := by
    by_cases hj : j = i
    · subst hj
      rw [Waits, hself, Option.some.injEq, Prod.mk.injEq] at hw
      obtain ⟨rfl, rfl⟩ := hw
      rcases houtcome with ⟨outcome, -, hdone, -⟩ | ⟨hconnected, hticket, hjoined⟩
      · cases hdone
      · obtain rfl := Receive.waiting.inj hticket
        exact Or.inr ⟨rfl, hnext, hconnected, hjoined⟩
    · rw [Waits, hother j hj] at hw
      exact Or.inl ⟨hj, hw⟩
  refine ⟨hfaults.trans h.faults, ?_, ?_, ?_, ?_⟩
  · intro r hr due failure hheld
    obtain ⟨j, hj⟩ := List.getElem?_of_mem hr
    by_cases hi : j = i
    · subst hi
      obtain rfl := Option.some.inj (hself.symm.trans hj)
      rcases houtcome with ⟨outcome, -, hdone, -⟩ | ⟨-, hticket, -⟩
      · exact Receive.noConfusion (hdone.symm.trans hheld)
      · exact Receive.noConfusion (hticket.symm.trans hheld)
    · rw [hother j hi] at hj
      exact h.started r (List.mem_of_getElem? hj) due failure hheld
  · intro j l t hw
    rcases hwaits hw with ⟨-, hw⟩ | ⟨-, rfl, -, hjoined⟩
    · exact Nat.lt_of_lt_of_le (h.below hw) hle
    · dsimp only
      rw [hjoined, ← hnext]
      exact Nat.lt_succ_self _
  · intro j m l l' t hw hw'
    rcases hwaits hw with ⟨-, hw⟩ | ⟨rfl, rfl, -, -⟩ <;>
      rcases hwaits hw' with ⟨-, hw'⟩ | ⟨rfl, heq, -, -⟩
    · exact h.apart hw hw'
    · exact absurd (h.below hw) (heq ▸ Nat.lt_irrefl _)
    · exact absurd (h.below hw') (Nat.lt_irrefl _)
    · rfl
  · intro j l t hw
    rcases hwaits hw with ⟨hj, hw⟩ | ⟨-, rfl, hconnected, hjoined⟩
    · exact (h.places hw).of_keeps (hkeeps hj hw) (hconsumer l ▸ id) fun _ => hconsumer l ▸ id
    · refine Or.inl ⟨?_, (hconsumer l).trans hconnected⟩
      dsimp only
      rw [hjoined, ← hnext]
      exact List.mem_append_right _ (List.mem_singleton_self _)

/-- To begin to receive is to look for a message. -/
theorem step_receive (h : x.Orderly) (k : Nat) :
    x.step (.receive k) =
      { x with
        scene := (x.scene.look x.now k).2
        receivers := x.receivers ++ [(k, (x.scene.look x.now k).1)] } := by
  have hlook : x.scene.startReceive x.now k = x.scene.look x.now k := by
    rw [Scene.startReceive, Scene.takeFault_of_forall_ne (by simp [h.faults])]
    rfl
  rw [Lobby.step, hlook]

/-- A receiver that was called gives back its ticket and looks. -/
theorem step_look {i k t : Nat} (hw : x.Waits i k t) (hcalled : t ∈ x.scene.line.called) :
    let out := ({ x.scene with line := x.scene.line.answer t } : Scene).look x.now k
    x.step (.look i) = { x with scene := out.2, receivers := x.receivers.set i (k, out.1) } := by
  intro out
  have hhas : x.scene.line.hasCalled t = true := List.contains_iff_mem.mpr hcalled
  rw [Waits] at hw
  rw [Lobby.step, hw]
  simp only [Receive.poll?, hhas, if_true]
  rfl

/-- A receiver that was not called does nothing. -/
theorem step_look_cases (h : x.Orderly) (i : Nat) :
    x.step (.look i) = x ∨ ∃ k t, x.Waits i k t ∧ t ∈ x.scene.line.called := by
  rw [Lobby.step]
  cases hi : x.receivers[i]? with
  | none => exact Or.inl rfl
  | some r =>
    obtain ⟨k, receive⟩ := r
    cases receive with
    | done outcome => exact Or.inl rfl
    | held due failure => exact absurd rfl (h.started _ (List.mem_of_getElem? hi) due failure)
    | waiting t =>
      by_cases hcalled : t ∈ x.scene.line.called
      · exact Or.inr ⟨k, t, hi, hcalled⟩
      · have hhas : x.scene.line.hasCalled t = false :=
          Bool.eq_false_iff.mpr fun hhas => hcalled (List.contains_iff_mem.mp hhas)
        refine Or.inl ?_
        simp only [Receive.poll?, hhas, Bool.false_eq_true, if_false]

/-- The lobby stays orderly whatever happens next. -/
theorem step (h : x.Orderly) (act : Act) : (x.step act).Orderly := by
  cases act with
  | wait millis => exact ⟨h.faults, h.started, h.below, h.apart, h.places⟩
  | push payload =>
    exact h.of_keeps h.faults (fun t => x.scene.line.keeps_callFirst t)
      x.scene.line.nextTicket_callFirst (fun _ => id) fun _ _ => id
  | requeue =>
    refine h.of_keeps h.faults (fun t => ?_) ?_ (fun _ => id) fun _ _ => id
    · dsimp only
      split
      · exact x.scene.line.keeps_callAll t
      · exact .refl _ _
    · dsimp only
      split <;> rfl
  | call c =>
    have hline := x.scene.line_finish_cases x.now (.channel c) none
    refine h.of_keeps h.faults (fun t => ?_) ?_ (fun k hne => ?_) fun hwaiting k hconnected => ?_
    · rcases hline with hline | hline
      · exact hline ▸ .refl _ _
      · exact hline ▸ Line.keeps_rouse _ _ t
    · rcases hline with hline | hline
      · exact congrArg Line.nextTicket hline
      · rw [hline, Line.nextTicket_rouse]
    · exact Service.linkOf_after_ne (h := .consumer k) hne (.channel c)
    · have hclose : Exchange.Act.channel c ≠ .channel (Handle.consumer k).closing := by
        rintro ⟨⟩
        exact hwaiting rfl
      refine (Service.linkOf_after_of_ne_closing (h := .consumer k) ?_ hclose).trans hconnected
      rw [Service.linkOf, hconnected]
      decide
  | receive k =>
    rw [h.step_receive]
    refine h.looked x.receivers.length x.scene.line (fun _ _ => .refl _ _) rfl
      (fun j hj => ?_) List.getElem?_concat_length
    rcases Nat.lt_or_gt_of_ne hj with hlt | hgt
    · exact List.getElem?_append_left hlt
    · rw [List.getElem?_eq_none (Nat.le_of_lt hgt), List.getElem?_eq_none]
      rwa [List.length_append, List.length_singleton]
  | look i =>
    rcases h.step_look_cases i with hsame | ⟨k, t, hw, hcalled⟩
    · rwa [hsame]
    · rw [step_look hw hcalled]
      obtain ⟨hi, -⟩ := List.getElem?_eq_some_iff.mp hw
      refine h.looked i (x.scene.line.answer t) (fun {j l t'} hj hw' => ?_) rfl
        (fun j hj => List.getElem?_set_ne (Ne.symm hj)) (List.getElem?_set_self hi)
      refine x.scene.line.keeps_answer fun heq => hj ?_
      exact h.apart hw' (heq ▸ hw)

theorem run (h : x.Orderly) (acts : List Act) : (x.run acts).Orderly := by
  induction acts generalizing x with
  | nil => exact h
  | cons act acts ih => exact ih (h.step act)

/-- What is done in a lobby is done with the queue. -/
theorem exists_service_step (h : x.Orderly) (act : Act) :
    ∃ acts, (x.step act).scene.service = x.scene.service.run acts := by
  cases act with
  | wait millis => exact ⟨[], rfl⟩
  | push payload => exact ⟨[.push payload], rfl⟩
  | requeue => exact ⟨[.requeue], rfl⟩
  | call c => exact ⟨[.channel c], rfl⟩
  | receive k =>
    rw [h.step_receive]
    exact ⟨[.receive k], (x.scene.look_cases x.now k).1⟩
  | look i =>
    rcases h.step_look_cases i with hsame | ⟨k, t, hw, hcalled⟩
    · exact ⟨[], by rw [hsame, Service.run]⟩
    · rw [step_look hw hcalled]
      exact ⟨[.receive k],
        (({ x.scene with line := x.scene.line.answer t } : Scene).look_cases x.now k).1⟩

theorem exists_service_run (h : x.Orderly) (acts : List Act) :
    ∃ others, (x.run acts).scene.service = x.scene.service.run others := by
  induction acts generalizing x with
  | nil => exact ⟨[], rfl⟩
  | cons act acts ih =>
    obtain ⟨first, hfirst⟩ := h.exists_service_step act
    obtain ⟨rest, hrest⟩ := ih (h.step act)
    refine ⟨first ++ rest, ?_⟩
    rw [Service.run_append, ← hfirst]
    exact hrest

end Orderly

/-! ### Closing the consumer of a receiver -/

/-- The consumer is closed, and its receiver waits or has received nothing. -/
structure Told (x : Lobby) (place consumer : Nat) : Prop where
  closed : x.scene.service.consumer consumer = .closed
  receiver : x.receivers[place]? = some (consumer, .done (.ok none)) ∨
    ∃ ticket, x.Waits place consumer ticket

/-- What others do leaves a receiver where it is. -/
theorem Orderly.receivers_step (h : x.Orderly) {act : Act} {i : Nat} {r : Nat × Receive}
    (hr : x.receivers[i]? = some r) (hne : act ≠ .look i) :
    (x.step act).receivers[i]? = some r := by
  cases act with
  | call | push | requeue | wait => exact hr
  | receive k =>
    obtain ⟨hi, -⟩ := List.getElem?_eq_some_iff.mp hr
    rw [h.step_receive]
    exact (List.getElem?_append_left hi).trans hr
  | look j =>
    rcases h.step_look_cases j with hsame | ⟨k, t, hw, hcalled⟩
    · rwa [hsame]
    · have hj : j ≠ i := fun heq => hne (heq ▸ rfl)
      rw [Orderly.step_look hw hcalled]
      exact (List.getElem?_set_ne hj).trans hr

namespace Told

/-- When the receiver looks next, or has looked already, it receives nothing. -/
theorem look {i k : Nat} (h : x.Told i k) (horderly : x.Orderly) :
    (x.step (.look i)).receivers[i]? = some (k, .done (.ok none)) ∧
      (x.step (.look i)).scene.service = x.scene.service := by
  rcases h.receiver with hdone | ⟨t, hw⟩
  · have hsame : x.step (.look i) = x := by
      rw [Lobby.step, hdone]
      rfl
    rw [hsame]
    exact ⟨hdone, rfl⟩
  · rcases horderly.places hw with ⟨-, hconnected⟩ | ⟨hcalled, -⟩
    · rw [h.closed] at hconnected
      cases hconnected
    · obtain ⟨hi, -⟩ := List.getElem?_eq_some_iff.mp hw
      have hreceive : x.scene.service.receive? k = (some (.ok none), x.scene.service) := by
        rw [Service.receive?, h.closed]
      rw [Orderly.step_look hw hcalled, Scene.look, hreceive]
      exact ⟨List.getElem?_set_self hi, rfl⟩

theorem step {i k : Nat} (h : x.Told i k) (horderly : x.Orderly) (act : Act) :
    (x.step act).Told i k where
  closed := by
    obtain ⟨acts, hservice⟩ := horderly.exists_service_step act
    rw [hservice]
    exact Service.linkOf_run_of_closed (h := .consumer k) h.closed acts
  receiver := by
    by_cases hlook : act = .look i
    · exact hlook ▸ Or.inl (h.look horderly).1
    · rcases h.receiver with hdone | ⟨t, hw⟩
      · exact Or.inl (horderly.receivers_step hdone hlook)
      · exact Or.inr ⟨t, horderly.receivers_step hw hlook⟩

theorem run {i k : Nat} (h : x.Told i k) (horderly : x.Orderly) (acts : List Act) :
    (x.run acts).Told i k := by
  induction acts generalizing x with
  | nil => exact h
  | cons act acts ih => exact ih (h.step horderly act) (horderly.step act)

end Told

/-- A receiver that waits when its consumer is closed receives nothing when it looks again, whatever
happens before that, and the service stays as it is. -/
theorem Orderly.look_after_close (h : x.Orderly) {i k t : Nat} (hw : x.Waits i k t)
    (acts : List Act) :
    let y := (x.step (.call (.closeConsumer k))).run acts
    (y.step (.look i)).receivers[i]? = some (k, .done (.ok none)) ∧
      (y.step (.look i)).scene.service = y.scene.service := by
  intro y
  have hne : x.scene.service.linkOf (.consumer k) ≠ .disconnected := by
    rcases h.places hw with ⟨-, hconnected⟩ | ⟨-, hne⟩
    · rw [Service.linkOf, hconnected]
      decide
    · exact hne
  have htold : (x.step (.call (.closeConsumer k))).Told i k :=
    { closed := Service.linkOf_after_closing (Service.hasHandle_of_linkOf_ne hne)
      receiver := Or.inr ⟨t, hw⟩ }
  exact (htold.run (h.step _) acts).look ((h.step _).run acts)

end Lobby

end Datebook
