import Datebook.Proofs.Queue.Handles
import Datebook.Proofs.Sender.Moves
import Datebook.Proofs.Simulation.Listeners
import Datebook.Proofs.Simulation.Tickets

/-!
# The sender's loop among others who leave it alone

The loop of the sender listens to the flag while others do anything to the queue and to the store,
as long as they leave its consumer and the place of its receiver in line alone. The consumer
receives and closes at once. The loop looks at the queue first and at the flag then, or the other
way round; neither changes the flag, and its receiver has its place in line after every step.

## Main definitions

* `Datebook.Sender.listener`
* `Datebook.Sender.Spares`: what others may do.

## Main results

* `Datebook.Sender.Loop.flag_step?`
* `Datebook.Sender.spares_call`
* `Datebook.Sender.seats_step?`, `Datebook.Sender.seats_heed?`
-/

namespace Datebook

namespace Scene

variable (s : Scene) (now k : Nat)

/-! ### Receiving and the flag -/

theorem flag_look : (s.look now k).2.flag = s.flag := by
  rw [look]
  rcases s.service.receive? k with ⟨_ | outcome, service⟩ <;> rfl

theorem flag_lookOrFail (failure : Option FaultKind) :
    (s.lookOrFail now k failure).2.flag = s.flag := by
  cases failure with
  | some kind => rfl
  | none => exact s.flag_look now k

theorem flag_startReceive : (s.startReceive now k).2.flag = s.flag := by
  obtain ⟨faults, -, heq⟩ := s.exists_takeFault_eq .receive
  rw [startReceive]
  dsimp only
  rw [heq]
  split
  · exact flag_lookOrFail _ now k _
  · rfl

variable {s now k}

theorem flag_poll? {receive : Receive} {out : Receive × Scene}
    (h : receive.poll? now k s = some out) : out.2.flag = s.flag := by
  cases receive with
  | done outcome => cases h
  | held due failure =>
    obtain ⟨-, hlook⟩ := Option.ite_none_right_eq_some.mp h
    exact Option.some.inj hlook ▸ s.flag_lookOrFail now k failure
  | waiting ticket =>
    obtain ⟨-, hlook⟩ := Option.ite_none_right_eq_some.mp h
    exact Option.some.inj hlook ▸ flag_look _ now k

end Scene

namespace Sender

/-! ### The loop as a listener -/

/-- The loop goes on only to its end: it closes its consumer or has closed it. -/
def Stage.isStopped : Stage → Bool
  | .choosing | .receiving _ | .handling _ | .pausing _ => false
  | .releasing _ _ | .collecting _ | .stopping _ _ | .ended _ => true

/-- The loop has ended. -/
def Stage.isEnded : Stage → Bool
  | .ended _ => true
  | _ => false

/-- The ticket that the receiver of the loop waits with. -/
def Stage.ticket? : Stage → Option Nat
  | .receiving receive | .releasing _ receive | .collecting receive => receive.ticket?
  | .choosing | .handling _ | .pausing _ | .stopping _ _ | .ended _ => none

/-- The loop waits for a message, and there is no news of the flag. -/
def Loop.waits (loop : Loop) (s : Scene) : Bool :=
  match loop.stage with
  | .receiving (.done _) => false
  | .receiving _ => !loop.hasNews s
  | _ => false

/-- The loop begins to receive and its receiver has not looked yet, or it sees the news of the flag
before its receiver looks. -/
def Loop.heed? (settings : LoopSettings) (now : Nat) (loop : Loop) (s : Scene) :
    Option (Loop × Scene) :=
  match loop.stage with
  | .choosing =>
    if s.flag.value then none
    else some ({ loop with stage := .receiving (.held now none) }, s)
  | .receiving (.done _) => none
  | .receiving receive =>
    if loop.hasNews s then some (loop.release settings now receive s) else none
  | _ => none

/-- Others leave alone the flag, the consumer of a loop and its place in line, and note nothing in
its name. The consumer still receives and closes at once. -/
structure Spares (k : Nat) (ticket? : Option Nat) (s t : Scene) : Prop where
  flag : t.flag = s.flag
  consumer : t.service.consumer k = s.service.consumer k
  trace : t.trace = s.trace
  receive : ∀ x ∈ t.faults, x.1 ≠ .receive
  closeConsumer : ∀ x ∈ t.faults, x.1 ≠ .closeConsumer
  issued : t.line.Issued
  keeps : ∀ ticket ∈ ticket?, s.line.Keeps t.line ticket

instance (k : Nat) (ticket? : Option Nat) (s t : Scene) : Decidable (Spares k ticket? s t) :=
  decidable_of_iff
    (t.flag = s.flag ∧ t.service.consumer k = s.service.consumer k ∧ t.trace = s.trace ∧
      (∀ x ∈ t.faults, x.1 ≠ .receive) ∧ (∀ x ∈ t.faults, x.1 ≠ .closeConsumer) ∧
      t.line.Issued ∧ ∀ ticket ∈ ticket?, s.line.Keeps t.line ticket)
    ⟨fun ⟨hflag, hconsumer, htrace, hreceive, hclose, hissued, hkeeps⟩ =>
      ⟨hflag, hconsumer, htrace, hreceive, hclose, hissued, hkeeps⟩,
      fun ⟨hflag, hconsumer, htrace, hreceive, hclose, hissued, hkeeps⟩ =>
      ⟨hflag, hconsumer, htrace, hreceive, hclose, hissued, hkeeps⟩⟩

theorem Spares.asked {k : Nat} {ticket? : Option Nat} {s t : Scene} (h : Spares k ticket? s t)
    (hasked : Asked s) : Asked t := by
  rwa [Asked, h.flag]

theorem Spares.seats {k : Nat} {ticket? : Option Nat} {s t : Scene} (h : Spares k ticket? s t)
    (hseats : s.Seats k ticket?) : t.Seats k ticket? where
  issued := h.issued
  places ticket hticket := (hseats.places ticket hticket).of_keeps (h.keeps ticket hticket)
    (h.consumer ▸ id) fun _ => h.consumer.trans

namespace Loop

variable {settings : LoopSettings} {now k : Nat} {loop : Loop} {s : Scene} {out : Loop × Scene}

theorem flag_stop (fatal : Option ChannelError) :
    (loop.stop settings now fatal s).2.flag = s.flag :=
  (shutdown settings.consumer settings.grace).flag_advance now s

theorem flag_release {receive : Receive} :
    (loop.release settings now receive s).2.flag = s.flag :=
  (closeWithin "consumer" settings.grace
    (.channel (.closeConsumer settings.consumer))).flag_advance now s

theorem flag_take {outcome : Except ChannelError (Option Delivery)} :
    (loop.take settings now outcome s).2.flag = s.flag := by
  match outcome with
  | .ok (some d) => exact (handle s.service.queue.mode settings.consumer d).flag_advance now s
  | .ok none | .error .notConnected | .error .closed => exact flag_stop _
  | .error (.database _) | .error (.config _ _) => rfl

/-- A routine that was held up goes on. -/
theorem step?_handling {work : Active (Except HandleError Handled)}
    {resumed : Active (Except HandleError Handled) × Scene} {seen : Nat}
    (h : work.resume? now s = some resumed) :
    step? settings now ⟨.handling work, seen⟩ s =
      some (⟨.handling resumed.1, seen⟩, resumed.2) := by
  cases work with
  | done a => cases h
  | held c failure due cut next => simp only [step?, h, Option.map_some]

theorem step?_stopping {fatal : Option ChannelError} {work : Active (Except ShutdownError Unit)}
    {resumed : Active (Except ShutdownError Unit) × Scene} {seen : Nat}
    (h : work.resume? now s = some resumed) :
    step? settings now ⟨.stopping fatal work, seen⟩ s =
      some (⟨.stopping fatal resumed.1, seen⟩, resumed.2) := by
  cases work with
  | done a => cases h
  | held c failure due cut next => simp only [step?, h, Option.map_some]

/-- No step of the loop changes the flag. -/
theorem flag_step? (h : loop.step? settings now s = some out) : out.2.flag = s.flag := by
  obtain ⟨stage, seen⟩ := loop
  cases stage with
  | choosing =>
    simp only [step?] at h
    split at h
    · cases h
      exact flag_stop none
    · cases h
      exact s.flag_startReceive now settings.consumer
  | receiving receive =>
    cases receive with
    | done outcome =>
      cases h
      exact flag_take
    | held | waiting =>
      simp only [step?] at h
      split at h
      · next hpoll =>
        cases h
        exact Scene.flag_poll? hpoll
      · split at h
        · cases h
          exact flag_release
        · cases h
  | releasing work receive =>
    cases work with
    | done a =>
      cases h
      rfl
    | held =>
      obtain ⟨resumed, hresume, rfl⟩ := Option.map_eq_some_iff.mp h
      exact Active.flag_resume? hresume
  | collecting receive =>
    cases receive with
    | done outcome =>
      cases h
      exact flag_take
    | held | waiting =>
      obtain ⟨polled, hpoll, rfl⟩ := Option.map_eq_some_iff.mp h
      exact Scene.flag_poll? hpoll
  | handling work =>
    cases work with
    | done a =>
      cases h
      rfl
    | held =>
      obtain ⟨resumed, hresume, rfl⟩ := Option.map_eq_some_iff.mp h
      exact Active.flag_resume? hresume
  | pausing wakeAt =>
    simp only [step?] at h
    split at h
    · cases h
      exact flag_stop none
    split at h
    · cases h
      rfl
    · cases h
  | stopping fatal work =>
    cases work with
    | done a =>
      cases h
      rfl
    | held =>
      obtain ⟨resumed, hresume, rfl⟩ := Option.map_eq_some_iff.mp h
      exact Active.flag_resume? hresume
  | ended result => cases h

/-- What the loop heeds is the flag alone, and it does not change that. -/
theorem flag_heed? (h : loop.heed? settings now s = some out) : out.2.flag = s.flag := by
  obtain ⟨stage, seen⟩ := loop
  cases stage with
  | choosing =>
    simp only [heed?] at h
    split at h
    · cases h
    · cases h
      rfl
  | receiving receive =>
    cases receive with
    | done outcome => cases h
    | held | waiting =>
      obtain ⟨-, hrelease⟩ := Option.ite_none_right_eq_some.mp h
      exact Option.some.inj hrelease ▸ flag_release
  | releasing | collecting | handling | pausing | stopping | ended => cases h

end Loop

/-- The loop of the sender, as one that listens to the flag. -/
def listener (settings : LoopSettings) : Listener Loop where
  step? now loop s := loop.step? settings now s
  race? now loop s := loop.heed? settings now s
  allows loop s t := decide (Spares settings.consumer loop.stage.ticket? s t)
  stopped loop := loop.stage.isStopped
  ended loop := loop.stage.isEnded
  waits loop s := loop.waits s
  flag_step? h := Loop.flag_step? h
  flag_race? h := Loop.flag_heed? h
  flag_allows h := (of_decide_eq_true h).flag
  stopped_of_ended {loop} h := by
    cases hstage : loop.stage <;> simp_all [Stage.isEnded, Stage.isStopped]

/-- Anybody may make any call but to close the consumer of the loop. -/
theorem spares_call {k : Nat} {s : Scene} {ticket? : Option Nat} {c : Call}
    (hc : c ≠ .channel (.closeConsumer k)) (hlink : s.service.consumer k ≠ .disconnected)
    (hfair : Loop.Fair s) (hissued : s.line.Issued) (now : Nat) :
    Spares k ticket? s { (s.finish now c none).2 with trace := s.trace } where
  flag := s.flag_finish now c none
  consumer := by
    cases c with
    | store c => rfl
    | channel c =>
      have hclose : Exchange.Act.channel c ≠ .channel (Handle.consumer k).closing := by
        rintro ⟨⟩
        exact hc rfl
      exact Service.linkOf_after_of_ne_closing (h := .consumer k) hlink hclose
  trace := rfl
  receive := hfair.receive
  closeConsumer := hfair.closeConsumer
  issued := (Scene.stable_issued now).finish s c none trivial hissued
  keeps ticket _ := by
    dsimp only
    rcases s.line_finish_cases now c none with hline | hline
    · exact hline ▸ .refl _ _
    · exact hline ▸ Line.keeps_rouse c _ ticket

/-! ### The place of the loop's receiver -/

section Seats

variable {settings : LoopSettings} {now k : Nat} {loop : Loop} {s : Scene} {receive : Receive}

theorem seats_poll? (hreceive : Pending receive) (h : s.line.Issued) {out : Receive × Scene}
    (hpoll : receive.poll? now k s = some out) : out.2.Seats k out.1.ticket? := by
  cases receive with
  | done outcome => exact hreceive.elim
  | held due failure =>
    obtain rfl : failure = none := hreceive
    obtain ⟨-, hlook⟩ := Option.ite_none_right_eq_some.mp hpoll
    exact Option.some.inj hlook ▸ Scene.seats_look h now k
  | waiting ticket =>
    obtain ⟨-, hlook⟩ := Option.ite_none_right_eq_some.mp hpoll
    exact Option.some.inj hlook ▸ Scene.seats_look (h.answer ticket) now k

/-- Closing the consumer calls its receiver. -/
theorem seats_release (h : s.Seats settings.consumer receive.ticket?) (hfair : Loop.Fair s)
    (hlink : s.service.consumer settings.consumer = .connected) :
    (loop.release settings now receive s).2.Seats settings.consumer receive.ticket? := by
  have hclosed := (leftFrom_consumerClosed s now settings.consumer).consumer_eq
    (by rw [hlink]; decide)
  have hline : (consumerClosed s now settings.consumer).line = s.line.callAll := rfl
  rw [Loop.release, closeConsumer_advance hfair.closeConsumer]
  refine ⟨hline ▸ h.issued.callAll, fun ticket hticket => ?_⟩
  refine (h.places ticket hticket).of_keeps (hline ▸ s.line.keeps_callAll ticket) (fun _ => ?_)
    fun hwaiting => absurd rfl hwaiting
  dsimp only
  rw [hclosed]
  decide

/-- The receiver of the loop has its place after every step. -/
theorem seats_step? (h : s.Seats settings.consumer loop.stage.ticket?)
    (hfits : loop.Fits settings.consumer s) (hfair : Loop.Fair s) {out : Loop × Scene}
    (hstep : loop.step? settings now s = some out) :
    out.2.Seats settings.consumer out.1.stage.ticket? := by
  have hstop (loop : Loop) : (loop.stop settings now none s).2.Seats settings.consumer
      (loop.stop settings now none s).1.stage.ticket? :=
    Scene.seats_none ((shutdown settings.consumer settings.grace).issued_advance h.issued)
  obtain ⟨stage, seen⟩ := loop
  cases stage with
  | choosing =>
    cases hvalue : s.flag.value with
    | true =>
      simp only [Loop.step?, hvalue, if_true] at hstep
      exact Option.some.inj hstep ▸ hstop _
    | false =>
      rw [Loop.step?_choosing hfair.receive hvalue] at hstep
      exact Option.some.inj hstep ▸ Scene.seats_look h.issued now _
  | receiving receive =>
    obtain ⟨hworking, hreceive | ⟨d, rfl⟩⟩ := hfits
    · rw [Loop.step?_receiving hreceive] at hstep
      split at hstep
      · next polled hpolled =>
        exact Option.some.inj hstep ▸ seats_poll? hreceive h.issued hpolled
      · split at hstep
        · exact Option.some.inj hstep ▸ seats_release h hfair hworking.connected
        · cases hstep
    · let handling := handle s.service.queue.mode settings.consumer d
      exact Option.some.inj hstep ▸ Scene.seats_none (handling.issued_advance h.issued)
  | releasing work receive =>
    obtain ⟨-, -, ⟨a, rfl⟩, -⟩ := hfits
    exact Option.some.inj hstep ▸ h
  | collecting receive =>
    obtain ⟨-, -, hreceive | rfl⟩ := hfits
    · rw [Loop.step?_collecting hreceive] at hstep
      obtain ⟨polled, hpolled, rfl⟩ := Option.map_eq_some_iff.mp hstep
      exact seats_poll? hreceive h.issued hpolled
    · exact Option.some.inj hstep ▸ hstop _
  | handling work =>
    cases work with
    | done outcome => exact Option.some.inj hstep ▸ h
    | held =>
      obtain ⟨resumed, hresume, rfl⟩ := Option.map_eq_some_iff.mp hstep
      exact Scene.seats_none (Active.issued_resume? h.issued hresume)
  | pausing wakeAt => exact hfits.elim
  | stopping fatal work =>
    cases work with
    | done closed => exact Option.some.inj hstep ▸ h
    | held =>
      obtain ⟨resumed, hresume, rfl⟩ := Option.map_eq_some_iff.mp hstep
      exact Scene.seats_none (Active.issued_resume? h.issued hresume)
  | ended result => cases hstep

theorem seats_heed? (h : s.Seats settings.consumer loop.stage.ticket?)
    (hfits : loop.Fits settings.consumer s) (hfair : Loop.Fair s) {out : Loop × Scene}
    (hheed : loop.heed? settings now s = some out) :
    loop.Moves settings.consumer s out ∧ out.2.Seats settings.consumer out.1.stage.ticket? := by
  obtain ⟨stage, seen⟩ := loop
  cases stage with
  | choosing =>
    obtain ⟨-, happroach⟩ := Option.ite_none_left_eq_some.mp hheed
    exact Option.some.inj happroach ▸ ⟨Loop.moves_approach rfl hfits, Scene.seats_none h.issued⟩
  | receiving receive =>
    cases receive with
    | done outcome => cases hheed
    | held | waiting =>
      obtain ⟨hnews, hrelease⟩ := Option.ite_none_right_eq_some.mp hheed
      refine Option.some.inj hrelease ▸ ⟨?_, seats_release h hfair hfits.1.connected⟩
      exact Loop.moves_heed rfl (fun _ => Receive.noConfusion) hfits hfair hnews
  | releasing | collecting | handling | pausing | stopping | ended => cases hheed

end Seats

end Sender

end Datebook
