import Datebook.Proofs.Sender.Listener

/-!
# The sender's loop and the flag

The loop of the sender looks at the flag before it receives. While it waits for a message any news
of the flag makes it close its consumer, and then it goes on only to its end. So it stops when the
flag is set at the start, and when the flag is written or its writing side dropped, whatever is
written.

A loop that is left to itself waits at last or comes to its end: it takes deliveries from a queue
that nobody fills, and once its consumer is closed its receiver is called and receives nothing.

## Main definitions

* `Datebook.Sender.Alert`: the invariant of a loop whose flag was not set at the start.
* `Datebook.Sender.Refused`: the invariant of a loop whose flag was.
* `Datebook.Sender.Loop.distance`: how far a loop is from waiting or from its end.

## Main results

* `Datebook.Sender.Alert.after`, `Datebook.Sender.Alert.exists_comes`
* `Datebook.Sender.listener_stopsOn_disturbed`
-/

namespace Datebook.Sender

open Datebook.Flag (Disturbed)

/-! ### A loop whose flag was not set -/

/-- The loop stands as it should, its receiver has its place, and the flag is as its history says.
-/
structure Alert (settings : LoopSettings) (x : Vigil Loop) : Prop where
  fits : x.loop.Fits settings.consumer x.scene
  fair : Loop.Fair x.scene
  seats : x.scene.Seats settings.consumer x.loop.stage.ticket?
  flag : x.scene.flag = ({ value := false } : Flag).after x.history

/-- A loop that has stopped was asked to. -/
theorem Loop.Fits.asked {k : Nat} {loop : Loop} {s : Scene} (h : loop.Fits k s)
    (hstopped : loop.stage.isStopped = true) : Asked s := by
  obtain ⟨stage, seen⟩ := loop
  cases stage with
  | choosing | receiving | handling | pausing => cases hstopped
  | releasing | collecting | stopping | ended => exact h.1.asked

/-- A loop that waits was not asked to stop. -/
theorem Loop.Fits.not_asked {k : Nat} {loop : Loop} {s : Scene} (h : loop.Fits k s)
    (hwaits : loop.waits s = true) : ¬ Asked s := by
  obtain ⟨stage, seen⟩ := loop
  have hquiet (hworking : Loop.Working k seen s) (hnews : !Loop.hasNews ⟨stage, seen⟩ s) :
      ¬ Asked s := by
    rw [hworking.seen_eq] at hnews
    simpa [Loop.hasNews, Flag.hasNews, Asked] using hnews
  cases stage with
  | receiving receive =>
    cases receive with
    | done outcome => cases hwaits
    | held | waiting => exact hquiet h.1 hwaits
  | choosing | releasing | collecting | handling | pausing | stopping | ended => cases hwaits

namespace Alert

variable {settings : LoopSettings} {x : Vigil Loop}

theorem asked_iff (h : Alert settings x) : Asked x.scene ↔ Disturbed false x.history := by
  rw [Flag.disturbed_iff, ← h.flag]
  simp [Asked]

theorem moved (h : Alert settings x) {out : Loop × Scene}
    (hmoves : x.loop.Moves settings.consumer x.scene out)
    (hseats : out.2.Seats settings.consumer out.1.stage.ticket?) :
    Alert settings (x.moved (some out)) where
  fits := hmoves.fits
  fair :=
    { receive := fun y hy => h.fair.receive y (hmoves.faults.mem hy)
      closeConsumer := fun y hy => h.fair.closeConsumer y (hmoves.faults.mem hy)
      written := by
        rw [Vigil.moved, hmoves.flag]
        exact h.fair.written }
  seats := hseats
  flag := hmoves.flag.trans h.flag

/-- The loop stays alert whatever happens next. -/
theorem after (h : Alert settings x) (act : Vigil.Act) :
    Alert settings (x.after (listener settings) act) := by
  cases act with
  | wait millis => exact ⟨h.fits, h.fair, h.seats, h.flag⟩
  | step =>
    rw [Vigil.after]
    cases hstep : (listener settings).step? x.now x.loop x.scene with
    | none => exact h
    | some out =>
      exact h.moved (Loop.moves_step? h.fits h.fair hstep)
        (seats_step? h.seats h.fits h.fair hstep)
  | race =>
    rw [Vigil.after]
    cases hheed : (listener settings).race? x.now x.loop x.scene with
    | none => exact h
    | some out =>
      obtain ⟨hmoves, hseats⟩ := seats_heed? h.seats h.fits h.fair hheed
      exact h.moved hmoves hseats
  | others scene =>
    rw [Vigil.after]
    split
    · next hallows =>
      have hspares := of_decide_eq_true hallows
      exact
        { fits := h.fits.of_others hspares.consumer hspares.asked hspares.trace
          fair := ⟨hspares.receive, hspares.closeConsumer, hspares.flag ▸ h.fair.written⟩
          seats := hspares.seats h.seats
          flag := hspares.flag.trans h.flag }
    · exact h
  | flag change =>
    have hflag := Vigil.flag_after (l := listener settings) h.flag (.flag change)
    rw [Vigil.after] at hflag ⊢
    split
    · next hobserved =>
      rw [if_pos hobserved] at hflag
      exact
        { fits := h.fits.of_others rfl (asked_apply change) rfl
          fair := ⟨h.fair.receive, h.fair.closeConsumer, written_apply change h.fair.written⟩
          seats := ⟨h.seats.issued, h.seats.places⟩
          flag := hflag }
    · exact h

end Alert

/-! ### Loops that are left to themselves -/

namespace Loop

/-- How far the stage of a loop is from waiting or from the end, if nothing is received. -/
def rank (loop : Loop) (s : Scene) : Nat :=
  match loop.stage with
  | .stopping _ _ | .ended _ | .pausing _ => 0
  | .collecting (.done _) => 1
  | .collecting _ => 2
  | .releasing _ _ => 3
  | .receiving (.waiting ticket) => if s.line.hasCalled ticket then 5 else 4
  | .receiving (.held _ _) => 6
  | .choosing => 7
  | .handling _ => 8
  | .receiving (.done _) => 9

/-- How far the loop is from waiting or from its end, if nothing is brought to the queue. A message
that is ready counts for more than all stages, so that it may be received and handled. -/
def distance (loop : Loop) (s : Scene) : Nat :=
  10 * s.service.queue.ready.length + loop.rank s

variable {settings : LoopSettings} {k : Nat} {loop : Loop} {s : Scene}

theorem rank_le (loop : Loop) (s : Scene) : loop.rank s ≤ 9 := by
  rw [rank]
  split <;> first | omega | (split <;> omega)

/-- A move on which a delivery is received takes it from the queue. -/
theorem distance_lt_of_moves {out : Loop × Scene} (hmoves : loop.Moves k s out)
    (hrank : out.1.stage.received? = none → out.1.rank out.2 < loop.rank s) :
    out.1.distance out.2 < loop.distance s := by
  obtain ⟨taken, hready, hpassed⟩ := hmoves.taken
  have hlength := congrArg List.length hready
  rw [List.length_append] at hlength
  rw [distance, distance]
  cases hreceived : out.1.stage.received? with
  | none =>
    have hlt := hrank hreceived
    omega
  | some d =>
    have htaken : taken ≠ [] := by
      rintro rfl
      rw [hreceived] at hpassed
      cases hpassed
    have hpos := List.length_pos_iff.mpr htaken
    have hle := rank_le out.1 out.2
    omega

/-- A receiver that has looked in vain was not called yet. -/
theorem rank_look (hconnected : s.service.consumer k = .connected) (hissued : s.line.Issued)
    (now seen : Nat)
    (hnone : (Stage.receiving (s.look now k).1).received? = none) :
    rank ⟨.receiving (s.look now k).1, seen⟩ (s.look now k).2 = 4 := by
  obtain ⟨-, -, -, -, hlook⟩ := Scene.look_of_connected hconnected now
  obtain ⟨-, -, ⟨outcome, -, hdone, -⟩ | ⟨-, hwaiting, hline⟩⟩ := s.look_cases now k
  · rw [hdone] at hlook hnone
    cases htake : s.service.queue.take.1 with
    | none =>
      rw [htake] at hlook
      cases hlook
    | some d =>
      rw [htake] at hlook
      cases hlook
      cases hnone
  · have hcalled : (s.look now k).2.line.hasCalled s.line.nextTicket = false := by
      rw [hline]
      exact Bool.eq_false_iff.mpr fun h => hissued.notMem_called (List.contains_iff_mem.mp h)
    rw [hwaiting, rank]
    simp only [hcalled, Bool.false_eq_true, if_false]

end Loop

section Comes

variable (settings : LoopSettings) (now : Nat) (s : Scene) (history : List Flag.Change)

/-- A loop that shuts down comes to its end. -/
theorem exists_comes_of_stopping (fatal : Option ChannelError)
    (work : Active (Except ShutdownError Unit)) (seen : Nat) :
    ∃ y, Vigil.Comes (listener settings) ⟨now, s, ⟨.stopping fatal work, seen⟩, history⟩ y ∧
      y.Rests (listener settings) := by
  obtain ⟨last, a, t, -, hcomes⟩ := Vigil.exists_comes_of_work (l := listener settings)
    (fun work => ⟨.stopping fatal work, seen⟩) (fun a => ⟨.ended (conclusion fatal a), seen⟩)
    history Loop.step?_stopping (fun _ _ _ => rfl) now work s
  exact ⟨_, hcomes, Or.inl rfl⟩

/-- A loop that begins to shut down comes to its end. -/
theorem exists_comes_of_stop {loop : Loop} (fatal : Option ChannelError)
    (hstep : loop.step? settings now s = some (loop.stop settings now fatal s)) :
    ∃ y, Vigil.Comes (listener settings) ⟨now, s, loop, history⟩ y ∧
      y.Rests (listener settings) := by
  let out := (shutdown settings.consumer settings.grace).advance now s
  have hmove := Vigil.comes_step (l := listener settings) ⟨now, s, loop, history⟩ hstep
  obtain ⟨y, hy, hend⟩ :=
    exists_comes_of_stopping settings now out.2 history fatal out.1 loop.seen
  exact ⟨y, hmove.trans hy, hend⟩

end Comes

namespace Alert

variable {settings : LoopSettings} {x : Vigil Loop}

/-- A loop that is left to itself comes to this, which is closer to waiting or to its end. -/
def Closer (settings : LoopSettings) (x y : Vigil Loop) : Prop :=
  x.Comes (listener settings) y ∧ y.loop.distance y.scene < x.loop.distance x.scene

/-- A step to a stage of a lower rank brings the loop closer, even if it is taken only after a
while. -/
theorem closer_step (h : Alert settings x) (millis : Nat) {out : Loop × Scene}
    (hstep : x.loop.step? settings (x.now + millis) x.scene = some out)
    (hrank : out.1.stage.received? = none → out.1.rank out.2 < x.loop.rank x.scene) :
    ∃ y, Closer settings x y := by
  have hwait := x.comes_wait (l := listener settings) millis
  have hmove := Vigil.comes_step (l := listener settings) { x with now := x.now + millis } hstep
  exact ⟨_, hwait.trans hmove,
    Loop.distance_lt_of_moves (Loop.moves_step? h.fits h.fair hstep) hrank⟩

/-- The receiver of a loop at work is done with a delivery from the queue when it has looked, or
waits in line. -/
theorem closer_look (h : Alert settings x) (line : Line) (hissued : line.Issued)
    (hlink : x.scene.service.consumer settings.consumer = .connected) (millis : Nat)
    (hstep : let out := ({ x.scene with line } : Scene).look (x.now + millis) settings.consumer
      x.loop.step? settings (x.now + millis) x.scene =
        some (⟨.receiving out.1, x.loop.seen⟩, out.2))
    (hrank : 4 < x.loop.rank x.scene) : ∃ y, Closer settings x y := by
  refine h.closer_step millis hstep fun hnone => ?_
  rwa [Loop.rank_look (s := { x.scene with line }) hlink hissued _ _ hnone]

/-- The receiver of a loop that leaves is done when it has looked. -/
theorem closer_look_closed (h : Alert settings x) (line : Line)
    (hlink : x.scene.service.consumer settings.consumer = .closed) (millis : Nat)
    (hstep : let out := ({ x.scene with line } : Scene).look (x.now + millis) settings.consumer
      x.loop.step? settings (x.now + millis) x.scene =
        some (⟨.collecting out.1, x.loop.seen⟩, out.2))
    (hrank : 1 < x.loop.rank x.scene) : ∃ y, Closer settings x y := by
  refine h.closer_step millis hstep fun _ => ?_
  rwa [Scene.look_of_closed (s := { x.scene with line }) hlink]

/-- Handling a delivery comes to its end and takes nothing from the queue. -/
theorem closer_of_handling {now seen : Nat} {s : Scene} {history : List Flag.Change}
    {work : Active (Except HandleError Handled)}
    (h : Alert settings ⟨now, s, ⟨.handling work, seen⟩, history⟩) :
    ∃ y, Closer settings ⟨now, s, ⟨.handling work, seen⟩, history⟩ y := by
  obtain ⟨-, d, hmakes⟩ := h.fits
  obtain ⟨last, a, t, hfinishes, hcomes⟩ := Vigil.exists_comes_of_work (l := listener settings)
    (fun work => ⟨.handling work, seen⟩) (fun _ => ⟨.choosing, seen⟩) history
    Loop.step?_handling (fun _ _ _ => rfl) now work s
  have hhandled : HandledFrom s t :=
    hfinishes.stable hmakes (fun now => stable_handledFrom d now s) (.refl s)
  refine ⟨_, hcomes, ?_⟩
  rw [Loop.distance, Loop.distance, hhandled.ready]
  exact Nat.add_lt_add_left (by decide : 7 < 8) _

section Stages

variable {now seen : Nat} {s : Scene} {history : List Flag.Change} {receive : Receive}

/-- A receiver that is held up, or that was called, looks at the queue after a while. -/
theorem exists_poll?_eq_look (hpending : Pending receive)
    (hcalled : ∀ ticket, receive.ticket? = some ticket → ticket ∈ s.line.called)
    (hissued : s.line.Issued) (now k : Nat) :
    ∃ (millis : Nat) (line : Line), line.Issued ∧
      receive.poll? (now + millis) k s =
        some (({ s with line } : Scene).look (now + millis) k) := by
  cases receive with
  | done outcome => exact hpending.elim
  | held due failure =>
    obtain rfl : failure = none := hpending
    exact ⟨due - now, s.line, hissued, if_pos (by omega)⟩
  | waiting ticket =>
    have hhas : s.line.hasCalled ticket = true := List.contains_iff_mem.mpr (hcalled ticket rfl)
    exact ⟨0, s.line.answer ticket, hissued.answer ticket, if_pos hhas⟩

/-- A loop that receives waits unless there is news of the flag, which it heeds when its receiver
has looked. -/
theorem rests_or_closer_of_pending (hpending : Pending receive)
    (h : Alert settings ⟨now, s, ⟨.receiving receive, seen⟩, history⟩) :
    Vigil.Rests (listener settings) ⟨now, s, ⟨.receiving receive, seen⟩, history⟩ ∨
      ∃ y, Closer settings ⟨now, s, ⟨.receiving receive, seen⟩, history⟩ y := by
  by_cases hcalled : ∀ ticket, receive.ticket? = some ticket → ticket ∈ s.line.called
  · obtain ⟨millis, line, hissued, hpoll⟩ :=
      exists_poll?_eq_look hpending hcalled h.seats.issued now settings.consumer
    -- The receiver is seen to first, and joins the line with a ticket that was not called yet.
    refine Or.inr (h.closer_look line hissued h.fits.1.connected millis ?_ ?_)
    · rw [Loop.step?_receiving hpending, hpoll]
    · cases receive with
      | done outcome => exact hpending.elim
      | held due failure => exact (by decide : 4 < 6)
      | waiting ticket => simp [Loop.rank, Line.hasCalled, hcalled ticket rfl]
  · cases receive with
    | done | held => exact absurd nofun hcalled
    | waiting ticket =>
      have hnot : s.line.hasCalled ticket = false := by
        rw [Line.hasCalled, Bool.eq_false_iff]
        intro hhas
        refine hcalled ?_
        rintro _ ⟨⟩
        exact List.contains_iff_mem.mp hhas
      cases hnews : Loop.hasNews ⟨.receiving (.waiting ticket), seen⟩ s with
      | false => exact Or.inl (Or.inr ⟨by simp [listener, Loop.waits, hnews], rfl⟩)
      | true =>
        have hstep : Loop.step? settings now ⟨.receiving (.waiting ticket), seen⟩ s =
            some (Loop.release settings now (.waiting ticket)
              ⟨.receiving (.waiting ticket), seen⟩ s) := by
          simp [Loop.step?_receiving hpending, Receive.poll?, hnot, hnews]
        refine Or.inr (h.closer_step 0 hstep fun _ => ?_)
        simp [Loop.rank, Loop.release, hnot]

/-- The receiver of a loop that leaves was called, and finds its consumer closed. -/
theorem closer_of_collecting (hpending : Pending receive)
    (h : Alert settings ⟨now, s, ⟨.collecting receive, seen⟩, history⟩) :
    ∃ y, Closer settings ⟨now, s, ⟨.collecting receive, seen⟩, history⟩ y := by
  have hclosed := h.fits.1.closed
  have hcalled : ∀ ticket, receive.ticket? = some ticket → ticket ∈ s.line.called := by
    intro ticket hticket
    rcases h.seats.places ticket hticket with ⟨-, hconnected⟩ | ⟨hcalled, -⟩
    · cases hclosed.symm.trans hconnected
    · exact hcalled
  obtain ⟨millis, line, -, hpoll⟩ :=
    exists_poll?_eq_look hpending hcalled h.seats.issued now settings.consumer
  refine h.closer_look_closed line hclosed millis ?_ ?_
  · rw [Loop.step?_collecting hpending, hpoll]
    rfl
  · cases receive with
    | done outcome => exact hpending.elim
    | held | waiting => exact (by decide : 1 < 2)

end Stages

/-- A loop at rest stays there, and any other comes to rest or closer to it. -/
theorem rests_or_closer (h : Alert settings x) :
    (∃ y, x.Comes (listener settings) y ∧ y.Rests (listener settings)) ∨
      ∃ y, Closer settings x y := by
  obtain ⟨now, s, ⟨stage, seen⟩, history⟩ := x
  cases stage with
  | ended result => exact Or.inl ⟨_, .refl _, Or.inl rfl⟩
  | stopping fatal work =>
    exact Or.inl (exists_comes_of_stopping settings now s history fatal work seen)
  | pausing wakeAt => exact h.fits.elim
  | handling work => exact Or.inr h.closer_of_handling
  | choosing =>
    cases hvalue : s.flag.value with
    | true =>
      refine Or.inl (exists_comes_of_stop settings now s history none ?_)
      simp only [Loop.step?, hvalue, if_true]
    | false =>
      exact Or.inr (h.closer_look s.line h.seats.issued h.fits.connected 0
        (Loop.step?_choosing h.fair.receive hvalue seen) (by decide : 4 < 7))
  | receiving receive =>
    obtain ⟨-, hpending | ⟨d, rfl⟩⟩ := h.fits
    · exact (h.rests_or_closer_of_pending hpending).imp_left fun hrests => ⟨_, .refl _, hrests⟩
    · exact Or.inr (h.closer_step 0 rfl fun _ => (by decide : 8 < 9))
  | releasing work receive =>
    obtain ⟨-, -, ⟨a, rfl⟩, hpending⟩ := h.fits
    have hstep : Loop.step? settings now ⟨.releasing (.done a) receive, seen⟩ s =
        some (⟨.collecting receive, seen⟩, s) := rfl
    refine Or.inr (h.closer_step 0 hstep fun _ => ?_)
    cases receive with
    | done outcome => exact hpending.elim
    | held | waiting => exact (by decide : 2 < 3)
  | collecting receive =>
    obtain ⟨-, -, hpending | rfl⟩ := h.fits
    · exact Or.inr (h.closer_of_collecting hpending)
    · exact Or.inl (exists_comes_of_stop settings now s history none rfl)

/-- A loop that is left to itself comes to its end or waits. -/
theorem exists_comes (h : Alert settings x) :
    ∃ y, x.Comes (listener settings) y ∧ y.Rests (listener settings) := by
  induction hdistance : x.loop.distance x.scene using Nat.strong_induction_on generalizing x with
  | _ distance ih =>
    rcases h.rests_or_closer with hrests | ⟨y, hy, hlt⟩
    · exact hrests
    · have halert : Alert settings y := hy.invariant (fun x act hx => hx.after act) h
      obtain ⟨z, hz, hrests⟩ := ih _ (hdistance ▸ hlt) halert rfl
      exact ⟨z, hy.trans hz, hrests⟩

end Alert

/-! ### A loop whose flag was set at the start -/

/-- The loop is about to see that the flag is set, or has seen it. -/
inductive Refused : Vigil Loop → Prop
  | choosing {now : Nat} {s : Scene} {seen : Nat} {history : List Flag.Change}
      (hvalue : s.flag.value = true) : Refused ⟨now, s, ⟨.choosing, seen⟩, history⟩
  | stopping (now : Nat) (s : Scene) (fatal : Option ChannelError)
      (work : Active (Except ShutdownError Unit)) (seen : Nat) (history : List Flag.Change) :
      Refused ⟨now, s, ⟨.stopping fatal work, seen⟩, history⟩
  | ended (now : Nat) (s : Scene) (result : Except LoopError Unit) (seen : Nat)
      (history : List Flag.Change) : Refused ⟨now, s, ⟨.ended result, seen⟩, history⟩

namespace Refused

variable {settings : LoopSettings} {x : Vigil Loop}

theorem waits_eq_false (h : Refused x) : x.loop.waits x.scene = false := by
  cases h <;> rfl

/-- The step that there is leads to the end. -/
theorem moved (h : Refused x) {out : Loop × Scene}
    (hstep : x.loop.step? settings x.now x.scene = some out) : Refused (x.moved (some out)) := by
  cases h with
  | choosing hvalue =>
    simp only [Loop.step?, hvalue, if_true] at hstep
    exact Option.some.inj hstep ▸ .stopping ..
  | stopping now s fatal work seen history =>
    cases work with
    | done closed => exact Option.some.inj hstep ▸ .ended ..
    | held =>
      obtain ⟨resumed, -, rfl⟩ := Option.map_eq_some_iff.mp hstep
      exact .stopping ..
  | ended => cases hstep

/-- There is nothing to be heeded any more. -/
theorem heed?_eq_none (h : Refused x) : x.loop.heed? settings x.now x.scene = none := by
  cases h with
  | choosing hvalue => exact if_pos hvalue
  | stopping | ended => rfl

/-- What leaves the flag and the loop alone changes nothing. -/
theorem of_flag (h : Refused x) {scene : Scene} (hflag : scene.flag = x.scene.flag) :
    Refused { x with scene } := by
  cases h with
  | choosing hvalue => exact .choosing ((congrArg Flag.value hflag).trans hvalue)
  | stopping => exact .stopping ..
  | ended => exact .ended ..

/-- The loop stays refused whatever happens next. -/
theorem after (h : Refused x) (act : Vigil.Act) :
    Refused (x.after (listener settings) act) := by
  cases act with
  | step =>
    rw [Vigil.after]
    cases hstep : (listener settings).step? x.now x.loop x.scene with
    | none => exact h
    | some out => exact h.moved hstep
  | race =>
    have hnone : (listener settings).race? x.now x.loop x.scene = none := h.heed?_eq_none
    rw [Vigil.after, hnone]
    exact h
  | others scene =>
    rw [Vigil.after]
    split
    · next hallows => exact h.of_flag ((listener settings).flag_allows hallows)
    · exact h
  | flag change =>
    rw [Vigil.after]
    split
    · next hobserved =>
      cases h with
      | choosing => rcases hobserved with hstopped | hwaits <;> contradiction
      | stopping => exact .stopping ..
      | ended => exact .ended ..
    · exact h
  | wait millis =>
    cases h with
    | choosing hvalue => exact .choosing hvalue
    | stopping => exact .stopping ..
    | ended => exact .ended ..

theorem exists_comes (h : Refused x) :
    ∃ y, x.Comes (listener settings) y ∧ y.Rests (listener settings) := by
  cases h with
  | @choosing now s seen history hvalue =>
    refine exists_comes_of_stop settings now s history none ?_
    simp only [Loop.step?, hvalue, if_true]
  | stopping now s fatal work seen history =>
    exact exists_comes_of_stopping settings now s history fatal work seen
  | ended => exact ⟨_, .refl _, Or.inl rfl⟩

end Refused

/-- A loop of the sender that starts, with a flag that nobody has written yet. -/
def watching (now : Nat) (service : Service) (initial : Bool) : Vigil Loop where
  now
  scene := { service, flag := { value := initial } }
  loop := {}

/-- The loop of the sender stops exactly when there is any news of the flag. -/
theorem listener_stopsOn_disturbed (settings : LoopSettings) (initial : Bool) (now : Nat)
    {service : Service} (hopen : service.consumer settings.consumer = .connected) :
    (listener settings).StopsOn (watching now service initial) (Disturbed initial) := by
  cases initial with
  | true =>
    exact Listener.stopsOn_of_invariant (P := Refused) (.choosing rfl) (fun x act h => h.after act)
      (fun _ _ _ => Or.inl rfl)
      (fun x h hwaits _ => absurd hwaits (Bool.eq_false_iff.mp h.waits_eq_false))
      fun x h => h.exists_comes
  | false =>
    have hstart : Alert settings (watching now service false) :=
      { fits := ⟨hopen, rfl, List.forall_mem_nil _⟩
        fair := ⟨List.forall_mem_nil _, List.forall_mem_nil _, fun hset => Bool.noConfusion hset⟩
        seats := Scene.seats_none (List.forall_mem_nil _)
        flag := rfl }
    exact Listener.stopsOn_of_invariant (P := Alert settings) hstart (fun x act h => h.after act)
      (fun x h hstopped => h.asked_iff.mp (h.fits.asked hstopped))
      (fun x h hwaits _ hdisturbed => h.fits.not_asked hwaits (h.asked_iff.mpr hdisturbed))
      fun x h => h.exists_comes

end Datebook.Sender
