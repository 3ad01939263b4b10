import Datebook.Proofs.Simulation.Listeners
import Datebook.Scheduler.Loop

/-!
# The scheduler's loop and the flag

The loop of the scheduler looks at the flag before it waits for the next tick, and again whenever
there is news of it. So it stops when the flag is set, and when there is nobody left to write it. A
write that does not set the flag is seen, and the loop goes on to wait. Where a tick is due at the
same time as there is news, either may come first, and after the tick the loop looks at the flag.

Nothing that others do matters to the loop but what becomes of the flag.

## Main definitions

* `Datebook.Scheduler.listener`
* `Datebook.Scheduler.Visible`: the invariant.

## Main results

* `Datebook.Scheduler.listener_stopsOn_requested`
-/

namespace Datebook.Scheduler

open Datebook.Flag (Requested)

variable {settings : LoopSettings} {now : Nat} {loop : Loop} {s : Scene} {out : Loop × Scene}

/-- The loop goes on no longer: it shuts down or has ended. -/
def Stage.isStopped : Stage → Bool
  | .waiting _ | .ticking _ _ => false
  | .stopping _ | .ended _ => true

/-- The loop has ended. -/
def Stage.isEnded : Stage → Bool
  | .ended _ => true
  | .waiting _ | .ticking _ _ | .stopping _ => false

/-- The loop waits, and there is no news of the flag. -/
def Loop.waits (loop : Loop) (s : Scene) : Bool :=
  match loop.stage with
  | .waiting _ => !s.flag.value && !s.flag.hasNews loop.seen && !s.flag.dropped
  | .ticking _ _ | .stopping _ | .ended _ => false

/-- A tick that is due begins before the loop looks at the flag. -/
def Loop.tickFirst? (settings : LoopSettings) (now : Nat) (loop : Loop) (s : Scene) :
    Option (Loop × Scene) :=
  match loop.stage with
  | .waiting tickAt =>
    if tickAt ≤ now then some (loop.beginTick settings tickAt now s) else none
  | .ticking _ _ | .stopping _ | .ended _ => none

namespace Loop

theorem flag_stop : (loop.stop settings now s).2.flag = s.flag :=
  (shutdown settings.producer settings.grace).flag_advance now s

theorem flag_beginTick {planned : Nat} : (loop.beginTick settings planned now s).2.flag = s.flag :=
  (tick settings.producer settings.retention settings.today).flag_advance now s

/-- A routine that was held up goes on. -/
theorem step?_ticking {nextAt seen : Nat} {work : Active (Except TickError Report)}
    {resumed : Active (Except TickError Report) × Scene} (h : work.resume? now s = some resumed) :
    step? settings now ⟨.ticking nextAt work, seen⟩ s =
      some (⟨.ticking nextAt resumed.1, seen⟩, resumed.2) := by
  cases work with
  | done a => cases h
  | held c failure due cut next => simp only [step?, h, Option.map_some]

theorem step?_stopping {seen : Nat} {work : Active (Except ShutdownError Unit)}
    {resumed : Active (Except ShutdownError Unit) × Scene}
    (h : work.resume? now s = some resumed) :
    step? settings now ⟨.stopping work, seen⟩ s =
      some (⟨.stopping resumed.1, seen⟩, resumed.2) := by
  cases work with
  | done a => cases h
  | held c failure due cut next => simp only [step?, h, Option.map_some]

/-- No step of the loop changes the flag. The loop goes on as before, or stops on a request that can
be seen. -/
theorem step?_spec (h : loop.step? settings now s = some out) :
    out.2.flag = s.flag ∧ (out.1.stage.isStopped = loop.stage.isStopped ∨
      out.1.stage.isStopped = true ∧ s.flag.asksToStop = true) := by
  obtain ⟨stage, seen⟩ := loop
  cases stage with
  | ended result => cases h
  | ticking nextAt work =>
    cases work with
    | done a =>
      cases h
      exact ⟨rfl, Or.inl rfl⟩
    | held c failure due cut next =>
      obtain ⟨⟨work', s'⟩, hresume, rfl⟩ := Option.map_eq_some_iff.mp h
      exact ⟨Active.flag_resume? hresume, Or.inl rfl⟩
  | stopping work =>
    cases work with
    | done a =>
      cases h
      exact ⟨rfl, Or.inl rfl⟩
    | held c failure due cut next =>
      obtain ⟨⟨work', s'⟩, hresume, rfl⟩ := Option.map_eq_some_iff.mp h
      exact ⟨Active.flag_resume? hresume, Or.inl rfl⟩
  | waiting tickAt =>
    simp only [step?] at h
    split at h
    · next hvalue =>
      cases h
      exact ⟨flag_stop, Or.inr ⟨rfl, by rw [Flag.asksToStop, hvalue, Bool.true_or]⟩⟩
    split at h
    · cases h
      exact ⟨rfl, Or.inl rfl⟩
    split at h
    · next hdropped =>
      cases h
      exact ⟨flag_stop, Or.inr ⟨rfl, by rw [Flag.asksToStop, hdropped, Bool.or_true]⟩⟩
    split at h
    · cases h
      exact ⟨flag_beginTick, Or.inl rfl⟩
    · cases h

theorem tickFirst?_spec (h : loop.tickFirst? settings now s = some out) :
    out.2.flag = s.flag ∧ out.1.stage.isStopped = loop.stage.isStopped := by
  obtain ⟨stage, seen⟩ := loop
  cases stage with
  | ended | ticking | stopping => cases h
  | waiting tickAt =>
    simp only [tickFirst?] at h
    split at h
    · cases h
      exact ⟨flag_beginTick, rfl⟩
    · cases h

end Loop

/-- The loop of the scheduler, as one that listens to the flag. -/
def listener (settings : LoopSettings) : Listener Loop where
  step? now loop s := loop.step? settings now s
  race? now loop s := loop.tickFirst? settings now s
  allows _ s t := t.flag = s.flag
  stopped loop := loop.stage.isStopped
  ended loop := loop.stage.isEnded
  waits loop s := loop.waits s
  flag_step? h := (Loop.step?_spec h).1
  flag_race? h := (Loop.tickFirst?_spec h).1
  flag_allows h := of_decide_eq_true h
  stopped_of_ended {loop} h := by
    cases hstage : loop.stage <;> simp_all [Stage.isEnded, Stage.isStopped]

/-- The flag is as its history says. The loop has stopped only on a request, and while it has not, a
request can be seen. -/
structure Visible (initial : Bool) (x : Vigil Loop) : Prop where
  flag : x.scene.flag = ({ value := initial } : Flag).after x.history
  requested : x.loop.stage.isStopped = true → Requested initial x.history
  asks : x.loop.stage.isStopped = false → Requested initial x.history →
    x.scene.flag.asksToStop = true

namespace Visible

variable {initial : Bool} {x : Vigil Loop}

theorem requested_of_asksToStop (h : Visible initial x) (hasks : x.scene.flag.asksToStop = true) :
    Requested initial x.history :=
  Flag.requested_of_asksToStop (h.flag ▸ hasks)

/-- A loop that waits has not been asked to stop. -/
theorem not_requested (h : Visible initial x) (hwaits : x.loop.waits x.scene = true) :
    ¬ Requested initial x.history := by
  intro hrequested
  rw [Loop.waits] at hwaits
  split at hwaits
  · next tickAt hstage =>
    have hasks := h.asks (by rw [hstage]; rfl) hrequested
    rw [Flag.asksToStop] at hasks
    simp_all
  all_goals cases hwaits

/-- A move that leaves the flag alone stops the loop only on a request that can be seen. -/
theorem moved (h : Visible initial x) {out : Loop × Scene} (hflag : out.2.flag = x.scene.flag)
    (hstage : out.1.stage.isStopped = x.loop.stage.isStopped ∨
      out.1.stage.isStopped = true ∧ x.scene.flag.asksToStop = true) :
    Visible initial (x.moved (some out)) where
  flag := hflag.trans h.flag
  requested hstopped := by
    rcases hstage with hsame | ⟨-, hasks⟩
    · exact h.requested (hsame ▸ hstopped)
    · exact h.requested_of_asksToStop hasks
  asks hgoes hrequested := by
    rcases hstage with hsame | ⟨hstopped, -⟩
    · exact (congrArg Flag.asksToStop hflag).trans (h.asks (hsame ▸ hgoes) hrequested)
    · exact absurd hstopped (Bool.eq_false_iff.mp hgoes)

theorem after (h : Visible initial x) (act : Vigil.Act) :
    Visible initial (x.after (listener settings) act) := by
  cases act with
  | wait millis => exact ⟨h.flag, h.requested, h.asks⟩
  | step =>
    rw [Vigil.after]
    cases hstep : (listener settings).step? x.now x.loop x.scene with
    | none => exact h
    | some out =>
      obtain ⟨hflag, hstage⟩ := Loop.step?_spec hstep
      exact h.moved hflag hstage
  | race =>
    rw [Vigil.after]
    cases hrace : (listener settings).race? x.now x.loop x.scene with
    | none => exact h
    | some out =>
      obtain ⟨hflag, hstage⟩ := Loop.tickFirst?_spec hrace
      exact h.moved hflag (Or.inl hstage)
  | others scene =>
    rw [Vigil.after]
    split
    · next hallows =>
      have hflag : scene.flag = x.scene.flag := (listener settings).flag_allows hallows
      exact ⟨hflag.trans h.flag, h.requested, fun hgoes hrequested =>
        (congrArg Flag.asksToStop hflag).trans (h.asks hgoes hrequested)⟩
    · exact h
  | flag change =>
    have hflag := Vigil.flag_after (l := listener settings) h.flag (.flag change)
    rw [Vigil.after] at hflag ⊢
    split
    · next hobserved =>
      rw [if_pos hobserved] at hflag
      refine ⟨hflag, fun hstopped => ?_, fun hgoes hrequested => ?_⟩
      · exact Flag.requested_concat.mpr (Or.inl (h.requested hstopped))
      · -- What came before was observed, so that this is the request.
        rcases Flag.requested_concat_iff.mp hrequested with hbefore | hasks
        · rcases hobserved with hstopped | hwaits
          · exact absurd hstopped (Bool.eq_false_iff.mp hgoes)
          · exact absurd hbefore (h.not_requested hwaits)
        · rwa [hflag]
    · exact h

end Visible

/-! ### Loops that are left to themselves -/

section Comes

variable (settings : LoopSettings) (now : Nat) (s : Scene) (history : List Flag.Change)

/-- A loop that shuts down comes to its end. -/
theorem exists_comes_of_stopping (work : Active (Except ShutdownError Unit)) (seen : Nat) :
    ∃ y, Vigil.Comes (listener settings) ⟨now, s, ⟨.stopping work, seen⟩, history⟩ y ∧
      y.loop.stage.isEnded = true := by
  obtain ⟨last, a, t, -, hcomes⟩ := Vigil.exists_comes_of_work (l := listener settings)
    (fun work => ⟨.stopping work, seen⟩) (fun a => ⟨.ended (a.mapError .shutdown), seen⟩) history
    Loop.step?_stopping (fun _ _ _ => rfl) now work s
  exact ⟨_, hcomes, rfl⟩

/-- A loop that sees a request shuts down and comes to its end. -/
theorem exists_comes_of_stop {loop : Loop}
    (hstep : loop.step? settings now s = some (loop.stop settings now s)) :
    ∃ y, Vigil.Comes (listener settings) ⟨now, s, loop, history⟩ y ∧
      y.loop.stage.isEnded = true := by
  let out := (shutdown settings.producer settings.grace).advance now s
  have hmove := Vigil.comes_step (l := listener settings) ⟨now, s, loop, history⟩ hstep
  obtain ⟨y, hy, hend⟩ := exists_comes_of_stopping settings now out.2 history out.1 loop.seen
  exact ⟨y, hmove.trans hy, hend⟩

/-- A loop that may wait comes to its end if there is a request that can be seen, and waits if there
is none. -/
theorem exists_comes_of_waiting (tickAt seen : Nat) :
    ∃ y, Vigil.Comes (listener settings) ⟨now, s, ⟨.waiting tickAt, seen⟩, history⟩ y ∧
      y.Rests (listener settings) := by
  cases hvalue : s.flag.value with
  | true =>
    have hstep : Loop.step? settings now ⟨.waiting tickAt, seen⟩ s =
        some (Loop.stop settings now ⟨.waiting tickAt, seen⟩ s) := by
      simp only [Loop.step?, hvalue, if_true]
    obtain ⟨y, hy, hend⟩ := exists_comes_of_stop settings now s history hstep
    exact ⟨y, hy, Or.inl hend⟩
  | false =>
    -- News that is no request is seen, and then there is no more of it.
    have hseen : ∃ seen', s.flag.hasNews seen' = false ∧
        Vigil.Comes (listener settings) ⟨now, s, ⟨.waiting tickAt, seen⟩, history⟩
          ⟨now, s, ⟨.waiting tickAt, seen'⟩, history⟩ := by
      cases hnews : s.flag.hasNews seen with
      | false => exact ⟨seen, hnews, .refl _⟩
      | true =>
        have hstep : Loop.step? settings now ⟨.waiting tickAt, seen⟩ s =
            some (⟨.waiting tickAt, s.flag.writes⟩, s) := by
          simp [Loop.step?, hvalue, hnews]
        have hcomes := Vigil.comes_step (l := listener settings)
          ⟨now, s, ⟨.waiting tickAt, seen⟩, history⟩ hstep
        exact ⟨s.flag.writes, bne_self_eq_false _, hcomes⟩
    obtain ⟨seen', hnews, hcomes⟩ := hseen
    cases hdropped : s.flag.dropped with
    | true =>
      have hstep : Loop.step? settings now ⟨.waiting tickAt, seen'⟩ s =
          some (Loop.stop settings now ⟨.waiting tickAt, seen'⟩ s) := by
        simp [Loop.step?, hvalue, hnews, hdropped]
      obtain ⟨y, hy, hend⟩ := exists_comes_of_stop settings now s history hstep
      exact ⟨y, hcomes.trans hy, Or.inl hend⟩
    | false =>
      refine ⟨_, hcomes, Or.inr ⟨?_, rfl⟩⟩
      simp [listener, Loop.waits, hvalue, hnews, hdropped]

/-- A loop that is left to itself comes to its end or waits. -/
theorem exists_comes (x : Vigil Loop) :
    ∃ y, x.Comes (listener settings) y ∧ y.Rests (listener settings) := by
  obtain ⟨now, s, ⟨stage, seen⟩, history⟩ := x
  cases stage with
  | waiting tickAt => exact exists_comes_of_waiting settings now s history tickAt seen
  | ticking nextAt work =>
    obtain ⟨last, a, t, -, hcomes⟩ := Vigil.exists_comes_of_work (l := listener settings)
      (fun work => ⟨.ticking nextAt work, seen⟩) (fun _ => ⟨.waiting nextAt, seen⟩) history
      Loop.step?_ticking (fun _ _ _ => rfl) now work s
    obtain ⟨y, hy, hend⟩ := exists_comes_of_waiting settings last t history nextAt seen
    exact ⟨y, hcomes.trans hy, hend⟩
  | stopping work =>
    obtain ⟨y, hy, hend⟩ := exists_comes_of_stopping settings now s history work seen
    exact ⟨y, hy, Or.inl hend⟩
  | ended result => exact ⟨_, .refl _, Or.inl rfl⟩

end Comes

/-- A loop of the scheduler that starts, with a flag that nobody has written yet. -/
def watching (settings : LoopSettings) (now : Nat) (service : Service) (initial : Bool) :
    Vigil Loop where
  now
  scene := { service, flag := { value := initial } }
  loop := .start settings now

/-- The loop of the scheduler stops exactly when it is asked to. -/
theorem listener_stopsOn_requested (settings : LoopSettings) (hperiod : settings.period ≠ 0)
    (initial : Bool) (now : Nat) (service : Service) :
    (listener settings).StopsOn (watching settings now service initial) (Requested initial) := by
  have hgoes : (Loop.start settings now).stage.isStopped = false := by
    rw [Loop.start, if_neg hperiod]
    rfl
  have hstart : Visible initial (watching settings now service initial) :=
    { flag := rfl
      requested := fun hstopped => absurd hstopped (Bool.eq_false_iff.mp hgoes)
      asks := by
        rintro - (rfl | hwrite | hdrop)
        · rfl
        · cases hwrite
        · cases hdrop }
  exact Listener.stopsOn_of_invariant (P := Visible initial) hstart (fun x act h => h.after act)
    (fun x h => h.requested) (fun x h hwaits _ => h.not_requested hwaits)
    fun x _ => exists_comes settings x

end Datebook.Scheduler
