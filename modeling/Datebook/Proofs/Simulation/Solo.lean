import Datebook.Simulation.Background

/-!
# A loop of the scheduler alone in the background

Where nothing but a loop of the scheduler goes on in the background, the background does what the
loop does: at any time the loop takes its steps until it waits, and time passes to the next moment
at which it has to be seen to. So a course that says how the loop stands at every time, once it
waits, is kept while time passes, if it is kept from one such moment to the next.

## Main definitions

* `Datebook.Background.solo`: a background with a loop alone.
* `Datebook.Scheduler.Loop.Settles`: the steps that a loop takes at a time until it waits.
* `Datebook.Scheduler.Loop.IsCourse`: how a loop stands whenever it waits.

## Main results

* `Datebook.Background.settle_solo`, `Datebook.Background.exists_elapse_solo_eq`
-/

namespace Datebook

namespace Scheduler.Loop

variable {settings : LoopSettings} {now : Nat}

/-- The loop takes so many steps at a time, and then it waits. -/
inductive Settles (settings : LoopSettings) (now : Nat) :
    Nat → Loop × Scene → Loop × Scene → Prop
  | rest {x : Loop × Scene} (h : x.1.step? settings now x.2 = none) : Settles settings now 0 x x
  | step {n : Nat} {x y z : Loop × Scene} (h : x.1.step? settings now x.2 = some y)
      (hrest : Settles settings now n y z) : Settles settings now (n + 1) x z

/-- The most steps at one time for which the background has room with a loop alone. -/
def mostSteps : Nat := 80

/-- The loop comes to such a state in the steps that it takes at a time. -/
def Reaches (settings : LoopSettings) (now : Nat) (P : Loop × Scene → Prop) (x : Loop × Scene) :
    Prop :=
  ∃ n y, n ≤ mostSteps ∧ Settles settings now n x y ∧ P y

/-- How a loop stands at every time, once it waits: it takes no step, the same is true at any later
time before it has to be seen to, and when it has to be it comes to stand in the same way. -/
structure IsCourse (settings : LoopSettings) (P : Nat → Loop × Scene → Prop) : Prop where
  rests : ∀ {now x}, P now x → x.1.step? settings now x.2 = none
  waits : ∀ {now later x}, P now x → now ≤ later →
    (∀ wake, x.1.wake? = some wake → now < wake → later < wake) → P later x
  goesOn : ∀ {now x wake}, P now x → x.1.wake? = some wake → now < wake →
    Reaches settings wake (P wake) x

/-- Who stands as the course says reaches that in no step. -/
theorem IsCourse.reaches {P : Nat → Loop × Scene → Prop} (h : IsCourse settings P)
    {x : Loop × Scene} (hx : P now x) : Reaches settings now (P now) x :=
  ⟨0, x, Nat.zero_le _, .rest (h.rests hx), hx⟩

end Scheduler.Loop

namespace Background

open Scheduler (Loop)
open Scheduler.Loop (Settles Reaches IsCourse mostSteps)

variable {settings : TaskSettings} {now target : Nat} {x y : Loop × Scene}

/-- A background in which a loop of the scheduler goes on alone. -/
def solo (x : Loop × Scene) : Background where
  scene := x.2
  tasks := [.scheduler x.1]

/-! ### Steps at one time -/

theorem stepAt?_solo_zero (settings : TaskSettings) (now : Nat) (x : Loop × Scene) :
    (solo x).stepAt? settings now 0 = (x.1.step? settings.scheduler now x.2).map solo := by
  cases hstep : x.1.step? settings.scheduler now x.2 with
  | none => simp [solo, stepAt?, Task.step?, hstep]
  | some y => simp [solo, stepAt?, Task.step?, hstep]

theorem stepAt?_solo_one (settings : TaskSettings) (now : Nat) (x : Loop × Scene) :
    (solo x).stepAt? settings now 1 = none :=
  rfl

/-- The loop is the next to go on if there is a step for it to take; nobody waits in line. -/
theorem next?_solo (settings : TaskSettings) (now : Nat) (x : Loop × Scene) :
    (solo x).next? settings now =
      if (x.1.step? settings.scheduler now x.2).isSome then some 0 else none := by
  have hcalled : (x.2.line.called.findSome? fun ticket =>
      (solo x).tasks.findIdx? (·.holds ticket)) = none := by
    rw [List.findSome?_eq_none_iff]
    intro ticket _
    rfl
  have hscene : (solo x).scene = x.2 := rfl
  rw [next?, hscene, hcalled, Option.none_or]
  cases hstep : x.1.step? settings.scheduler now x.2 with
  | none => simp [solo, Task.step?, hstep]
  | some y => simp [solo, Task.step?, hstep]

/-- With room for its steps the loop goes on until it waits, whoever comes first. -/
theorem settleFrom_solo {n : Nat} (h : Settles settings.scheduler now n x y) {steps : Nat}
    (hsteps : n ≤ steps) {current : Nat} (hcurrent : current = 0 ∨ current = 1) :
    settleFrom settings now steps current (solo x) = solo y := by
  induction h generalizing steps current with
  | @rest x hrest =>
    cases steps with
    | zero => rfl
    | succ steps =>
      have hnone : (solo x).stepAt? settings now current = none := by
        rcases hcurrent with rfl | rfl
        · rw [stepAt?_solo_zero, hrest, Option.map_none]
        · rfl
      have hnext : (solo x).next? settings now = none := by
        rw [next?_solo, hrest]
        rfl
      simp only [settleFrom, hnone, hnext]
  | @step n x y z hstep hrest ih =>
    obtain ⟨steps, rfl⟩ := Nat.exists_eq_add_of_lt hsteps
    have hfirst : (solo x).stepAt? settings now 0 = some (solo y) := by
      rw [stepAt?_solo_zero, hstep, Option.map_some]
    have hroom : n ≤ n + steps := Nat.le_add_right _ _
    rcases hcurrent with rfl | rfl
    · simp only [settleFrom, hfirst]
      exact ih hroom (Or.inl rfl)
    · have hnext : (solo x).next? settings now = some 0 := by
        rw [next?_solo, hstep]
        rfl
      simp only [settleFrom, stepAt?_solo_one, hnext, hfirst]
      exact ih hroom (Or.inl rfl)

/-- A loop alone goes on until it waits. -/
theorem settle_solo {n : Nat} (h : Settles settings.scheduler now n x y) (hn : n ≤ mostSteps) :
    (solo x).settle settings now = solo y := by
  have hroom : mostSteps ≤ (solo x).enoughSteps := by
    have htasks : (solo x).tasks.length = 1 := rfl
    rw [enoughSteps, htasks, mostSteps]
    omega
  exact settleFrom_solo h (Nat.le_trans hn hroom) (Or.inr rfl)

theorem exists_settle_solo_eq {P : Loop × Scene → Prop} (h : Reaches settings.scheduler now P x) :
    ∃ y, (solo x).settle settings now = solo y ∧ P y := by
  obtain ⟨n, y, hn, hsettles, hy⟩ := h
  exact ⟨y, settle_solo hsettles hn, hy⟩

/-! ### Time -/

theorem nextWake?_solo (now : Nat) (x : Loop × Scene) :
    (solo x).nextWake? now = x.1.wake?.filter (now < ·) := by
  have htasks : (solo x).tasks.filterMap Task.wake? = x.1.wake?.toList := by
    cases hwake : x.1.wake? with
    | none => simp [solo, Task.wake?, hwake]
    | some wake => simp [solo, Task.wake?, hwake]
  rw [nextWake?, htasks]
  cases x.1.wake? with
  | none => rfl
  | some wake =>
    rw [Option.filter_some]
    by_cases h : now < wake
    · simp [h]
    · simp [h]

/-- While time passes, a loop that stands as a course says comes to stand as it says at the end. -/
theorem exists_elapse_solo_eq {P : Nat → Loop × Scene → Prop}
    (hcourse : IsCourse settings.scheduler P) (hx : Reaches settings.scheduler now (P now) x)
    (hle : now ≤ target) : ∃ y, (solo x).elapse settings now target = solo y ∧ P target y := by
  obtain ⟨n, y, hn, hsettles, hy⟩ := hx
  -- The time that is left gets shorter from one moment at which the loop is seen to to the next.
  induction hleft : target - now using Nat.strongRecOn generalizing now x n y with
  | _ left ih =>
    subst hleft
    rw [elapse, settle_solo hsettles hn, nextWake?_solo]
    cases hwake : y.1.wake? with
    | none =>
      exact ⟨y, rfl, hcourse.waits hy hle fun wake h => absurd (hwake.symm.trans h) nofun⟩
    | some wake =>
      rw [Option.filter_some]
      by_cases hsoon : now < wake ∧ wake ≤ target
      · have hahead : decide (now < wake) = true := decide_eq_true hsoon.1
        obtain ⟨m, z, hm, hagain, hz⟩ := hcourse.goesOn hy hwake hsoon.1
        simp only [if_pos hahead, if_pos hsoon]
        exact ih (target - wake) (by omega) hsoon.2 m z hm hagain hz rfl
      · have hend : P target y := by
          refine hcourse.waits hy hle fun wake' h hlt => ?_
          obtain rfl := Option.some.inj (hwake.symm.trans h)
          omega
        refine ⟨y, ?_, hend⟩
        by_cases hlt : now < wake
        · simp only [if_pos (decide_eq_true hlt), if_neg hsoon]
        · simp only [if_neg (mt of_decide_eq_true hlt)]

end Background

end Datebook
