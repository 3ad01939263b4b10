import Datebook.Proofs.Scheduler.Closing
import Datebook.Proofs.Scheduler.Vigil
import Datebook.Proofs.Simulation.Solo

/-!
# The timetable of the scheduler

A loop of the scheduler goes on alone, while time passes and, at times of its own, a script writes
the flag or drops its writing side. As long as it is not asked to stop, the loop ticks whenever a
period is over, and nothing that a tick comes to makes a difference to that. When it is asked to
stop, it shuts down: from then on it is settled when it ends, with what, and what it leaves behind.

Only the closing of the producer and of the store may take time; ticks may fail, but are not held
up.

## Main definitions

* `Datebook.Cue`, `Datebook.Background.follow`: a script for the flag, and how it is followed.
* `Datebook.Scheduler.tickTimes`, `Datebook.Scheduler.ticked`
* `Datebook.Scheduler.Ticking`, `Datebook.Scheduler.Leaving`: how the loop stands before and after
  it was asked to stop.

## Main results

* `Datebook.Scheduler.isCourse_ticking`, `Datebook.Scheduler.isCourse_leaving`
* `Datebook.Background.exists_follow_solo_eq`: how the loop stands after a script.
-/

namespace Datebook

/-! ### Scripts -/

/-- A change of the flag, if there is one, so many milliseconds after the cue before. -/
structure Cue where
  after : Nat
  change : Flag.Change
  deriving DecidableEq, Repr

namespace Cue

/-- The time of the last cue of a script that begins now. -/
def lastTime (now : Nat) : List Cue → Nat
  | [] => now
  | cue :: cues => lastTime (now + cue.after) cues

/-- The time at which a script that begins now first asks to stop. -/
def stopTime? (now : Nat) : List Cue → Option Nat
  | [] => none
  | cue :: cues =>
    if cue.change = .write true ∨ cue.change = .drop then some (now + cue.after)
    else stopTime? (now + cue.after) cues

theorem le_lastTime (now : Nat) (cues : List Cue) : now ≤ lastTime now cues := by
  induction cues generalizing now with
  | nil => exact Nat.le_refl _
  | cons cue cues ih => exact Nat.le_trans (Nat.le_add_right _ _) (ih _)

end Cue

namespace Background

/-- The background after a change of the flag. -/
def change (b : Background) (c : Flag.Change) : Background :=
  { b with scene := { b.scene with flag := b.scene.flag.apply c } }

/-- The background after a script that begins now: time passes until each cue, the flag changes, and
all go on until they wait. -/
def follow (settings : TaskSettings) : Nat → Background → List Cue → Background
  | _, b, [] => b
  | now, b, cue :: cues =>
    (((b.elapse settings now (now + cue.after)).change cue.change).settle settings
      (now + cue.after)).follow settings (now + cue.after) cues

end Background

namespace Scheduler

variable {settings : LoopSettings} {start now : Nat} {s : Scene}

/-! ### Ticks -/

/-- The times at which so many periods are over. -/
def tickTimes (period start count : Nat) : List Nat :=
  (List.range count).map fun k => start + (k + 1) * period

/-- The scene after a tick at each of some times. -/
def ticked (settings : LoopSettings) (s : Scene) (times : List Nat) : Scene :=
  times.foldl (fun s time =>
    ((tick settings.producer settings.retention settings.today).ending time s).scene) s

theorem tickTimes_succ (period start count : Nat) :
    tickTimes period start (count + 1) =
      tickTimes period start count ++ [start + (count + 1) * period] := by
  rw [tickTimes, List.range_succ, List.map_append]
  rfl

theorem mem_tickTimes {period count time : Nat} :
    time ∈ tickTimes period start count ↔ ∃ k, 0 < k ∧ k ≤ count ∧ time = start + k * period := by
  rw [tickTimes, List.mem_map]
  constructor
  · rintro ⟨k, hk, rfl⟩
    exact ⟨k + 1, Nat.succ_pos k, List.mem_range.mp hk, rfl⟩
  · rintro ⟨k, hpos, hle, rfl⟩
    refine ⟨k - 1, List.mem_range.mpr (by omega), ?_⟩
    rw [Nat.sub_add_cancel hpos]

theorem pairwise_tickTimes {period : Nat} (hperiod : 0 < period) (start count : Nat) :
    (tickTimes period start count).Pairwise (· < ·) := by
  refine List.pairwise_map.mpr (List.pairwise_lt_range.imp fun {j k} hlt => ?_)
  exact Nat.add_lt_add_left (Nat.mul_lt_mul_of_pos_right (Nat.succ_lt_succ hlt) hperiod) start

theorem ticked_concat (settings : LoopSettings) (s : Scene) (times : List Nat) (time : Nat) :
    ticked settings s (times ++ [time]) =
      ((tick settings.producer settings.retention settings.today).ending time
        (ticked settings s times)).scene := by
  rw [ticked, List.foldl_append]
  rfl

/-- No tick lays a fault. -/
theorem prompt_ticked (settings : LoopSettings) (hs : s.Prompt TickCall) (times : List Nat) :
    (ticked settings s times).Prompt TickCall := by
  induction times using List.reverseRecOn with
  | nil => exact hs
  | append_singleton times time ih =>
    rw [ticked_concat]
    exact (tick_makes _ _ _).ending (P := fun t => t.Prompt TickCall)
      (fun t c _ ht => ht.takeFault c.operation)
      (fun t now c failure _ ht => ht.finish now c failure) (fun t phase ht => ht) time ih

/-- The store is scanned at the times of the ticks. -/
theorem timesOf_ticked (settings : LoopSettings) (hs : s.Prompt TickCall) (times : List Nat) :
    (ticked settings s times).timesOf .dueEvents = s.timesOf .dueEvents ++ times := by
  induction times using List.reverseRecOn with
  | nil => exact (List.append_nil _).symm
  | append_singleton times time ih =>
    rw [ticked_concat, timesOf_tick _ _ _ (prompt_ticked settings hs times), ih, List.append_assoc]

/-- Ticks have no part in what they make no call of. -/
theorem ticked_other (settings : LoopSettings) (s : Scene) (times : List Nat) {op : Operation}
    (hop : ∀ c, TickCall c → c.operation ≠ op) :
    (ticked settings s times).timesOf op = s.timesOf op ∧
      (ticked settings s times).faultOn op = s.faultOn op := by
  induction times using List.reverseRecOn with
  | nil => exact ⟨rfl, rfl⟩
  | append_singleton times time ih =>
    rw [ticked_concat]
    obtain ⟨htimes, hfault⟩ := Routine.Makes.ending_other hop time (ticked settings s times)
      (tick_makes settings.producer settings.retention settings.today)
    exact ⟨htimes.trans ih.1, hfault.trans ih.2⟩

/-! ### How the loop stands -/

/-- The loop has ticked so often and waits for the next tick. It has not been asked to stop. -/
inductive Ticking (settings : LoopSettings) (start : Nat) (s : Scene) (now : Nat) :
    Loop × Scene → Prop
  | intro {count : Nat} {flag : Flag} (begun : start + count * settings.period ≤ now)
      (before : now < start + (count + 1) * settings.period) (value : flag.value = false)
      (held : flag.dropped = false) :
      Ticking settings start s now
        (⟨.waiting (start + (count + 1) * settings.period), flag.writes⟩,
          { ticked settings s (tickTimes settings.period start count) with flag })

/-- The loop shuts down, or has ended, as it is bound to. -/
inductive Leaving (settings : LoopSettings) (bound : Ending (Except ShutdownError Unit))
    (now : Nat) : Loop × Scene → Prop
  | stopping {work : Active (Except ShutdownError Unit)} {wake seen : Nat} {s : Scene}
      (wakes : work.wake? = some wake) (before : now < wake)
      (makes : work.Makes (ShutdownCall settings.producer)) (few : work.CallsAtMost 2)
      (bound_eq : work.ending now s = bound.withFlag s.flag) :
      Leaving settings bound now (⟨.stopping work, seen⟩, s)
  | ended {seen : Nat} {flag : Flag} (past : bound.time ≤ now) :
      Leaving settings bound now
        (⟨.ended (bound.value.mapError .shutdown), seen⟩, { bound.scene with flag })

open Loop (Settles Reaches IsCourse mostSteps)

/-! ### Before the loop is asked to stop -/

/-- A flag that is not set and can still be written leaves a loop that has seen its writes waiting
until the next tick. -/
theorem step?_waiting {tickAt seen : Nat} (hvalue : s.flag.value = false)
    (hseen : seen = s.flag.writes) (hheld : s.flag.dropped = false) (hbefore : now < tickAt) :
    Loop.step? settings now ⟨.waiting tickAt, seen⟩ s = none := by
  simp [Loop.step?, Flag.hasNews, hvalue, hseen, hheld, Nat.not_le.mpr hbefore]

/-- A tick that is due ends at once, and the loop waits for the next. -/
theorem settles_tick (settings : LoopSettings) (now : Nat) (hs : s.Prompt TickCall) {seen : Nat}
    (hvalue : s.flag.value = false) (hseen : seen = s.flag.writes) (hheld : s.flag.dropped = false)
    (hperiod : 0 < settings.period) :
    Settles settings now 2 (⟨.waiting now, seen⟩, s)
      (⟨.waiting (now + settings.period), seen⟩,
        ((tick settings.producer settings.retention settings.today).ending now s).scene) := by
  let e := (tick settings.producer settings.retention settings.today).ending now s
  have hadvance := (Routine.advance_of_prompt
    (tick_makes settings.producer settings.retention settings.today) hs now).1
  have hflag : e.scene.flag = s.flag := by
    have h := (tick settings.producer settings.retention settings.today).flag_advance now s
    rwa [hadvance] at h
  have hnext : nextTick settings.period now now = now + settings.period :=
    if_neg (Nat.not_lt.mpr (Nat.le_add_right now 5))
  have hbegin : Loop.step? settings now ⟨.waiting now, seen⟩ s =
      some (⟨.ticking (now + settings.period) (.done e.value), seen⟩, e.scene) := by
    simp [Loop.step?, Flag.hasNews, hvalue, hseen, hheld, Loop.beginTick, hadvance, hnext, e]
  refine .step hbegin (.step rfl (.rest (step?_waiting ?_ ?_ ?_ ?_)))
  · rw [hflag, hvalue]
  · rw [hflag, hseen]
  · rw [hflag, hheld]
  · exact Nat.lt_add_of_pos_right hperiod

/-- The loop ticks whenever a period is over. -/
theorem isCourse_ticking (hperiod : 0 < settings.period) (hs : s.Prompt TickCall) :
    IsCourse settings (Ticking settings start s) where
  rests h := by
    obtain ⟨begun, before, value, held⟩ := h
    exact step?_waiting value rfl held before
  waits h hle hwake := by
    obtain ⟨begun, before, value, held⟩ := h
    exact .intro (Nat.le_trans begun hle) (hwake _ rfl before) value held
  goesOn {now x wake} h hwake hlt := by
    obtain @⟨count, flag, begun, before, value, held⟩ := h
    obtain rfl : start + (count + 1) * settings.period = wake := Option.some.inj hwake
    have hprompt := prompt_ticked settings hs (tickTimes settings.period start count)
    have htick := settles_tick settings (start + (count + 1) * settings.period)
      (s := { ticked settings s (tickTimes settings.period start count) with flag })
      hprompt value rfl held hperiod
    have hlater : start + (count + 1) * settings.period + settings.period =
        start + (count + 1 + 1) * settings.period := by
      rw [Nat.add_assoc, ← Nat.succ_mul]
    refine ⟨2, _, by decide, htick, ?_⟩
    rw [Routine.ending_withFlag, hlater]
    have hticking : Ticking settings start s (start + (count + 1) * settings.period)
        (⟨.waiting (start + (count + 1 + 1) * settings.period), flag.writes⟩,
          { ticked settings s (tickTimes settings.period start (count + 1)) with flag }) :=
      .intro (Nat.le_refl _) (by omega) value held
    rwa [tickTimes_succ, ticked_concat] at hticking

/-! ### After the loop was asked to stop -/

section Stopping

variable {bound : Ending (Except ShutdownError Unit)}

/-- A shutdown that has come to its end ends the loop. -/
theorem settles_done (settings : LoopSettings) (seen : Nat) {result : Except ShutdownError Unit}
    (hbound : Active.ending (.done result) now s = bound.withFlag s.flag) :
    ∃ y, Settles settings now 1 (⟨.stopping (.done result), seen⟩, s) y ∧
      Leaving settings bound now y := by
  obtain ⟨time, value, scene⟩ := bound
  obtain ⟨rfl, rfl, hscene⟩ : now = time ∧ result = value ∧ s = { scene with flag := s.flag } := by
    simpa only [Active.ending, Ending.withFlag, Ending.mk.injEq] using hbound
  refine ⟨(⟨.ended (result.mapError .shutdown), seen⟩, s), .step rfl (.rest rfl), ?_⟩
  rw [hscene]
  exact .ended (Nat.le_refl now)

/-- A shutdown that is held up leaves the loop waiting. -/
theorem step?_stopping_eq_none {work : Active (Except ShutdownError Unit)} {wake seen : Nat}
    (hwake : work.wake? = some wake) (hbefore : now < wake) :
    Loop.step? settings now ⟨.stopping work, seen⟩ s = none := by
  have hrest : work.resume? now s = none := by
    refine Active.resume?_eq_none s fun later hlater => ?_
    rwa [Option.some.inj (hlater.symm.trans hwake)]
  cases work with
  | done result => cases hwake
  | held c failure due cut next => simp only [Loop.step?, hrest, Option.map_none]

/-- A shutdown under way goes on, as far as it can at one time, to the ending that it is bound
to. -/
theorem exists_settles_stopping (seen : Nat) {n : Nat} (hn : n ≤ 2)
    {work : Active (Except ShutdownError Unit)}
    (hwake : ∀ wake, work.wake? = some wake → now ≤ wake)
    (hmakes : work.Makes (ShutdownCall settings.producer)) (hfew : work.CallsAtMost n)
    (hbound : work.ending now s = bound.withFlag s.flag) :
    ∃ m y, m ≤ n + 1 ∧ Settles settings now m (⟨.stopping work, seen⟩, s) y ∧
      Leaving settings bound now y := by
  -- The induction is on the calls that are left: each may go on at once if its limit is none.
  induction n generalizing work s with
  | zero =>
    cases work with
    | held c failure due cut next => exact absurd hfew.1 (Nat.lt_irrefl 0)
    | done result =>
      obtain ⟨y, hsettles, hleaving⟩ := settles_done settings seen hbound
      exact ⟨1, y, Nat.le_refl _, hsettles, hleaving⟩
  | succ n ih =>
    cases hwork : work.wake? with
    | none =>
      cases work with
      | held c failure due cut next => cases cut <;> cases hwork
      | done result =>
        obtain ⟨y, hsettles, hleaving⟩ := settles_done settings seen hbound
        exact ⟨1, y, by omega, hsettles, hleaving⟩
    | some wake =>
      rcases Nat.lt_or_eq_of_le (hwake wake hwork) with hlt | rfl
      · exact ⟨0, _, Nat.zero_le _, .rest (step?_stopping_eq_none hwork hlt),
          .stopping hwork hlt hmakes (hfew.mono hn) hbound⟩
      · obtain ⟨r, t, hresume, hending⟩ := Active.exists_resume hwork now s
        have hflag : (r.advance now t).2.flag = s.flag := Active.flag_resume? hresume
        have hbound' : (r.advance now t).1.ending now (r.advance now t).2 =
            bound.withFlag (r.advance now t).2.flag := by
          rw [Routine.ending_advance, hending, hbound, hflag]
        obtain ⟨m, y, hm, hsettles, hleaving⟩ := ih (Nat.le_of_succ_le hn)
          (fun wake => Routine.le_wake_advance) (hmakes.makes_resume hresume)
          (hfew.resume hresume).2 hbound'
        exact ⟨m + 1, y, by omega, .step (Loop.step?_stopping hresume) hsettles, hleaving⟩

/-- The loop shuts down as it is bound to, without regard to the flag. -/
theorem isCourse_leaving : IsCourse settings (Leaving settings bound) where
  rests h := by
    cases h with
    | ended past => rfl
    | stopping wakes before makes few bound_eq => exact step?_stopping_eq_none wakes before
  waits h hle hwake := by
    cases h with
    | ended past => exact .ended (Nat.le_trans past hle)
    | stopping wakes before makes few bound_eq =>
      refine .stopping wakes (hwake _ wakes before) makes few ?_
      rw [← bound_eq]
      exact Active.ending_eq_of_wake? wakes _ _ _
  goesOn {now x wake} h hwake hlt := by
    cases h with
    | ended past => cases hwake
    | @stopping work wake' seen s wakes before makes few bound_eq =>
      obtain rfl := Option.some.inj (wakes.symm.trans hwake)
      obtain ⟨m, y, hm, hsettles, hleaving⟩ := exists_settles_stopping seen (Nat.le_refl 2)
        (fun later hlater => Nat.le_of_eq (Option.some.inj (wakes.symm.trans hlater))) makes few
        ((Active.ending_eq_of_wake? wakes _ _ s).trans bound_eq)
      exact ⟨m, y, Nat.le_trans hm (by decide), hsettles, hleaving⟩

/-- What becomes of the flag makes no difference any more. -/
theorem Leaving.withFlag {x : Loop × Scene} (h : Leaving settings bound now x) (flag : Flag) :
    Leaving settings bound now (x.1, { x.2 with flag }) := by
  cases h with
  | ended past => exact .ended past
  | @stopping work wake seen s wakes before makes few bound_eq =>
    refine .stopping wakes before makes few ?_
    rw [Active.ending_withFlag, bound_eq]
    rfl

end Stopping

/-- The ending of a shutdown that begins at a time, after the ticks before. -/
def boundEnding (settings : LoopSettings) (start : Nat) (s : Scene) (stop : Nat) :
    Ending (Except ShutdownError Unit) :=
  (shutdown settings.producer settings.grace).ending stop
    (ticked settings s (tickTimes settings.period start ((stop - start) / settings.period)))

/-- A loop that sees a request begins to shut down, and goes on with that as far as it can. -/
theorem reaches_leaving {loop : Loop} {count : Nat} {flag : Flag}
    (hbegun : start + count * settings.period ≤ now)
    (hbefore : now < start + (count + 1) * settings.period)
    (hstep : ∀ t : Scene, t.flag = flag →
      loop.step? settings now t = some (loop.stop settings now t)) :
    Reaches settings now (Leaving settings (boundEnding settings start s now) now)
      (loop, { ticked settings s (tickTimes settings.period start count) with flag }) := by
  have hcount : (now - start) / settings.period = count := by
    refine Nat.div_eq_of_lt_le ?_ ?_ <;> omega
  let t : Scene := { ticked settings s (tickTimes settings.period start count) with flag }
  let out := (shutdown settings.producer settings.grace).advance now t
  have hflag : out.2.flag = flag := Routine.flag_advance _ now t
  have hbound : out.1.ending now out.2 =
      (boundEnding settings start s now).withFlag out.2.flag := by
    rw [hflag, boundEnding, hcount, ← Routine.ending_withFlag]
    exact Routine.ending_advance _ now t
  have hmakes : out.1.Makes (ShutdownCall settings.producer) :=
    (shutdown_makes settings.producer settings.grace).makes_advance now t
  obtain ⟨m, y, hm, hsettles, hleaving⟩ := exists_settles_stopping loop.seen
    (Nat.le_refl 2) (fun wake => Routine.le_wake_advance) hmakes
    ((shutdown_callsAtMost _ _).advance now t) hbound
  exact ⟨m + 1, y, Nat.le_trans (Nat.succ_le_succ hm) (by decide), .step (hstep t rfl) hsettles,
    hleaving⟩

/-! ### Scripts -/

/-- How the loop stands at a time, if it was first asked to stop at a time, or not at all. -/
def Stands (settings : LoopSettings) (start : Nat) (s : Scene) (stop? : Option Nat) (now : Nat)
    (x : Loop × Scene) : Prop :=
  match stop? with
  | none => Ticking settings start s now x
  | some stop => Leaving settings (boundEnding settings start s stop) now x

/-- A loop that waits for its next tick heeds a change of the flag: a request makes it shut down,
and nothing else keeps it from waiting on. -/
theorem Ticking.reaches_change (hcourse : IsCourse settings (Ticking settings start s))
    {x : Loop × Scene} (h : Ticking settings start s now x) (c : Flag.Change) :
    Reaches settings now
      (Stands settings start s (if c = .write true ∨ c = .drop then some now else none) now)
      (x.1, { x.2 with flag := x.2.flag.apply c }) := by
  obtain @⟨count, flag, begun, before, value, held⟩ := h
  have hwrite (b : Bool) : flag.write b = { flag with value := b, writes := flag.writes + 1 } := by
    rw [Flag.write, held]
    rfl
  cases c with
  | nothing => exact hcourse.reaches (.intro begun before value held)
  | write b =>
    cases b with
    | true =>
      rw [if_pos (Or.inl rfl)]
      refine reaches_leaving begun before fun t ht => ?_
      simp only [Loop.step?, ht, Flag.apply, hwrite, if_true]
    | false =>
      -- The write is news, and there is nothing else to it.
      rw [if_neg (by decide)]
      have hsees : Loop.step? settings now
          ⟨.waiting (start + (count + 1) * settings.period), flag.writes⟩
          { ticked settings s (tickTimes settings.period start count) with
            flag := flag.write false } =
          some (⟨.waiting (start + (count + 1) * settings.period), (flag.write false).writes⟩,
            { ticked settings s (tickTimes settings.period start count) with
              flag := flag.write false }) := by
        simp [Loop.step?, Flag.hasNews, hwrite]
      have hwaits : Ticking settings start s now
          (⟨.waiting (start + (count + 1) * settings.period), (flag.write false).writes⟩,
            { ticked settings s (tickTimes settings.period start count) with
              flag := flag.write false }) :=
        .intro begun before (by rw [hwrite]) (by rwa [hwrite])
      exact ⟨1, _, by decide, .step hsees (.rest (hcourse.rests hwaits)), hwaits⟩
  | drop =>
    rw [if_pos (Or.inr rfl)]
    refine reaches_leaving begun before fun t ht => ?_
    simp [Loop.step?, ht, Flag.apply, Flag.drop, Flag.hasNews, value]

end Scheduler

namespace Background

open Scheduler

variable {settings : TaskSettings} {start now : Nat} {s : Scene}

/-- A loop that shuts down does so whatever the script says. -/
theorem exists_follow_solo_eq_of_leaving {bound : Ending (Except ShutdownError Unit)}
    {x : Loop × Scene} (h : Leaving settings.scheduler bound now x) (cues : List Cue) :
    ∃ y, (solo x).follow settings now cues = solo y ∧
      Leaving settings.scheduler bound (Cue.lastTime now cues) y := by
  induction cues generalizing now x with
  | nil => exact ⟨x, rfl, h⟩
  | cons cue cues ih =>
    obtain ⟨y, helapse, hy⟩ := exists_elapse_solo_eq isCourse_leaving (isCourse_leaving.reaches h)
      (Nat.le_add_right now cue.after)
    have hchanged := hy.withFlag (y.2.flag.apply cue.change)
    obtain ⟨z, hsettle, hz⟩ := exists_settle_solo_eq (isCourse_leaving.reaches hchanged)
    obtain ⟨w, hfollow, hw⟩ := ih hz
    refine ⟨w, ?_, hw⟩
    rw [follow, helapse, ← hfollow, ← hsettle]
    rfl

/-- A loop that waits for its next tick stands, after a script, as the first request in it, or the
lack of one, says. -/
theorem exists_follow_solo_eq (hperiod : 0 < settings.scheduler.period) (hs : s.Prompt TickCall)
    {x : Loop × Scene} (h : Ticking settings.scheduler start s now x) (cues : List Cue) :
    ∃ y, (solo x).follow settings now cues = solo y ∧
      Stands settings.scheduler start s (Cue.stopTime? now cues) (Cue.lastTime now cues) y := by
  have hcourse : Loop.IsCourse settings.scheduler (Ticking settings.scheduler start s) :=
    isCourse_ticking hperiod hs
  induction cues generalizing now x with
  | nil => exact ⟨x, rfl, h⟩
  | cons cue cues ih =>
    obtain ⟨y, helapse, hy⟩ := exists_elapse_solo_eq hcourse (hcourse.reaches h)
      (Nat.le_add_right now cue.after)
    obtain ⟨z, hsettle, hz⟩ := exists_settle_solo_eq (hy.reaches_change hcourse cue.change)
    have hfollow : (solo x).follow settings now (cue :: cues) =
        (solo z).follow settings (now + cue.after) cues := by
      rw [follow, helapse, ← hsettle]
      rfl
    rw [hfollow, Cue.stopTime?, Cue.lastTime]
    by_cases hasked : cue.change = .write true ∨ cue.change = .drop
    · rw [if_pos hasked] at hz ⊢
      exact exists_follow_solo_eq_of_leaving hz cues
    · rw [if_neg hasked] at hz ⊢
      exact ih hz

end Background

end Datebook
