import Datebook.Proofs.Scheduler.Timetable

/-!
# The scheduler keeps to its timetable

A loop of the scheduler that goes on alone ticks at the end of every period before it is first asked
to stop, and at no other time. From the stop on it has two grace periods, one for the producer and
one for the store. Whatever comes of the producer, the store is closed after it, and the first
failure counts.

A grace period goes by whole milliseconds. One that is not a whole number of them is longer than it
was asked to be.

## Main results

* `Datebook.Scheduler.loop_keeps_timetable`
-/

namespace Datebook.Scheduler

variable {settings : LoopSettings} {start now stop : Nat} {s : Scene} {x : Loop × Scene}

/-- The ticks up to a time are at the ends of all periods up to it. -/
theorem mem_tickTimes_div {period : Nat} (hperiod : 0 < period) {last time : Nat} :
    time ∈ tickTimes period start ((last - start) / period) ↔
      (∃ k, 0 < k ∧ time = start + k * period) ∧ time ≤ last := by
  rw [mem_tickTimes]
  constructor
  · rintro ⟨k, hpos, hle, rfl⟩
    have hlast : k * period ≤ last - start := (Nat.le_div_iff_mul_le hperiod).mp hle
    have hfirst : 0 < k * period := Nat.mul_pos hpos hperiod
    exact ⟨⟨k, hpos, rfl⟩, by omega⟩
  · rintro ⟨⟨k, hpos, rfl⟩, hle⟩
    exact ⟨k, hpos, (Nat.le_div_iff_mul_le hperiod).mpr (by omega), rfl⟩

/-! ### Before the stop -/

/-- A loop that was not asked to stop has ticked at the end of each period, and waits. -/
theorem Ticking.exists_waiting (h : Ticking settings start s now x) :
    (∃ tickAt, now < tickAt ∧ x.1.stage = .waiting tickAt) ∧
      x.2 = { ticked settings s
        (tickTimes settings.period start ((now - start) / settings.period)) with
        flag := x.2.flag } := by
  obtain @⟨count, flag, begun, before, value, held⟩ := h
  have hcount : (now - start) / settings.period = count := by
    refine Nat.div_eq_of_lt_le ?_ ?_ <;> omega
  rw [hcount]
  exact ⟨⟨_, before, rfl⟩, rfl⟩

/-! ### After the stop -/

section Leaving

variable {bound : Ending (Except ShutdownError Unit)}

/-- Before the time at which it is bound to end the loop shuts down. -/
theorem Leaving.exists_stopping (h : Leaving settings bound now x) (hlt : now < bound.time) :
    ∃ work, x.1.stage = .stopping work := by
  cases h with
  | stopping wakes before makes few bound_eq => exact ⟨_, rfl⟩
  | ended past => exact absurd past (Nat.not_le.mpr hlt)

/-- From the time on at which it is bound to end the loop has ended. -/
theorem Leaving.stage_eq_ended (h : Leaving settings bound now x) (hle : bound.time ≤ now) :
    x.1.stage = .ended (bound.value.mapError .shutdown) ∧
      x.2 = { bound.scene with flag := x.2.flag } := by
  cases h with
  | ended past => exact ⟨rfl, rfl⟩
  | @stopping work wake seen s wakes before makes few bound_eq =>
    have hwake : wake ≤ (work.ending now s).time := Active.wake_le_time_ending wakes now s
    rw [bound_eq] at hwake
    exact absurd (Nat.le_trans hwake hle) (Nat.not_le.mpr before)

/-- A shutdown does not tick. -/
theorem Leaving.timesOf_eq (h : Leaving settings bound now x) :
    x.2.timesOf .dueEvents = bound.scene.timesOf .dueEvents := by
  cases h with
  | ended past => rfl
  | @stopping work wake seen s wakes before makes few bound_eq =>
    have hscene : (work.ending now s).scene.timesOf .dueEvents =
        bound.scene.timesOf .dueEvents :=
      congrArg (fun e => e.scene.timesOf .dueEvents) bound_eq
    rw [← hscene]
    exact (makes.ending_other (fun _ => ShutdownCall.operation_ne_dueEvents) now s).1.symm

end Leaving

/-- No tick closes anything. -/
theorem ticked_close (settings : LoopSettings) (s : Scene) (times : List Nat) {op : Operation}
    (hop : op = .closeProducer ∨ op = .closeStore) :
    (ticked settings s times).timesOf op = s.timesOf op ∧
      (ticked settings s times).faultOn op = s.faultOn op := by
  refine ticked_other settings s times fun c hc => ?_
  rcases hop with rfl | rfl
  · cases hc <;> nofun
  · cases hc <;> nofun

/-- A shutdown after some ticks is settled by the faults on the two closings. -/
theorem boundEnding_eq (settings : LoopSettings) (start : Nat) (s : Scene) (stop : Nat) :
    let grace := settings.grace
    let closeProducer : Call := .channel (.closeProducer settings.producer)
    let before := ticked settings s
      (tickTimes settings.period start ((stop - start) / settings.period))
    let between := stop + min (s.faultOn .closeProducer).wait grace.wholeMillis
    boundEnding settings start s stop =
      ⟨between + min (s.faultOn .closeStore).wait grace.wholeMillis,
        (closeUnder "producer" grace closeProducer (s.faultOn .closeProducer)).bind fun _ =>
          closeUnder "store" grace (.store .close) (s.faultOn .closeStore),
        ((before.close stop grace closeProducer).close between grace (.store .close)).enter
          .stopped⟩ := by
  intro grace closeProducer before between
  have hshutdown := shutdown_ending settings.producer settings.grace stop before
  rw [(ticked_close settings s _ (Or.inl rfl)).2,
    (ticked_close settings s _ (Or.inr rfl)).2] at hshutdown
  exact hshutdown

/-- When the producer and the store were closed after some ticks, if they were in time. -/
theorem timesOf_closed (settings : LoopSettings) (hs : s.trace = []) (times : List Nat)
    (stop between : Nat) (flag : Flag) :
    Scene.timesOf { (((ticked settings s times).close stop settings.grace
        (.channel (.closeProducer settings.producer))).close between settings.grace
          (.store .close)).enter .stopped with flag } .closeProducer =
      (if (s.faultOn .closeProducer).wait ≤ settings.grace.wholeMillis then
        [stop + min (s.faultOn .closeProducer).wait settings.grace.wholeMillis] else []) ∧
    Scene.timesOf { (((ticked settings s times).close stop settings.grace
        (.channel (.closeProducer settings.producer))).close between settings.grace
          (.store .close)).enter .stopped with flag } .closeStore =
      (if (s.faultOn .closeStore).wait ≤ settings.grace.wholeMillis then
        [between + min (s.faultOn .closeStore).wait settings.grace.wholeMillis] else []) := by
  have hnone (op : Operation) : s.timesOf op = [] := by rw [Scene.timesOf, hs]; rfl
  have hclosings := timesOf_closings settings.producer settings.grace stop between
    (ticked settings s times)
  obtain ⟨hproducer, hproducerFault⟩ := ticked_close settings s times (Or.inl rfl)
  obtain ⟨hstore, hstoreFault⟩ := ticked_close settings s times (Or.inr rfl)
  dsimp only at hclosings
  rw [hproducer, hproducerFault, hstore, hstoreFault, hnone, hnone, List.nil_append,
    List.nil_append] at hclosings
  rw [Scene.timesOf_enter, Scene.timesOf_enter]
  exact hclosings

theorem timesOf_boundEnding (hs : s.Prompt TickCall) :
    (boundEnding settings start s stop).scene.timesOf .dueEvents = s.timesOf .dueEvents ++
      tickTimes settings.period start ((stop - start) / settings.period) := by
  rw [← timesOf_ticked settings hs, boundEnding]
  exact (Routine.Makes.ending_other (fun _ => ShutdownCall.operation_ne_dueEvents) stop _
    (shutdown_makes settings.producer settings.grace)).1

/-! ### What can be seen of a loop -/

section Stands

variable {stop? : Option Nat} (hs : s.Prompt TickCall) (hnone : s.timesOf .dueEvents = [])

include hs hnone

/-- Until it is asked to stop a loop ticks at the end of each period, and from then on not at
all. -/
theorem Stands.timesOf_eq (h : Stands settings start s stop? now x) :
    x.2.timesOf .dueEvents =
      tickTimes settings.period start ((stop?.getD now - start) / settings.period) := by
  cases stop? with
  | none =>
    obtain ⟨-, hx⟩ := Ticking.exists_waiting h
    have hticked := timesOf_ticked settings hs
      (tickTimes settings.period start ((now - start) / settings.period))
    rw [hnone, List.nil_append] at hticked
    rw [hx]
    exact hticked
  | some stop =>
    rw [Leaving.timesOf_eq h, timesOf_boundEnding hs, hnone, Option.getD_some, List.nil_append]

/-- The ticks are at the ends of the periods before the request to stop. -/
theorem Stands.mem_timesOf_iff (h : Stands settings start s stop? now x)
    (hperiod : 0 < settings.period)
    (hstop : ∀ stop ∈ stop?, stop ≤ now ∧ ∀ k, 0 < k → stop ≠ start + k * settings.period)
    {time : Nat} :
    time ∈ x.2.timesOf .dueEvents ↔
      (∃ k, 0 < k ∧ time = start + k * settings.period) ∧ time ≤ now ∧
        ∀ stop ∈ stop?, time < stop := by
  rw [h.timesOf_eq hs hnone, mem_tickTimes_div hperiod]
  refine and_congr_right fun ⟨k, hpos, htime⟩ => ?_
  cases stop? with
  | none => simp
  | some stop =>
    obtain ⟨hnow, hclear⟩ := hstop stop rfl
    have hne : stop ≠ time := htime ▸ hclear k hpos
    simp only [Option.getD_some, Option.mem_some_iff, forall_eq']
    omega

/-- Without a request to stop the loop waits for its next tick. -/
theorem Stands.exists_waiting (h : Stands settings start s none now x) :
    (∃ tickAt, now < tickAt ∧ x.1.stage = .waiting tickAt) ∧
      x.2 = { ticked settings s (x.2.timesOf .dueEvents) with flag := x.2.flag } := by
  rw [h.timesOf_eq hs hnone]
  exact Ticking.exists_waiting h

/-- From the time on at which both closings are finished or given up the loop has ended with what
came of them, and has left behind what they left. -/
theorem Stands.ended (h : Stands settings start s (some stop) now x) :
    let grace := settings.grace
    let closeProducer : Call := .channel (.closeProducer settings.producer)
    let between := stop + min (s.faultOn .closeProducer).wait grace.wholeMillis
    between + min (s.faultOn .closeStore).wait grace.wholeMillis ≤ now →
      x.1.stage = .ended
        (((closeUnder "producer" grace closeProducer (s.faultOn .closeProducer)).bind fun _ =>
          closeUnder "store" grace (.store .close) (s.faultOn .closeStore)).mapError .shutdown) ∧
      x.2 = { (((ticked settings s (x.2.timesOf .dueEvents)).close stop grace closeProducer).close
          between grace (.store .close)).enter .stopped with flag := x.2.flag } := by
  intro grace closeProducer between hover
  rw [h.timesOf_eq hs hnone]
  have hbound := boundEnding_eq settings start s stop
  obtain ⟨hstage, hscene⟩ := Leaving.stage_eq_ended h (hbound ▸ hover)
  rw [hbound] at hstage hscene
  exact ⟨hstage, hscene⟩

end Stands

/-! ### From start to end -/

/-- A loop that starts waits for the end of its first period. -/
theorem ticking_start (hperiod : 0 < settings.period) (service : Service)
    (faults : List (Operation × Fault)) :
    Ticking settings start { service, faults } start
      (.start settings start, { service, faults }) := by
  have hstart : Loop.start settings start =
      ⟨.waiting (start + (0 + 1) * settings.period), 0⟩ := by
    rw [Loop.start, if_neg (Nat.pos_iff_ne_zero.mp hperiod), Nat.zero_add, Nat.one_mul]
  have hfresh : Ticking settings start { service, faults } start
      (⟨.waiting (start + (0 + 1) * settings.period), ({} : Flag).writes⟩,
        { ticked settings { service, faults } (tickTimes settings.period start 0) with
          flag := {} }) :=
    .intro (by omega) (by omega) rfl rfl
  rwa [hstart]

/-- Only closings take time. -/
theorem prompt_of_closings {s : Scene}
    (hfaults : ∀ x ∈ s.faults, 0 < x.2.wait → x.1 = .closeProducer ∨ x.1 = .closeStore) :
    s.Prompt TickCall := by
  intro c hc x hx hop
  by_contra hwait
  rcases hfaults x hx (Nat.pos_of_ne_zero hwait) with hclose | hclose
  · rw [hop] at hclose
    cases hc <;> cases hclose
  · rw [hop] at hclose
    cases hc <;> cases hclose

end Datebook.Scheduler

namespace Datebook.Cue

theorem stopTime?_bounds {start stop : Nat} {cues : List Cue}
    (h : stopTime? start cues = some stop) : start ≤ stop ∧ stop ≤ lastTime start cues := by
  induction cues generalizing start with
  | nil => cases h
  | cons cue cues ih =>
    rw [stopTime?] at h
    split at h
    · obtain rfl := Option.some.inj h
      exact ⟨Nat.le_add_right _ _, le_lastTime _ cues⟩
    · exact ⟨Nat.le_trans (Nat.le_add_right _ _) (ih h).1, (ih h).2⟩

end Datebook.Cue

namespace Datebook.Scheduler

open Background (solo)

section Loop

variable (settings : TaskSettings) (hperiod : 0 < settings.scheduler.period) (start : Nat)
  (service : Service) (faults : List (Operation × Fault))
  (hfaults : ∀ x ∈ faults, 0 < x.2.wait → x.1 = .closeProducer ∨ x.1 = .closeStore)
  (cues : List Cue)

include hperiod hfaults

/-- After a script the loop stands as the first request in it, or the lack of one, says. -/
theorem exists_follow_start_eq :
    ∃ y, (solo (.start settings.scheduler start, { service, faults })).follow settings start cues =
        solo y ∧
      Stands settings.scheduler start { service, faults } (Cue.stopTime? start cues)
        (Cue.lastTime start cues) y :=
  Background.exists_follow_solo_eq hperiod (prompt_of_closings hfaults)
    (ticking_start hperiod service faults) cues

/-- Only the closing of the producer and of the store may take time, and no request to stop comes
with a tick. A loop of the scheduler that goes on alone, whatever becomes of the flag, has ticked at
the end of every period before the first request, and at no other time. Without a request it waits
for its next tick, whatever the ticks came to. After a request it closes the producer within a grace
period and then, whatever came of that, the store within another, and ends with the first failure;
it is settled by the faults on the two closings when that is. -/
theorem loop_keeps_timetable
    (hclear : ∀ stop ∈ Cue.stopTime? start cues, ∀ k, 0 < k →
      stop ≠ start + k * settings.scheduler.period) :
    let initial : Scene := { service, faults }
    let now := Cue.lastTime start cues
    let stop? := Cue.stopTime? start cues
    let grace := settings.scheduler.grace
    let closeProducer : Call := .channel (.closeProducer settings.scheduler.producer)
    let closeStore : Call := .store .close
    let onProducer := initial.faultOn .closeProducer
    let onStore := initial.faultOn .closeStore
    ∃ loop scene,
      (solo (.start settings.scheduler start, initial)).follow settings start cues =
        solo (loop, scene) ∧
      (scene.timesOf .dueEvents).Pairwise (· < ·) ∧
      (∀ time, time ∈ scene.timesOf .dueEvents ↔
        (∃ k, 0 < k ∧ time = start + k * settings.scheduler.period) ∧ time ≤ now ∧
          ∀ stop ∈ stop?, time < stop) ∧
      (stop? = none →
        (∃ tickAt, now < tickAt ∧ loop.stage = .waiting tickAt) ∧
        scene = { ticked settings.scheduler initial (scene.timesOf .dueEvents) with
          flag := scene.flag }) ∧
      ∀ stop ∈ stop?,
        let between := stop + min onProducer.wait grace.wholeMillis
        let finish := between + min onStore.wait grace.wholeMillis
        finish ≤ stop + 2 * grace.wholeMillis ∧
        (now < finish → ∃ work, loop.stage = .stopping work) ∧
        (finish ≤ now →
          loop.stage = .ended
            (((closeUnder "producer" grace closeProducer onProducer).bind fun _ =>
              closeUnder "store" grace closeStore onStore).mapError .shutdown) ∧
          scene.service.phase = .stopped ∧
          scene.timesOf .closeProducer =
            (if onProducer.wait ≤ grace.wholeMillis then [between] else []) ∧
          scene.timesOf .closeStore =
            (if onStore.wait ≤ grace.wholeMillis then [finish] else []) ∧
          scene = { (((ticked settings.scheduler initial (scene.timesOf .dueEvents)).close stop
              grace closeProducer).close between grace closeStore).enter .stopped with
            flag := scene.flag }) := by
  intro initial now stop? grace closeProducer closeStore onProducer onStore
  obtain ⟨⟨loop, scene⟩, hfollow, hstands⟩ :=
    exists_follow_start_eq settings hperiod start service faults hfaults cues
  have hprompt : initial.Prompt TickCall := prompt_of_closings hfaults
  have hloop : Stands settings.scheduler start initial stop? now (loop, scene) := hstands
  refine ⟨loop, scene, hfollow, ?_, fun time => ?_, fun hnone => ?_, fun stop hstop => ?_⟩
  · have htimes : scene.timesOf .dueEvents = _ := hloop.timesOf_eq hprompt rfl
    rw [htimes]
    exact pairwise_tickTimes hperiod start _
  · exact hloop.mem_timesOf_iff hprompt rfl hperiod fun stop hstop =>
      ⟨(Cue.stopTime?_bounds hstop).2, hclear stop hstop⟩
  · rw [hnone] at hloop
    exact Stands.exists_waiting hprompt rfl hloop
  · intro between finish
    rw [Option.mem_def.mp hstop] at hloop
    refine ⟨by omega, fun hlt => ?_, fun hle => ?_⟩
    · have hbound := boundEnding_eq settings.scheduler start initial stop
      exact Leaving.exists_stopping hloop (hbound ▸ hlt)
    · obtain ⟨hstage, hscene⟩ := Stands.ended hprompt rfl hloop hle
      obtain ⟨hproducer, hstore⟩ := timesOf_closed settings.scheduler (s := initial) rfl
        (scene.timesOf .dueEvents) stop between scene.flag
      rw [← hscene] at hproducer hstore
      exact ⟨hstage, congrArg (·.service.phase) hscene, hproducer, hstore, hscene⟩

end Loop

/-- The first tick fails, a write is no request, the producer is given up, and the store fails to
close in time. -/
theorem slow_producer_given_up :
    let settings : TaskSettings :=
      { scheduler := { period := 10, grace := .ofMillis 5, today := .epoch }, sender := {} }
    let faults : List (Operation × Fault) :=
      [(.dueEvents, { failure := some .closed }), (.closeProducer, { delay := 7 }),
        (.closeStore, { delay := 2, failure := some (.database "locked") })]
    let cues : List Cue := [⟨15, .write false⟩, ⟨19, .write true⟩, ⟨20, .nothing⟩]
    ∃ loop scene,
      (solo (.start settings.scheduler 0, { service := {}, faults })).follow settings 0 cues =
        solo (loop, scene) ∧
      (∀ time, time ∈ scene.timesOf .dueEvents ↔ time = 10 ∨ time = 20 ∨ time = 30) ∧
      loop.stage = .ended (.error (.shutdown (.timedOut "producer" (.ofMillis 5)))) ∧
      scene.service.phase = .stopped ∧
      scene.timesOf .closeProducer = [] ∧ scene.timesOf .closeStore = [41] := by
  intro settings faults cues
  have hclear : ∀ stop ∈ Cue.stopTime? 0 cues, ∀ k, 0 < k → stop ≠ 0 + k * 10 := by
    rintro stop hstop k -
    obtain rfl : 34 = stop := Option.some.inj hstop
    omega
  obtain ⟨loop, scene, hfollow, -, hticks, -, hstopped⟩ :=
    loop_keeps_timetable settings (by decide) 0 {} faults (by decide) cues hclear
  obtain ⟨-, -, hended⟩ := hstopped 34 rfl
  obtain ⟨hstage, hphase, hproducer, hstore, -⟩ := hended (by decide)
  have hlate : closeUnder "producer" (.ofMillis 5) (.channel (.closeProducer 0)) { delay := 7 } =
      .error (.timedOut "producer" (.ofMillis 5)) :=
    if_pos (by decide)
  have hticks (time : Nat) : time ∈ scene.timesOf .dueEvents ↔
      (∃ k, 0 < k ∧ time = 0 + k * 10) ∧ time ≤ 54 ∧ ∀ stop ∈ some 34, time < stop :=
    hticks time
  refine ⟨loop, scene, hfollow, fun time => ?_, ?_, hphase, ?_, ?_⟩
  · simp only [hticks, Option.mem_some_iff, forall_eq']
    constructor
    · rintro ⟨⟨k, hpos, rfl⟩, -, hbefore⟩
      omega
    · intro htime
      exact ⟨⟨time / 10, by omega, by omega⟩, by omega, by omega⟩
  · rw [hstage]
    exact congrArg (fun result => Stage.ended ((Except.bind result _).mapError _)) hlate
  · rw [hproducer, if_neg (by decide)]
  · rw [hstore, if_pos (by decide)]
    decide

/-- A grace period of a millisecond and a half goes by as two. So a loop may still be shutting down
two grace periods after it was asked to stop, and a store that takes longer than the grace period
may be closed in time. -/
theorem part_of_millisecond_outlasted :
    let grace : Duration := .ofNanos 1500000
    let settings : TaskSettings := { scheduler := { grace, today := .epoch }, sender := {} }
    let faults : List (Operation × Fault) :=
      [(.closeProducer, { delay := 50 }), (.closeStore, { delay := 50 })]
    let cues : List Cue := [⟨0, .write true⟩, ⟨3, .nothing⟩]
    (Cue.stopTime? 0 cues = some 0 ∧ Cue.lastTime 0 cues = 3 ∧ 2 * grace.toNanos = 3 * 1000000 ∧
      ∃ loop scene work,
        (solo (.start settings.scheduler 0, { service := {}, faults })).follow settings 0 cues =
          solo (loop, scene) ∧ loop.stage = .stopping work) ∧
    grace.toNanos < 2 * 1000000 ∧
      closeUnder "store" grace (.store .close) { delay := 2 } = .ok () := by
  intro grace settings faults cues
  refine ⟨⟨rfl, rfl, by decide, ?_⟩, by decide, if_neg (by decide)⟩
  obtain ⟨⟨loop, scene⟩, hfollow, hstands⟩ :=
    exists_follow_start_eq settings (by decide) 0 {} faults (by decide) cues
  have hleaves : Stands settings.scheduler 0 { service := {}, faults } (some 0) 3 (loop, scene) :=
    hstands
  have hbound := boundEnding_eq settings.scheduler 0 { service := {}, faults } 0
  obtain ⟨work, hwork⟩ := Leaving.exists_stopping hleaves (by rw [hbound]; decide)
  exact ⟨loop, scene, work, hfollow, hwork⟩

end Datebook.Scheduler
