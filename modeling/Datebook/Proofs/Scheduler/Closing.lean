import Datebook.Proofs.Simulation.Ending

/-!
# The calls of the scheduler on time

A tick that is not held up scans the store once, at the time at which it begins, and never closes
anything. A shutdown closes the producer and after that the store, each within a grace period of its
own. It is settled by the faults on the two calls when each of them is finished, if it is in time,
when the shutdown ends, and with what.

## Main definitions

* `Datebook.Scene.timesOf`: when the calls of an operation were finished.
* `Datebook.Scene.faultOn`: the fault on the next call of an operation.
* `Datebook.closeUnder`: what comes of closing a part under a fault.
* `Datebook.Scene.close`: the scene after a part was closed, or was given up.

## Main results

* `Datebook.Scheduler.timesOf_tick`
* `Datebook.Scheduler.shutdown_ending`
-/

namespace Datebook

/-! ### What was done when -/

namespace Scene

variable {s : Scene} {op : Operation}

/-- The times at which calls of an operation were finished, the earliest first. -/
def timesOf (s : Scene) (op : Operation) : List Nat :=
  (s.trace.reverse.filter (·.operation == op)).map (·.time)

/-- The fault on the next call of an operation: the oldest that was laid on it. -/
def faultOn (s : Scene) (op : Operation) : Fault :=
  ((s.faults.find? (·.1 == op)).map Prod.snd).getD {}

theorem fst_takeFault (s : Scene) (op : Operation) : (s.takeFault op).1 = s.faultOn op := by
  rw [takeFault, faultOn]
  cases s.faults.find? (·.1 == op) <;> rfl

theorem timesOf_finish (s : Scene) (now : Nat) (c : Call) (failure : Option FaultKind)
    (op : Operation) :
    (s.finish now c failure).2.timesOf op =
      s.timesOf op ++ if c.operation = op then [now] else [] := by
  rw [timesOf, trace_finish, List.reverse_cons, List.filter_append, List.map_append, timesOf]
  by_cases h : c.operation = op
  · simp [h]
  · simp [h]

theorem timesOf_enter (s : Scene) (phase : SchedulerPhase) (flag : Flag) (op : Operation) :
    timesOf { s.enter phase with flag } op = s.timesOf op :=
  rfl

theorem timesOf_takeFault (s : Scene) (other op : Operation) :
    (s.takeFault other).2.timesOf op = s.timesOf op := by
  obtain ⟨faults, -, heq⟩ := s.exists_takeFault_eq other
  rw [heq]
  rfl

theorem faultOn_finish (s : Scene) (now : Nat) (c : Call) (failure : Option FaultKind)
    (op : Operation) : (s.finish now c failure).2.faultOn op = s.faultOn op := by
  rw [faultOn, faults_finish, faultOn]

/-- A fault that is used up is not that of another operation. -/
theorem faultOn_takeFault {other : Operation} (h : other ≠ op) :
    (s.takeFault other).2.faultOn op = s.faultOn op := by
  have hfind (faults : List (Operation × Fault)) :
      (faults.eraseP (·.1 == other)).find? (·.1 == op) = faults.find? (·.1 == op) := by
    induction faults with
    | nil => rfl
    | cons x faults ih =>
      by_cases hx : x.1 = other
      · have hop : (x.1 == op) = false := by simp [hx, h]
        rw [List.eraseP_cons_of_pos (by simp [hx]), List.find?_cons, hop]
      · rw [List.eraseP_cons_of_neg (by simp [hx]), List.find?_cons, List.find?_cons, ih]
  rw [faultOn, takeFault, faultOn]
  split
  · rfl
  · rw [hfind]

/-- Calls of other operations have no part in what was done of an operation, nor in the fault on
it. -/
theorem untouched_of_ne {kind : Call → Prop} {op : Operation}
    (hop : ∀ c, kind c → c.operation ≠ op) (s : Scene) :
    (∀ (t : Scene) c, kind c → t.timesOf op = s.timesOf op ∧ t.faultOn op = s.faultOn op →
      (t.takeFault c.operation).2.timesOf op = s.timesOf op ∧
        (t.takeFault c.operation).2.faultOn op = s.faultOn op) ∧
    ∀ (t : Scene) now c failure, kind c →
      t.timesOf op = s.timesOf op ∧ t.faultOn op = s.faultOn op →
      (t.finish now c failure).2.timesOf op = s.timesOf op ∧
        (t.finish now c failure).2.faultOn op = s.faultOn op := by
  constructor
  · intro t c hc ht
    rwa [timesOf_takeFault, faultOn_takeFault (hop c hc)]
  · intro t now c failure hc ht
    rwa [timesOf_finish, if_neg (hop c hc), List.append_nil, faultOn_finish]

end Scene

section Other

variable {α : Type} {kind : Call → Prop} {op : Operation} (hop : ∀ c, kind c → c.operation ≠ op)
  (now : Nat) (s : Scene)

include hop

/-- A routine has no part in the operations of which it makes no call. -/
theorem Routine.Makes.ending_other {r : Routine α} (hr : r.Makes kind) :
    (r.ending now s).scene.timesOf op = s.timesOf op ∧
      (r.ending now s).scene.faultOn op = s.faultOn op :=
  have ⟨htake, hfinish⟩ := Scene.untouched_of_ne hop s
  hr.ending (P := fun t => t.timesOf op = s.timesOf op ∧ t.faultOn op = s.faultOn op) htake hfinish
    (fun _ _ ht => ht) now ⟨rfl, rfl⟩

theorem Active.Makes.ending_other {work : Active α} (hwork : work.Makes kind) :
    (work.ending now s).scene.timesOf op = s.timesOf op ∧
      (work.ending now s).scene.faultOn op = s.faultOn op :=
  have ⟨htake, hfinish⟩ := Scene.untouched_of_ne hop s
  hwork.ending (P := fun t => t.timesOf op = s.timesOf op ∧ t.faultOn op = s.faultOn op) htake
    hfinish (fun _ _ ht => ht) now ⟨rfl, rfl⟩

end Other

/-! ### Closing a part -/

/-- What comes of closing a part under a fault: it is given up if it takes longer than the grace
period, and else fails or succeeds as it is made to. -/
def closeUnder (part : String) (grace : Duration) (c : Call) (fault : Fault) :
    Except ShutdownError Unit :=
  if grace.wholeMillis < fault.wait then .error (.timedOut part grace)
  else match fault.failure with
    | some kind => .error (.failed part (c.failureMessage (c.failureOf kind)))
    | none => .ok ()

/-- The scene after a call that was to close a part was finished, or was given up. -/
def Scene.close (s : Scene) (now : Nat) (grace : Duration) (c : Call) : Scene :=
  let fault := s.faultOn c.operation
  let t := (s.takeFault c.operation).2
  if fault.wait ≤ grace.wholeMillis then (t.finish (now + fault.wait) c fault.failure).2 else t

section Close

variable {c : Call} (part : String) (grace : Duration) (now : Nat) (s : Scene)

/-- A part is closed when it is ready or when the grace period is over, whichever comes first. -/
theorem closeWithin_ending (hc : ∀ service : Service, ∃ reply, (service.answer c).1 = .ok reply) :
    (closeWithin part grace c).ending now s =
      ⟨now + min (s.faultOn c.operation).wait grace.wholeMillis,
        closeUnder part grace c (s.faultOn c.operation), s.close now grace c⟩ := by
  rw [closeWithin, Routine.ending, Scene.close, closeUnder]
  dsimp only
  rw [Scene.fst_takeFault]
  generalize s.faultOn c.operation = fault
  by_cases hwait : fault.wait ≤ grace.wholeMillis
  · simp only [if_pos hwait, if_neg (Nat.not_lt.mpr hwait), Nat.min_eq_left hwait, Routine.ending]
    cases hfailure : fault.failure with
    | some kind => rfl
    | none =>
      obtain ⟨reply, hreply⟩ := hc (s.takeFault c.operation).2.service
      have houtcome : ((s.takeFault c.operation).2.finish (now + fault.wait) c none).1 =
          .ok reply := hreply
      rw [houtcome]
      rfl
  · have hlate : grace.wholeMillis < fault.wait := Nat.lt_of_not_le hwait
    simp only [if_neg hwait, if_pos hlate, Nat.min_eq_right (Nat.le_of_lt hlate), Routine.ending]
    rfl

/-- A part that is in time is closed when the closing ends. -/
theorem timesOf_close :
    (s.close now grace c).timesOf c.operation =
      s.timesOf c.operation ++
        if (s.faultOn c.operation).wait ≤ grace.wholeMillis then
          [now + min (s.faultOn c.operation).wait grace.wholeMillis] else [] := by
  rw [Scene.close]
  split
  · next hwait =>
    rw [Scene.timesOf_finish, Scene.timesOf_takeFault, if_pos rfl, Nat.min_eq_left hwait]
  · rw [Scene.timesOf_takeFault, List.append_nil]

/-- Closing one part has no part in other operations. -/
theorem close_other {op : Operation} (hop : c.operation ≠ op) :
    (s.close now grace c).timesOf op = s.timesOf op ∧
      (s.close now grace c).faultOn op = s.faultOn op := by
  rw [Scene.close]
  split
  · rw [Scene.timesOf_finish, if_neg hop, List.append_nil, Scene.faultOn_finish]
    exact ⟨s.timesOf_takeFault _ op, Scene.faultOn_takeFault hop⟩
  · exact ⟨s.timesOf_takeFault _ op, Scene.faultOn_takeFault hop⟩

end Close

/-- The other part is closed when it is settled what came of the first. -/
theorem closeBoth_ending (first second : Routine (Except ShutdownError Unit)) (now : Nat)
    (s : Scene) :
    let e := first.ending now s
    let e' := second.ending e.time e.scene
    (closeBoth first second).ending now s =
      ⟨e'.time, e.value.bind fun _ => e'.value, e'.scene⟩ := by
  intro e e'
  rw [closeBoth, Routine.ending_bind, Routine.ending_bind]
  rfl

namespace Scheduler

/-! ### Ticks -/

/-- After its scan a tick does not scan again. -/
theorem publishAll_makes_no_scan (producer : Nat) (events : List Event) :
    (publishAll producer events).Makes fun c => c.operation ≠ .dueEvents := by
  induction events with
  | nil => trivial
  | cons e events ih =>
    refine ⟨nofun, ?_⟩
    rintro (source | ⟨⟩)
    · trivial
    · exact ih

/-- A tick that is not held up scans the store once, when it begins. -/
theorem timesOf_tick (producer : Nat) (retention : Retention) (today : Instant) {s : Scene}
    (hs : s.Prompt TickCall) (now : Nat) :
    ((tick producer retention today).ending now s).scene.timesOf .dueEvents =
      s.timesOf .dueEvents ++ [now] := by
  have hnone {α : Type} {r : Routine α} (hr : r.Makes fun c => c.operation ≠ .dueEvents)
      (now : Nat) (t : Scene) : (r.ending now t).scene.timesOf .dueEvents = t.timesOf .dueEvents :=
    (Routine.Makes.ending_other (fun _ hc => hc) now t hr).1
  have hwait : ((s.enter .scanning).takeFault (Call.store (.due today)).operation).1.wait = 0 :=
    Scene.Prompt.wait_takeFault (s := s.enter .scanning) hs (.due today)
  rw [tick, Routine.ending_bind, hnone (show Routine.Makes _ (.enter _ (.done _)) from trivial),
    cycle, Routine.ending, Routine.ending]
  dsimp only
  rw [hwait, hnone, Scene.timesOf_finish, Scene.timesOf_takeFault, Nat.add_zero]
  · rfl
  · split
    · trivial
    · refine (publishAll_makes_no_scan producer _).bind ?_
      rintro (source | ⟨⟩)
      · trivial
      · exact ⟨by simp [Call.operation], fun _ => trivial⟩

/-! ### Shutdown -/

/-- The calls of a shutdown. -/
inductive ShutdownCall (producer : Nat) : Call → Prop
  | producer : ShutdownCall producer (.channel (.closeProducer producer))
  | store : ShutdownCall producer (.store .close)

theorem ShutdownCall.operation_ne_dueEvents {producer : Nat} {c : Call}
    (h : ShutdownCall producer c) : c.operation ≠ .dueEvents := by
  cases h <;> nofun

theorem shutdown_makes (producer : Nat) (grace : Duration) :
    (shutdown producer grace).Makes (ShutdownCall producer) :=
  ⟨.producer, fun _ => ⟨.store, fun _ => trivial⟩⟩

theorem shutdown_callsAtMost (producer : Nat) (grace : Duration) :
    (shutdown producer grace).CallsAtMost 2 :=
  ⟨by decide, fun _ => ⟨by decide, fun _ => trivial⟩⟩

/-- A shutdown closes the producer and after that the store, whatever comes of the producer. -/
theorem shutdown_ending (producer : Nat) (grace : Duration) (now : Nat) (s : Scene) :
    let closeProducer : Call := .channel (.closeProducer producer)
    let closeStore : Call := .store .close
    let between := now + min (s.faultOn .closeProducer).wait grace.wholeMillis
    (shutdown producer grace).ending now s =
      ⟨between + min (s.faultOn .closeStore).wait grace.wholeMillis,
        (closeUnder "producer" grace closeProducer (s.faultOn .closeProducer)).bind fun _ =>
          closeUnder "store" grace closeStore (s.faultOn .closeStore),
        ((s.close now grace closeProducer).close between grace closeStore).enter .stopped⟩ := by
  intro closeProducer closeStore between
  have hfirst : (closeWithin "producer" grace closeProducer).ending now s =
      ⟨between, closeUnder "producer" grace closeProducer (s.faultOn .closeProducer),
        s.close now grace closeProducer⟩ :=
    closeWithin_ending "producer" grace now s fun service => ⟨(), rfl⟩
  have hsecond := closeWithin_ending "store" grace between (s.close now grace closeProducer)
    (c := closeStore) fun service => ⟨(), rfl⟩
  have hfault : (s.close now grace closeProducer).faultOn closeStore.operation =
      s.faultOn .closeStore :=
    (close_other grace now s (by simp [closeProducer, closeStore, Call.operation])).2
  rw [hfault] at hsecond
  rw [shutdown, Routine.ending_bind, closeBoth_ending, hfirst, hsecond]
  rfl

/-- When the producer and after that the store was closed, if they were in time. -/
theorem timesOf_closings (producer : Nat) (grace : Duration) (now between : Nat) (s : Scene) :
    let closed := (s.close now grace (.channel (.closeProducer producer))).close between grace
      (.store .close)
    closed.timesOf .closeProducer = s.timesOf .closeProducer ++
      (if (s.faultOn .closeProducer).wait ≤ grace.wholeMillis then
        [now + min (s.faultOn .closeProducer).wait grace.wholeMillis] else []) ∧
    closed.timesOf .closeStore = s.timesOf .closeStore ++
      (if (s.faultOn .closeStore).wait ≤ grace.wholeMillis then
        [between + min (s.faultOn .closeStore).wait grace.wholeMillis] else []) := by
  intro closed
  let closeProducer : Call := .channel (.closeProducer producer)
  let closeStore : Call := .store .close
  let half := s.close now grace closeProducer
  have hproducer : half.timesOf .closeProducer = _ :=
    timesOf_close grace now s (c := closeProducer)
  have hstore : closed.timesOf .closeStore = _ :=
    timesOf_close grace between half (c := closeStore)
  obtain ⟨htimes, hfault⟩ : half.timesOf .closeStore = s.timesOf .closeStore ∧
      half.faultOn .closeStore = s.faultOn .closeStore :=
    close_other grace now s (c := closeProducer) (by simp [closeProducer, Call.operation])
  have hother : closed.timesOf .closeProducer = half.timesOf .closeProducer :=
    (close_other grace between half (c := closeStore) (by simp [closeStore, Call.operation])).1
  constructor
  · exact hother.trans hproducer
  · rw [hstore, ← htimes, ← hfault]
    rfl

end Scheduler

end Datebook
