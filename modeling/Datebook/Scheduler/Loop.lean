import Datebook.Scheduler
import Datebook.Simulation.Scene

/-!
# The scheduler's loop

The scheduler ticks once in every period, for the first time one period after its start,
until the flag asks it to stop; then it shuts down. A tick that fails does not end the loop.
After a tick that began more than five milliseconds late, periods are counted from its
beginning. A loop without a period ends at once, and nothing is closed.

The loop is given in small steps, so that anything else may happen between two of them.

## Main definitions

* `Datebook.Scheduler.Loop`, `Datebook.Scheduler.Stage`, `Datebook.Scheduler.LoopError`
* `Datebook.Scheduler.Loop.step?`: one step, where there is one to be taken
-/

namespace Datebook.Scheduler

/-- What a loop of the scheduler works with. -/
structure LoopSettings where
  producer : Nat := 0
  /-- Milliseconds between two ticks. -/
  period : Nat := 60000
  retention : Retention := .year
  grace : Duration := .ofSeconds 5
  /-- The instant that ticks take for the present. -/
  today : Instant

/-- Why a loop of the scheduler fails. -/
inductive LoopError where
  /-- The time between two ticks is nothing. -/
  | noPeriod
  | shutdown (source : ShutdownError)
  deriving DecidableEq

/-- Where a loop of the scheduler stands. -/
inductive Stage where
  /-- It waits for the next tick or for news of the flag. -/
  | waiting (tickAt : Nat)
  | ticking (nextAt : Nat) (work : Active (Except TickError Report))
  | stopping (work : Active (Except ShutdownError Unit))
  | ended (result : Except LoopError Unit)

/-- A loop of the scheduler, with the number of writes of the flag it has seen. -/
structure Loop where
  stage : Stage
  seen : Nat := 0

/-- The time of the tick after one that was planned for a time and begins now. -/
def nextTick (period planned now : Nat) : Nat :=
  if planned + 5 < now then now + period else planned + period

namespace Loop

/-- A loop that starts now. -/
def start (settings : LoopSettings) (now : Nat) : Loop :=
  if settings.period = 0 then { stage := .ended (.error .noPeriod) }
  else { stage := .waiting (now + settings.period) }

/-- Begin to shut down. -/
def stop (settings : LoopSettings) (now : Nat) (loop : Loop) (s : Scene) : Loop × Scene :=
  let (work, s) := (shutdown settings.producer settings.grace).advance now s
  ({ loop with stage := .stopping work }, s)

/-- Begin a tick. -/
def beginTick (settings : LoopSettings) (planned now : Nat) (loop : Loop) (s : Scene) :
    Loop × Scene :=
  let (work, s) := (tick settings.producer settings.retention settings.today).advance now s
  ({ loop with stage := .ticking (nextTick settings.period planned now) work }, s)

/-- One step of the loop, where there is one to be taken now. -/
def step? (settings : LoopSettings) (now : Nat) (loop : Loop) (s : Scene) :
    Option (Loop × Scene) :=
  match loop.stage with
  | .waiting tickAt =>
    if s.flag.value then some (loop.stop settings now s)
    else if s.flag.hasNews loop.seen then some ({ loop with seen := s.flag.writes }, s)
    else if s.flag.dropped then some (loop.stop settings now s)
    else if tickAt ≤ now then some (loop.beginTick settings tickAt now s)
    else none
  | .ticking nextAt (.done _) => some ({ loop with stage := .waiting nextAt }, s)
  | .ticking nextAt work =>
    (work.resume? now s).map fun (work, s) => ({ loop with stage := .ticking nextAt work }, s)
  | .stopping (.done result) => some ({ loop with stage := .ended (result.mapError .shutdown) }, s)
  | .stopping work =>
    (work.resume? now s).map fun (work, s) => ({ loop with stage := .stopping work }, s)
  | .ended _ => none

/-- When the loop has to be seen to. -/
def wake? (loop : Loop) : Option Nat :=
  match loop.stage with
  | .waiting tickAt => some tickAt
  | .ticking _ work => work.wake?
  | .stopping work => work.wake?
  | .ended _ => none

end Loop

end Datebook.Scheduler
