import Datebook.Sender
import Datebook.Simulation.Scene

/-!
# The sender's loop

The sender receives and handles deliveries until there are no more or the flag asks it to
stop; a delivery that was not handled does not end the loop. Any news of the flag while it
waits for a message makes it close the consumer and take what the receiver, which goes on
waiting meanwhile, still brings. A receiver that fails for a passing reason is tried again
after a second, unless there is news of the flag before; a handle that cannot be used ends
the loop with an error. In the end the consumer and the store are closed.

The loop is given in small steps, so that anything else may happen between two of them.

## Main definitions

* `Datebook.Sender.Loop`, `Datebook.Sender.Stage`, `Datebook.Sender.LoopError`
* `Datebook.Sender.Loop.step?`: one step, where there is one to be taken
-/

namespace Datebook.Sender

/-- What a loop of the sender works with. -/
structure LoopSettings where
  consumer : Nat := 0
  grace : Duration := .ofSeconds 5

/-- Why a loop of the sender fails. -/
inductive LoopError where
  | receive (source : ChannelError)
  | shutdown (source : ShutdownError)
  deriving DecidableEq

/-- The wording of a loop error. -/
def LoopError.message : LoopError → String
  | .receive source => "failed to receive: " ++ source.message
  | .shutdown source => source.message

/-- Milliseconds between a receiver that failed for a passing reason and the next. -/
def retryDelay : Nat := 1000

/-- Where a loop of the sender stands. -/
inductive Stage where
  /-- It is about to look at the flag. -/
  | choosing
  /-- It waits for a message or for news of the flag. -/
  | receiving (receive : Receive)
  /-- It closes the consumer, while its receiver goes on waiting. -/
  | releasing (work : Active (Except ShutdownError Unit)) (receive : Receive)
  /-- It waits for what its receiver still brings. -/
  | collecting (receive : Receive)
  | handling (work : Active (Except HandleError Handled))
  /-- It waits to receive again. -/
  | pausing (wakeAt : Nat)
  | stopping (fatal : Option ChannelError) (work : Active (Except ShutdownError Unit))
  | ended (result : Except LoopError Unit)

/-- A loop of the sender, with the number of writes of the flag it has seen. -/
structure Loop where
  stage : Stage := .choosing
  seen : Nat := 0

/-- What a loop ends with: the error that ended it comes before one of the shutdown. -/
def conclusion (fatal : Option ChannelError) (closed : Except ShutdownError Unit) :
    Except LoopError Unit :=
  match fatal with
  | some e => .error (.receive e)
  | none => closed.mapError .shutdown

namespace Loop

/-- There is news of the flag, or nobody left to write it. -/
def hasNews (loop : Loop) (s : Scene) : Bool :=
  s.flag.hasNews loop.seen || s.flag.dropped

/-- Begin to shut down. -/
def stop (settings : LoopSettings) (now : Nat) (fatal : Option ChannelError) (loop : Loop)
    (s : Scene) : Loop × Scene :=
  let (work, s) := (shutdown settings.consumer settings.grace).advance now s
  ({ loop with stage := .stopping fatal work }, s)

/-- Begin to close the consumer on news of the flag. -/
def release (settings : LoopSettings) (now : Nat) (receive : Receive) (loop : Loop)
    (s : Scene) : Loop × Scene :=
  let closing := closeWithin "consumer" settings.grace (.channel (.closeConsumer settings.consumer))
  let (work, s) := closing.advance now s
  ({ loop with stage := .releasing work receive, seen := s.flag.writes }, s)

/-- Go on with what was received. -/
def take (settings : LoopSettings) (now : Nat) (outcome : Except ChannelError (Option Delivery))
    (loop : Loop) (s : Scene) : Loop × Scene :=
  match outcome with
  | .ok (some d) =>
    let (work, s) := (handle s.service.queue.mode settings.consumer d).advance now s
    ({ loop with stage := .handling work }, s)
  | .ok none => loop.stop settings now none s
  | .error .notConnected => loop.stop settings now (some .notConnected) s
  | .error .closed => loop.stop settings now (some .closed) s
  | .error _ => ({ loop with stage := .pausing (now + retryDelay) }, s)

/-- One step of the loop, where there is one to be taken now. -/
def step? (settings : LoopSettings) (now : Nat) (loop : Loop) (s : Scene) :
    Option (Loop × Scene) :=
  match loop.stage with
  | .choosing =>
    if s.flag.value then some (loop.stop settings now none s)
    else
      let (receive, s) := s.startReceive now settings.consumer
      some ({ loop with stage := .receiving receive }, s)
  | .receiving (.done outcome) => some (loop.take settings now outcome s)
  | .receiving receive =>
    match receive.poll? now settings.consumer s with
    | some (receive, s) => some ({ loop with stage := .receiving receive }, s)
    | none => if loop.hasNews s then some (loop.release settings now receive s) else none
  | .releasing (.done _) receive => some ({ loop with stage := .collecting receive }, s)
  | .releasing work receive =>
    (work.resume? now s).map fun (work, s) => ({ loop with stage := .releasing work receive }, s)
  | .collecting (.done outcome) => some (loop.take settings now outcome s)
  | .collecting receive =>
    (receive.poll? now settings.consumer s).map fun (receive, s) =>
      ({ loop with stage := .collecting receive }, s)
  | .handling (.done _) => some ({ loop with stage := .choosing }, s)
  | .handling work =>
    (work.resume? now s).map fun (work, s) => ({ loop with stage := .handling work }, s)
  | .pausing wakeAt =>
    if loop.hasNews s then some ({ loop with seen := s.flag.writes }.stop settings now none s)
    else if wakeAt ≤ now then some ({ loop with stage := .choosing }, s)
    else none
  | .stopping fatal (.done closed) =>
    some ({ loop with stage := .ended (conclusion fatal closed) }, s)
  | .stopping fatal work =>
    (work.resume? now s).map fun (work, s) => ({ loop with stage := .stopping fatal work }, s)
  | .ended _ => none

/-- When the loop has to be seen to. -/
def wake? (loop : Loop) : Option Nat :=
  match loop.stage with
  | .choosing | .ended _ => none
  | .receiving receive | .collecting receive => receive.wake?
  | .releasing work _ => work.wake?
  | .handling work => work.wake?
  | .pausing wakeAt => some wakeAt
  | .stopping _ work => work.wake?

/-- The loop waits in line with the ticket. -/
def holds (ticket : Nat) (loop : Loop) : Bool :=
  match loop.stage with
  | .receiving receive | .collecting receive => receive.holds ticket
  | _ => false

end Loop

end Datebook.Sender
