import Datebook.Calendar
import Datebook.Http.Router
import Datebook.Simulation.Background

/-!
# Sessions

A session is a simulated service that is worked with step by step. A step runs a routine,
receives, starts work in the background, changes what surrounds the service, or lets time
pass. While a call of a routine is held up, time passes and the background goes on; after
every step the background goes on until it waits, and what ended in it is reported.

## Main definitions

* `Datebook.Session`, `Datebook.Session.start`
* `Datebook.Session.run`: run a routine
* `Datebook.Session.receive`: receive, unless that means to wait
* `Datebook.Session.finishStep`, `Datebook.Session.Report`
-/

namespace Datebook

/-- A simulated service, the time, and what was delivered so far. -/
structure Session where
  settings : TaskSettings
  calendar : Calendar := {}
  now : Nat := 0
  background : Background := {}
  /-- The deliveries received, in order; those that a loop received are not among them. -/
  deliveries : List Delivery := []
  /-- The number of receivers started in the background. -/
  receivers : Nat := 0

namespace Session

/-- A session with one producer and one consumer, neither of them connected. -/
def start (settings : TaskSettings) (calendar : Calendar) (mode : AckMode) (stopped : Bool) :
    Session where
  settings
  calendar
  background :=
    { scene :=
        { service := { queue := { mode }, producers := [.disconnected], consumers := [.disconnected] }
          flag := { value := stopped } } }

/-- The scene of a session. -/
def scene (s : Session) : Scene :=
  s.background.scene

/-- The service of a session. -/
def service (s : Session) : Service :=
  s.scene.service

/-- The session with another scene. -/
def withScene (s : Session) (scene : Scene) : Session :=
  { s with background := { s.background with scene } }

/-- Change what surrounds the service. -/
def change (s : Session) (f : Scene → Scene) : Session :=
  s.withScene (f s.scene)

/-! ### Time -/

/-- Let time pass, as long as a wait can be. -/
def sleep (s : Session) (millis : Nat) : Session :=
  let target := s.now + min millis longestWait
  { s with now := target, background := s.background.elapse s.settings s.now target }

/-- Let the delay of a call pass, if there is one. -/
def delay (s : Session) (millis : Nat) : Session :=
  if millis = 0 then s else s.sleep millis

/-! ### Routines -/

/-- The fault laid on a call, which is thereby used up. -/
def takeFault (s : Session) (op : Operation) : Fault × Session :=
  let (fault, scene) := s.scene.takeFault op
  (fault, s.withScene scene)

/-- The outcome of a call, and the session after it. -/
def finish (s : Session) (c : Call) (failure : Option FaultKind) : c.Outcome × Session :=
  let (outcome, scene) := s.scene.finish s.now c failure
  (outcome, s.withScene scene)

/-- The value of a routine, and the session after it. -/
def run {α : Type} : Routine α → Session → α × Session
  | .done a, s => (a, s)
  | .enter phase next, s => run next (s.change (·.enter phase))
  | .call c next, s =>
    let (fault, s) := s.takeFault c.operation
    let (outcome, s) := (s.delay fault.wait).finish c fault.failure
    run (next outcome) s
  | .within limit c next, s =>
    let (fault, s) := s.takeFault c.operation
    if fault.wait ≤ limit.wholeMillis then
      let (outcome, s) := (s.delay fault.wait).finish c fault.failure
      run (next (some outcome)) s
    else run (next none) (s.delay limit.wholeMillis)

/-- The outcome of a single call. -/
def call (s : Session) (c : Call) : c.Outcome × Session :=
  run (.perform c) s

/-! ### Receiving -/

/-- Note a delivery. -/
def noteDelivery (s : Session) : Except ChannelError (Option Delivery) → Session
  | .ok (some d) => { s with deliveries := s.deliveries ++ [d] }
  | _ => s

/-- Receive; gives `none` where that would mean to wait, in line or for a delay to pass. -/
def receive (s : Session) (consumer : Nat) :
    Option (Except ChannelError (Option Delivery)) × Session :=
  let (fault, s) := s.takeFault .receive
  if 0 < fault.wait then (none, s)
  else match s.scene.lookOrFail s.now consumer fault.failure with
    | (.done outcome, scene) => (some outcome, (s.withScene scene).noteDelivery outcome)
    | (.waiting ticket, scene) =>
      (none, s.withScene { scene with line := scene.line.leave ticket })
    | (.held _ _, scene) => (none, s.withScene scene)

/-! ### Work in the background -/

/-- Add a task to the background. -/
def addTask (s : Session) (task : Task) : Session :=
  { s with background := { s.background with tasks := s.background.tasks ++ [task] } }

/-- Start to receive in the background; the number of the receiver is given back. -/
def startReceiver (s : Session) (consumer : Nat) : Nat × Session :=
  let (receive, scene) := s.scene.startReceive s.now consumer
  (s.receivers,
    { (s.withScene scene).addTask (.receiver s.receivers consumer receive) with
      receivers := s.receivers + 1 })

/-- Start the loop of the scheduler. -/
def startScheduler (s : Session) : Session :=
  s.addTask (.scheduler (.start s.settings.scheduler s.now))

/-- Start the loop of the sender. -/
def startSender (s : Session) : Session :=
  s.addTask (.sender {})

/-! ### The service and its surroundings -/

/-- Lay a fault on the next calls of an operation. -/
def addFault (s : Session) (op : Operation) (fault : Fault) (times : Nat) : Session :=
  s.change fun scene => { scene with faults := scene.faults ++ List.replicate times (op, fault) }

/-- Write the flag. -/
def writeFlag (s : Session) (value : Bool) : Session :=
  s.change fun scene => { scene with flag := scene.flag.write value }

/-- Drop the side that writes the flag. -/
def dropFlag (s : Session) : Session :=
  s.change fun scene => { scene with flag := scene.flag.drop }

/-- Push a message in any form. -/
def pushRaw (s : Session) (payload : Json.Bytes) : Session :=
  s.change fun scene =>
    { scene with
      service := { scene.service with queue := scene.service.queue.push payload }
      line := scene.line.callFirst }

/-- Put back all messages in flight; their number is given back. -/
def requeue (s : Session) : Nat × Session :=
  let count := s.service.queue.inFlight.length
  (count, s.change fun scene =>
    { scene with
      service := { scene.service with queue := scene.service.queue.requeue }
      line := if 0 < count then scene.line.callAll else scene.line })

/-- Make another producer; its number is given back. -/
def newProducer (s : Session) : Nat × Session :=
  (s.service.producers.length, s.change fun scene =>
    { scene with
      service := { scene.service with producers := scene.service.producers ++ [.disconnected] } })

/-- Make another consumer; its number is given back. -/
def newConsumer (s : Session) : Nat × Session :=
  (s.service.consumers.length, s.change fun scene =>
    { scene with
      service := { scene.service with consumers := scene.service.consumers ++ [.disconnected] } })

/-! ### Steps -/

/-- What ended in the background. -/
inductive Ended where
  | receiver (number : Nat) (outcome : Except ChannelError (Option Delivery))
  | scheduler (result : Except Scheduler.LoopError Unit)
  | sender (result : Except Sender.LoopError Unit)

/-- What a receiver that is over ended with. -/
def endedReceiver? : Task → Option (Nat × Except ChannelError (Option Delivery))
  | .receiver number _ (.done outcome) => some (number, outcome)
  | _ => none

/-- What a loop that is over ended with. -/
def endedLoop? : Task → Option Ended
  | .scheduler ⟨.ended result, _⟩ => some (.scheduler result)
  | .sender ⟨.ended result, _⟩ => some (.sender result)
  | _ => none

/-- What is reported after a step. -/
structure Report where
  /-- What ended in the background: receivers first, then loops, in the order of starting. -/
  ended : List Ended
  /-- The calls finished during the step, in order. -/
  trace : List TraceEntry

/-- Let the background go on until it waits, and report. -/
def finishStep (s : Session) : Report × Session :=
  let (finished, background) := (s.background.settle s.settings s.now).harvest
  let receipts := finished.filterMap endedReceiver?
  let trace := background.scene.trace.reverse
  let s := { s with background := { background with scene := { background.scene with trace := [] } } }
  ({ ended := receipts.map (fun (number, outcome) => .receiver number outcome) ++
       finished.filterMap endedLoop?
     trace },
    receipts.foldl (fun s receipt => s.noteDelivery receipt.2) s)

end Session

end Datebook
