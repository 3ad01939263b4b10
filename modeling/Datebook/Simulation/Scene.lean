import Datebook.Simulation.Fault
import Datebook.Simulation.Flag
import Datebook.Simulation.Line

/-!
# The scene of a simulation

A scene is a service together with what surrounds it: faults laid on its operations, the
notes on calls, the flag that stops it, and the line of waiting receivers. Time is counted
in milliseconds and passed to everything that needs it.

A routine on a scene goes on until it ends or a call of it is held up. A call that is held
up goes on when its delay is over, and is abandoned if a time limit strikes before; at the
very end of the limit it is still in time.

## Main definitions

* `Datebook.Scene`, `Datebook.Scene.takeFault`, `Datebook.Scene.finish`
* `Datebook.Active`: a routine under way
* `Datebook.Routine.advance`, `Datebook.Active.resume`
* `Datebook.Receive`: a receiver under way, `Datebook.Receive.poll?`
-/

namespace Datebook

/-- A call that was finished. -/
structure TraceEntry where
  time : Nat
  operation : Operation
  note : Note
  deriving DecidableEq

/-- A service with its surroundings. -/
structure Scene where
  service : Service := {}
  /-- The faults that were laid, the oldest first. -/
  faults : List (Operation × Fault) := []
  /-- The calls that were finished, the latest first. -/
  trace : List TraceEntry := []
  flag : Flag := {}
  line : Line := {}

namespace Scene

/-- The oldest fault laid on an operation, which is thereby used up. -/
def takeFault (s : Scene) (op : Operation) : Fault × Scene :=
  match s.faults.find? (·.1 == op) with
  | none => ({}, s)
  | some (_, fault) => (fault, { s with faults := s.faults.eraseP (·.1 == op) })

/-- Note that a call was finished. -/
def record (s : Scene) (now : Nat) (op : Operation) (note : Note) : Scene :=
  { s with trace := ⟨now, op, note⟩ :: s.trace }

/-- The scheduler enters a phase. -/
def enter (s : Scene) (phase : SchedulerPhase) : Scene :=
  { s with service := { s.service with phase } }

end Scene

/-- What a successful call means to those who wait in line. -/
def Call.rouse : Call → Line → Line
  | .channel (.publish _ _), line => line.callFirst
  | .channel (.closeConsumer _), line => line.callAll
  | _, line => line

namespace Scene

/-- The outcome of a call after its delay, and the scene after it. -/
def finish (s : Scene) (now : Nat) (c : Call) (failure : Option FaultKind) :
    c.Outcome × Scene :=
  match failure with
  | some kind =>
    let outcome : c.Outcome := .error (c.failureOf kind)
    (outcome, s.record now c.operation (c.note outcome))
  | none =>
    let (outcome, service) := s.service.answer c
    let line := if outcome.toBool then c.rouse s.line else s.line
    (outcome, { s with service, line }.record now c.operation (c.note outcome))

end Scene

/-! ### Routines under way -/

/-- A routine under way: it has ended, or waits for a call that is held up until a time. The
routine that takes over when a limit strikes comes with the time of that. -/
inductive Active (α : Type) : Type where
  | done (a : α)
  | held (c : Call) (failure : Option FaultKind) (due : Nat) (cut : Option (Nat × Routine α))
      (next : c.Outcome → Routine α)

/-- Go on with a routine until it ends or is held up. -/
def Routine.advance {α : Type} (now : Nat) : Routine α → Scene → Active α × Scene
  | .done a, s => (.done a, s)
  | .enter phase next, s => next.advance now (s.enter phase)
  | .call c next, s =>
    let (fault, s) := s.takeFault c.operation
    if fault.wait = 0 then
      let (outcome, s) := s.finish now c fault.failure
      (next outcome).advance now s
    else (.held c fault.failure (now + fault.wait) none next, s)
  | .within limit c next, s =>
    let (fault, s) := s.takeFault c.operation
    if fault.wait = 0 then
      let (outcome, s) := s.finish now c fault.failure
      (next (some outcome)).advance now s
    else
      (.held c fault.failure (now + fault.wait) (some (now + limit.wholeMillis, next none))
        fun outcome => next (some outcome), s)

namespace Active

/-- When a routine under way has to be seen to. -/
def wake? {α : Type} : Active α → Option Nat
  | .done _ => none
  | .held _ _ due none _ => some due
  | .held _ _ due (some (limit, _)) _ => some (min due limit)

/-- Go on with a routine that was held up, if its time has come. -/
def resume? {α : Type} (now : Nat) : Active α → Scene → Option (Active α × Scene)
  | .done _, _ => none
  | .held c failure due cut next, s =>
    if due ≤ now then
      let (outcome, s) := s.finish now c failure
      some ((next outcome).advance now s)
    else match cut with
      | some (limit, routine) => if limit ≤ now then some (routine.advance now s) else none
      | none => none

end Active

/-! ### Receivers under way -/

/-- A receiver under way: held up, waiting in line, or done. -/
inductive Receive where
  | held (due : Nat) (failure : Option FaultKind)
  | waiting (ticket : Nat)
  | done (outcome : Except ChannelError (Option Delivery))

namespace Scene

/-- A consumer looks for a message, and waits in line where there is none. -/
def look (s : Scene) (now consumer : Nat) : Receive × Scene :=
  match s.service.receive? consumer with
  | (some outcome, service) =>
    (.done outcome, { s with service }.record now .receive (.ofReceipt outcome))
  | (none, service) =>
    let (ticket, line) := s.line.join
    (.waiting ticket, { s with service, line })

/-- Receive after the delay of a fault. -/
def lookOrFail (s : Scene) (now consumer : Nat) (failure : Option FaultKind) :
    Receive × Scene :=
  match failure with
  | some kind =>
    let outcome := .error kind.onChannel
    (.done outcome, s.record now .receive (.ofReceipt outcome))
  | none => s.look now consumer

/-- Begin to receive. -/
def startReceive (s : Scene) (now consumer : Nat) : Receive × Scene :=
  let (fault, s) := s.takeFault .receive
  if fault.wait = 0 then s.lookOrFail now consumer fault.failure
  else (.held (now + fault.wait) fault.failure, s)

end Scene

namespace Receive

/-- When a receiver has to be seen to. -/
def wake? : Receive → Option Nat
  | .held due _ => some due
  | _ => none

/-- The receiver waits in line with the ticket. -/
def holds (ticket : Nat) : Receive → Bool
  | .waiting t => t == ticket
  | _ => false

/-- See to a receiver, if its time has come or it was called. -/
def poll? (now consumer : Nat) : Receive → Scene → Option (Receive × Scene)
  | .held due failure, s => if due ≤ now then some (s.lookOrFail now consumer failure) else none
  | .waiting ticket, s =>
    if s.line.hasCalled ticket then
      some ({ s with line := s.line.answer ticket }.look now consumer)
    else none
  | .done _, _ => none

end Receive

end Datebook
