import Datebook.Retention
import Datebook.Shutdown

/-!
# The scheduler

A tick publishes a reminder for every event whose reminder is due and then purges old
events. The first reminder that cannot be published ends the tick, and nothing is purged; a
purge that fails is reported and is no failure of the tick.

## Main definitions

* `Datebook.Scheduler.tick`, `Datebook.Scheduler.Report`, `Datebook.Scheduler.TickError`
* `Datebook.Scheduler.shutdown`
-/

namespace Datebook

namespace SchedulerPhase

/-- The name of a phase. -/
def name : SchedulerPhase → String
  | .idle => "Idle"
  | .scanning => "Scanning"
  | .publishing => "Publishing"
  | .purging => "Purging"
  | .stopped => "Stopped"

end SchedulerPhase

namespace Scheduler

/-- What a tick did. -/
structure Report where
  due : Nat
  published : Nat
  /-- The number of events purged, unless the purge failed. -/
  purged : Option Nat
  deriving DecidableEq, Repr

/-- Why a tick fails. -/
inductive TickError where
  | scan (source : StoreError)
  | publish (eventId : Int) (source : ChannelError)
  deriving DecidableEq, Repr

/-- The wording of a tick error. -/
def TickError.message : TickError → String
  | .scan source => "failed to scan due reminders: " ++ source.message
  | .publish eventId source =>
    "failed to publish reminder for event " ++ Numeral.text eventId ++ ": " ++ source.message

/-- Publish the reminders of events, up to the first that cannot be published. -/
def publishAll (producer : Nat) : List Event → Routine (Except TickError Unit)
  | [] => .done (.ok ())
  | e :: events =>
    .call (.channel (.publish producer (.ofEvent e))) fun
      | .error source => .done (.error (.publish e.id source))
      | .ok _ => publishAll producer events

/-- Purge the events that ended before the cutoff; the report on the tick. -/
def purge (cutoff : Instant) (due : Nat) : Routine (Except TickError Report) :=
  .enter .purging <| .call (.store (.purge cutoff)) fun outcome =>
    .done (.ok ⟨due, due, outcome.toOption⟩)

/-- Scan, publish and purge. -/
def cycle (producer : Nat) (retention : Retention) (now : Instant) :
    Routine (Except TickError Report) :=
  .enter .scanning <| .call (.store (.due now)) fun
    | .error source => .done (.error (.scan source))
    | .ok (due : List Event) =>
      .enter .publishing <| (publishAll producer due).bind fun
        | .error e => .done (.error e)
        | .ok () => purge (retention.cutoff now) due.length

/-- One tick of the scheduler, as of the given instant. -/
def tick (producer : Nat) (retention : Retention) (now : Instant) :
    Routine (Except TickError Report) :=
  (cycle producer retention now).bind fun result => .enter .idle (.done result)

/-- Close the producer, then the store. -/
def shutdown (producer : Nat) (grace : Duration) : Routine (Except ShutdownError Unit) :=
  (closeBoth (closeWithin "producer" grace (.channel (.closeProducer producer)))
    (closeWithin "store" grace (.store .close))).bind fun result => .enter .stopped (.done result)

end Scheduler

end Datebook
