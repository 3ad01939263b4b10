import Datebook.Shutdown

/-!
# The sender

A delivery is handled by noting in the store that the event's reminder was delivered, and
then acknowledging the message where that is asked for. A message whose event is gone is
acknowledged too. Where the store fails in any other way the message is not acknowledged.

## Main definitions

* `Datebook.Sender.handle`, `Datebook.Sender.Handled`, `Datebook.Sender.HandleError`
* `Datebook.Sender.shutdown`
-/

namespace Datebook.Sender

/-- What became of a delivery. -/
inductive Handled where
  | marked
  /-- The event is gone. -/
  | missing
  deriving DecidableEq, Repr

/-- Why a delivery was not handled. -/
inductive HandleError where
  | store (eventId : Int) (source : StoreError)
  | ack (tag : Int) (source : ChannelError)
  deriving DecidableEq, Repr

/-- The wording of a handling error. -/
def HandleError.message : HandleError → String
  | .store eventId source =>
    "failed to mark event " ++ Numeral.text eventId ++ " notified: " ++ source.message
  | .ack tag source =>
    "failed to acknowledge delivery " ++ Numeral.text tag ++ ": " ++ source.message

/-- Acknowledge a delivery where the mode asks for it. -/
def settle (mode : AckMode) (consumer : Nat) (tag : Int) (handled : Handled) :
    Routine (Except HandleError Handled) :=
  match mode with
  | .auto => .done (.ok handled)
  | .manual =>
    .call (.channel (.ack consumer tag)) fun
      | .error source => .done (.error (.ack tag source))
      | .ok _ => .done (.ok handled)

/-- What the outcome of noting a delivery in the store means for the delivery. -/
def handledOf (eventId : Int) : Except StoreError Unit → Except HandleError Handled
  | .ok () => .ok .marked
  | .error (.notFound _) => .ok .missing
  | .error source => .error (.store eventId source)

/-- Note that the event's reminder was delivered, then acknowledge the delivery. -/
def handle (mode : AckMode) (consumer : Nat) (d : Delivery) :
    Routine (Except HandleError Handled) :=
  .call (.store (.markNotified d.reminder.id)) fun outcome =>
    match handledOf d.reminder.id outcome with
    | .ok handled => settle mode consumer d.tag handled
    | .error e => .done (.error e)

/-- Close the consumer, then the store. -/
def shutdown (consumer : Nat) (grace : Duration) : Routine (Except ShutdownError Unit) :=
  closeBoth (closeWithin "consumer" grace (.channel (.closeConsumer consumer)))
    (closeWithin "store" grace (.store .close))

end Datebook.Sender
