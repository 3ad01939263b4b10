import Datebook.Event
import Datebook.Text.Numeral

/-!
# Channels to a queue

Producers and consumers reach a queue through handles. A handle has to be connected before
it is used, and once closed stays closed.

## Main definitions

* `Datebook.AckMode`: whether a delivery is settled at once or has to be acknowledged
* `Datebook.Link`: the state of a handle
* `Datebook.ChannelError`: why an operation on a handle fails
* `Datebook.Delivery`: a reminder that was received
-/

namespace Datebook

/-- How deliveries are settled: at once, or by an acknowledgement. -/
inductive AckMode where
  | auto
  | manual
  deriving DecidableEq, Repr

/-- The name of an acknowledgement mode. -/
def AckMode.name : AckMode → String
  | .auto => "auto"
  | .manual => "manual"

/-- Why an operation on a handle fails. -/
inductive ChannelError where
  | notConnected
  | closed
  /-- The database that holds the queue has failed. -/
  | database (message : String)
  /-- A setting of the named kind has a value that is not known. -/
  | config (kind value : String)
  deriving DecidableEq, Repr

/-- The wording of a channel error. -/
def ChannelError.message : ChannelError → String
  | .notConnected => "channel is not connected"
  | .closed => "channel is closed"
  | .database message => "queue database error: " ++ message
  | .config kind value => "unknown " ++ kind ++ ": " ++ value

/-- The state of a handle. -/
inductive Link where
  | disconnected
  | connected
  | closed
  deriving DecidableEq, Repr

namespace Link

/-- Only a connected handle may be used. -/
def ensureOpen : Link → Except ChannelError Unit
  | .disconnected => .error .notConnected
  | .connected => .ok ()
  | .closed => .error .closed

/-- Connecting succeeds any number of times until the handle is closed. -/
def connect : Link → Except ChannelError Link
  | .closed => .error .closed
  | _ => .ok .connected

end Link

/-- A reminder that was received, with the tag that acknowledges it. -/
structure Delivery where
  tag : Int
  reminder : Reminder
  /-- The message was delivered before and not acknowledged. -/
  redelivered : Bool
  deriving DecidableEq

end Datebook
