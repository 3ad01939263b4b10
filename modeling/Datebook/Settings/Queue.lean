import Datebook.Backoff
import Datebook.Queue.Channel
import Datebook.Settings.Storage

/-!
# Where messages are queued

Messages are queued in memory or in a database. Without `QUEUE_BACKEND` they are queued in
the database where `DATABASE_URL` is set, and in memory otherwise.

## Main definitions

* `Datebook.Backend.ofQueueName`, `Datebook.AckMode.ofName`
* `Datebook.QueueSettings`, `Datebook.QueueSettings.read`
* `Datebook.QueueSettings.place`: a queue in a database needs to know where that is
-/

namespace Datebook

/-- The backend that a setting names as the place of the messages. -/
def Backend.ofQueueName (value : String) : Except ChannelError Backend :=
  match ofName? (keyword value) with
  | some backend => .ok backend
  | none => .error (.config "queue backend" (keyword value))

/-- The acknowledgement mode with a name. -/
def AckMode.ofName (value : String) : Except ChannelError AckMode :=
  if keyword value = "auto" then .ok .auto
  else if keyword value = "manual" then .ok .manual
  else .error (.config "ack mode" (keyword value))

/-- How messages are queued. -/
structure QueueSettings where
  backend : Backend := .memory
  name : String := "notification"
  ackMode : AckMode := .auto
  databaseUrl : Option String := none
  polling : Polling := {}
  /-- How long a delivery in a database may go without acknowledgement. -/
  visibility : Duration := .ofSeconds 60

namespace QueueSettings

/-- The seconds that a value stands for, where it is a numeral from end to end. -/
def seconds? (value : String) : Option Duration :=
  (Numeral.readNat Numeral.maxWord64 value.toList).toOption.map .ofSeconds

/-- The settings of the queue. -/
def read (env : Environment) : Except ChannelError QueueSettings := do
  let databaseUrl := env.get? "DATABASE_URL"
  let backend ← match env.nonBlank? "QUEUE_BACKEND" with
    | some value => Backend.ofQueueName value
    | none => .ok (if databaseUrl.isSome then .database else .memory)
  let name := (env.nonBlank? "QUEUE_NAME").getD "notification"
  let ackMode ← match env.nonBlank? "QUEUE_ACK_MODE" with
    | some value => AckMode.ofName value
    | none => .ok .auto
  let visibility :=
    ((env.get? "QUEUE_VISIBILITY_TIMEOUT_SECS").bind seconds?).getD (.ofSeconds 60)
  .ok { backend, name, ackMode, databaseUrl, visibility }

/-- The place of the database, `none` for a queue in memory. -/
def place (s : QueueSettings) : Except ChannelError (Option String) :=
  match s.backend, s.databaseUrl with
  | .memory, _ => .ok none
  | .database, some url => .ok (some url)
  | .database, none =>
    .error (.config "setting" "DATABASE_URL is required for the postgres queue")

end QueueSettings

end Datebook
