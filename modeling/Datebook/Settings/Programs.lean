import Datebook.Retention
import Datebook.Settings.Queue
import Datebook.Settings.SocketAddress

/-!
# Settings of the programs

The scheduler and the sender share the settings of the workers; the server has settings of
its own. The first setting that cannot be used is reported, with what it was wanted for
before what is wrong with it.

## Main definitions

* `Datebook.SettingsError`, `Datebook.SettingsError.chain`
* `Datebook.WorkerSettings.read`
* `Datebook.ServerSettings.read`
-/

namespace Datebook

/-- Why the settings of a program cannot be used. -/
inductive SettingsError where
  | storage (source : StorageSettingsError)
  | queue (source : ChannelError)
  /-- A period has to be longer than nothing. -/
  | notPositive (setting : String)
  | invalidNumber (setting value : String) (source : NumeralError)
  | invalidAddress (setting : String)
  | invalidMillis (setting : String) (source : NumeralError)
  deriving DecidableEq, Repr

/-- The wording of an error in the settings, from what was wanted to what is wrong. -/
def SettingsError.chain : SettingsError → List String
  | .storage source => ["Invalid storage configuration", source.message]
  | .queue source => ["Invalid queue configuration", source.message]
  | .notPositive setting => [setting ++ " must be positive"]
  | .invalidNumber setting value source =>
    [setting ++ " has an invalid value: " ++ value, source.message]
  | .invalidAddress setting =>
    [setting ++ " must be a socket address", "invalid socket address syntax"]
  | .invalidMillis setting source =>
    [setting ++ " must be a number of milliseconds", source.message]

/-- A number up to a bound with white space around it. -/
def readTrimmed (bound : Nat) (value : String) : Except NumeralError Nat :=
  Numeral.readNat bound (Text.trimChars value.toList)

/-! ### Workers -/

/-- The settings of the scheduler and the sender. -/
structure WorkerSettings where
  storage : StorageSettings
  queue : QueueSettings
  /-- The time between two ticks. -/
  period : Duration := .ofSeconds 60
  retention : Retention := .year
  grace : Duration := .ofSeconds 5

namespace WorkerSettings

/-- The number that a variable is set to; white space alone counts as not set. -/
def number? (env : Environment) (bound : Nat) (setting : String) :
    Except SettingsError (Option Nat) :=
  match env.nonBlank? setting with
  | none => .ok none
  | some value =>
    match readTrimmed bound value with
    | .ok n => .ok (some n)
    | .error e => .error (.invalidNumber setting value e)

/-- The settings of the workers. -/
def read (env : Environment) : Except SettingsError WorkerSettings := do
  let storage ← (StorageSettings.read env).mapError .storage
  let queue ← (QueueSettings.read env).mapError .queue
  let period ← number? env Numeral.maxWord64 "SCHEDULER_PERIOD_SECS"
  if period = some 0 then .error (.notPositive "SCHEDULER_PERIOD_SECS")
  let retention ← number? env Numeral.maxWord32 "RETENTION_DAYS"
  let grace ← number? env Numeral.maxWord64 "SHUTDOWN_GRACE_SECS"
  .ok {
    storage
    queue
    period := .ofSeconds (period.getD 60)
    retention := (retention.map .days).getD .year
    grace := .ofSeconds (grace.getD 5) }

end WorkerSettings

/-! ### The server -/

/-- The settings of the server. -/
structure ServerSettings where
  storage : StorageSettings
  address : SocketAddress
  /-- The time limit on each call on the store. -/
  limit : Duration := .ofSeconds 2
  grace : Duration := .ofSeconds 5

namespace ServerSettings

/-- The settings of the server. -/
def read (env : Environment) : Except SettingsError ServerSettings := do
  let storage ← (StorageSettings.read env).mapError .storage
  let address ← match SocketAddress.ofText? ((env.get? "API_ADDR").getD "0.0.0.0:9000") with
    | some address => .ok address
    | none => .error (.invalidAddress "API_ADDR")
  let limit ← match env.get? "REQUEST_TIMEOUT_MS" with
    | none => .ok (.ofSeconds 2)
    | some value =>
      match readTrimmed Numeral.maxWord64 value with
      | .ok n => .ok (.ofMillis n)
      | .error e => .error (.invalidMillis "REQUEST_TIMEOUT_MS" e)
  let grace := (env.get? "SHUTDOWN_GRACE_SECS").bind fun value =>
    (readTrimmed Numeral.maxWord64 value).toOption
  .ok { storage, address, limit, grace := .ofSeconds (grace.getD 5) }

end ServerSettings

end Datebook
