import Datebook.Database.Pool
import Datebook.Settings.Programs
import Datebook.Shutdown

/-!
# The programs

Four programs work on the calendar: the scheduler, the sender, a worker that runs both, and
the server. Each reads its settings, opens the store and makes the handles it needs; the
first problem ends it with a report of what was being done and what was wrong. A program
that has started runs until it is told to stop.

## Main definitions

* `Datebook.Program`, `Datebook.Program.ofName?`
* `Datebook.Program.start`: the way up to where a program listens for the signal to stop
* `Datebook.StartError.report`: the report on standard error
* `Datebook.Program.exit`: exit code and report
-/

namespace Datebook

/-- The programs. -/
inductive Program where
  | worker
  | scheduler
  | sender
  | server
  deriving DecidableEq, Repr

/-- Why a program does not start. -/
inductive StartError where
  | settings (source : SettingsError)
  | store (source : StoreError)
  | queue (source : ChannelError)
  | producer (source : ChannelError)
  | consumer (source : ChannelError)
  deriving DecidableEq, Repr

namespace StartError

/-- The wording of a start error, from what was being done to what was wrong. -/
def chain : StartError → List String
  | .settings source => source.chain
  | .store source => ["Failed to connect to event store", source.message]
  | .queue source => ["Failed to configure queue", source.message]
  | .producer source => ["Failed to create producer", source.message]
  | .consumer source => ["Failed to create consumer", source.message]

/-- A cause in the report, its further lines set in as far as the first. -/
def setIn (margin : String) (first : String) (cause : String) : String :=
  first ++ String.ofList (cause.toList.flatMap fun c =>
    if c = '\n' then '\n' :: margin.toList else [c]) ++ "\n"

/-- The causes in the report, numbered where there are several. -/
def causesText (causes : List String) : String :=
  match causes with
  | [] => ""
  | [cause] => "\nCaused by:\n" ++ setIn "    " "    " cause
  | causes => "\nCaused by:\n" ++ String.join (causes.zipIdx.map fun (cause, i) =>
      let number := Numeral.digits i
      setIn "       "
        (String.ofList (List.replicate (5 - number.length) ' ' ++ number ++ [':', ' '])) cause)

/-- The report on an error, from its wording. -/
def reportOf : List String → String
  | [] => ""
  | outermost :: causes => "Error: " ++ outermost ++ "\n" ++ causesText causes

/-- The report on a start error. -/
def report (e : StartError) : String :=
  reportOf e.chain

end StartError

namespace Program

/-- The program with a name. -/
def ofName? (name : String) : Option Program :=
  if name = "calendar-worker" then some .worker
  else if name = "calendar-scheduler" then some .scheduler
  else if name = "calendar-sender" then some .sender
  else if name = "calendar-api" then some .server
  else none

/-- The variables that the programs read their settings from. -/
def settingNames : List String :=
  ["STORAGE_BACKEND", "DATABASE_URL", "QUEUE_BACKEND", "QUEUE_NAME", "QUEUE_ACK_MODE",
    "QUEUE_VISIBILITY_TIMEOUT_SECS", "SCHEDULER_PERIOD_SECS", "RETENTION_DAYS",
    "SHUTDOWN_GRACE_SECS", "API_ADDR", "REQUEST_TIMEOUT_MS"]

/-- Open the store, as far as it goes without a server. -/
def openStore (s : StorageSettings) : Except StoreError Unit :=
  match s with
  | .memory => .ok ()
  | .database url => (Database.RemoteStore.ofUrl url).map fun _ => ()

/-- Make a handle, as far as it goes without a server. -/
def makeHandle (place : Option String) : Except ChannelError Unit :=
  match place with
  | none => .ok ()
  | some url => (Database.RemoteHandle.ofUrl url).map fun _ => ()

/-- Make the handles on the queue that a worker needs. -/
def makeHandles (s : QueueSettings) (producer consumer : Bool) : Except StartError Unit := do
  let place ← s.place.mapError .queue
  if producer then (makeHandle place).mapError .producer
  if consumer then (makeHandle place).mapError .consumer

/-- Start a worker. -/
def startWorker (env : Environment) (producer consumer : Bool) : Except StartError Unit := do
  let settings ← (WorkerSettings.read env).mapError .settings
  (openStore settings.storage).mapError .store
  makeHandles settings.queue producer consumer

/-- Start the server. -/
def startServer (env : Environment) : Except StartError Unit := do
  let settings ← (ServerSettings.read env).mapError .settings
  (openStore settings.storage).mapError .store

/-- Start a program, up to where it listens for the signal to stop. -/
def start (p : Program) (env : Environment) : Except StartError Unit :=
  match p with
  | .worker => startWorker env true true
  | .scheduler => startWorker env true false
  | .sender => startWorker env false true
  | .server => startServer env

/-- How a program ends. -/
structure Exit where
  code : Nat
  /-- The program listened for the signal to stop, and was sent it. -/
  signalled : Bool
  report : String
  deriving DecidableEq, Repr

/-- How a program ends that is sent a signal to stop once it listens for one. -/
def exit (p : Program) (env : Environment) : Exit :=
  match p.start env with
  | .ok () => ⟨0, true, ""⟩
  | .error e => ⟨1, false, e.report⟩

end Program

end Datebook
