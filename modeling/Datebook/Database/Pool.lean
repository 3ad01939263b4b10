import Datebook.Database.Configuration
import Datebook.EventStore.Call
import Datebook.Queue.Channel

/-!
# A database that was never reached

A store and handles that work on a database can be made, used and closed before any server
is reached. What they answer is then settled by their own state: by the rules an event has
to keep, by the link of a handle, and by whether the pool of connections is closed. Where
none of these settles it the answer would be up to a server, and is `none` here.

## Main definitions

* `Datebook.Database.RemoteStore`, `Datebook.Database.RemoteStore.answer?`
* `Datebook.Database.RemoteHandle`, with `connect?`, `publish?`, `receive?`, `ack?`, `close`
-/

namespace Datebook.Database

/-! ### The store -/

/-- What is wrong with asking a closed pool for a connection. -/
def closedPool : String :=
  "attempted to acquire a connection on a closed pool"

/-- A store in a database, by the state of its pool. -/
structure RemoteStore where
  closed : Bool := false
  deriving DecidableEq, Repr

namespace RemoteStore

/-- The store in the database with a URL. -/
def ofUrl (url : String) : Except StoreError RemoteStore :=
  match checkConfiguration url with
  | .ok () => .ok {}
  | .error e => .error (.database e.message)

/-- A query, which needs a connection. -/
def query? {α : Type} (s : RemoteStore) : Option (Except StoreError α) :=
  if s.closed then some (.error (.database closedPool)) else none

/-- A query on an event that is checked first. -/
def checked? {α : Type} (s : RemoteStore) (check : Except Violation Unit) :
    Option (Except StoreError α) :=
  match check with
  | .error v => some (.error (.validation v))
  | .ok () => s.query?

/-- The reply to a call, and the store after it. -/
def answer? (s : RemoteStore) : (c : StoreCall) → Option (Except StoreError c.Reply) × RemoteStore
  | .connect =>
    (if s.closed then some (.error (.database ("while executing migrations: " ++ closedPool)))
      else none, s)
  | .close => (some (.ok ()), ⟨true⟩)
  | .insert e => (s.checked? e.validate, s)
  | .update e => (s.checked? e.validateChange, s)
  | .delete _ => (s.query?, s)
  | .get _ => (s.query?, s)
  | .all _ => (s.query?, s)
  | .range _ _ => (s.query?, s)
  | .busy _ _ _ => (s.query?, s)
  | .due _ => (s.query?, s)
  | .purge _ => (s.query?, s)
  | .markNotified _ => (s.query?, s)

end RemoteStore

/-! ### Handles -/

/-- A handle on a queue in a database, by its link and the state of its pool. -/
structure RemoteHandle where
  link : Link := .disconnected
  closed : Bool := false
  deriving DecidableEq, Repr

namespace RemoteHandle

/-- A handle on a queue in the database with a URL. -/
def ofUrl (url : String) : Except ChannelError RemoteHandle :=
  match checkConfiguration url with
  | .ok () => .ok {}
  | .error e => .error (.database e.message)

/-- Work on the queue, which needs a connection. -/
def query? {α : Type} (h : RemoteHandle) : Option (Except ChannelError α) :=
  if h.closed then some (.error (.database closedPool)) else none

/-- Connect the handle. A handle that is connected stays so without any query. -/
def connect? (h : RemoteHandle) : Option (Except ChannelError Unit) :=
  match h.link with
  | .closed => some (.error .closed)
  | .connected => some (.ok ())
  | .disconnected => h.query?

/-- Publish a message. -/
def publish? (h : RemoteHandle) : Option (Except ChannelError Unit) :=
  match h.link.ensureOpen with
  | .error e => some (.error e)
  | .ok () => h.query?

/-- Receive a message. -/
def receive? (h : RemoteHandle) : Option (Except ChannelError (Option Delivery)) :=
  match h.link with
  | .disconnected => some (.error .notConnected)
  | .closed => some (.ok none)
  | .connected => h.query?

/-- Acknowledge a delivery. -/
def ack? (h : RemoteHandle) (mode : AckMode) : Option (Except ChannelError Unit) :=
  match h.link.ensureOpen, mode with
  | .error e, _ => some (.error e)
  | .ok (), .auto => some (.ok ())
  | .ok (), .manual => h.query?

/-- Close the handle and its pool. -/
def close (_ : RemoteHandle) : RemoteHandle :=
  ⟨.closed, true⟩

/-- Close the pool alone. -/
def closePool (h : RemoteHandle) : RemoteHandle :=
  { h with closed := true }

end RemoteHandle

end Datebook.Database
