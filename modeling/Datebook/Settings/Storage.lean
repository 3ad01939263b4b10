import Datebook.Settings.Environment

/-!
# Where events are stored

Events are kept in memory or in a database. `STORAGE_BACKEND` says which; for a database,
`DATABASE_URL` says where it is.

## Main definitions

* `Datebook.Backend`, `Datebook.Backend.ofStorageName?`
* `Datebook.StorageSettings.read`
-/

namespace Datebook

/-- Where something is kept. -/
inductive Backend where
  | memory
  | database
  deriving DecidableEq, Repr

/-- Why the settings of the store cannot be used. -/
inductive StorageSettingsError where
  | unknownBackend (name : String)
  | missing (setting : String)
  deriving DecidableEq, Repr

/-- The wording of an error in the settings of the store. -/
def StorageSettingsError.message : StorageSettingsError → String
  | .unknownBackend name =>
    "unknown storage backend: " ++ name ++ " (expected \"memory\" or \"sql\")"
  | .missing setting => setting ++ " must be set for the sql storage backend"

namespace Backend

/-- The backend with a name. -/
def ofName? (name : String) : Option Backend :=
  if name ∈ ["memory", "in_memory", "inmemory"] then some .memory
  else if name ∈ ["sql", "postgres", "postgresql"] then some .database
  else none

/-- The backend that a setting names as the place of the events. -/
def ofStorageName (value : String) : Except StorageSettingsError Backend :=
  match ofName? (keyword value) with
  | some backend => .ok backend
  | none => .error (.unknownBackend (keyword value))

end Backend

/-- Where the events are kept. -/
inductive StorageSettings where
  | memory
  | database (url : String)
  deriving DecidableEq, Repr

namespace StorageSettings

/-- The settings of the store; without any, events are kept in memory. -/
def read (env : Environment) : Except StorageSettingsError StorageSettings := do
  let backend ← match env.nonBlank? "STORAGE_BACKEND" with
    | some value => Backend.ofStorageName value
    | none => .ok .memory
  match backend, env.get? "DATABASE_URL" with
  | .memory, _ => .ok .memory
  | .database, some url => .ok (.database url)
  | .database, none => .error (.missing "DATABASE_URL")

end StorageSettings

end Datebook
