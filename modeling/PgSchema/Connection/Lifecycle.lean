import PgSchema.Connection.Basic
import PgSchema.Settings.ConnectionString

/-!
How connections are opened and closed.
-/

namespace PgSchema.Connection

open Migration (Migrator)
open Settings (Cache Defaults)

/-- What surrounds a connection: the settings, the time, and the modules of models. -/
structure Surroundings where
  settings : Cache
  now : Moment
  modules : ModelModules

namespace Surroundings

/-- The defaults that hold. -/
def defaults (s : Surroundings) : Except Fault Defaults := s.settings.get.1

end Surroundings

/-- The migrator of a schema, with the options that are given. -/
def Surroundings.migrator (s : Surroundings) (tables : List Table)
    (hash metadataTable destructive : Json) : Except Fault Migrator :=
  s.defaults.map fun d =>
    Migrator.make d.migration s.now tables hash metadataTable destructive

/-- A connection on a pool that is open. -/
def make (s : Surroundings) (tables : List Table) (hash : Json)
    (migrator : Option (Except Fault Migrator)) (ownsWorkers : Bool) :
    Except Fault Connection := do
  let migrator ← match migrator with
    | some m => pure m
    | none => (s.migrator tables hash .null .null).map .ok
  let _ ← s.defaults
  return { tables, hash, migrator, ownsWorkers, modules := s.modules }

section Actions

variable {σ : Type}

/-- A pool is opened, with a connection string that is given or that of the environment. -/
def openPool (s : Surroundings) (conninfo : Json) : Action σ Unit := do
  let d ← Action.check s.defaults
  let text ← if conninfo.isTruthy then pure conninfo
    else Action.check ((Settings.connectionString s.settings.env).map .text)
  Action.change fun c =>
    { c with store := c.store.record (.opened text d.connection.poolMin d.connection.poolMax) }
  Action.log .info .connection ("Opened connection pool (min=" ++ toString d.connection.poolMin ++
    ", max=" ++ toString d.connection.poolMax ++ ")")

/-- The pool is closed, and with it the workers that the connection has started. -/
def close (k : Connection) : Action σ Unit := do
  Action.change fun c =>
    { c with workersGone := c.workersGone || k.ownsWorkers, store := c.store.record .closed }
  Action.log .info .connection "Connection pool closed"

end Actions

end PgSchema.Connection
