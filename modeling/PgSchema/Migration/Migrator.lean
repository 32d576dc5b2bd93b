import PgSchema.Course.Basic
import PgSchema.Lock.Advisory
import PgSchema.Migration.Plan
import PgSchema.Log.Line
import PgSchema.Settings.Defaults

/-!
Migrations: a schema in the database is brought in line with the one that is declared.

Everything happens in one transaction, and its first statement takes the lock that keeps other
migrations out.  If the fingerprint in the database is the declared one, nothing is done.  Otherwise
the planned work is run, table by table, and the metadata are written anew.
-/

namespace PgSchema.Migration

open Identifier (quote)

/-- What a migration is to reach, and how.  The fingerprint and the options are what they were given
as, and only their use shows whether they are of the right sort. -/
structure Migrator where
  tables : List Table
  hash : Json
  /-- The table of metadata. -/
  metadataTable : Json
  /-- Changed tables may be dropped. -/
  destructive : Json
  /-- The time of the migration. -/
  now : Moment

namespace Migrator

/-- A migrator with the options that are given, and the defaults for the others. -/
def make (defaults : Settings.Migration) (now : Moment) (tables : List Table)
    (hash metadataTable destructive : Json) : Migrator where
  tables
  hash
  metadataTable := if metadataTable.isTruthy then metadataTable else .text defaults.metadataTable
  destructive := if destructive matches .null then .bool defaults.destructive else destructive
  now

section Statements

variable (table : String)

/-- The statement that takes the lock. -/
def lockStatement : Store.Statement := .plain "SELECT pg_advisory_xact_lock(%s)"

/-- The statement that creates the table of metadata. -/
def metadataStatement : Store.Statement :=
  .composed ("\n            CREATE TABLE IF NOT EXISTS " ++ quote table ++ " (\n" ++
    "                kind TEXT NOT NULL,\n" ++
    "                name TEXT NOT NULL,\n" ++
    "                content TEXT NOT NULL,\n" ++
    "                updated_at TIMESTAMPTZ NOT NULL DEFAULT NOW(),\n" ++
    "                PRIMARY KEY (kind, name)\n" ++
    "            )\n            ")

/-- The statement that reads the metadata. -/
def readStatement : Store.Statement :=
  .composed (Store.metadataQuery ++ quote table ++ " ORDER BY kind, name")

/-- The statement that empties the metadata. -/
def clearStatement : Store.Statement :=
  .composed (Store.emptying ++ quote table)

/-- The statement that writes a row of metadata. -/
def insertStatement : String :=
  "INSERT INTO " ++ quote table ++ " (kind, name, content) VALUES (%s, %s, %s)"

/-- The front of a fingerprint, by which it is told. -/
def brief (hash : Json) : Except Fault String := (hash.front 12).map (·.plain)

end Statements

section Runs

variable {σ : Type} (m : Migrator)

/-- The name of the table of metadata. -/
def tableName : Except Fault String :=
  match m.metadataTable with
  | .text name => .ok name
  | other => .error (.notSequence "str" other.sortName)

/-- The lock is taken; the outcome is its number. -/
def takeLock (table : String) : Action σ Int := do
  let id := Lock.id (Lock.migrationKey table)
  let _ ← Action.run lockStatement (.list [.int id])
  Action.log .debug .locking ("Acquired migration lock (lock_id=" ++ toString id ++ ")")
  return id

/-- What the metadata tell. -/
def readPersisted (table : String) : Action σ Persisted := do
  let reply ← Action.run (readStatement table) .null
  Action.check (Persisted.ofRows reply.fetched)

/-- The work on a table is run. -/
def perform (w : Work) : Action σ Step := do
  let _ ← Action.each (fun s => Action.run (.plain s) .null) w.statements
  match w.stop with
  | some fault => Action.fail (.fault fault)
  | none => pure ()
  match w.note with
  | some (level, message) => Action.log level .migration message
  | none => pure ()
  return w.step

/-- A table is brought in line. -/
def migrateTable (p : Persisted) (t : Table) : Action σ Step :=
  Action.within .table t.name <|
    match tableWork m.hash m.destructive.isTruthy p t with
    | .ok w => perform w
    | .error e => Action.fail e

/-- The metadata are written anew. -/
def saveMetadata (table : String) : Action σ Step := do
  let _ ← Action.run (clearStatement table) .null
  let rows ← Action.check (metadataRows m.hash m.tables)
  Action.onStore fun s => s.insertRows (insertStatement table) (rows.map Row.toJson)
  let shown ← Action.check (brief m.hash)
  return { name := "save_metadata", status := .success, message := "Saved fingerprint " ++ shown }

/-- The step of a migration that finds the declared fingerprint. -/
def unchangedStep (lock : Int) : Step :=
  { name := "compare_fingerprint", status := .skipped, message := "Schema fingerprint unchanged"
    details := [("lock_id", .int lock)] }

/-- The steps of a migration, inside its transaction. -/
def steps : Action σ (Persisted × List Step) := do
  let table ← Action.check m.tableName
  let lock ← takeLock table
  let _ ← Action.run (metadataStatement table) .null
  let p ← readPersisted table
  if p.hash.same m.hash then
    let shown ← Action.check (brief m.hash)
    Action.log .debug .migration ("Schema up to date (" ++ shown ++ ")")
    return (p, [unchangedStep lock])
  else
    let done ← if p.isEmpty then Action.each (fun t => perform (installWork t)) m.tables
      else Action.each (m.migrateTable p) m.tables
    let saved ← m.saveMetadata table
    return (p, done ++ [saved])

/-- What is told about a migration that changed something. -/
def summary (p : Persisted) (count : Nat) : Except Fault String := do
  let found ← brief (if p.hash.isTruthy then p.hash else .text "none")
  let declared ← brief m.hash
  return "Migrated schema " ++ found ++ " -> " ++ declared ++ " (" ++ toString count ++ " steps)"

/-- A migration on the connection at hand. -/
def migrate : Action σ Result :=
  Action.within .operation "migrate" (Action.transaction m.steps) >>= fun (p, steps) => do
    if p.hash.same m.hash then pure ()
    else
      let text ← Action.check (m.summary p steps.length)
      Action.log .info .migration text
    return ⟨m.hash, p.hash, m.now.stamp, steps⟩

end Runs

end Migrator

end PgSchema.Migration
