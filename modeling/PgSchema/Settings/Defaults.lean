import PgSchema.Json.Access
import PgSchema.Settings.ConnectionString
import PgSchema.Shape
import PgSchema.Text.Lowercase
import PgSchema.Text.Words

/-!
Defaults of the program, and what the environment sets in their place.

The defaults are loaded once, and the first load that goes well is kept until a reset.  A load that
fails keeps nothing.  What generated text depends on is never taken from the environment.
-/

namespace PgSchema.Settings

/-- Defaults of generated text. -/
structure Generation where
  indent : String := "    "
  header : String := "Generated by the schema compiler. Do not edit."
  runtimePackage : String := "infrastructure"
  deriving DecidableEq, Repr

/-- Defaults of connections: the bounds of the pool, and how many transactions run aside. -/
structure Connection where
  poolMin : Int := 1
  poolMax : Int := 10
  workers : Int := 1
  deriving DecidableEq, Repr

/-- Defaults of migrations: the table of metadata, and whether changed tables may be dropped. -/
structure Migration where
  metadataTable : String := "schema_metadata"
  destructive : Bool := false
  deriving DecidableEq, Repr

/-- All defaults. -/
structure Defaults where
  generation : Generation := {}
  connection : Connection := {}
  migration : Migration := {}
  deriving DecidableEq, Repr

namespace Connection

/-- The bounds of the pool are numbers in order, and there is a worker. -/
def checkValues (min max workers : Json) : Except Fault Unit := do
  if ← min.isBelow 0 then throw (.poolSize min max)
  if ← max.isLess (if min.isBelow 1 matches .ok true then .int 1 else min) then
    throw (.poolSize min max)
  if ← workers.isBelow 1 then throw .noWorkers

/-- The bounds of the pool are in order, and there is a worker. -/
def check (c : Connection) : Except Fault Connection :=
  (checkValues (.int c.poolMin) (.int c.poolMax) (.int c.workers)).map fun _ => c

/-- A whole number from the environment. -/
def number (env : Environment) (name : String) (default : Int) : Except Fault Int :=
  match env.value? name with
  | none => .ok default
  | some s => Json.wholeOfText s

/-- The defaults of connections in an environment. -/
def load (env : Environment) : Except Fault Connection := do
  let poolMin ← number env "POOL_MIN_SIZE" 1
  let poolMax ← number env "POOL_MAX_SIZE" 10
  let workers ← number env "ASYNC_TRANSACTION_WORKERS" 1
  check ⟨poolMin, poolMax, workers⟩

/-- The defaults of connections, field by field. -/
def toEntries (c : Connection) : Entries Json :=
  [("pool_min_size", .int c.poolMin), ("pool_max_size", .int c.poolMax),
    ("async_transaction_workers", .int c.workers)]

end Connection

namespace Migration

/-- The table of metadata has a name that is not blank. -/
def checkTable : Json → Except Fault Unit
  | .text s => if (Text.trim s.toList).isEmpty then .error .blankMetadataTable else .ok ()
  | other => .error (.noAttribute other.sortName "strip")

/-- The table of metadata has a name that is not blank. -/
def check (m : Migration) : Except Fault Migration :=
  (checkTable (.text m.metadataTable)).map fun _ => m

/-- The words that stand for true. -/
def trueWords : List String := ["1", "true", "yes", "on"]

/-- A truth value from the environment. -/
def flag (env : Environment) (name : String) (default : Bool) : Bool :=
  match env.value? name with
  | none => default
  | some s => Text.lower (String.ofList (Text.trim s.toList)) ∈ trueWords

/-- The defaults of migrations in an environment. -/
def load (env : Environment) : Except Fault Migration :=
  check ⟨env.valueD "SCHEMA_METADATA_TABLE" "schema_metadata",
    flag env "SCHEMA_MIGRATION_DESTRUCTIVE" false⟩

/-- The defaults of migrations, field by field. -/
def toEntries (m : Migration) : Entries Json :=
  [("metadata_table", .text m.metadataTable), ("destructive", .bool m.destructive)]

end Migration

namespace Generation

/-- The defaults of generated text, field by field. -/
def toEntries (g : Generation) : Entries Json :=
  [("indent", .text g.indent), ("header", .text g.header),
    ("runtime_package", .text g.runtimePackage)]

/-- Defaults of generated text with some fields given, each by the text of its value. -/
def ofEntries (fields : Entries Json) : Generation where
  indent := ((fields.get? "indent").map Json.plain).getD ({} : Generation).indent
  header := ((fields.get? "header").map Json.plain).getD ({} : Generation).header
  runtimePackage :=
    ((fields.get? "runtime_package").map Json.plain).getD ({} : Generation).runtimePackage

end Generation

namespace Defaults

/-- All defaults in an environment. -/
def load (env : Environment) : Except Fault Defaults := do
  let connection ← Connection.load env
  let migration ← Migration.load env
  return { connection, migration }

/-- All defaults, group by group. -/
def toEntries (d : Defaults) : Entries Json :=
  [("generation", .object d.generation.toEntries), ("connection", .object d.connection.toEntries),
    ("migration", .object d.migration.toEntries)]

end Defaults

/-! ### Defaults asked for by name -/

/-- The groups of defaults. -/
inductive Group where
  | generation
  | connection
  | migration
  | all
  deriving DecidableEq, Repr

namespace Group

/-- The name of a group. -/
def name : Group → String
  | generation => "GenerationDefaults"
  | connection => "ConnectionDefaults"
  | migration => "MigrationDefaults"
  | all => "Defaults"

/-- The group of a name. -/
def ofName (name : String) : Except Fault Group :=
  match [generation, connection, migration, all].find? (·.name = name) with
  | some group => .ok group
  | none => .error (.noModuleAttribute "core.config" name)

/-- The fields of a group, with the values that they have if nothing else is given. -/
def defaults : Group → Entries Json
  | generation => Generation.toEntries {}
  | connection => Connection.toEntries {}
  | migration => Migration.toEntries {}
  | all => Defaults.toEntries {}

/-- The fields of a group hold what they may hold.  Only bounds, workers and the name of the table
of metadata are looked at. -/
def check (group : Group) (fields : Entries Json) : Except Fault Unit :=
  let value (field : String) := (fields.get? field).getD .null
  match group with
  | generation | all => .ok ()
  | connection =>
    Connection.checkValues (value "pool_min_size") (value "pool_max_size")
      (value "async_transaction_workers")
  | migration => Migration.checkTable (value "metadata_table")

/-- The fields of a group as the shape of a record. -/
def shape (group : Group) : Shape :=
  ⟨group.name, group.defaults.map fun (field, value) => (field, some value)⟩

/-- A group of defaults, with some fields given as any values. -/
def make (group : Group) (given : Entries Json) : Except Fault (Entries Json) := do
  let fields ← group.shape.fill given
  group.check fields
  return fields

/-- A group of defaults as the environment sets it.  Generated text never depends on it. -/
def load (group : Group) (env : Environment) : Except Fault (Entries Json) :=
  match group with
  | generation => .error (.noTypeAttribute group.name "from_env")
  | connection => (Connection.load env).map (·.toEntries)
  | migration => (Migration.load env).map (·.toEntries)
  | all => (Defaults.load env).map (·.toEntries)

end Group

/-! ### Defaults that are kept -/

/-- The environment, and the defaults that were loaded from it before. -/
structure Cache where
  env : Environment
  kept : Option Defaults

namespace Cache

/-- Nothing is loaded yet. -/
def start (env : Environment) : Cache := ⟨env, none⟩

/-- The defaults: those that are kept, or else those that the environment sets, which are kept. -/
def get (cache : Cache) : Except Fault Defaults × Cache :=
  match cache.kept with
  | some d => (.ok d, cache)
  | none =>
    match Defaults.load cache.env with
    | .ok d => (.ok d, { cache with kept := some d })
    | .error e => (.error e, cache)

/-- What is kept is forgotten. -/
def reset (cache : Cache) : Cache := { cache with kept := none }

/-- Variables set. -/
def set (cache : Cache) (pairs : List (String × String)) : Cache :=
  { cache with env := cache.env.merge pairs }

/-- Variables removed. -/
def unset (cache : Cache) (names : List String) : Cache :=
  { cache with env := names.foldl Entries.erase cache.env }

end Cache

end PgSchema.Settings
