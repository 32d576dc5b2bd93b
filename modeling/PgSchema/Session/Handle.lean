import PgSchema.Codegen.Compilation
import PgSchema.Object.Recorder
import PgSchema.Session.Machine
import PgSchema.Source.Statement

/-!
How sessions begin: on a recorder, on a connection with a store of its own, or on the handle of a
generated module.  For the last the database is compiled, the module is read and run, and the class
of the handle is called on a recorder.
-/

namespace PgSchema.Session

open Connection (Surroundings)
open Migration (Migrator)
open Object
open Source (Stmt)

/-- The signature by which migrators are made. -/
def migratorSignature : Signature where
  callee := "SchemaMigrator.__init__"
  parameters := [("self", none), ("schemas", none), ("schema_hash", none),
    ("metadata_table", some .null), ("destructive", some .null)]

/-- The migrator of a schema, with options by their names. -/
def migratorOf (s : Surroundings) (tables : List Table) (hash : Json) (options : Entries Json) :
    Except Fault Migrator := do
  let _ ← migratorSignature.accept [.null, .null, .null] (options.mapValues fun _ => .null)
  s.migrator tables hash ((options.get? "metadata_table").getD .null)
    ((options.get? "destructive").getD .null)

/-- A session before its first step. -/
def begin (world : World) (returns : Entries (List Json)) : State :=
  { world, returns, sites := #[{}] }

/-- What a register holds from now on. -/
def keep (name : String) (v : Value) : Run Unit :=
  Action.changeWork fun s => { s with registers := s.registers.put name v }

/-- A recorder as the connection of the session. -/
def openRecorder : Run Value := do
  let v ← newObject Recorder.cls []
  keep connectionRegister v
  return v

/-- How the connection of a session is set up. -/
structure Setup where
  tables : List Table
  hash : Json
  /-- The options of a migrator of its own. -/
  migrator : Option (Entries Json)
  /-- The connection string of a pool of its own. -/
  conninfo : Option Json
  /-- The workers are started by the connection. -/
  ownsWorkers : Bool

/-- A connection at the site at hand as the connection of the session. -/
def openConnection (setup : Setup) : Run Connection := do
  let state ← Action.work
  let s := state.world.surroundings
  let migrator ← match setup.migrator with
    | some options => do
      let m ← Action.check (migratorOf s setup.tables setup.hash options)
      pure (some (.ok m))
    | none => pure none
  match setup.conninfo with
  | some conninfo => Connection.openPool s conninfo
  | none => pure ()
  let k ← Action.check
    (Connection.make s setup.tables setup.hash migrator setup.ownsWorkers)
  let hash ← ofJson setup.hash
  let link : Link :=
    { site := state.site, connection := k, schemas := .tuple (setup.tables.map .table), hash
      migrator := (k.migrator.map .migrator).toOption.getD .null, workers := none }
  let id ← alloc (.link link)
  keep connectionRegister (.object Link.cls id)
  return k

/-! ### Handles -/

/-- What a module tells of itself: its fingerprint, the names of its tables, the names of the
classes of models by table, and whether its tables are those of the database. -/
structure Contents where
  hash : Json
  schemas : List Json
  models : Entries Json
  isSame : Bool

/-- The register with the handle. -/
def handleRegister : String := "db"

/-- The register with the class of the handle. -/
def classRegister : String := "handle_class"

/-- A name of the module at hand. -/
def moduleName (name : String) : Run Value := do
  let s ← Action.work
  match s.globals.get? name with
  | some v => return v
  | none => refuse (.noKey (.text name))

/-- A module is run. -/
def runModule (m : Machine) (body : List Stmt) : Run Unit := do
  let _ ← execAll m { place := .module } body
  return ()

/-- The classes of models by table. -/
def modelNames (m : Machine) (v : Value) : Run (Entries Json) := do
  let _ ← m.member v "items"
  let h ← heap
  let entries := match v with
    | .dict id => h.entries id
    | _ => []
  Action.each (fun (key, c) => do
    let shown ← showPlain key
    let name ← m.member c "__name__"
    let text ← showValue name
    return (shown, text)) entries

/-- What the module at hand tells of itself. -/
def contents (m : Machine) (d : Database) : Run Contents := do
  let hash ← moduleName "SCHEMA_HASH"
  let hash ← showValue hash
  let schemas ← moduleName "SCHEMAS"
  let schemas ← m.items schemas
  let names ← Action.each (fun t => m.member t "table_name") schemas
  let names ← showValues names
  let models ← moduleName "MODELS"
  let models ← modelNames m models
  let h ← heap
  return { hash, schemas := names, models
           isSame := pairwise (sameValue h) schemas (d.tables.map .table) }

/-- The handle of a database on a recorder, as the subject of the session. -/
def openHandle (d : Database) : Run Contents := do
  let m := machine callDepth
  let s ← Action.work
  let made ← Action.check (Codegen.compile s.world.surroundings.settings d none)
  let body ← Action.check (Source.readModule made.source)
  runModule m body
  let connection ← openRecorder
  let cls ← moduleName d.className
  keep classRegister cls
  let handle ← m.call cls [connection] []
  keep handleRegister handle
  contents m d

end PgSchema.Session
