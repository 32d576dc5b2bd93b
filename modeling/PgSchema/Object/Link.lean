import PgSchema.Connection.Models
import PgSchema.Connection.Basic
import PgSchema.Object.Builder
import PgSchema.Object.Text

/-!
Connections as objects.

Every connection has a site of its own: a store, a lock, and what it remembers.  The site at hand is
that of the connection whose method runs; the others wait as they were left.  Events and lines of
the log are common to all, in the order in which they came.
-/

namespace PgSchema.Object

open Connection (Surroundings)
open Migration (Migrator)

/-! ### Sites -/

/-- A run at a site, and back to the site at hand before. -/
def atSite {α : Type} (id : Nat) (body : Run α) : Run α := fun c =>
  let here := c.work.site
  if here = id then body c
  else
    let enter (site : Site) (d : Course State) (sites : Array Site) (id : Nat) : Course State :=
      { d with toSite := { site with store := { site.store with events := d.store.events } }
               work := { d.work with sites, site := id } }
    let left := c.work.sites.setIfInBounds here c.toSite
    let (r, d) := body (enter (left.getD id {}) c left id)
    let left := d.work.sites.setIfInBounds id d.toSite
    (r, enter (left.getD here {}) d left here)

/-- A run that sees the transactions of no site. -/
def apart {α : Type} (body : Run α) : Run α := fun c =>
  let flags := c.work.sites.map (·.joined)
  let sites := c.work.sites.map fun s => { s with joined := false }
  let (r, d) := body { c with work := { c.work with sites } }
  let sites := d.work.sites.mapIdx fun i s => { s with joined := flags.getD i false }
  (r, { d with work := { d.work with sites } })

/-- A new site. -/
def newSite (models : Entries String) : Run Nat := do
  let s ← Action.work
  Action.changeWork fun s => { s with sites := s.sites.push { models } }
  return s.sites.size

/-! ### Links -/

namespace Link

/-- The class of connections. -/
def cls : Class := .known Connection.owner

/-- The connection that an object is. -/
def of (v : Value) : Run Link := do
  let h ← heap
  match v with
  | .object _ id =>
    match h.link? id with
    | some l => return l
    | none => refuse (.noAttribute v.sortName "pool")
  | v => refuse (.noAttribute v.sortName "pool")

/-- A run with the connection that an object is, at its site. -/
def use {α : Type} (self : Value) (body : Connection → Run α) : Run α := do
  let l ← Link.of self
  atSite l.site (body l.connection)

/-- A method of connections. -/
def method (name : String) (parameters : List (String × Option Value))
    (run : Machine → Connection → Value → Matched → Run Value) : String × Feature :=
  Object.method Connection.owner name parameters fun m self a => use self fun k => run m k self a

/-- A method that runs a statement. -/
def statement (name : String) (run : Connection → String → Json → Run Json) : String × Feature :=
  method name [("query", none), ("params", some .null)] fun _ k _ a => do
    let text ← showPlain (a.nth 0)
    let params ← showValue (a.nth 1)
    let found ← run k text params
    ofJson found

/-- A method that runs a task in a transaction. -/
def transaction (name : String) (exclusive : Bool) : String × Feature :=
  method name [("task", none)] fun m k _ a => k.transaction exclusive (m.call (a.nth 0) [] [])

/-- A method that hands a task to the workers. -/
def transactionAside (name : String) (exclusive : Bool) : String × Feature :=
  method name [("task", none)] fun m k self a => do
    let l ← Link.of self
    match l.workers with
    | some other => m.callMethod other "submit" [a.nth 0]
    | none =>
      let outcome ← apart (k.transactionAside exclusive (m.call (a.nth 0) [] []))
      return .future outcome

/-- A model as an object. -/
def ofModel (model : Model Json) : Run Value := do
  let attributes ← ofEntries model.attributes
  newObject (.model model.className) attributes

/-- A column of a row, if the row has it. -/
def cell? (m : Machine) (row : Value) (name : String) : Run (Option Value) := do
  if ← m.hasElement name row then
    let x ← elementAt row name
    return some x
  else return none

/-- The migration of a connection. -/
def migration (k : Connection) : Run Value := do
  let result ← k.ensureMigrated
  return .migration result

/-- Features for schemas and models. -/
def modelFeatures : Entries Feature :=
  [Object.method Connection.owner "get_schemas" [] fun m self _ => do
      let schemas ← m.member self "schemas"
      let items ← m.items schemas
      newList items,
   method "get_schema" [("table_name", none)] fun _ k _ a => do
      match (a.nth 0).text?.bind fun s => k.tables.find? (·.name = s) with
      | some t => return .table t
      | none =>
        let text ← showLiteral (a.nth 0)
        refuse (.noSchema text),
   method "model_class" [("schema", none)] fun m k _ a => do
      let t ← asTable m "table_name" (a.nth 0)
      let name ← k.modelClass t
      return .cls (.model name),
   method "new_model_from_row" [("schema", none), ("row", none)] fun m k _ a => do
      let t ← asTable m "columns" (a.nth 0)
      let model ← k.newModel (cell? m (a.nth 1)) t
      newObject (.model model.className) model.attributes,
   method "create_model" [("schema", none), ("factory", none)] fun m k _ a => do
      let factory := m.call (a.nth 1) [] []
      let part (made : Value) (name : String) : Run Json := do
        let x ← m.member made name
        showValue x
      match a.nth 0 with
      | .table t => k.createModel t part ofModel factory
      | other => do
        let made ← factory
        let t ← asTable m "columns" other
        k.createModel t part ofModel (pure made)]

/-- Features for statements. -/
def statementFeatures : Entries Feature :=
  [statement "execute" fun k text params => k.execute text params,
   statement "insert" fun k text params => k.insert text params,
   statement "fetch_all" fun k text params => do
      let rows ← k.fetchAll text params
      return .list rows,
   statement "fetch_one" fun k text params => k.fetchOne text params]

/-- A part of a connection that stands. -/
def part (name : String) (get : Link → Run Value) : String × Feature :=
  (name, .property fun _ self => do
    let l ← Link.of self
    get l)

/-- A part of which only the class is known. -/
def hiddenPart (sort : String) : Value := .foreign sort ("<" ++ sort ++ ">")

/-- Features for migrations, transactions, and the life of a connection. -/
def courseFeatures : Entries Feature :=
  [method "migrate" [] fun _ k _ _ => migration k,
   method "ensure_migrated" [] fun _ k _ _ => migration k,
   method "get_writable_database" [] fun _ k self _ => do
      let _ ← k.ensureMigrated
      return self,
   transaction "transaction_sync" true,
   transaction "transaction_non_exclusive_sync" false,
   transactionAside "transaction_async" true,
   transactionAside "transaction_non_exclusive_async" false,
   method "close" [] fun _ k _ _ => do
      k.close
      return .null,
   Object.method Connection.owner "__enter__" [] fun _ self _ => return self,
   method "__exit__" [("exc_type", none), ("exc", none), ("tb", none)] fun _ k _ _ => do
      k.close
      return .null,
   ("in_transaction", .property fun _ self => use self fun _ => do
      let c ← Action.course
      return .bool c.joined),
   part "schemas" fun l => return l.schemas,
   part "schema_hash" fun l => return l.hash,
   part "migrator" fun l => return l.migrator,
   ("_models", .property fun _ self => use self fun _ => do
      let c ← Action.course
      newDict (c.models.map fun (table, name) => (.text table, .cls (.model name)))),
   ("_migration", .property fun _ self => use self fun _ => do
      let c ← Action.course
      return (c.migrated.map .migration).getD .null),
   part "_owns_executor" fun l => return .bool l.connection.ownsWorkers,
   method "_run_transaction" [("task", none), ("exclusive", none)] fun m k _ a => do
      let exclusive ← isTrue (a.nth 1)
      k.transaction exclusive (m.call (a.nth 0) [] []),
   part "_executor" fun l => return l.workers.getD (hiddenPart "ThreadPoolExecutor")] ++
  [("logger", "Logger"), ("_rw_lock", "ReadWriteLock"), ("_migrate_lock", "lock"),
    ("_local", "_local")].map fun (name, sort) => part name fun _ => return hiddenPart sort

/-! ### Making connections -/

/-- A migrator as it is given: null for none, and anything that has no migrator's method is none. -/
def givenMigrator (v : Value) : Option (Except Fault Migrator) :=
  match v with
  | .migrator m => some (.ok m)
  | v => some (.error (.noAttribute v.sortName "migrate"))

/-- The classes of models that are known, by table. -/
def knownModels (h : Heap) (v : Value) : Entries String :=
  match v with
  | .dict id => (h.entries id).filterMap fun (key, x) =>
    match key.text?, x with
    | some table, .cls c => some (table, c.name)
    | _, _ => none
  | _ => []

/-- The tables among values. -/
def tablesAmong (values : List Value) : List Table :=
  values.filterMap fun
    | .table t => some t
    | _ => none

/-- A connection is set up. -/
def setUp (m : Machine) (self : Value) (a : Matched) : Run Value := do
  let s ← Action.work
  let schemas ← m.items (a.nth 1)
  let h ← heap
  let models := knownModels h (a.nth 3)
  let hash ← showValue (a.nth 2)
  let migrator := if holds h (a.nth 4) then givenMigrator (a.nth 4) else none
  let ownsWorkers := (optional (a.nth 5)).isNone
  let k ← Action.check
    (Connection.make s.world.surroundings (tablesAmong schemas) hash migrator ownsWorkers)
  let site ← newSite models
  let shownMigrator : Value := match k.migrator with
    | .ok made => .migrator made
    | .error _ => a.nth 4
  let link : Link :=
    { site, connection := k, schemas := .tuple schemas, hash := a.nth 2
      migrator := shownMigrator, workers := if holds h (a.nth 5) then some (a.nth 5) else none }
  match self with
  | .object _ id => do
    write id (.link link)
    return .null
  | _ => return .null

/-- The parameters that connections are made with. -/
def parameters : List (String × Option Value) :=
  [("pool", none), ("schemas", none), ("schema_hash", none), ("models", some .null),
   ("migrator", some .null), ("executor", some .null)]

/-- A connection on a pool of its own. -/
def connect (m : Machine) (a : Matched) : Run Value := do
  let s ← Action.work
  let conninfo ← showValue (a.nth 1)
  Connection.openPool s.world.surroundings conninfo
  m.call (a.nth 0) [.foreign "Pool" "<Pool>", a.nth 2, a.nth 3] (("models", a.nth 4) :: a.more)

/-- Features for making connections. -/
def makingFeatures : Entries Feature :=
  [Object.method Connection.owner "__init__" parameters setUp,
   ("connect", .ofClass
      ⟨{ callee := Connection.owner ++ ".connect"
         parameters := [("cls", none), ("conninfo", some .null), ("schemas", some (.tuple [])),
           ("schema_hash", some (.text "")), ("models", some .null)]
         more := true }, connect⟩)]

/-- Features of connections. -/
def features : Entries Feature :=
  makingFeatures ++ modelFeatures ++ statementFeatures ++ courseFeatures

end Link

end PgSchema.Object
