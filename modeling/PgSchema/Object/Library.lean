import PgSchema.Object.Builder
import PgSchema.Object.Builtin
import PgSchema.Object.Link
import PgSchema.Object.Machine
import PgSchema.Object.Recorder
import PgSchema.Object.Schema

/-!
The library: what every class has under which names, and the members of values.

Migrators, the results of migrations and their steps are read like objects.  A member is looked for
in the class of a value and in the classes that it is built on.  A property comes before the
attributes of the value itself, and everything else behind them.
-/

namespace PgSchema.Object

open Migration (Migrator Result Step)

/-! ### Migrations -/

/-- A property that is read as data. -/
def dataProperty (name : String) (get : Value → Json) : String × Feature :=
  (name, .property fun _ self => ofJson (get self))

/-- Something read of the result of a migration. -/
def readResult (get : Result → Json) : Value → Json
  | .migration r => get r
  | _ => .null

/-- Something read of a step of a migration. -/
def readStep (get : Step → Json) : Value → Json
  | .step s => get s
  | _ => .null

/-- Something read of a migrator. -/
def readMigrator (get : Migrator → Json) : Value → Json
  | .migrator m => get m
  | _ => .null

/-- Features of the results of migrations. -/
def resultFeatures : Entries Feature :=
  [dataProperty "schema_hash" (readResult (·.hash)),
   dataProperty "persisted_hash" (readResult (·.persisted)),
   dataProperty "timestamp" (readResult (.text ·.timestamp)),
   dataProperty "success" (readResult fun _ => .bool true),
   dataProperty "changed" (readResult (.bool ·.changed)),
   ("steps", .property fun _ self =>
      match self with
      | .migration r => newList (r.steps.map .step)
      | _ => return .null),
   ("to_dict", .method
      ⟨{ callee := "MigrationResult.to_dict", parameters := [("self", none)] },
       fun _ a => ofJson (readResult Result.toJson (a.nth 0))⟩)]

/-- Features of the steps of migrations. -/
def stepFeatures : Entries Feature :=
  ["name", "status", "message", "error", "details"].map fun name =>
    dataProperty name (readStep fun s => ((stepFields s).get? name).getD .null)

/-- Features of migrators. -/
def migratorFeatures : Entries Feature :=
  let method (name : String) : String × Feature :=
    (name, .method
      ⟨{ callee := "SchemaMigrator." ++ name, parameters := [("self", none), ("conn", none)] },
       fun m a => m.member (a.nth 1) (if name = "migrate" then "transaction" else "execute")⟩)
  [dataProperty "schema_hash" (readMigrator (·.hash)),
   dataProperty "metadata_table" (readMigrator (·.metadataTable)),
   dataProperty "destructive" (readMigrator (·.destructive)),
   ("schemas", .property fun _ self =>
      match self with
      | .migrator m => return .tuple (m.tables.map .table)
      | _ => return .null),
   method "migrate", method "read_persisted"]

/-! ### Classes of the library -/

/-- Features of classes of models. -/
def modelFeatures : Entries Feature :=
  [("model_validate", .ofClass
      ⟨{ callee := Model.plainClass ++ ".model_validate"
         parameters := [("cls", none), ("data", none)] },
       fun m a => do
         let h ← heap
         match a.nth 1 with
         | .dict id =>
           m.call (a.nth 0) [] ((h.entries id).map fun (key, x) => ((key.text?).getD "", x))
         | other => refuse (.notMapping other.sortName)⟩)]

/-- What a class of the library or of the language has. -/
def features : String → Entries Feature
  | "QueryBuilder" => builderFeatures
  | "Selector" => selectorFeatures
  | "Updater" => updaterFeatures
  | "Deleter" => deleterFeatures
  | "Relation" => relationFeatures
  | "Inserter" => inserterFeatures
  | "DatabaseConnection" => Link.features
  | "TableDefinition" => tableFeatures
  | "ColumnDefinition" => columnFeatures
  | "StorageKind" => kindFeatures
  | "OnConflict" => policyFeatures
  | "MigrationResult" => resultFeatures
  | "StepResult" => stepFeatures
  | "SchemaMigrator" => migratorFeatures
  | "Model" => modelFeatures
  | name => languageFeatures name

/-- The class in the library by which the members of a class are known. -/
def Class.title : Class → String
  | .model _ => "Model"
  | c => c.name

/-! ### Members -/

/-- What a class has under a name: a member that a module defines, or a feature of the library, with
the class that has it. -/
inductive Found where
  | defined (v : Value)
  | feature (owner : String) (f : Feature)
  | bare (owner : String)

/-- What a class has under a name by itself. -/
def ownMember? (h : Heap) (name : String) : Class → Option Found
  | .made _ _ members => ((h.attributes members).get? name).map .defined
  | c =>
    match (features c.title).get? name with
    | some f => some (.feature c.title f)
    | none => if name ∈ bareNames c.title then some (.bare c.title) else none

/-- What a class has under a name, by itself or from its bases. -/
def classMember? (h : Heap) (c : Class) (name : String) : Option Found :=
  c.lineage.findSome? (ownMember? h name)

namespace Found

/-- A member of a class as it is seen on a value of the class. -/
def onValue (m : Machine) (self : Value) (name : String) : Found → Run Value
  | defined (.function f) => return .method self f
  | defined (.ofClass (.function f)) => return .method (.cls self.classOf) f
  | defined v => return v
  | feature owner (.method _) | feature owner (.builtin ..) | bare owner =>
    return .method self (.known owner name)
  | feature owner (.ofClass _) => return .method (.cls self.classOf) (.known owner name)
  | feature _ (.property get) => get m self
  | feature _ (.constant v) => return v

/-- A member of a class as it is seen on the class. -/
def onClass (c : Class) (name : String) : Found → Value
  | defined (.ofClass (.function f)) => .method (.cls c) f
  | defined v => v
  | feature owner (.method _) | feature owner (.builtin ..) | bare owner =>
    .function (.known owner name)
  | feature owner (.ofClass _) => .method (.cls c) (.known owner name)
  | feature _ (.property _) => .foreign "property" "<property object>"
  | feature _ (.constant v) => v

/-- The member is computed from the value. -/
def isProperty : Found → Bool
  | feature _ (.property _) => true
  | _ => false

end Found

/-- What every value can tell of itself. -/
def commonMember? (h : Heap) (v : Value) (name : String) : Option (Run Value) :=
  match name, v with
  | "__class__", v => some (return .cls v.classOf)
  | "__dict__", .object _ id =>
    some (newDict ((h.attributes id).map fun (key, x) => (.text key, x)))
  | "__module__", .object c _ => some (return .text c.home)
  | "__module__", .cls c => some (return .text c.home)
  | "__name__", .cls c => some (return .text c.name)
  | "__qualname__", .cls c => some (return .text c.name)
  | "__doc__", .object .. | "__doc__", .cls _ => some (return .null)
  | "__call__", .cls _ | "__call__", .function _ | "__call__", .method .. => some (return v)
  | "__self__", .method self _ => some (return self)
  | "__func__", .method _ f => some (return .function f)
  | _, _ => none

/-- What every function can tell of itself. -/
def functionMember? (h : Heap) (f : Function) (name : String) : Option Value :=
  let callee := f.callee h
  match name with
  | "__qualname__" => some (.text callee)
  | "__name__" => some (.text ((callee.splitOn ".").getLastD callee))
  | "__doc__" | "__module__" =>
    match f with
    | .defined id => some (if name = "__doc__" then ((h.definition? id).map (·.doc)).getD .null
        else .null)
    | _ => none
  | _ => none

/-- A member of a value. -/
def memberOf (m : Machine) (v : Value) (name : String) : Run Value := do
  let h ← heap
  let common (otherwise : Run Value) : Run Value := (commonMember? h v name).getD otherwise
  match v with
  | .object c id =>
    if c = Recorder.cls then
      match classMember? h c name with
      | some found => found.onValue m v name
      | none => common (Recorder.member name)
    else
      let lacking := common (refuse (.noAttribute c.name name))
      match classMember? h c name with
      | some found =>
        if found.isProperty then found.onValue m v name
        else
          match (h.attributes id).get? name with
          | some x => return x
          | none => found.onValue m v name
      | none =>
        match (h.attributes id).get? name with
        | some x => return x
        | none => lacking
  | .cls c =>
    match classMember? h c name with
    | some found => return found.onClass c name
    | none =>
      common (refuse (if c.ofClass = "EnumType" then .noBareAttribute name
        else .noTypeAttribute c.name name))
  | .function f | .method _ f =>
    match functionMember? h f name with
    | some x => return x
    | none => common (refuse (.noAttribute (f.className false) name))
  | v =>
    match classMember? h v.classOf name with
    | some found => found.onValue m v name
    | none => common (refuse (.noAttribute v.sortName name))

end PgSchema.Object
