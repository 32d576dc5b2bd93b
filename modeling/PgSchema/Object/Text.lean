import PgSchema.Json.Printer
import PgSchema.Object.Heap
import PgSchema.Text.Uppercase

/-!
Values in words.

`literal` is the text of a value where it is shown as such, with texts between marks; `plain` is its
text where it becomes a part of another.  They differ for texts, for members of enumerations, and
for the parts of a schema.

In answers data are shown as they are, and objects by a field that tells what they are.  Of
functions and classes only that they can be called is shown, and of other things only the name of
their class.
-/

namespace PgSchema.Object

open Text (upper)

/-! ### Names -/

/-- Where the classes of the library are defined. -/
def homes : List (String × String) :=
  (["QueryBuilder", "Selector", "Updater", "Deleter", "Relation", "Inserter"].map
    (·, "infrastructure.query")) ++
  [("DatabaseConnection", "infrastructure.postgresql"),
   ("BaseRepository", "infrastructure.base_repository"),
   ("SchemaMigrator", "infrastructure.migration"),
   ("MigrationResult", "infrastructure.migration"), ("StepResult", "infrastructure.migration"),
   ("TableDefinition", "core.models.table"), ("ColumnDefinition", "core.models.column"),
   ("OnConflict", "core.contracts"), ("StorageKind", "core.contracts"),
   ("Future", "concurrent.futures._base")]

/-- The module that a class belongs to. -/
def Class.home : Class → String
  | .known name => (homes.lookup name).getD "builtins"
  | .model _ => "fake_models"
  | .made .. => "builtins"

/-- A class in words. -/
def Class.literal (c : Class) : String :=
  if c.ofClass = "EnumType" then "<enum " ++ Fault.marked c.name ++ ">"
  else if c.home = "builtins" then "<class " ++ Fault.marked c.name ++ ">"
  else "<class " ++ Fault.marked (c.home ++ "." ++ c.name) ++ ">"

/-- The name of a member of an enumeration, behind the name of the enumeration. -/
def memberName (enumeration text : String) : String := enumeration ++ "." ++ upper text

/-- A member of an enumeration in words. -/
def memberLiteral (enumeration text : String) : String :=
  "<" ++ memberName enumeration text ++ ": " ++ Text.literal text ++ ">"

/-- The name of a function behind the name of what it belongs to. -/
def Function.callee (h : Heap) : Function → String
  | .known "builtins" name => name
  | .known owner name => owner ++ "." ++ name
  | .defined id => ((h.definition? id).map (·.callee)).getD ""
  | .task _ => "task"
  | .factory _ => "factory"
  | .noting _ => "Recorder.__getattr__.<locals>.call"

/-! ### The parts of a schema -/

/-- The fields of a column, as values. -/
def columnFields (c : Column) : Entries Value :=
  [("name", .text c.name), ("column_name", .text c.columnName), ("storage_kind", .kind c.kind),
   ("nullable", .bool c.nullable), ("indexed", .bool c.indexed),
   ("primary_key", .bool c.primaryKey), ("auto_id", .bool c.autoId),
   ("on_conflict", .policy c.onConflict)]

/-- The fields of a table, as values. -/
def tableFields (t : Table) : Entries Value :=
  [("table_name", .text t.name), ("columns", .tuple (t.columns.map .column)),
   ("model_class_name", .text t.modelName), ("model_module", .text t.modelModule),
   ("relation_class_name", .text t.relationName), ("selector_class_name", .text t.selectorName),
   ("updater_class_name", .text t.updaterName), ("deleter_class_name", .text t.deleterName),
   ("inserter_class_name", .text t.inserterName),
   ("create_table_statement", .text t.createStatement),
   ("create_index_statements", .tuple (t.indexStatements.map .text))]

/-- The fields of the step of a migration. -/
def stepFields (s : Migration.Step) : Entries Json :=
  [("name", .text s.name), ("status", .text s.status.text), ("message", .text s.message),
   ("error", .null), ("details", .object s.details)]

/-! ### Values -/

/-- An entry as it is seen in a view of a dictionary. -/
def viewed (sort : String) (e : Value × Value) : Value :=
  match sort with
  | "dict_keys" => e.1
  | "dict_values" => e.2
  | _ => .tuple [e.1, e.2]

/-- Parts between brackets. -/
def bracketed (opening closing : String) (parts : List String) : String :=
  opening ++ ", ".intercalate parts ++ closing

/-- Fields with their values in words. -/
def assigned (fields : List (String × String)) : List String :=
  fields.map fun (name, text) => name ++ "=" ++ text

/-- The step of a migration in words. -/
def stepLiteral (s : Migration.Step) : String :=
  bracketed "StepResult(" ")" (assigned ((stepFields s).mapValues Json.display))

/-- The result of a migration in words. -/
def migrationLiteral (r : Migration.Result) : String :=
  bracketed "MigrationResult(" ")" (assigned
    [("schema_hash", r.hash.display), ("persisted_hash", r.persisted.display),
     ("timestamp", Text.literal r.timestamp), ("success", (Json.bool true).display),
     ("steps", bracketed "[" "]" (r.steps.map stepLiteral))])

section Literals

variable (h : Heap)

/-- The name of the table of a schema, which another value lacks. -/
def schemaName (schema : Value) : Except Fault Value :=
  match schema with
  | .table t => .ok (.text t.name)
  | .object c id =>
    match (h.attributes id).get? "table_name" with
    | some v => .ok v
    | none => .error (.noAttribute c.name "table_name")
  | .cls c => .error (.noTypeAttribute c.name "table_name")
  | other => .error (.noAttribute other.sortName "table_name")

/-- An attribute of an instance, null if it is not there. -/
def attributeOf (id : Nat) (name : String) : Value :=
  ((h.attributes id).get? name).getD .null

/-- The number of items of a list. -/
def itemCount : Value → Nat
  | .list id => (h.items id).length
  | _ => 0

/-- The text of a value where it is shown as such.  The lists and dictionaries that it is inside of
are only hinted at. -/
def literal : Nat → List Nat → Value → Except Fault String
  | 0, _, _ => .ok "..."
  | n + 1, around, v =>
    let parts (values : List Value) := values.mapM (literal n around)
    match v with
    | .null => .ok Json.null.display
    | .bool b => .ok (Json.bool b).display
    | .int i => .ok (Json.int i).display
    | .double x => .ok (Json.double x).display
    | .text s => .ok (Text.literal s)
    | .tuple [x] => do return bracketed "(" ",)" (← parts [x])
    | .tuple values => do return bracketed "(" ")" (← parts values)
    | .list id =>
      if id ∈ around then .ok "[...]"
      else do return bracketed "[" "]" (← (h.items id).mapM (literal n (id :: around)))
    | .dict id =>
      if id ∈ around then .ok "\x7b...\x7d"
      else do
        let texts ← (h.entries id).mapM fun (key, value) => do
          let left ← literal n around key
          let right ← literal n (id :: around) value
          return left ++ ": " ++ right
        return bracketed "\x7b" "\x7d" texts
    | .view sort id => do
      let texts ← (h.entries id).mapM fun e => literal n (id :: around) (viewed sort e)
      return sort ++ bracketed "([" "])" texts
    | .object c id =>
      if c.isKind "Inserter" then do
        let name ← schemaName h (attributeOf h id "schema")
        let table ← literal n around name
        let skip ← literal n around (attributeOf h id "skip_auto_id")
        let policy := ((attributeOf h id "policy").text?).getD ""
        return bracketed "Inserter(" ")"
          (assigned [("table", table), ("policy", policy), ("skip_auto_id", skip)])
      else if c.isKind "QueryBuilder" then do
        let name ← schemaName h (attributeOf h id "schema")
        let table ← literal n around name
        let count := itemCount h (attributeOf h id "clauses")
        return bracketed (c.name ++ "(") ")"
          (assigned [("table", table), ("conditions", toString count)])
      else .ok ("<" ++ c.name ++ " object>")
    | .cls c => .ok c.literal
    | .function f => .ok ("<function " ++ f.callee h ++ ">")
    | .method receiver f => do
      let on ← literal n around receiver
      return "<bound method " ++ f.callee h ++ " of " ++ on ++ ">"
    | .table t => do
      let texts ← (tableFields t).mapM fun (name, x) => return (name, ← literal n around x)
      return bracketed (Table.title ++ "(") ")" (assigned texts)
    | .column c => do
      let texts ← (columnFields c).mapM fun (name, x) => return (name, ← literal n around x)
      return bracketed (Column.modelName ++ "(") ")" (assigned texts)
    | .kind k => .ok (memberLiteral StorageKind.title k.text)
    | .policy p => .ok (memberLiteral OnConflict.title p.text)
    | .migration r => .ok (migrationLiteral r)
    | .step s => .ok (stepLiteral s)
    | .ofClass _ | .migrator _ | .future _ => .ok ("<" ++ v.sortName ++ " object>")
    | .foreign _ text => .ok text

/-- How deep values are shown. -/
def shownDepth : Nat := 900

/-- The text of a value where it is shown as such. -/
def literalOf (v : Value) : Except Fault String := literal h shownDepth [] v

/-- The text of a value where it becomes a part of another. -/
def plainOf (v : Value) : Except Fault String :=
  let fields (all : Entries Value) : Except Fault String := do
    let texts ← all.mapM fun (name, x) => return (name, ← literalOf h x)
    return " ".intercalate (assigned texts)
  match v with
  | .text s => .ok s
  | .kind k => .ok (memberName StorageKind.title k.text)
  | .policy p => .ok (memberName OnConflict.title p.text)
  | .table t => fields (tableFields t)
  | .column c => fields (columnFields c)
  | v => literalOf h v

end Literals

/-- The text of a value where it is shown as such, in a run. -/
def showLiteral (v : Value) : Run String := do
  let h ← heap
  Action.check (literalOf h v)

/-- The text of a value where it becomes a part of another, in a run. -/
def showPlain (v : Value) : Run String := do
  let h ← heap
  Action.check (plainOf h v)

/-! ### Values in answers -/

/-- An object with one field that tells what it is. -/
def tagged (tag : String) (value : Json) (more : Entries Json) : Json :=
  .object ((tag, value) :: more)

/-- What is shown of anything that can be called. -/
def callableMark : String := "$callable"

section Shown

variable (h : Heap)

/-- The columns of an inserter by their names. -/
def columnNames : Value → List Json
  | .tuple columns => columns.map fun
    | .column c => .text c.name
    | _ => .null
  | _ => []

/-- A value as it is shown.  One that has no end cannot be shown. -/
def shown : Nat → Value → Except Fault Json
  | 0, _ => .error .tooDeep
  | n + 1, v =>
    match v with
    | .null => .ok .null
    | .bool b => .ok (.bool b)
    | .int i => .ok (.int i)
    | .double x => .ok (.double x)
    | .text s => .ok (.text s)
    | .tuple values => (values.mapM (shown n)).map .list
    | .list id => ((h.items id).mapM (shown n)).map .list
    | .dict id => do
      let fields ← (h.entries id).mapM fun (key, x) => do
        let name ← plainOf h key
        let inner ← shown n x
        return (name, inner)
      return .object fields
    | .object c id =>
      let part (name : String) := shown n (attributeOf h id name)
      match c with
      | .model name => do
        let data ← (h.attributes id).mapM fun (key, x) => do
          let inner ← shown n x
          return (key, inner)
        return tagged "$model" (.text name) [("data", .object data)]
      | c =>
        if c.isKind "Inserter" then do
          let text ← literalOf h v
          let policy ← part "policy"
          let sql ← part "_sql"
          return tagged "$inserter" (.text c.name)
            [("repr", .text text), ("policy", policy), ("sql", sql),
             ("columns", .list (columnNames (attributeOf h id "columns")))]
        else if c.isKind "QueryBuilder" then do
          let clauses ← part "clauses"
          let bindings ← part "bindings"
          return tagged "$builder" (.text c.name) [("clauses", clauses), ("bindings", bindings)]
        else if c.isKind "Recorder" || c.isKind "DatabaseConnection" then
          return .text "$connection"
        else return .text ("$" ++ c.name)
    | .cls _ | .function _ | .method .. => .ok (.text callableMark)
    | .table t => .ok (tagged "$schema" (.text t.name) [])
    | .column c => .ok (tagged "$column" (.text c.name) [])
    | .kind k => .ok (.text k.text)
    | .policy p => .ok (.text p.text)
    | .migration r => .ok (tagged "$migration" r.toJson [("changed", .bool r.changed)])
    | .view .. | .ofClass _ | .step _ | .migrator _ | .future _ | .foreign .. =>
      .ok (.text ("$" ++ v.sortName))

end Shown

/-- A value as it is shown, in a run. -/
def showValue (v : Value) : Run Json := do
  let h ← heap
  Action.check (shown h shownDepth v)

/-- Values as they are shown, in a run. -/
def showValues (values : List Value) : Run (List Json) := Action.each showValue values

end PgSchema.Object
