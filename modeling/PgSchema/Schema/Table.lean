import PgSchema.Json.Reader
import PgSchema.Schema.Column
import PgSchema.Text.Lowercase

/-!
Tables: ordered columns, the names of the classes that are generated for the table, and the exact
text of the statements that create it and its indexes.
-/

namespace PgSchema

/-- A table. -/
structure Table where
  name : String
  columns : List Column
  modelName : String
  modelModule : String
  relationName : String
  selectorName : String
  updaterName : String
  deleterName : String
  inserterName : String
  createStatement : String
  indexStatements : List String
  deriving DecidableEq, Repr, Inhabited

namespace Table

/-- The name by which reports call a table. -/
def title : String := "TableDefinition"

/-- The name of the model inside the names of generated methods. -/
def snakeName (t : Table) : String := Text.snake t.modelName

/-- The first column that is a primary key. -/
def primaryKey? (t : Table) : Option Column := t.columns.find? (·.primaryKey)

/-- The first column that the database counts up. -/
def autoIdColumn? (t : Table) : Option Column := t.columns.find? (·.autoId)

/-- The first column that goes by a name, in the code or in the database. -/
def column? (t : Table) (name : String) : Option Column :=
  t.columns.find? fun c => c.name = name ∨ c.columnName = name

/-- The column that goes by a name. -/
def column (t : Table) (name : Json) : Except Fault Column :=
  match name.text?.bind t.column? with
  | some c => .ok c
  | none => .error (.noColumn t.name name.display)

/-- The statement that creates the table, and then those that create its indexes. -/
def statements (t : Table) : List String := t.createStatement :: t.indexStatements

/-! ### Tables as JSON values -/

/-- The fields with the names of generated classes, and what the names add to the model's. -/
def classFields : List (String × String) :=
  [("relation_class_name", "Relation"), ("selector_class_name", "Selector"),
   ("updater_class_name", "Updater"), ("deleter_class_name", "Deleter"),
   ("inserter_class_name", "Inserter")]

/-- Names of generated classes that are not given come from the name of the model. -/
def withClassNames (fields : Entries Json) : Entries Json :=
  let model := (fields.get? "model_class_name").getD .null
  if model.isTruthy then
    classFields.foldl (fun fields (field, suffix) =>
      if ((fields.get? field).getD .null).isTruthy then fields
      else fields.put field (.text (model.plain ++ suffix))) fields
  else fields

/-- The fields of a table, read, with its columns and its statements from elsewhere. -/
def ofParts (fields : Entries Json) (columns : Checked (List Column)) (create : Checked String)
    (indexes : Checked (List String)) : Checked Table :=
  let fields := withClassNames fields
  let plain (field : String) := Checked.field fields field (some "") Checked.text
  (Checked.field fields "table_name" none Checked.filledText).map Table.mk
    |>.ap columns
    |>.ap (Checked.field fields "model_class_name" none Checked.filledText)
    |>.ap (plain "model_module")
    |>.ap (plain "relation_class_name")
    |>.ap (plain "selector_class_name")
    |>.ap (plain "updater_class_name")
    |>.ap (plain "deleter_class_name")
    |>.ap (plain "inserter_class_name")
    |>.ap create
    |>.ap indexes

/-- The fields of a table, read. -/
def ofFields (fields : Entries Json) : Checked Table :=
  ofParts fields (Checked.field fields "columns" (some []) (Checked.list Column.check))
    (Checked.field fields "create_table_statement" none Checked.filledText)
    (Checked.field fields "create_index_statements" (some []) (Checked.list Checked.text))

/-- A table read from a value. -/
def check : Json → Checked Table
  | .object fields => ofFields fields
  | _ => Checked.complain (.notObject title)

/-- A table read from a value, or the report on it. -/
def ofJson (value : Json) : Except Fault Table :=
  ((check value).report title .value).mapError .invalid

/-- How deep the lists and objects of a JSON text may hold each other. -/
def maxDepth : Nat := 200

/-- A table read from a JSON text, or the report on it. -/
def ofText (source : String) : Except Fault Table :=
  let checked := match Json.read maxDepth source with
    | .ok value => check value
    | .error e => Checked.complain (.malformed (e.message source))
  (checked.report title .text).mapError .invalid

/-- A table as a value. -/
def toJson (t : Table) : Json :=
  .object [("table_name", .text t.name), ("columns", .list (t.columns.map Column.toJson)),
    ("model_class_name", .text t.modelName), ("model_module", .text t.modelModule),
    ("relation_class_name", .text t.relationName), ("selector_class_name", .text t.selectorName),
    ("updater_class_name", .text t.updaterName), ("deleter_class_name", .text t.deleterName),
    ("inserter_class_name", .text t.inserterName),
    ("create_table_statement", .text t.createStatement),
    ("create_index_statements", .texts t.indexStatements)]

/-- A table as a JSON text. -/
def toText (t : Table) : String := t.toJson.compact

end Table

end PgSchema
