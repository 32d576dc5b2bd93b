import PgSchema.Codegen.Condition
import PgSchema.Schema.Database
import PgSchema.Text.Uppercase

/-!
The access surface of a database: eight methods for each table, and nine for the database.

Every method is a thin step to the connection or to a builder class of the table.  An insertion goes
through the one method that prepares insertions.
-/

namespace PgSchema.Codegen

open Log (Context Line)

/-- The constant that holds the schema of a table, named after the model. -/
def schemaConstant (t : Table) : String := Text.upper t.snakeName ++ "_SCHEMA"

/-- The type of a table's models: anything, if the model cannot be imported. -/
def modelType (t : Table) : String := if t.modelModule = "" then "Any" else t.modelName

/-- The type of a table's keys. -/
def keyType (t : Table) : String :=
  match t.primaryKey? with
  | some c => "Optional[" ++ c.kind.valueType ++ "]"
  | none => "Optional[Any]"

/-- The method that prepares the insertions into a table. -/
def prepareName (t : Table) : String := "prepare_insert_into_" ++ t.snakeName

/-- The methods of a table. -/
def tableOperations (t : Table) : List Operation :=
  let name := t.snakeName
  let schema := schemaConstant t
  let model := modelType t
  [{ name := "load_" ++ name ++ "_from_row", kind := .loadFromRow, returns := model
     parameters := [⟨"row", "Dict[str, Any]", some false, none⟩], body := [.load schema] },
   { name := "create_" ++ name, kind := .create, returns := model
     parameters := [⟨"factory", "Callable[[], " ++ model ++ "]", some false, none⟩]
     body := [.create schema]
     doc := some "Insert the model the factory builds; returns it with its identity." },
   { name := "relation_of_" ++ name, kind := .relation, returns := t.relationName
     body := [.derive t.relationName schema] },
   { name := "select_from_" ++ name, kind := .select, returns := t.selectorName
     body := [.derive t.selectorName schema] },
   { name := "update_" ++ name, kind := .update, returns := t.updaterName
     body := [.derive t.updaterName schema] },
   { name := "delete_from_" ++ name, kind := .delete, returns := t.deleterName
     body := [.derive t.deleterName schema] },
   { name := "insert_into_" ++ name, kind := .insert, returns := keyType t
     parameters := [⟨"model", model, some false, none⟩], body := [.insert (prepareName t)] },
   { name := prepareName t, kind := .prepareInsert, returns := t.inserterName
     parameters := [⟨"on_conflict", "OnConflict", some false, some "OnConflict.NONE"⟩,
       ⟨"skip_auto_id", "bool", none, some "False"⟩]
     body := [.prepare t.inserterName schema] }]

/-- The methods that hand a task on to the connection: name, type of the outcome, documentation. -/
def transactionForwards : List (String × String × String) :=
  [("transaction_sync", "Any", "Run task in an exclusive transaction; blocks."),
   ("transaction_async", "Future", "Submit task to run in an exclusive transaction."),
   ("transaction_non_exclusive_sync", "Any",
    "Run task in a non-exclusive transaction; blocks."),
   ("transaction_non_exclusive_async", "Future",
    "Submit task to run in a non-exclusive transaction.")]

/-- The methods of a database as a whole. -/
def databaseOperations (d : Database) : List Operation :=
  [{ name := "connect", kind := .connection, returns := "\"" ++ d.className ++ "\""
     parameters := [⟨"conninfo", "str", some true, some "None"⟩,
       ⟨"**kwargs", "Any", none, none⟩]
     body := [.connect]
     doc := some "Open a pooled connection (conninfo, else the environment).", ofClass := true },
   { name := "get_schemas", kind := .schemas, returns := "List[TableDefinition]"
     body := [.schemas] },
   { name := "get_connection", kind := .connection, returns := "DatabaseConnection"
     body := [.connection] },
   { name := "migrate", kind := .migrate, returns := "MigrationResult", body := [.migrate]
     doc := some "Blocking. Raises SchemaViolation when the schema cannot be reconciled." },
   { name := "close", kind := .connection, returns := "None", body := [.close] }] ++
  transactionForwards.map fun (name, returns, doc) =>
    { name, kind := .transaction, returns, body := [.forward name], doc := some doc
      parameters := [⟨"task", "TransactionTask", some false, none⟩] }

/-- All methods of the handle, table by table and then those of the database. -/
def accessOperations (d : Database) : List Operation :=
  d.tables.flatMap tableOperations ++ databaseOperations d

/-- What is told about the access surface. -/
def accessLine (context : Context) (d : Database) : Line :=
  let context := (context.withCoordinate .database d.className).withCoordinate .operation
    "compile_access_surface"
  ⟨.debug, .access,
    "Derived " ++ toString (accessOperations d).length ++ " access-surface operations", context⟩

end PgSchema.Codegen
