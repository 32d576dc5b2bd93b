import PgSchema.Schema.Database
import PgSchema.Schema.Identifier
import PgSchema.Shape
import PgSchema.Json.Access

/-!
Tables built from their columns, with the statements that create them.

The statements are a function of the names and the columns alone, and they are what the fingerprint
of a schema is taken of.
-/

namespace PgSchema

open Identifier (quote)

/-- A column inside the statement that creates its table: name, type, and either the mark of the
primary key or that no value is absent. -/
def Column.definition (c : Column) : String :=
  quote c.columnName ++ " " ++ c.kind.columnType c.autoId ++
    (if c.primaryKey then " PRIMARY KEY" else if c.nullable then "" else " NOT NULL")

namespace Table

/-- The statement that creates a table. -/
def createText (name : String) (columns : List Column) : String :=
  "CREATE TABLE IF NOT EXISTS " ++ quote name ++ " (" ++
    ", ".intercalate (columns.map Column.definition) ++ ")"

/-- The statements that create the indexes of a table: one for each indexed column, in order, but
none for primary keys. -/
def indexTexts (name : String) (columns : List Column) : List String :=
  (columns.filter fun c => c.indexed && !c.primaryKey).map fun c =>
    Index.create name [c.columnName] ""

/-- The name by which messages call the making of a table from its parts. -/
def makerName : String := "core.models.table.TableDefinition()"

/-- What is given for a table has the two names that it needs. -/
def checkGiven (fields : Entries Json) : Except Fault Unit :=
  let callee := "SqlGenerator.build_table"
  if fields.has Shape.selfName then .error (.repeatedArgument callee Shape.selfName)
  else match ["table_name", "model_class_name"].filter (!fields.has ·) with
    | [] => .ok ()
    | names => .error (.missingArguments callee names)

/-- A table built from its columns; its names are still to be read.  The statements of indexes are
never among the fields given. -/
def build (fields : Entries Json) (columns : List Column) : Except Fault Table :=
  match (fields.get? "table_name").getD .null with
  | .text name =>
    if fields.has "create_index_statements" then
      .error (.repeatedKeyword makerName "create_index_statements")
    else ((ofParts fields (.ok columns) (.ok (createText name columns))
      (.ok (indexTexts name columns))).report title .value).mapError .invalid
  | other => .error (.noAttribute other.sortName "replace")

/-- What is told about a table that was built. -/
def builtText (t : Table) : String :=
  "Generated table " ++ t.name ++ " (" ++ toString t.columns.length ++ " columns, " ++
    toString t.indexStatements.length ++ " indexes)"

/-- A table given by its fields.  If its statement is not among them, the columns are read on their
own, and the table is built from them. -/
def ofSpec (spec : Json) : Except Fault Table :=
  if (spec.field? "create_table_statement").isSome then ofJson spec
  else do
    let columns ← (← ((spec.field? "columns").getD (.list [])).elements).mapM Column.ofJson
    checkGiven spec.fields
    build spec.fields columns

/-- The table is built, and not given with its statement. -/
def isBuilt (spec : Json) : Bool := (spec.field? "create_table_statement").isNone

end Table

namespace Database

/-- What is told about a database that was put together. -/
def builtText (d : Database) : String :=
  "Assembled database " ++ d.package ++ "." ++ d.className ++ " with " ++
    toString d.tables.length ++ " tables"

end Database

end PgSchema
