import PgSchema.Failure
import PgSchema.Json.Printer
import PgSchema.Log.Line
import PgSchema.Migration.Metadata
import PgSchema.Migration.Result
import PgSchema.Schema.Identifier
import PgSchema.Schema.Table
import PgSchema.Text.Words

/-!
What a migration does to a table, planned before anything is run.

A table that is not known yet is created.  One whose text is the same gets its indexes brought in
line.  One whose text has changed cannot be kept: it is dropped and created again if that is
allowed, and otherwise the migration is refused.
-/

namespace PgSchema.Migration

open Identifier (quote)

/-- The work on a table: the statements in order, what keeps the work from going on behind them,
what is told about it, and the step. -/
structure Work where
  statements : List String
  stop : Option Fault := none
  note : Option (Log.Level × String)
  step : Step

/-- The work on a table in an empty database. -/
def installWork (t : Table) : Work where
  statements := t.statements
  note := some (.info, "Created table " ++ t.name)
  step :=
    { name := "create_table:" ++ t.name, status := .success, message := "Created " ++ t.name
      details := [("indexes", .ofNat t.indexStatements.length)] }

/-- The work on a table that is not known yet. -/
def createWork (t : Table) : Work where
  statements := t.statements
  note := some (.info, "Created new table " ++ t.name)
  step :=
    { name := "create_table:" ++ t.name, status := .success, message := "Created " ++ t.name }

/-- The work on a table that is dropped and created again. -/
def recreateWork (t : Table) : Work where
  statements := ("DROP TABLE IF EXISTS " ++ quote t.name) :: t.statements
  note := some (.warning, "Recreated table " ++ t.name ++ " (destructive)")
  step :=
    { name := "recreate_table:" ++ t.name, status := .success
      message := "Dropped and recreated " ++ t.name }

/-! ### Indexes -/

/-- The indexes of a table by name. -/
def declaredIndexes (t : Table) : Except Fault (Entries String) :=
  (t.indexStatements.mapM fun s => (IndexStatement.name s).map (·, s)).map Entries.collapse

/-- The text by which the statement of an index shows whose it is. -/
def ownerText (t : Table) : String := " ON " ++ quote t.name ++ " ("

/-- The indexes that are known to belong to a table. -/
def ownedIndexes (t : Table) (indexes : Told) : Except Fault Told :=
  indexes.filterM fun (_, statement) => statement.hasElement (ownerText t)

/-- The text that is declared for a name. -/
def declaredText? (declared : Entries String) (name : Json) : Option String :=
  name.text?.bind declared.get?

/-- The names that are known with another text than the declared one, or with none declared. -/
def droppedNames (owned : Told) (declared : Entries String) : List Json :=
  (owned.filter fun (name, statement) =>
    match declaredText? declared name with
    | some text => !statement.same (.text text)
    | none => !(statement matches .null)).map (·.1)

/-- The names that are declared with another text than the known one, or that are not known. -/
def createdNames (owned : Told) (declared : Entries String) : List String :=
  Entries.keys (declared.filter fun (name, text) =>
    !((Told.get? owned (.text name)).getD .null).same (.text text))

/-- The statements that drop indexes, up to the first name that is no text. -/
def dropStatements : List Json → List String × Option Fault
  | [] => ([], none)
  | .text name :: rest =>
    let (statements, stop) := dropStatements rest
    (("DROP INDEX IF EXISTS " ++ quote name) :: statements, stop)
  | other :: _ => ([], some (.noAttribute other.sortName "replace"))

/-- The work on the indexes of a table, from what is known and what is declared: what has changed is
dropped first and then created. -/
def indexWork (t : Table) (owned : Told) (declared : Entries String) : Work :=
  let dropped := droppedNames owned declared
  let created := createdNames owned declared
  let name := "indexes:" ++ t.name
  if dropped.isEmpty ∧ created.isEmpty then
    { statements := [], note := none
      step := { name, status := .skipped, message := "Indexes unchanged" } }
  else
    let (drops, stop) := dropStatements dropped
    { statements := drops ++ (if stop.isSome then [] else created.filterMap declared.get?)
      stop
      note := some (.info, "Indexes of " ++ t.name ++ ": dropped " ++ (Json.list dropped).display ++
        ", created " ++ (Json.texts created).display)
      step :=
        { name, status := .success
          message := "Dropped " ++ toString dropped.length ++ ", created " ++
            toString created.length
          details := [("dropped", .list dropped), ("created", .texts created)] } }

/-! ### Tables -/

/-- The refusal to lose the rows of a table. -/
def refusal (hash : Json) (p : Persisted) (t : Table) : Failure :=
  .violation ("Table " ++ t.name ++ " changed and cannot be migrated without data loss " ++
    "(persisted fingerprint " ++ p.hash.plain ++ ")") (some t.name) hash p.hash

/-- The work on the indexes of a table whose text is the declared one. -/
def keptWork (p : Persisted) (t : Table) : Except Fault Work := do
  let declared ← declaredIndexes t
  let owned ← ownedIndexes t p.indexes
  return indexWork t owned declared

/-- The work on a table in a database that is not empty.  A table of which nothing but null is told
is not known. -/
def tableWork (hash : Json) (destructive : Bool) (p : Persisted) (t : Table) :
    Except Failure Work :=
  match (p.tables.get? (.text t.name)).getD .null with
  | .null => .ok (createWork t)
  | statement =>
    if statement.same (.text t.createStatement) then (keptWork p t).mapError .fault
    else if destructive then .ok (recreateWork t)
    else .error (refusal hash p t)

/-! ### Metadata -/

/-- The rows of a table and its indexes. -/
def tableRows (t : Table) : Except Fault (List Row) :=
  (t.indexStatements.mapM fun s => (IndexStatement.name s).map fun name => Row.ofIndex name s).map
    (Row.ofTable t.name t.createStatement :: ·)

/-- The rows of a schema. -/
def metadataRows (hash : Json) (tables : List Table) : Except Fault (List Row) :=
  (tables.mapM tableRows).map fun rows => Row.ofHash hash :: rows.flatten

end PgSchema.Migration
