import PgSchema.Schema.Table

/-!
Databases: tables in order.  No two tables have the same name, and no two models have the same name
in snake case, since methods are named after the model.
-/

namespace PgSchema

/-- A database: the package and the name of its handle class, and its tables in order. -/
structure Database where
  package : String
  className : String
  tables : List Table
  deriving DecidableEq, Repr

namespace Database

/-- The name by which reports call a database. -/
def title : String := "DatabaseDefinition"

/-- The first clash of a table with one before it, in words. -/
def clash? (before : List Table) : List Table → Option String
  | [] => none
  | t :: rest =>
    if before.any (·.name = t.name) then some ("Duplicate table " ++ Text.literal t.name)
    else match before.find? (·.snakeName = t.snakeName) with
      | some other =>
        some ("Tables " ++ Text.literal other.name ++ " and " ++ Text.literal t.name ++
          " both generate '" ++ t.snakeName ++ "' access methods")
      | none => clash? (before ++ [t]) rest

/-- A database without clashes. -/
def checkNames (d : Database) : Checked Database :=
  match clash? [] d.tables with
  | some message => Checked.complain (.rule message)
  | none => .ok d

/-- The fields of a database, read. -/
def ofFields (fields : Entries Json) : Checked Database :=
  ((Checked.field fields "package_name" none Checked.filledText).map Database.mk
    |>.ap (Checked.field fields "class_name" none Checked.filledText)
    |>.ap (Checked.field fields "tables" (some []) (Checked.list Table.check))).bind checkNames

/-- A database read from a value, or the report on it. -/
def ofJson (value : Json) : Except Fault Database :=
  let checked := match value with
    | .object fields => ofFields fields
    | _ => Checked.complain (.notObject title)
  (checked.report title .value).mapError .invalid

/-- A database of tables, with its names still to be read. -/
def ofTables (package className : Json) (tables : List Table) : Except Fault Database :=
  let checked := ((Checked.filledText package).within (.field "package_name") |>.map Database.mk
    |>.ap ((Checked.filledText className).within (.field "class_name"))
    |>.map (· tables)).bind checkNames
  (checked.report title .value).mapError .invalid

/-- The table of a name. -/
def table (d : Database) (name : Json) : Except Fault Table :=
  match name.text?.bind fun s => d.tables.find? (·.name = s) with
  | some t => .ok t
  | none => .error (.noTable d.className name)

/-- All statements, table by table; with a name, those of that table only. -/
def statements (d : Database) (only : Option String) : List String :=
  (d.tables.filter fun t => only.all (t.name = ·)).flatMap Table.statements

end Database

end PgSchema
