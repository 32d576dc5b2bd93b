import PgSchema.Query.Basic

/-!
Prepared insertions.

The policy for rows in conflict is the one that is asked for, or else the first that a column
declares.  A row that replaces another is written over it by its primary key.
-/

namespace PgSchema.Query

open Identifier (quote)

/-- The policy that holds for a table, and the column that declares it. -/
def resolveConflict (t : Table) (given : OnConflict) : OnConflict × Option Column :=
  if given ≠ .none then (given, none)
  else
    match t.columns.find? (·.onConflict ≠ .none) with
    | some c => (c.onConflict, some c)
    | none => (.none, none)

/-- A prepared insertion. -/
structure Inserter where
  table : Table
  /-- The policy that was asked for. -/
  given : OnConflict
  /-- Numbers that the database would count up are written as the models have them. -/
  skipAutoId : Bool
  /-- The policy that holds. -/
  policy : OnConflict
  /-- The column that declares the policy, if it was not asked for. -/
  declaredOn : Option Column
  /-- The columns that are written. -/
  columns : List Column
  /-- The statement. -/
  text : String

namespace Inserter

/-- The columns that an insertion writes. -/
def writtenColumns (t : Table) (skipAutoId : Bool) : List Column :=
  t.columns.filter fun c => skipAutoId || !c.autoId

/-- The columns that a row writes over another: all but the key. -/
def overwritten (key : Column) (columns : List Column) : List Column :=
  columns.filter (·.columnName ≠ key.columnName)

/-- The clause for a row that replaces another. -/
def replaceClause (key : Column) (columns : List Column) : String :=
  let target := " ON CONFLICT (" ++ quote key.columnName ++ ") DO "
  match overwritten key columns with
  | [] => target ++ "NOTHING"
  | others =>
    target ++ "UPDATE SET " ++ ", ".intercalate (others.map fun c =>
      quote c.columnName ++ " = EXCLUDED." ++ quote c.columnName)

/-- The clause for rows in conflict. -/
def conflictClause (t : Table) (policy : OnConflict) (declaredOn : Option Column)
    (columns : List Column) : Except Fault String :=
  match policy with
  | .ignore => .ok " ON CONFLICT DO NOTHING"
  | .replace =>
    match t.primaryKey? with
    | some key => .ok (replaceClause key columns)
    | none => .error (.noConflictTarget t.name (declaredOn.map (·.columnName)))
  | _ => .ok ""

/-- The values that an insertion writes, as marks. -/
def valuesClause (columns : List Column) : String :=
  if columns.isEmpty then " DEFAULT VALUES"
  else
    " (" ++ ", ".intercalate (columns.map fun c => quote c.columnName) ++ ") VALUES (" ++
      Conditions.placeholders columns.length ++ ")"

/-- The clause that returns the key. -/
def returningClause (t : Table) : String :=
  match t.primaryKey? with
  | some key => " RETURNING " ++ quote key.columnName
  | none => ""

/-- An insertion into a table, prepared. -/
def prepare (t : Table) (given : OnConflict) (skipAutoId : Bool) : Except Fault Inserter :=
  let (policy, declaredOn) := resolveConflict t given
  let columns := writtenColumns t skipAutoId
  (conflictClause t policy declaredOn columns).map fun clause =>
    { table := t, given, skipAutoId, policy, declaredOn, columns
      text := "INSERT INTO " ++ quote t.name ++ valuesClause columns ++ clause ++
        returningClause t }

section Runs

variable {σ α β : Type} (b : Backend σ β α) (i : Inserter)

/-- The values that are written for a model, by its attributes. -/
def valuesOf (attributes : String → Action σ β) : Action σ (List β) :=
  Action.each (fun c => attributes c.name) i.columns

/-- A model is inserted. -/
def execute (attributes : String → Action σ β) : Action σ β := do
  let values ← i.valuesOf attributes
  b.insert i.text values

end Runs

end Inserter

end PgSchema.Query
