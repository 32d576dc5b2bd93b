import PgSchema.Connection.Basic
import PgSchema.Query.Inserter
import PgSchema.Query.Statement

/-!
Models of a connection: rows become models, and models become rows.
-/

namespace PgSchema.Connection

open Identifier (quote)
open Query (Backend Conditions Inserter Selector)

section Models

variable {σ α : Type} (k : Connection)

/-- The class of models of a table: the one that is known, or else the one that the table names,
which is imported and known from then on. -/
def modelClass (t : Table) : Action σ String := do
  match (← Action.course).models.get? t.name with
  | some name => return name
  | none =>
    if t.modelModule = "" then Action.fail (.fault (.noModel t.name))
    else
      let classes ← Action.check (k.modules.find t.modelModule)
      if t.modelName ∈ classes then
        Action.change fun c => { c with models := c.models.put t.name t.modelName }
        return t.modelName
      else Action.fail (.fault (.noModuleAttribute t.modelModule t.modelName))

/-- The attributes of a row's model: the columns that the row has, by their names in the code. -/
def rowAttributes {β : Type} (cell? : String → Action σ (Option β)) (t : Table) :
    Action σ (Entries β) := do
  let found ← Action.each (fun c => do
    let value ← cell? c.columnName
    return value.map (c.name, ·)) t.columns
  return Entries.collapse (found.filterMap id)

/-- The model of a row, which is read by the names of its columns. -/
def newModel {β : Type} (cell? : String → Action σ (Option β)) (t : Table) :
    Action σ (Model β) := do
  let attributes ← rowAttributes cell? t
  let name ← k.modelClass t
  return ⟨name, attributes⟩

/-- A connection as queries use it. -/
def backend : Backend σ Json (Model Json) where
  fetchAll text values := k.fetchAll text (.list values)
  fetchOne text values := k.fetchOne text (.list values)
  execute text values := k.execute text (.list values)
  insert text values := k.insert text (.list values)
  newModel t row := k.newModel (fun name => Action.check (row.cell? name)) t
  holds value := return value.isTruthy
  entry row name := Action.check (row.entry name)
  zero := .int 0

/-- The selection of a row by its key. -/
def keySelector (t : Table) (key : Column) (value : Json) : Selector Json :=
  { table := t
    conditions := ({} : Conditions Json).add
      (quote key.columnName ++ " = " ++ Conditions.placeholder) [value] }

/-- A model is made and inserted, and read back by its key.  Without a key, or if no row is found,
the outcome is the model that was made. -/
def createModel (t : Table) (attributes : α → String → Action σ Json)
    (ofModel : Model Json → Action σ α) (factory : Action σ α) : Action σ α := do
  let made ← factory
  let inserter ← Action.check (Inserter.prepare t .none false)
  let value ← inserter.execute (k.backend (σ := σ)) (attributes made)
  match value, t.primaryKey? with
  | .null, _ | _, none => return made
  | value, some key =>
    match ← (keySelector t key value).first (k.backend (σ := σ)) with
    | some stored => ofModel stored
    | none => return made

end Models

end PgSchema.Connection
