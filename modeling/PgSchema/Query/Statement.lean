import PgSchema.Query.Basic

/-!
Statements under conditions: selections of rows, in an order, and of a part of them only; changes
and removals of rows.

The number of rows, and whether there is any, are asked for without order and bounds.
-/

namespace PgSchema.Query

open Identifier (quote)

/-- A selection. -/
structure Selector (β : Type) where
  table : Table
  conditions : Conditions β := {}
  order : List String := []
  limit : Option β := none
  offset : Option β := none

namespace Selector

/-- A column to order by, as it is written. -/
def orderEntry (column : String) (descending : Bool) : String :=
  column ++ " " ++ if descending then "DESC" else "ASC"

section Narrowing

variable {β : Type} [Amount β]

/-- A bound on the number of rows: it is not negative. -/
def bound (what : String) (count : β) : Except Fault β := do
  if ← Amount.isNegative count then .error (.negativeCount what (Amount.shown count))
  else .ok count

variable (s : Selector β)

/-- One more column to order by. -/
def orderBy (column : Json) (descending : Bool) : Except Fault (Selector β) :=
  (columnText s.table column).map fun text =>
    { s with order := s.order ++ [orderEntry text descending] }

/-- At most so many rows. -/
def limitTo (count : β) : Except Fault (Selector β) :=
  (bound "limit" count).map fun n => { s with limit := some n }

/-- Without the first so many rows. -/
def skip (count : β) : Except Fault (Selector β) :=
  (bound "offset" count).map fun n => { s with offset := some n }

/-- The limit under which the first row is found: one, unless the selection asks for less. -/
def firstLimit : β :=
  match s.limit with
  | none => Amount.one
  | some n => if Amount.exceedsOne n then Amount.one else n

end Narrowing

section Text

variable {β : Type} (s : Selector β)

/-- The columns as they are written. -/
def columnList : String :=
  ", ".intercalate (s.table.columns.map fun c => quote c.columnName)

/-- The table and the conditions as they are written. -/
def source : String := tableText s.table ++ s.conditions.whereText

/-- The order as it is written. -/
def orderText : String :=
  if s.order.isEmpty then "" else " ORDER BY " ++ ", ".intercalate s.order

/-- A bound as it is written. -/
def boundText (word : String) : Option β → String
  | some _ => " " ++ word ++ " " ++ Conditions.placeholder
  | none => ""

/-- The selection with a limit of its own. -/
def render (limit : Option β) : Bound β :=
  ("SELECT " ++ s.columnList ++ " FROM " ++ s.source ++ s.orderText ++ boundText "LIMIT" limit ++
    boundText "OFFSET" s.offset,
   s.conditions.bindings ++ limit.toList ++ s.offset.toList)

/-- The selection as a statement. -/
def statement : Bound β := s.render s.limit

/-- The selection of the first row. -/
def firstStatement [Amount β] : Bound β := s.render (some s.firstLimit)

/-- The name of the column with the number of rows. -/
def countColumn : String := "count"

/-- The question for the number of rows. -/
def countStatement : Bound β :=
  ("SELECT COUNT(*) AS " ++ countColumn ++ " FROM " ++ s.source, s.conditions.bindings)

/-- The name of the column that tells whether there is a row. -/
def foundColumn : String := "found"

/-- The question whether there is a row. -/
def existsStatement : Bound β :=
  ("SELECT EXISTS (SELECT 1 FROM " ++ s.source ++ ") AS " ++ foundColumn, s.conditions.bindings)

end Text

section Runs

variable {σ α β : Type} (b : Backend σ β α) (s : Selector β)

/-- The models of the rows of a statement. -/
def fetchModels (q : Bound β) : Action σ (List α) := do
  let rows ← b.fetchAll q.1 q.2
  Action.each (b.newModel s.table) rows

/-- The models of all rows. -/
def toList : Action σ (List α) := s.fetchModels b s.statement

/-- The model of the first row, if there is one. -/
def first [Amount β] : Action σ (Option α) := do
  let models ← s.fetchModels b s.firstStatement
  return models.head?

/-- The number of rows. -/
def count : Action σ β := do
  let row ← b.fetchOne s.countStatement.1 s.countStatement.2
  if ← b.holds row then b.entry row countColumn else return b.zero

/-- There is a row. -/
def anyRow : Action σ Bool := do
  let row ← b.fetchOne s.existsStatement.1 s.existsStatement.2
  if ← b.holds row then
    let found ← b.entry row foundColumn
    b.holds found
  else return false

end Runs

end Selector

/-! ### Changes and removals -/

/-- A change: new values for columns, by the columns as they are written. -/
structure Updater (β : Type) where
  table : Table
  conditions : Conditions β := {}
  assignments : List (String × β) := []

namespace Updater

variable {β : Type}

/-- One more column with its new value. -/
def set (u : Updater β) (column : Json) (value : β) : Except Fault (Updater β) :=
  (columnText u.table column).map fun text =>
    { u with assignments := u.assignments ++ [(text, value)] }

/-- The new values as they are written. -/
def assignmentText (u : Updater β) : String :=
  ", ".intercalate (u.assignments.map fun (column, _) =>
    column ++ " = " ++ Conditions.placeholder)

/-- The change as a statement: without new values there is none. -/
def statement (u : Updater β) : Except Fault (Bound β) :=
  if u.assignments.isEmpty then .error (.noAssignments u.table.name)
  else
    .ok ("UPDATE " ++ tableText u.table ++ " SET " ++ u.assignmentText ++ u.conditions.whereText,
      u.assignments.map (·.2) ++ u.conditions.bindings)

/-- The change is run. -/
def execute {σ α : Type} (b : Backend σ β α) (u : Updater β) : Action σ β := do
  let (text, values) ← Action.check u.statement
  b.execute text values

end Updater

/-- The removal of the rows under conditions, as a statement. -/
def removal {β : Type} (t : Table) (c : Conditions β) : Bound β :=
  ("DELETE FROM " ++ tableText t ++ c.whereText, c.bindings)

/-- The rows under conditions are removed. -/
def remove {σ α β : Type} (b : Backend σ β α) (t : Table) (c : Conditions β) : Action σ β :=
  b.execute (removal t c).1 (removal t c).2

end PgSchema.Query
