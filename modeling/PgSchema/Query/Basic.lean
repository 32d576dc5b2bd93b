import PgSchema.Course.Basic
import PgSchema.Json.Access
import PgSchema.Schema.Identifier
import PgSchema.Schema.Table

/-!
What queries are made of and what they run on: the conditions of a query, and the ways in which it
uses a connection.

Conditions are predicates that all have to hold, in the order in which they came, and the values
that are bound in them.  Values never become a part of the text, and nothing depends on what they
are.
-/

namespace PgSchema.Query

open Identifier (quote)

/-! ### Connections that are asked -/

/-- Values that can bound a number of rows. -/
class Amount (β : Type) where
  /-- The bound of one row. -/
  one : β
  /-- The bound is negative; a value that is no number is neither. -/
  isNegative : β → Except Fault Bool
  /-- The bound is above one. -/
  exceedsOne : β → Bool
  /-- The bound in words. -/
  shown : β → Json

instance : Amount Json where
  one := .int 1
  isNegative count := count.isBelow 0
  exceedsOne count := count.isAbove 1
  shown count := count

/-- The ways in which a query uses a connection: statements with their values, and rows that become
models. -/
structure Backend (σ β α : Type) where
  /-- The rows of a statement. -/
  fetchAll : String → List β → Action σ (List β)
  /-- The first row of a statement. -/
  fetchOne : String → List β → Action σ β
  /-- A statement that changes rows. -/
  execute : String → List β → Action σ β
  /-- A statement that adds a row. -/
  insert : String → List β → Action σ β
  /-- The model of a row. -/
  newModel : Table → β → Action σ α
  /-- A value counts as true. -/
  holds : β → Action σ Bool
  /-- A column of a row. -/
  entry : β → String → Action σ β
  /-- The number of no rows. -/
  zero : β

/-! ### Conditions -/

/-- A statement and the values that are bound in it. -/
abbrev Bound (β : Type) := String × List β

/-- The conditions on the rows of a table. -/
structure Conditions (β : Type) where
  clauses : List String := []
  bindings : List β := []

/-- The table as it is written. -/
def tableText (t : Table) : String := quote t.name

/-- A column as it is written, by its name in the code or in the database. -/
def columnText (t : Table) (name : Json) : Except Fault String :=
  (t.column name).map fun column => quote column.columnName

namespace Conditions

/-- The mark that a bound value stands behind. -/
def placeholder : String := "%s"

/-- Marks for a number of values. -/
def placeholders (n : Nat) : String := ", ".intercalate (List.replicate n placeholder)

/-- The predicate that no row fulfils. -/
def never : String := "1 = 0"

/-- The predicate that every row fulfils. -/
def always : String := "1 = 1"

/-- The membership of a column in a collection of so many values, or in none of them, as a
predicate.  Nothing is a member of the empty collection. -/
def memberClause (negated : Bool) (column : String) (count : Nat) : String :=
  if count = 0 then (if negated then always else never)
  else column ++ (if negated then " NOT IN" else " IN") ++ " (" ++ placeholders count ++ ")"

variable {β : Type} (c : Conditions β)

/-- One more predicate, with its values. -/
def add (clause : String) (values : List β) : Conditions β :=
  { clauses := c.clauses ++ [clause], bindings := c.bindings ++ values }

/-- The membership of a column in a collection of values, or in none of them. -/
def member (negated : Bool) (column : String) (values : List β) : Conditions β :=
  c.add (memberClause negated column values.length) values

/-- The predicates as they are written. -/
def whereText : String :=
  if c.clauses.isEmpty then ""
  else " WHERE " ++ " AND ".intercalate (c.clauses.map fun clause => "(" ++ clause ++ ")")

end Conditions

end PgSchema.Query
