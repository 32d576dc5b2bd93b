import PgSchema.Codegen.Operation
import PgSchema.Log.Line
import PgSchema.Schema.Identifier
import PgSchema.Schema.Table

/-!
Conditions of a table: the methods by which a query is narrowed on a column.

A primary key is only looked up.  Another indexed column can be compared for equality and for
membership, its absence can be asked for if it may be absent, and a numeric one has an order too.
-/

namespace PgSchema.Codegen

open Identifier (quote)
open Log (Context Line)

/-! ### Parameters of conditions -/

/-- The words that cannot name a parameter. -/
def reservedWords : List String :=
  ["False", "None", "True", "and", "as", "assert", "async", "await", "break", "class", "continue",
   "def", "del", "elif", "else", "except", "finally", "for", "from", "global", "if", "import",
   "in", "is", "lambda", "nonlocal", "not", "or", "pass", "raise", "return", "try", "while",
   "with", "yield"]

/-- The name of the parameter for a column: that of the column, unless it is taken. -/
def parameterName (c : Column) : String :=
  if c.name ∈ reservedWords ∨ c.name = "self" then c.name ++ "_" else c.name

/-- What is said of the absence of a column's values: nothing if they are unboxed. -/
def nullability (c : Column) : Option Bool := if c.isPrimitive then none else some c.nullable

/-- The parameter for one value of a column. -/
def valueParameter (c : Column) : Parameter :=
  ⟨parameterName c, c.kind.valueType, nullability c, none⟩

/-- The parameter for a collection of values of a column. -/
def valuesParameter (c : Column) : Parameter :=
  ⟨"values", "Sequence[" ++ c.kind.valueType ++ "]", some false, none⟩

/-! ### Conditions of a column -/

/-- The comparisons: what they add to the name of a method, and their operator. -/
inductive Comparison where
  | eq
  | notEq
  | lt
  | le
  | gt
  | ge
  deriving DecidableEq, Repr

namespace Comparison

/-- The comparisons of values that have an order. -/
def ordering : List Comparison := [lt, le, gt, ge]

/-- The kind of a comparison. -/
def kind : Comparison → OperationKind
  | eq => .eq
  | notEq => .notEq
  | lt => .lt
  | le => .le
  | gt => .gt
  | ge => .ge

/-- The operator of a comparison. -/
def operator : Comparison → String
  | eq => "="
  | notEq => "<>"
  | lt => "<"
  | le => "<="
  | gt => ">"
  | ge => ">="

end Comparison

section Column

variable (target : String) (c : Column)

/-- The look-up by a primary key. -/
def findBy : Operation :=
  let fragment := quote c.columnName ++ " = %s"
  { name := "find", kind := .find, returns := target, parameters := [valueParameter c]
    body := [.condition fragment (some (parameterName c))], sql := some fragment
    column := some c.name }

/-- The question whether a value is absent, or there. -/
def nullCheck (negated : Bool) : Operation :=
  let fragment := quote c.columnName ++ (if negated then " IS NOT NULL" else " IS NULL")
  let kind : OperationKind := if negated then .isNotNull else .isNull
  { name := c.name ++ "_" ++ kind.text, kind, returns := target
    body := [.condition fragment none], sql := some fragment, column := some c.name }

/-- The comparison with a value. -/
def comparison (k : Comparison) : Operation :=
  let fragment := quote c.columnName ++ " " ++ k.operator ++ " %s"
  { name := c.name ++ "_" ++ k.kind.text, kind := k.kind, returns := target
    parameters := [valueParameter c], body := [.condition fragment (some (parameterName c))]
    sql := some fragment, column := some c.name }

/-- The membership in a collection of values, or in none. -/
def membership (negated : Bool) : Operation :=
  let quoted := quote c.columnName
  let kind : OperationKind := if negated then .notMember else .member
  { name := c.name ++ "_" ++ kind.text, kind, returns := target
    parameters := [valuesParameter c], body := [.membership negated quoted]
    sql := some (quoted ++ (if negated then " NOT IN" else " IN") ++ " (%s, ...)")
    column := some c.name }

/-- All conditions of a column. -/
def columnConditions : List Operation :=
  if c.primaryKey then [findBy target c]
  else
    (if c.nullable then [nullCheck target c false, nullCheck target c true] else []) ++
    [comparison target c .eq, comparison target c .notEq, membership target c false,
      membership target c true] ++
    (if c.kind.isNumeric then Comparison.ordering.map (comparison target c) else [])

end Column

/-! ### Conditions of a table -/

/-- The class that conditions return, as it is written: the given one, or else the selector. -/
def targetText (t : Table) (target : String) : String :=
  "\"" ++ (if target = "" then t.selectorName else target) ++ "\""

/-- The conditions of a table, column by column. -/
def tableConditions (t : Table) (target : String) : List Operation :=
  (t.columns.filter Column.hasConditions).flatMap (columnConditions (targetText t target))

/-- What is told about the conditions of a table. -/
def conditionsLine (context : Context) (t : Table) (target : String) : Line :=
  let context := (context.withCoordinate .table t.name).withCoordinate .operation
    "compile_conditions"
  ⟨.debug, .conditions,
    "Derived " ++ toString (tableConditions t target).length ++ " condition operations", context⟩

end PgSchema.Codegen
