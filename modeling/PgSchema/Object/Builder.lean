import PgSchema.Object.Machine
import PgSchema.Query.Inserter
import PgSchema.Query.Statement

/-!
Builders of queries and prepared insertions as objects.

A builder keeps its connection, its schema, and two lists of its own: the predicates, and the values
that are bound in them.  A method that narrows a builder changes these in place and gives the
builder itself, so that calls chain.  A relation hands copies of them on.

The policy, the columns and the statement of an insertion are found when the object is made; what is
written for a model are its attributes of the columns' names, whatever the model is.
-/

namespace PgSchema.Object

open Query (Backend Bound Conditions Selector Updater)

/-! ### What builders keep -/

/-- A value as a table.  What is none lacks an attribute that is asked for first. -/
def asTable (m : Machine) (first : String) (v : Value) : Run Table :=
  match v with
  | .table t => return t
  | v => do
    let _ ← m.member v first
    let name ← m.member v "table_name"
    let text ← showPlain name
    let columns ← m.member v "columns"
    let items ← m.items columns
    match items with
    | [] =>
      return { name := text, columns := [], modelName := text, modelModule := ""
               relationName := "", selectorName := "", updaterName := "", deleterName := ""
               inserterName := "", createStatement := "", indexStatements := [] }
    | x :: _ => refuse (.noAttribute x.sortName "column_name")

/-- The name of a column as data: of what is no text, nothing is asked. -/
def columnNamed (t : Table) (name : Value) : Run Column :=
  match name.text?.bind t.column? with
  | some c => return c
  | none => do
    let text ← showLiteral name
    refuse (.noColumn t.name text)

/-- More items at the end of a list that a value keeps under a name. -/
def extendKept (m : Machine) (self : Value) (name : String) (more : List Value) : Run Unit := do
  let kept ← m.member self name
  let _ ← m.callMethod kept "extend" [.tuple more]
  return ()

/-- The items of what a value keeps under a name. -/
def keptItems (m : Machine) (self : Value) (name : String) : Run (List Value) := do
  let kept ← m.member self name
  m.items kept

/-- The conditions of a builder. -/
def conditionsOf (m : Machine) (self : Value) : Run (Conditions Value) := do
  let clauses ← keptItems m self "clauses"
  let texts ← Action.each showPlain clauses
  let bindings ← keptItems m self "bindings"
  return ⟨texts, bindings⟩

/-- The table of a builder. -/
def tableOf (m : Machine) (first : String) (self : Value) : Run Table := do
  let schema ← m.member self "schema"
  asTable m first schema

/-- A value that stands for no value is none. -/
def optional (v : Value) : Option Value :=
  match v with
  | .null => none
  | v => some v

/-- A selector as its object keeps it, without an order. -/
def unorderedSelector (m : Machine) (first : String) (self : Value) : Run (Selector Value) := do
  let table ← tableOf m first self
  let conditions ← conditionsOf m self
  return { table, conditions }

/-- A selector as its object keeps it. -/
def selectorOf (m : Machine) (self : Value) : Run (Selector Value) := do
  let s ← unorderedSelector m "columns" self
  let order ← keptItems m self "_order_by"
  let order ← Action.check (joinable order)
  let limit ← m.member self "_limit"
  let offset ← m.member self "_offset"
  return { s with order, limit := optional limit, offset := optional offset }

/-- The items of a value that is taken apart into so many. -/
def unpacked (m : Machine) (count : Nat) (v : Value) : Run (List Value) := do
  let h ← heap
  if !hasItems h v then
    refuse (.notRowValue v.sortName)
  else
    let items ← m.items v
    if items.length = count then return items
    else refuse (.wrongWidth count items.length)

/-- A new value for a column, as it is kept. -/
def assignmentOf (m : Machine) (v : Value) : Run (String × Value) := do
  let items ← unpacked m 2 v
  let column ← showPlain (items.getD 0 .null)
  return (column, items.getD 1 .null)

/-- An updater as its object keeps it. -/
def updaterOf (m : Machine) (self : Value) : Run (Updater Value) := do
  let table ← tableOf m "table_name" self
  let kept ← keptItems m self "_assignments"
  let assignments ← Action.each (assignmentOf m) kept
  let conditions ← conditionsOf m self
  return { table, conditions, assignments }

/-- A statement and its values, as a pair. -/
def boundValue (q : Bound Value) : Run Value := do
  let values ← newList q.2
  return .tuple [.text q.1, values]

/-- A connection as queries use it: any value whose methods are called. -/
def backendOf (m : Machine) (connection schema : Value) : Backend State Value Value :=
  let statement (name text : String) (values : List Value) : Run Value := do
    let f ← m.member connection name
    let bound ← newList values
    m.call f [.text text, bound] []
  { fetchAll := fun text values => do
      let rows ← statement "fetch_all" text values
      m.items rows
    fetchOne := statement "fetch_one"
    execute := statement "execute"
    insert := statement "insert"
    newModel := fun _ row => m.callMethod connection "new_model_from_row" [schema, row]
    holds := isTrue
    entry := elementAt
    zero := .int 0 }

/-- The backend of a builder. -/
def backendIn (m : Machine) (self : Value) : Run (Backend State Value Value) := do
  let connection ← m.member self "connection"
  let schema ← m.member self "schema"
  return backendOf m connection schema

/-! ### Features of all builders -/

/-- A method, with its parameters behind the receiver. -/
def method (owner name : String) (parameters : List (String × Option Value))
    (run : Machine → Value → Matched → Run Value) : String × Feature :=
  (name, .method ⟨{ callee := owner ++ "." ++ name, parameters := ("self", none) :: parameters },
    fun m a => run m (a.nth 0) { a with arguments := a.arguments.drop 1 }⟩)

/-- The parameters that builders are made with. -/
def builderParameters : List (String × Option Value) :=
  [("connection", none), ("schema", none), ("clauses", some .null), ("bindings", some .null)]

/-- The items of a value as a new list, none if it counts as false. -/
def copied (m : Machine) (v : Value) : Run Value := do
  if ← isTrue v then
    let items ← m.items v
    newList items
  else newList []

/-- A builder is set up. -/
def setUp (m : Machine) (self : Value) (a : Matched) : Run Unit := do
  setAttribute self "connection" (a.nth 0)
  setAttribute self "schema" (a.nth 1)
  let clauses ← copied m (a.nth 2)
  setAttribute self "clauses" clauses
  let bindings ← copied m (a.nth 3)
  setAttribute self "bindings" bindings

/-- A builder is narrowed by a predicate with its values. -/
def narrow (m : Machine) (self clause : Value) (values : List Value) : Run Value := do
  extendKept m self "clauses" [clause]
  extendKept m self "bindings" values
  return self

/-- Features of all builders. -/
def builderFeatures : Entries Feature :=
  let owner := "QueryBuilder"
  [method owner "__init__" builderParameters fun m self a => do
      setUp m self a
      return .null,
   ("table_sql", .property fun m self => do
      let t ← tableOf m "table_name" self
      return .text (Query.tableText t)),
   ("where", .method
      ⟨{ callee := owner ++ ".where", parameters := [("self", none), ("clause", none)]
         rest := true },
       fun m a => narrow m (a.nth 0) (a.nth 1) a.rest⟩),
   method owner "in_" [("negate", none), ("column_sql", none), ("values", none)] fun m self a => do
      let values ← m.items (a.nth 2)
      let negated ← isTrue (a.nth 0)
      let column ← showPlain (a.nth 1)
      let clause := Conditions.memberClause negated column values.length
      let f ← m.member self "where"
      m.call f (.text clause :: values) [],
   method owner "where_clause" [] fun m self _ => do
      let c ← conditionsOf m self
      return .text c.whereText,
   method owner "column_sql" [("name", none)] fun m self a => do
      let t ← tableOf m "get_column" self
      let c ← columnNamed t (a.nth 0)
      return .text (Identifier.quote c.columnName),
   method owner "_copy_into" [("builder_class", none)] fun m self a => do
      let connection ← m.member self "connection"
      let schema ← m.member self "schema"
      let clauses ← m.member self "clauses"
      let bindings ← m.member self "bindings"
      m.call (a.nth 0) [connection, schema, clauses, bindings] [],
   method owner "__repr__" [] fun _ self _ => do
      let text ← showLiteral self
      return .text text]

/-! ### Selectors -/

/-- A bound of a selector is set. -/
def setBound (what : String) (self count : Value) : Run Value := do
  let n ← Action.check (Selector.bound what count)
  setAttribute self ("_" ++ what) n
  return self

/-- Features of selectors. -/
def selectorFeatures : Entries Feature :=
  let owner := "Selector"
  let first (m : Machine) (self : Value) : Run Value := do
    let s ← selectorOf m self
    let b ← backendIn m self
    let model ← s.first b
    return model.getD .null
  [method owner "__init__" builderParameters fun m self a => do
      setUp m self a
      let order ← newList []
      setAttribute self "_order_by" order
      setAttribute self "_limit" .null
      setAttribute self "_offset" .null
      return .null,
   method owner "order_by" [("column", none), ("descending", some (.bool false))] fun m self a => do
      let descending ← isTrue (a.nth 1)
      let text ← showPlain (← m.callMethod self "column_sql" [a.nth 0])
      extendKept m self "_order_by" [.text (Selector.orderEntry text descending)]
      return self,
   method owner "limit" [("count", none)] fun _ self a => setBound "limit" self (a.nth 0),
   method owner "offset" [("count", none)] fun _ self a => setBound "offset" self (a.nth 0),
   method owner "_select_list" [] fun m self _ => do
      let s ← unorderedSelector m "columns" self
      return .text s.columnList,
   method owner "to_sql" [] fun m self _ => do
      let s ← selectorOf m self
      boundValue s.statement,
   method owner "_render" [("limit", none)] fun m self a => do
      let s ← selectorOf m self
      boundValue (s.render (optional (a.nth 0))),
   method owner "to_list" [] fun m self _ => do
      let s ← selectorOf m self
      let b ← backendIn m self
      let models ← s.toList b
      newList models,
   method owner "first" [] fun m self _ => first m self,
   ("get_or_none", (method owner "first" [] fun m self _ => first m self).2),
   method owner "count" [] fun m self _ => do
      let s ← unorderedSelector m "table_name" self
      let b ← backendIn m self
      s.count b,
   method owner "exists" [] fun m self _ => do
      let s ← unorderedSelector m "table_name" self
      let b ← backendIn m self
      let found ← s.anyRow b
      return .bool found,
   method owner "__iter__" [] fun m self _ => m.callMethod self "to_list" []]

/-! ### Updaters and deleters -/

/-- Features of updaters. -/
def updaterFeatures : Entries Feature :=
  let owner := "Updater"
  [method owner "__init__" builderParameters fun m self a => do
      setUp m self a
      let assignments ← newList []
      setAttribute self "_assignments" assignments
      return .null,
   method owner "set" [("column", none), ("value", none)] fun m self a => do
      let column ← m.callMethod self "column_sql" [a.nth 0]
      extendKept m self "_assignments" [.tuple [column, a.nth 1]]
      return self,
   method owner "to_sql" [] fun m self _ => do
      let u ← updaterOf m self
      let q ← Action.check u.statement
      boundValue q,
   method owner "execute" [] fun m self _ => do
      let u ← updaterOf m self
      let b ← backendIn m self
      u.execute b]

/-- Features of deleters. -/
def deleterFeatures : Entries Feature :=
  let owner := "Deleter"
  [method owner "to_sql" [] fun m self _ => do
      let t ← tableOf m "table_name" self
      let c ← conditionsOf m self
      boundValue (Query.removal t c),
   method owner "execute" [] fun m self _ => do
      let t ← tableOf m "table_name" self
      let c ← conditionsOf m self
      let b ← backendIn m self
      Query.remove b t c]

/-! ### Relations -/

/-- A class that a relation hands its conditions on to, used. -/
def handOn (link : String) : Machine → Value → Run Value := fun m self => do
  let cls ← m.member self link
  m.callMethod self "_copy_into" [cls]

/-- The parameters of an insertion: the policy, and whether numbers are written that the database
would count up. -/
def insertionParameters : List (String × Option Value) :=
  [("on_conflict", some (.policy .none)), ("skip_auto_id", some (.bool false))]

/-- Features of relations. -/
def relationFeatures : Entries Feature :=
  let owner := "Relation"
  let viaSelector (name : String) : Machine → Value → Run Value := fun m self => do
    let s ← m.callMethod self "selector" []
    m.callMethod s name []
  [("selector_class", .constant (.cls (.known "Selector"))),
   ("updater_class", .constant (.cls (.known "Updater"))),
   ("deleter_class", .constant (.cls (.known "Deleter"))),
   ("inserter_class", .constant .null),
   method owner "selector" [] fun m self _ => handOn "selector_class" m self,
   method owner "updater" [] fun m self _ => handOn "updater_class" m self,
   method owner "deleter" [] fun m self _ => handOn "deleter_class" m self,
   method owner "inserter" insertionParameters fun m self a => do
      let given ← m.member self "inserter_class"
      let cls := if ← isTrue given then given else .cls (.known "Inserter")
      let connection ← m.member self "connection"
      let schema ← m.member self "schema"
      m.call cls [connection, schema, a.nth 0, a.nth 1] [],
   method owner "count" [] fun m self _ => viaSelector "count" m self,
   method owner "to_list" [] fun m self _ => viaSelector "to_list" m self,
   method owner "__iter__" [] fun m self _ => m.callMethod self "to_list" []]

/-! ### Insertions -/

open Query (Inserter)

/-- The policy that a value stands for. -/
def policyOf (v : Value) : Run OnConflict :=
  match v.text?.bind OnConflict.ofText? with
  | some p => return p
  | none => do
    let text ← showLiteral v
    refuse (.notMember text OnConflict.title)

/-- The columns that an insertion writes. -/
def writtenColumns (m : Machine) (self : Value) : Run (List Column) := do
  match ← m.member self "columns" with
  | .tuple columns => return columns.filterMap fun
    | .column c => some c
    | _ => none
  | _ => return []

/-- The values that an insertion writes for a model. -/
def valuesOf (m : Machine) (self model : Value) : Run (List Value) := do
  let columns ← writtenColumns m self
  Action.each (fun c => m.member model c.name) columns

/-- The features of insertions. -/
def inserterFeatures : Entries Feature :=
  let owner := "Inserter"
  [method owner "__init__" ([("connection", none), ("schema", none)] ++ insertionParameters)
    fun m self a => do
      setAttribute self "connection" (a.nth 0)
      setAttribute self "schema" (a.nth 1)
      let given ← policyOf (a.nth 2)
      setAttribute self "on_conflict" (.policy given)
      setAttribute self "skip_auto_id" (a.nth 3)
      let t ← asTable m "columns" (a.nth 1)
      let skip ← isTrue (a.nth 3)
      let i ← Action.check (Inserter.prepare t given skip)
      setAttribute self "policy" (.policy i.policy)
      setAttribute self "_policy_column" ((i.declaredOn.map .column).getD .null)
      setAttribute self "columns" (.tuple (i.columns.map .column))
      setAttribute self "_sql" (.text i.text)
      return .null,
   ("sql", .property fun m self => m.member self "_sql"),
   method owner "_conflict_clause" [] fun m self _ => do
      let t ← tableOf m "primary_key" self
      let policy ← policyOf (← m.member self "policy")
      let columns ← writtenColumns m self
      let text ← Action.check (Inserter.conflictClause t policy none columns)
      return .text text,
   method owner "_build_sql" [] fun m self _ => m.member self "_sql",
   method owner "values_of" [("model", none)] fun m self a => do
      let values ← valuesOf m self (a.nth 0)
      newList values,
   method owner "execute" [("model", none)] fun m self a => do
      let connection ← m.member self "connection"
      let f ← m.member connection "insert"
      let text ← m.member self "sql"
      let values ← m.callMethod self "values_of" [a.nth 0]
      m.call f [text, values] [],
   method owner "execute_all" [("models", none)] fun m self a => do
      let models ← m.items (a.nth 0)
      let keys ← Action.each (fun model => m.callMethod self "execute" [model]) models
      newList keys,
   method owner "__repr__" [] fun _ self _ => do
      let text ← showLiteral self
      return .text text]

end PgSchema.Object
