import PgSchema.Object.Builder
import PgSchema.Object.Text

/-!
The parts of a schema as objects: tables, columns, and the members of enumerations.
-/

namespace PgSchema.Object

/-! ### Tables and columns -/

/-- Data made of the parts of a schema, with the members of enumerations as they are. -/
def dumped : Nat → Value → Run Value
  | 0, v => return v
  | n + 1, v =>
    let fields (all : Entries Value) : Run Value := do
      let entries ← Action.each (fun e => do
        let x ← dumped n e.2
        return (.text e.1, x)) all
      newDict entries
    match v with
    | .tuple values => do
      let xs ← Action.each (dumped n) values
      return .tuple xs
    | .table t => fields (tableFields t)
    | .column c => fields (columnFields c)
    | v => return v

/-- How deep the parts of a schema are inside each other. -/
def schemaDepth : Nat := 5

/-- A method of tables and columns with parameters that only have a name. -/
def dumpMethod (name : String) (named : List String) (run : Value → Matched → Run Value) :
    String × Feature :=
  (name, .method
    ⟨{ callee := "BaseModel." ++ name, parameters := [("self", none)]
       named := named.map fun n => (n, some .null) },
     fun _ a => run (a.nth 0) { a with arguments := a.arguments.drop 1 }⟩)

/-- The options for data made of the parts of a schema: they are taken, and change nothing. -/
def dumpOptions : List String :=
  ["mode", "include", "exclude", "by_alias", "exclude_unset", "exclude_defaults", "exclude_none",
   "round_trip", "warnings"]

/-- A copy, in which nothing is changed. -/
def copyPart (update : Nat) (self : Value) (a : Matched) : Run Value := do
  if ← isTrue (a.nth update) then unsupported "update" else return self

/-- Features of tables and columns. -/
def partFeatures (toJson : Value → Json) : Entries Feature :=
  let text (self : Value) (_ : Matched) : Run Value := return .text (toJson self).compact
  let data (self : Value) (_ : Matched) : Run Value := dumped schemaDepth self
  [dumpMethod "model_dump" dumpOptions data, dumpMethod "dict" dumpOptions data,
   dumpMethod "model_dump_json" ("indent" :: dumpOptions) text, dumpMethod "json" dumpOptions text,
   dumpMethod "model_copy" ["update", "deep"] (copyPart 0),
   dumpMethod "copy" ["include", "exclude", "update", "deep"] (copyPart 2),
   ("model_extra", .constant .null),
   ("model_fields_set", .constant (.foreign "set" "set")),
   ("model_config", .property fun _ _ => newDict [(.text "frozen", .bool true)])]

/-- A property of a table. -/
def tableProperty (name : String) (get : Table → Value) : String × Feature :=
  (name, .property fun _ self =>
    match self with
    | .table t => return get t
    | _ => return .null)

/-- A column, or null. -/
def ofColumn? (c : Option Column) : Value := (c.map .column).getD .null

/-- A table read from a value, with a report if it is none. -/
def tableRead (read : Value → Run (Except Fault Table)) : Machine → Matched → Run Value :=
  fun _ a => do
    let t ← Action.check (← read (a.nth 1))
    return .table t

/-- Features of tables. -/
def tableFeatures : Entries Feature :=
  let owner := Table.title
  let toJson : Value → Json
    | .table t => t.toJson
    | _ => .null
  let reader (name parameter : String) (read : Value → Run (Except Fault Table)) :=
    (name, Feature.ofClass
      ⟨{ callee := "BaseModel." ++ name, parameters := [("cls", none), (parameter, none)] },
       tableRead read⟩)
  ((tableFields default).keys.map fun name =>
    tableProperty name fun t => ((tableFields t).get? name).getD .null) ++
  [tableProperty "model_snake_name" (.text ·.snakeName),
   tableProperty "primary_key" (ofColumn? ·.primaryKey?),
   tableProperty "auto_id_column" (ofColumn? ·.autoIdColumn?),
   method owner "get_column" [("name", none)] fun m self a => do
      let t ← asTable m "columns" self
      let c ← columnNamed t (a.nth 0)
      return .column c,
   method owner "all_statements" [] fun m self _ => do
      let t ← asTable m "create_table_statement" self
      newList (t.statements.map .text),
   reader "model_validate_json" "json_data" fun v => do
      let text ← showPlain v
      return Table.ofText text,
   reader "model_validate" "obj" fun v =>
      match v with
      | .table t => return .ok t
      | v => do
        let data ← showValue v
        return Table.ofJson data] ++
  partFeatures toJson

/-- A property of a column. -/
def columnProperty (name : String) (get : Column → Value) : String × Feature :=
  (name, .property fun _ self =>
    match self with
    | .column c => return get c
    | _ => return .null)

/-- Features of columns. -/
def columnFeatures : Entries Feature :=
  let toJson : Value → Json
    | .column c => c.toJson
    | _ => .null
  ((columnFields default).keys.map fun name =>
    columnProperty name fun c => ((columnFields c).get? name).getD .null) ++
  [columnProperty "is_primitive" (.bool ·.isPrimitive),
   columnProperty "python_type" (fun c => .cls (.known c.kind.valueType)),
   columnProperty "has_condition_operations" (.bool ·.hasConditions),
   method Column.modelName "to_summary" [] fun _ self _ =>
      match self with
      | .column c => newDict
          [(.text "column", .text c.columnName), (.text "kind", .text c.kind.text),
           (.text "nullable", .bool c.nullable), (.text "indexed", .bool c.indexed),
           (.text "primary_key", .bool c.primaryKey)]
      | _ => return .null] ++
  partFeatures toJson

/-! ### Members of enumerations -/

/-- A property of a kind of values. -/
def kindProperty (name : String) (get : StorageKind → Value) : String × Feature :=
  (name, .property fun _ self =>
    match self with
    | .kind k => return get k
    | _ => return .null)

/-- A method that tells something of a kind of values. -/
def kindMethod (name : String) (tell : StorageKind → Bool) : String × Feature :=
  method StorageKind.title name [] fun _ self _ =>
    match self with
    | .kind k => return .bool (tell k)
    | _ => return .null

/-- Features of kinds of values. -/
def kindFeatures : Entries Feature :=
  [kindProperty "value" (.text ·.text), kindProperty "name" (fun k => .text (Text.upper k.text)),
   kindProperty "python_type" (fun k => .cls (.known k.valueType)),
   kindMethod "is_numeric" (·.isNumeric), kindMethod "is_primitive" (·.isPrimitive),
   kindMethod "is_integral" (·.isIntegral)] ++
  StorageKind.all.map fun k => (Text.upper k.text, .constant (.kind k))

/-- A property of a policy. -/
def policyProperty (name : String) (get : OnConflict → Value) : String × Feature :=
  (name, .property fun _ self =>
    match self with
    | .policy p => return get p
    | _ => return .null)

/-- Features of policies. -/
def policyFeatures : Entries Feature :=
  [policyProperty "value" (.text ·.text),
   policyProperty "name" (fun p => .text (Text.upper p.text)),
   method OnConflict.title "has_conflict_clause" [] fun _ self _ =>
      match self with
      | .policy p => return .bool p.hasClause
      | _ => return .null] ++
  OnConflict.all.map fun p => (Text.upper p.text, .constant (.policy p))

end PgSchema.Object
