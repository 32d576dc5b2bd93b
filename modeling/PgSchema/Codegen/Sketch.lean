import PgSchema.Codegen.Operation
import PgSchema.Json.Access
import PgSchema.Shape

/-!
Generated methods described by values of any sort, as a caller gives them.

A description keeps its values as they are.  What is written of them is their text, and what is
decided by them is decided by whether they count as true.
-/

namespace PgSchema.Codegen

/-- A parameter described by values. -/
structure ParameterSketch where
  name : Json
  type : Json
  nullable : Json
  default : Json
  deriving Inhabited

namespace ParameterSketch

/-- The fields of a parameter. -/
def shape : Shape :=
  ⟨"ParameterSpec", [("name", none), ("type_name", none), ("nullable", some .null),
    ("default", some .null)]⟩

/-- A parameter described by its fields. -/
def ofEntries (given : Entries Json) : Except Fault ParameterSketch := do
  let fields ← shape.fill given
  let value (name : String) := (fields.get? name).getD .null
  return ⟨value "name", value "type_name", value "nullable", value "default"⟩

/-- The parameter that is described. -/
def toParameter (p : ParameterSketch) : Parameter where
  name := p.name.plain
  type := p.type.plain
  nullable := match p.nullable with
    | .null => none
    | value => some value.isTruthy
  default := match p.default with
    | .null => none
    | value => some value.plain

/-- The type as it is given, or as it is written if values may be absent. -/
def typeForm (p : ParameterSketch) : Json :=
  if p.nullable.isTruthy then .text p.toParameter.typeText else p.type

end ParameterSketch

/-- A method described by values. -/
structure OperationSketch where
  name : Json
  kind : OperationKind
  returns : Json
  statements : List Json
  parameters : List ParameterSketch
  sql : Json
  column : Json
  doc : Json
  ofClass : Json

namespace OperationSketch

/-- The fields of a method. -/
def shape : Shape :=
  ⟨"OperationSpec", [("name", none), ("kind", some (.text "eq")), ("returns", none),
    ("statements", some (.list [])), ("parameters", some (.list [])), ("sql", some .null),
    ("column", some .null), ("docstring", some .null), ("is_classmethod", some (.bool false))]⟩

/-- A method described by its fields. -/
def ofEntries (given : Entries Json) : Except Fault OperationSketch := do
  let value (name : String) (default : Json) := (given.get? name).getD default
  let kind ← OperationKind.ofJson (value "kind" (.text "eq"))
  let parameters ← (value "parameters" (.list [])).elements
  let parameters ← parameters.mapM fun p => ParameterSketch.ofEntries p.fields
  let statements ← (value "statements" (.list [])).elements
  let fields ← shape.fill given
  let value (name : String) := (fields.get? name).getD .null
  return {
    name := value "name"
    kind
    returns := value "returns"
    statements
    parameters
    sql := value "sql"
    column := value "column"
    doc := value "docstring"
    ofClass := value "is_classmethod" }

/-- The text that a value is written by, if it counts as true. -/
def filledText? (value : Json) : Option String :=
  if value.isTruthy then some value.plain else none

/-- The method that is described. -/
def toOperation (op : OperationSketch) : Operation where
  name := op.name.plain
  kind := op.kind
  returns := op.returns.plain
  body := op.statements.map fun s => .verbatim s.plain
  parameters := op.parameters.map (·.toParameter)
  sql := filledText? op.sql
  column := filledText? op.column
  doc := filledText? op.doc
  ofClass := op.ofClass.isTruthy

end OperationSketch

end PgSchema.Codegen
