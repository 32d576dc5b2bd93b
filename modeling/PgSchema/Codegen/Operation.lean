import PgSchema.Fault

/-!
Generated methods as data.

An `Operation` is a method before it is written: its name, parameters and body.  Bodies are
statements of a small language, and `Statement.lines` is how each is written.
-/

namespace PgSchema.Codegen

open Text (literal)

/-! ### Kinds -/

/-- What a generated method does. -/
inductive OperationKind where
  | find
  | isNull
  | isNotNull
  | eq
  | notEq
  | member
  | notMember
  | lt
  | le
  | gt
  | ge
  | loadFromRow
  | create
  | relation
  | select
  | update
  | delete
  | insert
  | prepareInsert
  | schemas
  | connection
  | migrate
  | transaction
  deriving DecidableEq, Repr

namespace OperationKind

/-- The kinds that narrow the rows of a query. -/
def conditions : List OperationKind :=
  [find, isNull, isNotNull, eq, notEq, member, notMember, lt, le, gt, ge]

/-- All kinds. -/
def all : List OperationKind :=
  conditions ++ [loadFromRow, create, relation, select, update, delete, insert, prepareInsert,
    schemas, connection, migrate, transaction]

/-- The text that stands for a kind. -/
def text : OperationKind → String
  | find => "find"
  | isNull => "is_null"
  | isNotNull => "is_not_null"
  | eq => "eq"
  | notEq => "not_eq"
  | member => "in"
  | notMember => "not_in"
  | lt => "lt"
  | le => "le"
  | gt => "gt"
  | ge => "ge"
  | loadFromRow => "load_from_row"
  | create => "create"
  | relation => "relation"
  | select => "select"
  | update => "update"
  | delete => "delete"
  | insert => "insert"
  | prepareInsert => "prepare_insert"
  | schemas => "schemas"
  | connection => "connection"
  | migrate => "migrate"
  | transaction => "transaction"

/-- The kind that a value stands for. -/
def ofJson (value : Json) : Except Fault OperationKind :=
  match value.text?.bind fun s => all.find? (·.text = s) with
  | some kind => .ok kind
  | none => .error (.notMember value.display "OperationKind")

/-- The kind narrows the rows of a query. -/
def isCondition (kind : OperationKind) : Bool := kind ∈ conditions

end OperationKind

/-! ### Parameters -/

/-- A parameter: its name, the type of its values, whether these may be absent (nothing is said of
unboxed values), and its default. -/
structure Parameter where
  name : String
  type : String
  nullable : Option Bool
  default : Option String
  deriving DecidableEq, Repr

namespace Parameter

/-- The type as it is written: a value that may be absent is optional. -/
def typeText (p : Parameter) : String :=
  if p.nullable = some true then "Optional[" ++ p.type ++ "]" else p.type

/-- A parameter as it is written in a signature. -/
def text (p : Parameter) : String :=
  p.name ++ ": " ++ p.typeText ++
    (match p.default with
      | some value => " = " ++ value
      | none => "")

end Parameter

/-! ### Bodies -/

/-- A statement in the body of a generated method. -/
inductive Statement where
  /-- A predicate is added to the builder, with the value of a parameter or with none. -/
  | condition (fragment : String) (argument : Option String)
  /-- A column is narrowed to a collection of values, or to all others. -/
  | membership (negated : Bool) (column : String)
  /-- A row becomes a model. -/
  | load (schema : String)
  /-- A model is made and inserted. -/
  | create (schema : String)
  /-- A builder of a class is made. -/
  | derive (builder schema : String)
  /-- A model is inserted as the method for prepared insertion says. -/
  | insert (method : String)
  /-- An inserter of a class is made. -/
  | prepare (inserter schema : String)
  /-- A connection is opened and handed to a new handle. -/
  | connect
  /-- The schemas of all tables. -/
  | schemas
  /-- The connection of the handle. -/
  | connection
  /-- The schema in the database is brought in line. -/
  | migrate
  /-- The connection is closed. -/
  | close
  /-- A task is handed on to a method of the connection. -/
  | forward (method : String)
  /-- A line as it is. -/
  | verbatim (line : String)
  deriving DecidableEq, Repr

namespace Statement

/-- The truth values as they are written. -/
def boolText (b : Bool) : String := if b then "True" else "False"

/-- The lines of a statement. -/
def lines : Statement → List String
  | condition fragment none => ["return self.where(" ++ literal fragment ++ ")"]
  | condition fragment (some argument) =>
    ["return self.where(" ++ literal fragment ++ ", " ++ argument ++ ")"]
  | membership negated column =>
    ["return self.in_(" ++ boolText negated ++ ", " ++ literal column ++ ", values)"]
  | load schema => ["return self.connection.new_model_from_row(" ++ schema ++ ", row)"]
  | create schema => ["return self.connection.create_model(" ++ schema ++ ", factory)"]
  | derive builder schema => ["return " ++ builder ++ "(self.connection, " ++ schema ++ ")"]
  | insert method => ["return self." ++ method ++ "().execute(model)"]
  | prepare inserter schema =>
    ["return " ++ inserter ++ "(self.connection, " ++ schema ++ ", on_conflict, skip_auto_id)"]
  | connect =>
    ["connection = DatabaseConnection.connect(",
     "    conninfo, schemas=SCHEMAS, schema_hash=SCHEMA_HASH, models=MODELS, **kwargs",
     ")",
     "return cls(connection)"]
  | schemas => ["return list(SCHEMAS)"]
  | connection => ["return self.connection"]
  | migrate => ["return self.connection.migrate()"]
  | close => ["self.connection.close()"]
  | forward method => ["return self.connection." ++ method ++ "(task)"]
  | verbatim line => [line]

end Statement

/-! ### Methods -/

/-- A generated method. -/
structure Operation where
  name : String
  kind : OperationKind
  returns : String
  body : List Statement
  parameters : List Parameter := []
  /-- The predicate of a condition. -/
  sql : Option String := none
  /-- The column of a condition. -/
  column : Option String := none
  doc : Option String := none
  /-- The method belongs to the class and not to its instances. -/
  ofClass : Bool := false
  deriving DecidableEq, Repr

namespace Operation

/-- The lines of the body. -/
def lines (op : Operation) : List String := op.body.flatMap Statement.lines

/-- The names of the parameters. -/
def parameterNames (op : Operation) : List String := op.parameters.map (·.name)

/-- The documentation that is written: none if it is empty. -/
def shownDoc? (op : Operation) : Option String := op.doc.filter (· ≠ "")

/-- A method as it is written, one level deep. -/
def render (indent : String) (op : Operation) : List String :=
  let receiver := if op.ofClass then "cls" else "self"
  let parameters := ", ".intercalate (receiver :: op.parameters.map Parameter.text)
  (if op.ofClass then [indent ++ "@classmethod"] else []) ++
  [indent ++ "def " ++ op.name ++ "(" ++ parameters ++ ") -> " ++ op.returns ++ ":"] ++
  (match op.shownDoc? with
    | some doc => [indent ++ indent ++ "\"\"\"" ++ doc ++ "\"\"\""]
    | none => []) ++
  op.lines.map fun line => indent ++ indent ++ line

end Operation

end PgSchema.Codegen
