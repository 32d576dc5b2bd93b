import PgSchema.Fault

/-!
Columns of a table: the kinds of values that they store, and what becomes of a row that is inserted
against a uniqueness constraint.

A kind decides the column's type in the database, the type of generated parameters, and whether
values are ordered and can be counted up by the database.
-/

namespace PgSchema

/-! ### Kinds -/

/-- What a column stores. -/
inductive StorageKind where
  | boolean
  | byte
  | short
  | int
  | long
  | float
  | double
  | string
  | blob
  deriving DecidableEq, Repr, Inhabited

namespace StorageKind

/-- The name of the enumeration. -/
def title : String := "StorageKind"

/-- All kinds. -/
def all : List StorageKind := [boolean, byte, short, int, long, float, double, string, blob]

/-- The text that stands for a kind. -/
def text : StorageKind → String
  | boolean => "boolean"
  | byte => "byte"
  | short => "short"
  | int => "int"
  | long => "long"
  | float => "float"
  | double => "double"
  | string => "string"
  | blob => "blob"

/-- The kind that a text stands for. -/
def ofText? (s : String) : Option StorageKind := all.find? (·.text = s)

/-- The kind that a value stands for. -/
def ofJson (value : Json) : Except Fault StorageKind :=
  match value.text?.bind ofText? with
  | some kind => .ok kind
  | none => .error (.notMember value.display title)

/-- Values of the kind have an order. -/
def isNumeric : StorageKind → Bool
  | byte | short | int | long | float | double => true
  | boolean | string | blob => false

/-- Values of the kind are unboxed and cannot be absent. -/
def isPrimitive (kind : StorageKind) : Bool := kind.isNumeric || kind == boolean

/-- The database can count the kind up by itself. -/
def isIntegral : StorageKind → Bool
  | short | int | long => true
  | _ => false

/-- The type of the values in generated code. -/
def valueType : StorageKind → String
  | boolean => "bool"
  | byte | short | int | long => "int"
  | float | double => "float"
  | string => "str"
  | blob => "bytes"

/-- The type of an ordinary column. -/
def plainType : StorageKind → String
  | boolean => "BOOLEAN"
  | byte | short => "SMALLINT"
  | int => "INTEGER"
  | long => "BIGINT"
  | float => "REAL"
  | double => "DOUBLE PRECISION"
  | string => "TEXT"
  | blob => "BYTEA"

/-- The type of a column that the database counts up, for the kinds that have one. -/
def serialType? : StorageKind → Option String
  | short => some "SMALLSERIAL"
  | int => some "SERIAL"
  | long => some "BIGSERIAL"
  | _ => none

/-- The type of a column. -/
def columnType (kind : StorageKind) (autoId : Bool) : String :=
  if autoId then kind.serialType?.getD kind.plainType else kind.plainType

end StorageKind

/-! ### Rows against a constraint -/

/-- The policies for rows in conflict. -/
inductive OnConflict where
  | abort
  | none
  | replace
  | rollback
  | fail
  | ignore
  deriving DecidableEq, Repr, Inhabited

namespace OnConflict

/-- The name of the enumeration. -/
def title : String := "OnConflict"

/-- All policies. -/
def all : List OnConflict := [abort, none, replace, rollback, fail, ignore]

/-- The text that stands for a policy. -/
def text : OnConflict → String
  | abort => "abort"
  | none => "none"
  | replace => "replace"
  | rollback => "rollback"
  | fail => "fail"
  | ignore => "ignore"

/-- The policy that a text stands for. -/
def ofText? (s : String) : Option OnConflict := all.find? (·.text = s)

/-- The policy that a value stands for. -/
def ofJson (value : Json) : Except Fault OnConflict :=
  match value.text?.bind ofText? with
  | some policy => .ok policy
  | Option.none => .error (.notMember value.display title)

/-- The policy is written into the statement.  Under the others the statement fails by itself. -/
def hasClause : OnConflict → Bool
  | ignore | replace => true
  | _ => false

end OnConflict

/-! ### Columns -/

/-- A column: its name in generated code and in the database, what it stores, and how it is used. -/
structure Column where
  name : String
  columnName : String
  kind : StorageKind
  nullable : Bool
  indexed : Bool
  primaryKey : Bool
  autoId : Bool
  onConflict : OnConflict
  deriving DecidableEq, Repr, Inhabited

namespace Column

/-- The name by which reports call a column. -/
def modelName : String := "ColumnDefinition"

/-- Values of the column are unboxed: the kind is primitive, and none is absent. -/
def isPrimitive (c : Column) : Bool := c.kind.isPrimitive && !c.nullable

/-- The column can be used to select rows. -/
def hasConditions (c : Column) : Bool := c.indexed || c.primaryKey

/-! ### Columns as JSON values -/

/-- Without a name in the database, a column goes by its name in the code. -/
def withColumnName (fields : Entries Json) : Entries Json :=
  if ((fields.get? "column_name").getD .null).isTruthy then fields
  else fields.put "column_name" ((fields.get? "name").getD (.text ""))

/-- The fields of a column, read. -/
def ofFields (fields : Entries Json) : Checked Column :=
  let fields := withColumnName fields
  let kinds := Checked.choice StorageKind.ofText? (StorageKind.all.map (·.text))
  let policies := Checked.choice OnConflict.ofText? (OnConflict.all.map (·.text))
  (Checked.field fields "name" none Checked.filledText).map Column.mk
    |>.ap (Checked.field fields "column_name" (some "") Checked.text)
    |>.ap (Checked.field fields "storage_kind" none kinds)
    |>.ap (Checked.field fields "nullable" (some false) Checked.bool)
    |>.ap (Checked.field fields "indexed" (some false) Checked.bool)
    |>.ap (Checked.field fields "primary_key" (some false) Checked.bool)
    |>.ap (Checked.field fields "auto_id" (some false) Checked.bool)
    |>.ap (Checked.field fields "on_conflict" (some .none) policies)

/-- A column read from a value. -/
def check : Json → Checked Column
  | .object fields => ofFields fields
  | _ => Checked.complain (.notObject modelName)

/-- A column read from a value, or the report on it. -/
def ofJson (value : Json) : Except Fault Column :=
  ((check value).report modelName .value).mapError .invalid

/-- A column as a value. -/
def toJson (c : Column) : Json :=
  .object [("name", .text c.name), ("column_name", .text c.columnName),
    ("storage_kind", .text c.kind.text), ("nullable", .bool c.nullable),
    ("indexed", .bool c.indexed), ("primary_key", .bool c.primaryKey),
    ("auto_id", .bool c.autoId), ("on_conflict", .text c.onConflict.text)]

/-- The report on an attempt to change a field: columns do not change. -/
def frozen (field : String) : Fault :=
  .invalid ⟨modelName, .value, [⟨[.field field], .frozen⟩]⟩

/-- The names that are no fields and may be set on anything. -/
def isPrivate (name : String) : Bool := name.toList.head? = some '_'

/-- Names of a column set one by one: the first that is no private one is refused. -/
def set (c : Column) (names : List String) : Except Fault Column :=
  match names.find? (!isPrivate ·) with
  | some name => .error (frozen name)
  | none => .ok c

end Column

end PgSchema
