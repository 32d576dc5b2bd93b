import PgSchema.Json.Access

/-!
Metadata of a schema in the database: rows that tell the fingerprint, and the text of each table and
index.

The rows come from the database as any values.  Those that are written have a kind, a name and a
content; of what is read, only the width of a row and the sorts of names are looked at.
-/

namespace PgSchema.Migration

/-- A row of metadata. -/
structure Row where
  kind : Json
  name : Json
  content : Json
  deriving Inhabited

namespace Row

/-- The row with the fingerprint. -/
def ofHash (hash : Json) : Row := ⟨.text "hash", .text "schema", hash⟩

/-- The row of a table. -/
def ofTable (name statement : String) : Row := ⟨.text "table", .text name, .text statement⟩

/-- The row of an index. -/
def ofIndex (name statement : String) : Row := ⟨.text "index", .text name, .text statement⟩

/-- A row as a value. -/
def toJson (row : Row) : Json := .list [row.kind, row.name, row.content]

/-- The three columns of a row, read. -/
def ofJson (value : Json) : Except Fault Row :=
  match value.elements with
  | .ok [kind, name, content] => .ok ⟨kind, name, content⟩
  | .ok cells => .error (.wrongWidth 3 cells.length)
  | .error _ => .error (.notRowValue value.sortName)

end Row

/-- Names with what is told of them, in order of arrival. -/
abbrev Told := List (Json × Json)

namespace Told

/-- What is told of a name. -/
def get? (told : Told) (name : Json) : Option Json := (told.find? fun e => e.1.same name).map (·.2)

/-- Something told of a name: in the place of what was told before, or at the end. -/
def put : Told → Json → Json → Told
  | [], name, content => [(name, content)]
  | (n, c) :: rest, name, content =>
    if n.same name then (n, content) :: rest else (n, c) :: put rest name content

end Told

/-- What the rows tell. -/
structure Persisted where
  hash : Json := .null
  tables : Told := []
  indexes : Told := []

namespace Persisted

/-- One more row.  Rows of other kinds tell nothing. -/
def add (p : Persisted) (row : Row) : Except Fault Persisted :=
  match row.kind, row.name with
  | .text "hash", .text "schema" => .ok { p with hash := row.content }
  | .text "table", name => do return { p with tables := p.tables.put (← name.asKey) row.content }
  | .text "index", name => do return { p with indexes := p.indexes.put (← name.asKey) row.content }
  | _, _ => .ok p

/-- What rows tell. -/
def ofRows (rows : List Json) : Except Fault Persisted :=
  rows.foldlM (fun p row => do p.add (← Row.ofJson row)) {}

/-- Nothing is told of any table, and there is no fingerprint. -/
def isEmpty (p : Persisted) : Bool := p.hash matches .null && p.tables.isEmpty

end Persisted

end PgSchema.Migration
