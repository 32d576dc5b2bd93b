import PgSchema.Codegen.Access
import PgSchema.Settings.Defaults

/-!
Generated modules: what a module defines, and its text.

A module holds, from top to bottom, the imports, the fingerprint, a constant for each table, the
row of all tables, the models by table, five classes for each table, and the handle class.  The text
is a function of the database and of the defaults of generated text alone.
-/

namespace PgSchema.Codegen

open Settings (Generation)
open Text (literal)

/-! ### Parts of a module -/

/-- A class with a base: its attributes are names of other classes, its methods are operations. -/
structure ClassDef where
  name : String
  base : String
  doc : String
  attributes : List (String × String) := []
  operations : List Operation := []
  deriving DecidableEq, Repr

/-- The conditions of a table by the class that they belong to. -/
abbrev TableConditions := Entries (List Operation)

/-- A module of a database. -/
structure Module where
  database : Database
  hash : String
  conditions : Entries TableConditions
  access : List Operation
  deriving DecidableEq, Repr

namespace Module

/-- The conditions of a class of a table. -/
def conditionsOf (m : Module) (t : Table) (className : String) : List Operation :=
  (((m.conditions.get? t.name).getD []).get? className).getD []

/-- The classes of a table. -/
def tableClasses (m : Module) (t : Table) : List ClassDef :=
  let quoted := "\"" ++ t.name ++ "\""
  [{ name := t.selectorName, base := "Selector", doc := "SELECT from " ++ quoted ++ "."
     operations := m.conditionsOf t t.selectorName },
   { name := t.updaterName, base := "Updater", doc := "UPDATE of " ++ quoted ++ "."
     operations := m.conditionsOf t t.updaterName },
   { name := t.deleterName, base := "Deleter", doc := "DELETE from " ++ quoted ++ "."
     operations := m.conditionsOf t t.deleterName },
   { name := t.inserterName, base := "Inserter", doc := "Prepared INSERT into " ++ quoted ++ "." },
   { name := t.relationName, base := "Relation", doc := "Entry point for " ++ quoted ++ "."
     attributes := [("selector_class", t.selectorName), ("updater_class", t.updaterName),
       ("deleter_class", t.deleterName), ("inserter_class", t.inserterName)]
     operations := m.conditionsOf t t.relationName }]

/-- The classes of all tables, in order. -/
def classes (m : Module) : List ClassDef := m.database.tables.flatMap m.tableClasses

/-- The tables whose models can be imported. -/
def importable (m : Module) : List Table := m.database.tables.filter (·.modelModule ≠ "")

/-- The models that are imported, by their module: in order, and each once. -/
def modelImports (m : Module) : List (String × List String) :=
  let modules := (m.importable.map (·.modelModule)).eraseDups.mergeSort
  modules.map fun name =>
    (name, ((m.importable.filter (·.modelModule = name)).map (·.modelName)).eraseDups.mergeSort)

end Module

/-! ### The text of a module -/

/-- A class as it is written. -/
def ClassDef.render (indent : String) (c : ClassDef) : List String :=
  ["class " ++ c.name ++ "(" ++ c.base ++ "):", indent ++ "\"\"\"" ++ c.doc ++ "\"\"\""] ++
  (if c.attributes.isEmpty then []
    else "" :: c.attributes.map fun (name, value) => indent ++ name ++ " = " ++ value) ++
  c.operations.flatMap fun op => "" :: op.render indent

namespace Module

variable (g : Generation) (m : Module)

/-- The documentation at the top. -/
def headerLines : List String :=
  ["\"\"\"", g.header, "", "Database: " ++ m.database.package ++ "." ++ m.database.className,
   "\"\"\""]

/-- The names that are imported for types. -/
def typeNames : List String := ["Any", "Callable", "Dict", "List", "Optional", "Sequence"]

/-- The imports. -/
def importLines : List String :=
  ["from concurrent.futures import Future",
   "from typing import " ++ ", ".intercalate typeNames,
   "",
   "from core.contracts import OnConflict",
   "from core.models import TableDefinition",
   "from " ++ g.runtimePackage ++ ".migration import MigrationResult",
   "from " ++ g.runtimePackage ++ ".postgresql import DatabaseConnection, TransactionTask",
   "from " ++ g.runtimePackage ++ ".query import Deleter, Inserter, Relation, Selector, Updater"]
  ++ (if m.modelImports.isEmpty then []
    else "" :: m.modelImports.map fun (name, models) =>
      "from " ++ name ++ " import " ++ ", ".intercalate models)

/-- The constants. -/
def constantLines : List String :=
  let tables := m.database.tables
  ["SCHEMA_HASH = \"" ++ m.hash ++ "\"", ""] ++
  tables.flatMap (fun t =>
    [schemaConstant t ++ " = TableDefinition.model_validate_json(",
     g.indent ++ literal t.toText, ")", ""]) ++
  (if tables.isEmpty then ["SCHEMAS = ()"]
    else ["SCHEMAS = ("] ++ tables.map (fun t => g.indent ++ schemaConstant t ++ ",") ++ [")"]) ++
  [""] ++
  (if m.importable.isEmpty then ["MODELS = \x7b\x7d"]
    else ["MODELS = \x7b"] ++
      m.importable.map (fun t => g.indent ++ "\"" ++ t.name ++ "\": " ++ t.modelName ++ ",") ++
      ["\x7d"])

/-- The handle class. -/
def handleLines : List String :=
  let i := g.indent
  ["class " ++ m.database.className ++ ":",
   i ++ "\"\"\"Database handle for " ++ m.database.package ++ ".\"\"\"",
   "",
   i ++ "def __init__(self, connection: DatabaseConnection):",
   i ++ i ++ "self.connection = connection"] ++
  m.access.flatMap fun op => "" :: op.render i

/-- A text without line breaks at its end. -/
def withoutLineEnds (s : String) : String :=
  String.ofList (s.toList.reverse.dropWhile (· = '\n')).reverse

/-- The text of the module: its parts, with two empty lines between them. -/
def text : String :=
  let parts := [m.headerLines g, m.importLines g, m.constantLines g] ++
    m.classes.map (ClassDef.render g.indent) ++ [m.handleLines g]
  "\n\n\n".intercalate (parts.map fun lines => withoutLineEnds ("\n".intercalate lines)) ++ "\n"

end Module

end PgSchema.Codegen
