import PgSchema.Fault

/-!
Models: what the rows of a table are to the application, and the modules that they come from.

A model is known by the name of its class and by its attributes.  The name of a module is found from
its first part on, and the first part that is not there is told.
-/

namespace PgSchema

/-- A model: the name of its class, and its attributes. -/
structure Model (β : Type) where
  className : String
  attributes : Entries β

namespace Model

/-- The name of the class of a model that belongs to no table. -/
def plainClass : String := "Model"

end Model

/-- The modules that models can be imported from, each with the names of its classes. -/
abbrev ModelModules := Entries (List String)

namespace ModelModules

/-- The modules besides that have parts, each with the names of its parts. -/
def packages : Entries (List String) :=
  [("compiler",
      ["access_surface", "conditions", "fingerprint", "generator", "operations", "writer"]),
   ("concurrent", ["futures"]), ("concurrent.futures", ["_base", "process", "thread"]),
   ("core", ["config", "contracts", "logging", "models", "schema"]),
   ("core.config", ["defaults"]), ("core.models", ["column", "database", "table"]),
   ("core.schema", ["ddl_utils", "sql_generator"]),
   ("infrastructure", ["base_repository", "locking", "migration", "postgresql", "query"])]

/-- The modules besides that have no parts and belong to none. -/
def plainModules : List String := ["builtins", "itertools", "sys", "time", "typing"]

section Find

variable (modules : ModelModules)

/-- A part of a module is there; the name of the outer module is empty for the first part. -/
def hasPart (outer part : String) : Bool :=
  if outer = "" then
    Entries.has modules part || packages.has part || plainModules.contains part
  else ((packages.get? outer).getD []).contains part

/-- The parts of a name are found, one inside the other. -/
def walk (outer : String) : List String → Except Fault Unit
  | [] => .ok ()
  | part :: rest =>
    let name := if outer = "" then part else outer ++ "." ++ part
    if hasPart modules outer part then walk name rest
    else if outer = "" || packages.has outer then .error (.noModule name)
    else .error (.noSubmodule name outer)

/-- The classes of models in a module. -/
def find (name : String) : Except Fault (List String) := do
  if name.toList.head? = some '.' then .error (.noOuterModule name)
  else
    walk modules "" (name.splitOn ".")
    return (Entries.get? modules name).getD []

end Find

end ModelModules

end PgSchema
