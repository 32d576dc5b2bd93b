import PgSchema.Codegen.Module
import PgSchema.Schema.Fingerprint

/-!
Compilation of a database: conditions, fingerprint, access surface, and the text of the module.
-/

namespace PgSchema.Codegen

open Log (Context Line)
open Settings (Cache Generation)

/-- The outcome of a compilation. -/
structure Compilation where
  fingerprint : Fingerprint
  module : Module
  source : String
  deriving DecidableEq, Repr

/-- The classes that the conditions of a table belong to. -/
def conditionClasses (t : Table) : List String :=
  [t.selectorName, t.updaterName, t.deleterName, t.relationName]

/-- The conditions of a table, for each of its classes. -/
def classConditions (t : Table) : TableConditions :=
  Entries.collapse ((conditionClasses t).map fun name => (name, tableConditions t name))

/-- The module of a database. -/
def moduleOf (d : Database) : Module where
  database := d
  hash := d.fingerprint
  conditions := Entries.collapse (d.tables.map fun t => (t.name, classConditions t))
  access := accessOperations d

/-- A database compiled, with the defaults of generated text that are given, or else with those of
the program. -/
def compile (cache : Cache) (d : Database) (given : Option Generation) :
    Except Fault Compilation := do
  let generation ← match given with
    | some g => pure g
    | none => cache.get.1.map (·.generation)
  let m := moduleOf d
  return ⟨Fingerprint.ofDatabase d, m, m.text generation⟩

namespace Compilation

/-- The conditions of a table, as its selector has them. -/
def conditionsFor (c : Compilation) (name : Json) : Except Fault (List Operation) := do
  let t ← c.module.database.table name
  return c.module.conditionsOf t t.selectorName

/-- What is told about a compilation. -/
def lines (c : Compilation) (context : Context) : List Line :=
  let d := c.module.database
  let context := (context.withCoordinate .database d.className).withCoordinate .operation "compile"
  let hash := String.ofList (c.fingerprint.fingerprint.toList.take 12)
  d.tables.flatMap (fun t => (conditionClasses t).map (conditionsLine context t)) ++
  [accessLine context d,
   ⟨.info, .compilation,
    "Compiled " ++ d.package ++ "." ++ d.className ++ ": " ++ toString c.fingerprint.tables ++
      " tables, " ++ toString c.fingerprint.statements ++ " statements, hash " ++ hash, context⟩,
   ⟨.debug, .compilation, Log.elapsedText "compile" (Number.Double.ofInt 0), context⟩]

end Compilation

end PgSchema.Codegen
