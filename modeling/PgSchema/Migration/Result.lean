import PgSchema.Json.Basic

/-!
Results of migrations, step by step.
-/

namespace PgSchema.Migration

/-- How a step ended. -/
inductive Status where
  | success
  | skipped
  deriving DecidableEq, Repr

/-- The text of a status. -/
def Status.text : Status → String
  | success => "success"
  | skipped => "skipped"

/-- A step of a migration. -/
structure Step where
  name : String
  status : Status
  message : String
  details : Entries Json := []

/-- A step as a value. -/
def Step.toJson (s : Step) : Json :=
  .object [("name", .text s.name), ("status", .text s.status.text), ("message", .text s.message),
    ("error", .null), ("details", .object s.details)]

/-- The result of a migration: the fingerprint that was declared, the one that was found, and the
steps. -/
structure Result where
  hash : Json
  persisted : Json
  timestamp : String
  steps : List Step

namespace Result

/-- The steps that ended in a way. -/
def count (r : Result) (status : Status) : Nat := (r.steps.filter (·.status = status)).length

/-- Something was done. -/
def changed (r : Result) : Bool := r.steps.any (·.status = .success)

/-- A result as a value. -/
def toJson (r : Result) : Json :=
  .object [("schema_hash", r.hash), ("persisted_hash", r.persisted),
    ("timestamp", .text r.timestamp), ("success", .bool true),
    ("steps", .list (r.steps.map Step.toJson)),
    ("summary", .object [("total_steps", .ofNat r.steps.length),
      ("successful", .ofNat (r.count .success)), ("skipped", .ofNat (r.count .skipped))])]

end Result

end PgSchema.Migration
