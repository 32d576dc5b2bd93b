import PgSchema.Entries
import PgSchema.Fault

/-!
The environment, which is variables with their texts, and connection strings: given as a whole by one
variable, or put together from several.
-/

namespace PgSchema

/-- Variables with their texts. -/
abbrev Environment := Entries String

namespace Environment

/-- The text of a variable. -/
def value? (env : Environment) (name : String) : Option String := Entries.get? env name

/-- The text of a variable, or a default if it is not set. -/
def valueD (env : Environment) (name default : String) : String :=
  (env.value? name).getD default

/-- The text of a variable that is set and not empty. -/
def filled? (env : Environment) (name : String) : Option String :=
  (env.value? name).filter (· ≠ "")

end Environment

end PgSchema

namespace PgSchema.Settings

/-- The parts of a connection string. -/
structure ConnectionParts where
  user : String
  password : String
  host : String
  port : String
  database : String
  sslmode : String
  deriving DecidableEq, Repr

namespace ConnectionParts

/-- The parts in an environment: host and database have no default. -/
def load? (env : Environment) : Option ConnectionParts := do
  let host ← env.filled? "POSTGRES_HOST"
  let database ← env.filled? "POSTGRES_DB"
  return {
    user := env.valueD "POSTGRES_USER" "postgres"
    password := env.valueD "POSTGRES_PASSWORD" ""
    host
    port := env.valueD "POSTGRES_PORT" "5432"
    database
    sslmode := env.valueD "POSTGRES_SSLMODE" "prefer" }

/-- The parts as one string. -/
def text (p : ConnectionParts) : String :=
  let credentials := if p.password = "" then p.user else p.user ++ ":" ++ p.password
  "postgresql://" ++ credentials ++ "@" ++ p.host ++ ":" ++ p.port ++ "/" ++ p.database ++
    "?sslmode=" ++ p.sslmode

end ConnectionParts

/-- The connection string of an environment. -/
def connectionString (env : Environment) : Except Fault String :=
  match env.filled? "DATABASE_URL" with
  | some url => .ok url
  | none =>
    match ConnectionParts.load? env with
    | some parts => .ok parts.text
    | none => .error .noConnectionSettings

end PgSchema.Settings
