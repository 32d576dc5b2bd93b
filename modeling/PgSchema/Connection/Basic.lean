import PgSchema.Migration.Migrator
import PgSchema.Model

/-!
Connections: the one way from an application to its database.

The schema is brought in line before the first use, once.  A statement outside a transaction takes a
connection of the pool for itself, under the side of the lock that it needs.  A statement inside a
transaction joins it.

An exclusive transaction holds the write side of the lock and is serializable; the other kind holds
the read side.  Inside a transaction a further one is a savepoint.  A task that fails is rolled
back, and its failure is reported as an abort.
-/

namespace PgSchema

open Migration (Migrator)
open Store (Statement)

/-- A connection: the schema that it is bound to, and how it is set up. -/
structure Connection where
  tables : List Table
  hash : Json
  /-- The migrator, or why what was given for one is none. -/
  migrator : Except Fault Migrator
  /-- The workers for transactions in the background were started by the connection. -/
  ownsWorkers : Bool
  /-- The modules that models can be imported from. -/
  modules : ModelModules

namespace Connection

/-- The name under which a connection reports its failures. -/
def owner : String := "DatabaseConnection"

/-- The table of a name. -/
def table (k : Connection) (name : Json) : Except Fault Table :=
  match name.text?.bind fun s => k.tables.find? (·.name = s) with
  | some t => .ok t
  | none => .error (.noSchema name.display)

section Statements

variable {σ α : Type} (k : Connection)

/-- A block whose failures are those of an operation of the connection. -/
def guarded (operation : String) (body : Action σ α) : Action σ α :=
  Action.guarding owner operation none body

/-- The schema is brought in line, if it was not before; the outcome is kept. -/
def ensureMigrated : Action σ Migration.Result := do
  match (← Action.course).migrated with
  | some result => return result
  | none =>
    let result ← guarded "migrate" <| Action.locked .write <| Action.pooled do
      let migrator ← Action.check k.migrator
      let result ← migrator.migrate
      Action.change fun c => { c with migrated := some result }
      return result
    return result

/-- A block on the connection of the transaction at hand, or on one of its own. -/
def onConnection (exclusive : Bool) (body : Action σ α) : Action σ α := do
  if (← Action.course).joined then body
  else
    let _ ← k.ensureMigrated
    Action.locked (.of exclusive) (Action.pooled body)

/-- A statement that writes; the outcome is the number of rows that it touched. -/
def execute (statement : String) (params : Json) : Action σ Json :=
  guarded "execute" <| k.onConnection true do
    let reply ← Action.run (.plain statement) params
    return reply.rowCount

/-- The first value of the first row of a reply, null if there is no row. -/
def firstCell (reply : Store.Reply) : Except Fault Json :=
  match reply.fetched with
  | [] => .ok .null
  | row :: _ =>
    if row.isTruthy then
      match row with
      | .list (x :: _) => .ok x
      | .text s => .ok (.text (String.ofList (s.toList.take 1)))
      | .object _ => .error (.noKey (.int 0))
      | other => .error (.notSubscriptable other.sortName)
    else .ok .null

/-- An insertion; the outcome is the first value that it returns. -/
def insert (statement : String) (params : Json) : Action σ Json :=
  guarded "insert" <| k.onConnection true do
    let reply ← Action.run (.plain statement) params
    Action.check (firstCell reply)

/-- All rows of a query. -/
def fetchAll (statement : String) (params : Json) : Action σ (List Json) :=
  guarded "fetch_all" <| k.onConnection false <| Action.query statement params

/-- The first row of a query, null if there is none. -/
def fetchOne (statement : String) (params : Json) : Action σ Json :=
  guarded "fetch_one" <| k.onConnection false do
    let rows ← Action.query statement params
    return rows.headD .null

end Statements

section Transactions

variable {σ α : Type} (k : Connection) (exclusive : Bool)

/-- The name of a kind of transaction. -/
def modeName : String := if exclusive then "exclusive" else "non_exclusive"

/-- The operation that a transaction is. -/
def transactionName : String := "transaction_" ++ modeName exclusive

/-- The statement that makes a transaction serializable. -/
def isolationStatement : Store.Statement := .plain "SET TRANSACTION ISOLATION LEVEL SERIALIZABLE"

/-- A task in a transaction of its own. -/
def inTransaction (task : Action σ α) : Action σ α :=
  Action.transaction do
    if exclusive then
      let _ ← Action.run isolationStatement .null
    Action.log .debug .connection ("Transaction started (" ++ modeName exclusive ++ ")")
    task

/-- The report on a transaction that failed: an abort stays what it is, and any other failure
becomes one. -/
def reporting (body : Action σ α) : Action σ α := do
  match ← Action.outcome body with
  | .ok a => return a
  | .error e =>
    if e.isAbort then
      Action.log .warning .connection
        ("Transaction aborted (" ++ modeName exclusive ++ "): " ++ e.text)
      Action.fail e
    else
      Action.log .error .connection
        ("Transaction failed (" ++ modeName exclusive ++ "): " ++ e.text)
      Action.fail (.transaction (transactionName exclusive) e)

/-- A task is run in a transaction. -/
def transaction (task : Action σ α) : Action σ α := do
  if (← Action.course).joined then Action.transaction task
  else
    let _ ← k.ensureMigrated
    Action.within .operation (transactionName exclusive) <|
      Action.locked (.of exclusive) <| Action.pooled <| reporting exclusive <|
        Action.joining (inTransaction exclusive task)

/-- A task is handed to the workers, and runs in a transaction there.  Its outcome is kept for
whoever asks for it. -/
def transactionAside (task : Action σ α) : Action σ (Except Failure α) := do
  if (← Action.course).workersGone then Action.fail (.fault .closedExecutor)
  else Action.outcome (Action.aside (k.transaction exclusive task))

end Transactions

end Connection

end PgSchema
