import PgSchema.Failure
import PgSchema.Migration.Metadata
import PgSchema.Text.Words

/-!
The store behind a connection: its metadata, the uses that are in effect, and the events on it.

Every use of the store is an event.  Statements, and the beginnings and ends of transactions, are
answered by the script; without an answer there, a statement has no rows, but the metadata can be
read, emptied and written.  A statement that succeeds is in effect until the transaction that it ran
in is rolled back: the statements in effect are all there is to know of the state of a database.

The rules of a script are tried in order.  A rule is for the texts that have its pattern in them, it
may let some of them pass first, and it may be used up.
-/

namespace PgSchema.Store

/-- A rule of a script. -/
structure Rule where
  pattern : String
  /-- How many texts the rule lets pass first. -/
  skip : Nat
  /-- How often the rule is still used; without a number, always. -/
  times : Option Nat
  failure : Option Failure
  rows : Option (List Json)
  rowCount : Json
  deriving Inhabited

namespace Rule

/-- The rule is for a text, and not used up. -/
def covers (rule : Rule) (text : String) : Bool :=
  rule.times != some 0 && Text.occurs rule.pattern text

/-- The rule after one use. -/
def used (rule : Rule) : Rule := { rule with times := rule.times.map (· - 1) }

/-- The rule after it has let a text pass. -/
def passed (rule : Rule) : Rule := { rule with skip := rule.skip - 1 }

end Rule

/-- A script. -/
abbrev Script := List Rule

/-- The rule that is used for a text, and the script after it. -/
def Script.consult (text : String) : Script → Option Rule × Script
  | [] => (none, [])
  | rule :: rest =>
    if rule.covers text then
      if rule.skip = 0 then (some rule, rule.used :: rest)
      else
        let (found, rest) := Script.consult text rest
        (found, rule.passed :: rest)
    else
      let (found, rest) := Script.consult text rest
      (found, rule :: rest)

/-! ### What scripts are asked about besides statements -/

/-- The text for a connection that is taken from the pool. -/
def checkoutText : String := "$checkout"

/-- The text for the beginning of a transaction. -/
def beginText : String := "$begin"

/-- The text for the commit of a transaction. -/
def commitText : String := "$commit"

/-! ### Uses of the store -/

/-- A use of the store. -/
inductive Event where
  | opened (conninfo : Json) (min max : Int)
  | closed
  | checkout
  | checkin (failure : Option Failure)
  | begin (depth : Nat)
  | commit (depth : Nat)
  | rollback (depth : Nat) (failure : Failure)
  | execute (statement : String) (params : Json)
  | fetch (statement : String) (params : Json)
  | executeMany (statement : String) (rows : List Json)
  /-- A call that was only written down. -/
  | noted (method : String) (arguments : List Json)
  deriving Inhabited

/-- A statement: as a text, or put together from parts. -/
inductive Statement where
  | plain (text : String)
  | composed (text : String)
  deriving DecidableEq, Repr

/-- The text of a statement. -/
def Statement.text : Statement → String
  | plain text => text
  | composed text => text

/-- The answer to a statement: the number of rows it touched, and the rows it returned. -/
structure Reply where
  rowCount : Json
  rows : Option (List Json)

/-- The rows that can be fetched. -/
def Reply.fetched (r : Reply) : List Json := r.rows.getD []

end PgSchema.Store

namespace PgSchema

/-- The state of a store.  The events are held newest first. -/
structure Store where
  script : Store.Script := []
  metadata : List Json := []
  /-- The statements in effect, newest first. -/
  applied : List Store.Event := []
  depth : Nat := 0
  events : List Store.Event := []

namespace Store

/-- One more event. -/
def record (s : Store) (e : Event) : Store := { s with events := e :: s.events }

/-- A use that succeeds is in effect from then on. -/
def settle {α : Type} (e : Event) : Except Failure α × Store → Except Failure α × Store
  | (.ok a, s) => (.ok a, { s with applied := e :: s.applied })
  | (.error failure, s) => (.error failure, s)

/-- What the store holds is again what it was. -/
def restore (s saved : Store) : Store :=
  { s with metadata := saved.metadata, applied := saved.applied }

/-- The script is asked about a text. -/
def ask (s : Store) (text : String) : Except Failure (Option Rule) × Store :=
  let (found, script) := Script.consult text s.script
  let s := { s with script }
  match found with
  | none => (.ok none, s)
  | some rule =>
    match rule.failure with
    | some failure => (.error failure, s)
    | none => (.ok (some rule), s)

/-- What the statements that read metadata begin with. -/
def metadataQuery : String := "SELECT kind, name, content FROM "

/-- What the statements that empty a table begin with. -/
def emptying : String := "DELETE FROM "

/-- The kind and the name of a row of metadata, by which rows are ordered. -/
def rowKey (row : Json) : List Json :=
  match row.elements with
  | .ok cells => cells.take 2
  | .error _ => []

/-- A row comes before another, by the first part of their keys in which they differ. -/
def keyPrecedes : List Json → List Json → Except Fault Bool
  | x :: xs, y :: ys => if x.same y then keyPrecedes xs ys else x.precedes y
  | _, _ => .ok false

/-- Rows next to each other can be put in order. -/
def checkOrder : List Json → Except Fault Unit
  | x :: y :: rest => do
    let _ ← keyPrecedes (rowKey y) (rowKey x)
    checkOrder (y :: rest)
  | _ => .ok ()

/-- A row comes no later than another. -/
def rowLe (x y : Json) : Bool :=
  match keyPrecedes (rowKey y) (rowKey x) with
  | .ok later => !later
  | .error _ => true

/-- The metadata in order. -/
def sortedMetadata (s : Store) : Except Fault (List Json) := do
  checkOrder s.metadata
  return s.metadata.mergeSort rowLe

/-- The answer to a statement that the script has none for. -/
def answer (s : Store) (statement : Statement) : Except Failure Reply × Store :=
  if Text.begins metadataQuery statement.text then
    (match s.sortedMetadata with
      | .ok rows => .ok ⟨.int 0, some rows⟩
      | .error fault => .error (.fault fault), s)
  else
    match statement with
    | .composed text =>
      (.ok ⟨.int 0, none⟩, if Text.begins emptying text then { s with metadata := [] } else s)
    | .plain _ => (.ok ⟨.int 0, none⟩, s)

/-- A statement is run, as an event. -/
def run (s : Store) (event : Event) (statement : Statement) : Except Failure Reply × Store :=
  settle event <|
    match (s.record event).ask statement.text with
    | (.error failure, s) => (.error failure, s)
    | (.ok (some rule), s) => (.ok ⟨rule.rowCount, rule.rows⟩, s)
    | (.ok none, s) => s.answer statement

/-- Rows are written to the metadata by one statement. -/
def insertRows (s : Store) (statement : String) (rows : List Json) : Except Failure Unit × Store :=
  let event := Event.executeMany statement rows
  settle event <|
    match (s.record event).ask statement with
    | (.error failure, s) => (.error failure, s)
    | (.ok _, s) => (.ok (), { s with metadata := s.metadata ++ rows })

/-- An event that the script is asked about under a name of its own. -/
def signal (s : Store) (event : Event) (text : String) : Except Failure Unit × Store :=
  match (s.record event).ask text with
  | (.error failure, s) => (.error failure, s)
  | (.ok _, s) => (.ok (), s)

end Store

end PgSchema
