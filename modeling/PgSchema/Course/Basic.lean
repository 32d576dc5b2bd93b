import PgSchema.Lock.ReadersWriter
import PgSchema.Log.Line
import PgSchema.Migration.Result
import PgSchema.Store.Basic

/-!
Courses of work on a store.

A `Course` is the state of the work: the store, the lock that the work goes through, what a
connection remembers, the contexts that are open, and the lines of the log.  An `Action` runs in a
course.  It may fail, and what it has done to the course by then stays done.  A block sets something
up before a body of work and puts it back after it, however the body ends.
-/

namespace PgSchema

/-- A place of work: a store, the lock in front of it, and what the connection to it remembers. -/
structure Site where
  store : Store := {}
  /-- The holders of the lock. -/
  counts : Lock.Counts := {}
  /-- The work is inside a transaction, and its statements join it. -/
  joined : Bool := false
  /-- The result of the migration, once there is one. -/
  migrated : Option Migration.Result := none
  /-- The classes of models that are known, by table. -/
  models : Entries String := []
  /-- The workers for transactions in the background are gone. -/
  workersGone : Bool := false
  deriving Inhabited

/-- The state of a course of work: the site at hand, the contexts that are open, the lines of the
log, and a part `work` that belongs to the application. -/
structure Course (σ : Type) extends Site where
  contexts : Log.Stack := []
  /-- The lines of the log, newest first. -/
  lines : List Log.Line := []
  work : σ

/-- An action in a course of work. -/
def Action (σ α : Type) : Type := Course σ → Except Failure α × Course σ

namespace Action

variable {σ α β : Type}

instance : Monad (Action σ) where
  pure a := fun c => (.ok a, c)
  bind x f := fun c =>
    match x c with
    | (.ok a, c) => f a c
    | (.error e, c) => (.error e, c)

/-- The action that fails. -/
def fail (e : Failure) : Action σ α := fun c => (.error e, c)

/-- A result that was computed without the course. -/
def check (x : Except Fault α) : Action σ α :=
  match x with
  | .ok a => pure a
  | .error fault => fail (.fault fault)

/-- The course as it is. -/
def course : Action σ (Course σ) := fun c => (.ok c, c)

/-- A change of the course. -/
def change (f : Course σ → Course σ) : Action σ Unit := fun c => (.ok (), f c)

/-- The part of the application. -/
def work : Action σ σ := fun c => (.ok c.work, c)

/-- A change of the part of the application. -/
def changeWork (f : σ → σ) : Action σ Unit := change fun c => { c with work := f c.work }

/-- The outcome of an action, as a result that does not fail. -/
def outcome (x : Action σ α) : Action σ (Except Failure α) := fun c =>
  let (r, c) := x c
  (.ok r, c)

/-- A result or a failure, handed on. -/
def ofOutcome : Except Failure α → Action σ α
  | .ok a => pure a
  | .error e => fail e

/-- A use of the store. -/
def onStore (f : Store → Except Failure α × Store) : Action σ α := fun c =>
  let (r, store) := f c.store
  (r, { c with store })

/-- A line of the log, in the context at hand. -/
def log (level : Log.Level) (channel : Log.Channel) (message : String) : Action σ Unit :=
  change fun c => { c with lines := ⟨level, channel, message, c.contexts.current⟩ :: c.lines }

/-- A statement on the connection at hand. -/
def run (statement : Store.Statement) (params : Json) : Action σ Store.Reply :=
  onStore fun s => s.run (.execute statement.text params) statement

/-- A statement whose rows come by the names of their columns. -/
def query (statement : String) (params : Json) : Action σ (List Json) := do
  let reply ← onStore fun s => s.run (.fetch statement params) (.plain statement)
  return reply.fetched

/-- An action for each item, one after the other. -/
def each (f : α → Action σ β) : List α → Action σ (List β)
  | [] => pure []
  | a :: rest => do
    let b ← f a
    let bs ← each f rest
    return b :: bs

/-! ### Blocks -/

/-- A block with a coordinate of its own in the context. -/
def within (coordinate : Log.Coordinate) (value : String) (body : Action σ α) : Action σ α :=
  fun c =>
    let context := c.contexts.current.withCoordinate coordinate value
    let (r, d) := body { c with contexts := context :: c.contexts }
    (r, { d with contexts := d.contexts.pop })

/-- A block with a frame of its own over the context.  A frame that cannot be laid over it fails
before the body begins. -/
def framed (frame : Entries Json) (body : Action σ α) : Action σ α := fun c =>
  match c.contexts.push frame with
  | .error fault => (.error (.fault fault), c)
  | .ok contexts =>
    let (r, d) := body { c with contexts }
    (r, { d with contexts := d.contexts.pop })

/-- A block whose failures are told and reported as failures of an operation of the repository.  The
repository's own failures pass as they are. -/
def guarding (owner operation : String) (table : Option String) (body : Action σ α) :
    Action σ α := fun c =>
  match body c with
  | (.error e, d) =>
    if e.isTyped then (.error e, d)
    else
      let wrapped := Failure.repository operation table e
      (do log .error (.repository owner) wrapped.text; fail wrapped : Action σ α) d
  | done => done

/-- A block that holds the lock on one side. -/
def locked (mode : Lock.Mode) (body : Action σ α) : Action σ α := fun c =>
  let (r, d) := body { c with counts := (c.counts.arrive mode).enter mode }
  (r, { d with counts := d.counts.leave mode })

/-- A block on a connection of the pool. -/
def pooled (body : Action σ α) : Action σ α := fun c =>
  match c.store.signal .checkout Store.checkoutText with
  | (.error e, store) => (.error e, { c with store })
  | (.ok (), store) =>
    let (r, d) := body { c with store }
    let failure := match r with
      | .ok _ => none
      | .error e => some e
    (r, { d with store := d.store.record (.checkin failure) })

/-- A transaction on the connection at hand, or a savepoint inside one: if the body fails, or the
commit does, the store holds again what it held before. -/
def transaction (body : Action σ α) : Action σ α := fun c =>
  let depth := c.store.depth
  match c.store.signal (.begin depth) Store.beginText with
  | (.error e, store) => (.error e, { c with store })
  | (.ok (), saved) =>
    let (r, d) := body { c with store := { saved with depth := depth + 1 } }
    let store := { d.store with depth }
    match r with
    | .error e => (.error e, { d with store := (store.record (.rollback depth e)).restore saved })
    | .ok a =>
      match store.signal (.commit depth) Store.commitText with
      | (.error e, store) => (.error e, { d with store := store.restore saved })
      | (.ok (), store) => (.ok a, { d with store })

/-- A block whose statements join the transaction that it runs in. -/
def joining (body : Action σ α) : Action σ α := fun c =>
  let (r, d) := body { c with joined := true }
  (r, { d with joined := false })

/-- A block that runs aside: it sees neither the contexts nor the transaction of the work that
started it. -/
def aside (body : Action σ α) : Action σ α := fun c =>
  let (r, d) := body { c with contexts := [], joined := false }
  (r, { d with contexts := c.contexts, joined := c.joined })

end Action

end PgSchema
