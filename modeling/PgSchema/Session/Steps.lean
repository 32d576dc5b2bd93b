import PgSchema.Object.Library
import PgSchema.Session.Program

/-!
Steps of a program, done and answered.

Every step is answered, whether it succeeds or fails.  The steps of a task are answered inside the
answer to the step that called the task; a step that fails ends its task, unless its failure is
caught.
-/

namespace PgSchema.Session

open Object

/-! ### Registers -/

/-- The register that a step works on if it names none. -/
def defaultRegister : String := "it"

/-- The register with the connection. -/
def connectionRegister : String := "conn"

/-- What a register holds, or else a fault. -/
def register (name : String) (otherwise : Fault) : Run Value := do
  let s ← Action.work
  match s.registers.get? name with
  | some v => return v
  | none => refuse otherwise

/-! ### Arguments -/

/-- A model without a table. -/
def plainModel (attributes : Entries Json) : Run Value := do
  let values ← ofEntries attributes
  newObject (.model Model.plainClass) values

/-- The table that a step names. -/
def tableNamed (name : Json) : Run Value := do
  let s ← Action.work
  match name.text?.bind fun n => s.world.tables.find? (·.name = n) with
  | some t => return .table t
  | none => refuse (.noKey name)

/-- An argument is evaluated.  A task only runs when it is called. -/
def evalArg : Arg → Run Value
  | .data value => ofJson value
  | .table name => tableNamed name
  | .model attributes => plainModel attributes
  | .models all => do
    let models ← Action.each plainModel all
    newList models
  | .factory attributes => return .function (.factory attributes)
  | .register name => register name (.noKey (.text name))
  | .task t => return .function (.task t)

/-- Arguments are evaluated, those by place before those by name. -/
def evalArgs (args named : List Arg) (names : List String) : Run (List Value × Entries Value) := do
  let xs ← Action.each evalArg args
  let ys ← Action.each evalArg named
  return (xs, names.zip ys)

/-! ### Deeds -/

/-- The classes that objects are made of by name. -/
def builderClasses : List String :=
  ["QueryBuilder", "Selector", "Updater", "Deleter", "Relation", "Inserter"]

/-- What else stands beside these classes under a name. -/
def besides : Entries Value :=
  let form (name : String) : String × Value := (name, .foreign "typing" ("typing." ++ name))
  [("ALWAYS_FALSE", .text Query.Conditions.never), ("ALWAYS_TRUE", .text Query.Conditions.always),
   (OnConflict.title, .cls (.known OnConflict.title)), (Table.title, .cls (.known Table.title)),
   (Column.modelName, .cls (.known Column.modelName)),
   ("logger", .foreign "Logger" "<Logger infrastructure.query (WARNING)>"),
   ("logging", .foreign "module" "<module 'logging'>"), ("M", .foreign "TypeVar" "~M"),
   ("__name__", .text "infrastructure.query"), form "List", form "Optional"]

/-- What is known by a name for making objects. -/
def maker (name : String) : Run Value :=
  if name ∈ builderClasses then return .cls (.known name)
  else
    match besides.get? name with
    | some v => return v
    | none => refuse (.noModuleAttribute (Class.known "QueryBuilder").home name)

/-- A deed is done. -/
def runDeed (m : Machine) : Deed → Run Value
  | .create name table args named names => do
    let f ← maker name
    let connection ← register connectionRegister (.noKey (.text connectionRegister))
    let t ← tableNamed table
    let (xs, ys) ← evalArgs args named names
    m.call f (connection :: t :: xs) ys
  | .get name attr => do
    let v ← register name (.noRegister name)
    m.member v attr
  | .call name "__iter__" .. => do
    let v ← register name (.noRegister name)
    let items ← m.items v
    newList items
  | .call name "__repr__" .. => do
    let v ← register name (.noRegister name)
    let text ← showLiteral v
    return .text text
  | .call name method args named names => do
    let v ← register name (.noRegister name)
    let f ← m.member v method
    let (xs, ys) ← evalArgs args named names
    m.call f xs ys

/-- A deed is done, and what it was handed to the workers for is awaited.  The outcome also tells
whether there was something to await. -/
def runAwaited (m : Machine) (deed : Deed) : Run (Value × Bool) := do
  match ← runDeed m deed with
  | .future outcome => do
    let v ← Action.ofOutcome outcome
    return (v, true)
  | v => return (v, false)

/-! ### Steps -/

/-- The failure of a step as it leaves its task. -/
def leaving : Failure → Failure
  | .fault (.noRegister _) => .raised "LookupError" (.text "no register")
  | e => e

/-- What a step comes to: its value, kept in the register for it, and the value as it is shown. -/
def settle (m : Machine) (deed : Deed) (target : Option String) : Run (Json × Bool) := do
  let (v, deferred) ← runAwaited m deed
  match target with
  | some name => Action.changeWork fun s => { s with registers := s.registers.put name v }
  | none => pure ()
  let shown ← showValue v
  return (shown, deferred)

/-- A step is run and answered.  What its tasks answer is kept apart from what was answered
before. -/
def answered (m : Machine) : Step → Run (Except Failure Unit × Answer)
  | .make deed target _ => fun c =>
    let before := c.work.inner
    let (r, d) := settle m deed target { c with work := { c.work with inner := [] } }
    let deferred := match r with
      | .ok (_, deferred) => deferred
      | .error _ => false
    let answer := Answer.make (r.map (·.1)) deferred d.work.inner
      (d.store.events.take (d.store.events.length - c.store.events.length)).reverse
      (d.lines.take (d.lines.length - c.lines.length)).reverse d.counts
    (.ok (r.map fun _ => (), answer), { d with work := { d.work with inner := before } })

/-- A step is run inside a task: its answer is kept, and its failure ends the task unless it is
caught. -/
def runInner (m : Machine) (s : Step) : Run Unit := do
  let (outcome, answer) ← answered m s
  Action.changeWork fun s => { s with inner := s.inner ++ [answer] }
  match outcome, s with
  | .error e, .make _ _ false => Action.fail (leaving e)
  | _, _ => return ()

/-- The end of a task. -/
def ending (failure : Option Failure) (result : Json) : Run Value :=
  match failure with
  | some e => Action.fail e
  | none => ofJson result

/-- A task is run. -/
def runTask (m : Machine) : Task → Run Value
  | .make steps failure result => do
    let _ ← Action.each (runInner m) steps
    ending failure result

end PgSchema.Session
