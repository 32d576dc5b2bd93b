import PgSchema.Fault
import PgSchema.Json.Access
import PgSchema.Number.Shortest

/-!
Lines of a log: level, name of the log, message, and the context in which the line was written.
Moments are written for machines or for readers.

A context gives the coordinates of the schema that the work at hand is about.  A block of work opens
a frame, which is laid over the context around it: a coordinate that the frame gives takes the place
of the one outside, even with null, and extras pile up.  The stack of open contexts belongs to one
thread.
-/

namespace PgSchema

/-- A moment: the date and the time of day, in universal time. -/
structure Moment where
  date : String
  time : String
  deriving DecidableEq, Repr

namespace Moment

/-- A moment for machines. -/
def stamp (m : Moment) : String := m.date ++ "T" ++ m.time ++ "+00:00"

/-- A moment for readers. -/
def plain (m : Moment) : String := m.date ++ " " ++ m.time

end Moment

end PgSchema

namespace PgSchema.Log

/-! ### Contexts -/

/-- The coordinates. -/
inductive Coordinate where
  | database
  | table
  | column
  | operation
  | correlation
  deriving DecidableEq, Repr

namespace Coordinate

/-- All coordinates, in the order in which they are shown. -/
def all : List Coordinate := [database, table, column, operation, correlation]

/-- The name of a coordinate as a field. -/
def field : Coordinate → String
  | database => "database"
  | table => "table"
  | column => "column"
  | operation => "operation"
  | correlation => "correlation_id"

/-- The name of a coordinate as a label. -/
def label : Coordinate → String
  | database => "db"
  | table => "table"
  | column => "column"
  | operation => "op"
  | correlation => "cid"

end Coordinate

/-- A context: the value of each coordinate, null if it is not set, and extras. -/
structure Context where
  coordinate : Coordinate → Json
  extra : Entries Json

namespace Context

/-- The context without anything set. -/
def empty : Context := ⟨fun _ => .null, []⟩

instance : Inhabited Context := ⟨empty⟩

/-- The field that holds the extras of a frame. -/
def extraField : String := "extra"

/-- The names that a frame may give. -/
def frameFields : List String := extraField :: Coordinate.all.map Coordinate.field

/-- The name by which a context goes itself where a frame is laid over it. -/
def ownName : String := "self"

/-- The extras of a frame. -/
def frameExtra (frame : Entries Json) : Except Fault (Entries Json) :=
  match frame.get? extraField with
  | none => .ok []
  | some (.object fields) => .ok fields
  | some other => .error (.notMapping other.sortName)

/-- A frame laid over a context. -/
def merge (context : Context) (frame : Entries Json) : Except Fault Context := do
  if ownName ∈ frame.keys then throw (.repeatedArgument "LogContext.merged" ownName)
  let extra ← frameExtra frame
  match frame.keys.find? (· ∉ frameFields) with
  | some unknown => throw (.unknownKeyword "LogContext.__init__" unknown)
  | none =>
    return ⟨fun c => (frame.get? c.field).getD (context.coordinate c), context.extra.merge extra⟩

/-- The coordinates that are set, in order. -/
def set (context : Context) : List (Coordinate × Json) :=
  Coordinate.all.filterMap fun c =>
    match context.coordinate c with
    | .null => none
    | value => some (c, value)

/-- A context as an object: what is set of the coordinates, and over it the extras. -/
def toEntries (context : Context) : Entries Json :=
  Entries.merge (context.set.map fun (c, value) => (c.field, value)) context.extra

/-- The labels of the coordinates that are set. -/
def labels (context : Context) : List String :=
  context.set.map fun (c, value) => c.label ++ "=" ++ value.plain

/-- A context with one more coordinate set. -/
def withCoordinate (context : Context) (c : Coordinate) (value : String) : Context :=
  { context with coordinate := fun d => if d = c then .text value else context.coordinate d }

end Context

/-- The contexts of the blocks that are open, innermost first. -/
abbrev Stack := List Context

/-- The context at hand. -/
def Stack.current (stack : Stack) : Context := stack.headD Context.empty

/-- A block with a frame is opened. -/
def Stack.push (stack : Stack) (frame : Entries Json) : Except Fault Stack :=
  (stack.current.merge frame).map (· :: stack)

/-- The innermost block is closed. -/
def Stack.pop (stack : Stack) : Stack := stack.tail

/-- The stacks of threads, each thread with one of its own. -/
abbrev Stacks (θ : Type) := θ → Stack

namespace Stacks

variable {θ : Type}

/-- No thread has a block open. -/
def start : Stacks θ := fun _ => []

/-- The context at hand on a thread. -/
def current (threads : Stacks θ) (thread : θ) : Context := (threads thread).current

variable [DecidableEq θ]

/-- One thread has another stack. -/
def put (threads : Stacks θ) (thread : θ) (stack : Stack) : Stacks θ :=
  fun other => if other = thread then stack else threads other

/-- A thread opens a block with a frame. -/
def enter (threads : Stacks θ) (thread : θ) (frame : Entries Json) : Except Fault (Stacks θ) :=
  ((threads thread).push frame).map (threads.put thread)

/-- A thread leaves its innermost block. -/
def leave (threads : Stacks θ) (thread : θ) : Stacks θ :=
  threads.put thread (threads thread).pop

end Stacks

/-! ### Lines -/

/-- The level of a line. -/
inductive Level where
  | debug
  | info
  | warning
  | error
  | critical
  deriving DecidableEq, Repr

namespace Level

/-- The number of a level. -/
def number : Level → Int
  | debug => 10
  | info => 20
  | warning => 30
  | error => 40
  | critical => 50

/-- The name of a level. -/
def name : Level → String
  | debug => "DEBUG"
  | info => "INFO"
  | warning => "WARNING"
  | error => "ERROR"
  | critical => "CRITICAL"

/-- All levels. -/
def all : List Level := [debug, info, warning, error, critical]

/-- The levels with their names, and the name of what is below all levels. -/
def names : List (String × Int) := ("NOTSET", 0) :: all.map fun level => (level.name, level.number)

/-- The whole number that a value is, if it is one. -/
def whole? : Json → Option Int
  | .double x => x.toInt?
  | value => value.whole?

/-- The name of any value as a level.  The name of a level stands, the other way round, for its
number. -/
def nameOf (value : Json) : Except Fault Json :=
  match value with
  | .list _ | .object _ => .error (.notHashable value.sortName)
  | _ =>
    match (whole? value).bind fun n => names.find? (·.2 = n) with
    | some (name, _) => .ok (.text name)
    | none =>
      match value.text?.bind (List.lookup · names) with
      | some n => .ok (.int n)
      | none => .ok (.text ("Level " ++ value.plain))

end Level

/-- The parts of the program that write to the log. -/
inductive Channel where
  | building
  | conditions
  | access
  | compilation
  | locking
  | migration
  | connection
  | repository (name : String)
  | timer
  deriving DecidableEq, Repr

/-- The name of the log that a part writes to. -/
def Channel.name : Channel → String
  | building => "core.schema.sql_generator"
  | conditions => "compiler.conditions"
  | access => "compiler.access_surface"
  | compilation => "compiler.generator"
  | locking => "infrastructure.locking"
  | migration => "infrastructure.migration"
  | connection => "infrastructure.postgresql"
  | repository name => name
  | timer => "timer"

/-- A line of the log. -/
structure Line where
  level : Level
  channel : Channel
  message : String
  context : Context

/-- A whole number as one with a fraction, of which there are none beyond a bound. -/
def ofWhole (n : Int) : Except Fault Number.Double :=
  let x := Number.Double.ofInt n
  if x.isFinite then .ok x else .error .tooLarge

/-- The milliseconds from one time to another. -/
def millisecondsBetween (start finish : Json) : Except Fault Number.Double :=
  match finish, finish.whole?, start, start.whole? with
  | _, some f, _, some s => ofWhole ((f - s) * 1000)
  | .double f, _, .double s, _ => .ok ((f.sub s).times 1000)
  | .double f, _, _, some s => do return (f.sub (← ofWhole s)).times 1000
  | _, some f, .double s, _ => do return ((← ofWhole f).sub s).times 1000
  | _, _, _, _ => .error (.notOperands "-" finish.sortName start.sortName)

/-- The message on how long something took, with one digit after the point. -/
def elapsedText (what : String) (milliseconds : Number.Double) : String :=
  what ++ " took " ++ milliseconds.tenths ++ " ms"

/-- The message on how long something took between two times. -/
def elapsed (what : String) (start finish : Json) : Except Fault String :=
  (millisecondsBetween start finish).map (elapsedText what)

end PgSchema.Log
