import PgSchema.Migration.Migrator
import PgSchema.Schema.Table
import PgSchema.Session.Program

/-!
Values: what the registers of a session hold, and what the names of a module stand for.

Numbers, texts and the parts of a schema are values as they are.  Lists, dictionaries and the
instances of classes can be changed in place and be held under several names, so they live on a
heap, and a value only points to them.  The pointer tells the class, which never changes.
-/

namespace PgSchema.Object

open Number (Double)
open Session (Task)

/-- A class. -/
inductive Class where
  /-- A class of the library or of the language. -/
  | known (name : String)
  /-- A class of models, whose instances have any attributes. -/
  | model (name : String)
  /-- A class that a module defines: its base, which is `object` if it has no other, and where its
  members are. -/
  | made (name : String) (base : Class) (members : Nat)
  deriving DecidableEq, Repr, Inhabited

/-- A function. -/
inductive Function where
  /-- A function of the library or of the language, by the class that it belongs to. -/
  | known (owner name : String)
  /-- A function that a module defines. -/
  | defined (id : Nat)
  /-- A task of a program. -/
  | task (t : Task)
  /-- A function without parameters that gives a model. -/
  | factory (attributes : Entries Json)
  /-- A function that writes its calls down. -/
  | noting (method : String)
  deriving Inhabited

/-- A value. -/
inductive Value where
  | null
  | bool (b : Bool)
  | int (n : Int)
  | double (x : Double)
  | text (s : String)
  | tuple (items : List Value)
  | list (id : Nat)
  | dict (id : Nat)
  /-- The keys, the values or the entries of a dictionary. -/
  | view (sort : String) (dict : Nat)
  | object (cls : Class) (id : Nat)
  | cls (c : Class)
  | function (f : Function)
  /-- A function together with what it is called on. -/
  | method (receiver : Value) (f : Function)
  /-- A function that is called on its class, as a member of that. -/
  | ofClass (f : Value)
  | table (t : Table)
  | column (c : Column)
  | kind (k : StorageKind)
  | policy (p : OnConflict)
  | migration (r : Migration.Result)
  | step (s : Migration.Step)
  | migrator (m : Migration.Migrator)
  /-- The outcome of a task that was handed to the workers. -/
  | future (outcome : Except Failure Value)
  /-- Something of which only the class and the text are known. -/
  | foreign (className text : String)
  deriving Inhabited

namespace Class

/-- The name of a class. -/
def name : Class → String
  | known name | model name | made name _ _ => name

/-- The classes that are built on another one than `object`. -/
def bases : List (String × String) :=
  [("bool", "int"), ("OnConflict", "str"), ("StorageKind", "str"), ("Selector", "QueryBuilder"),
   ("Updater", "QueryBuilder"), ("Deleter", "QueryBuilder"), ("Relation", "QueryBuilder"),
   ("DatabaseConnection", "BaseRepository")]

/-- The class that all others are built on. -/
def root : Class := known "object"

/-- The classes that a class takes its members from, itself first. -/
def lineage : Class → List Class
  | made name base members => made name base members :: lineage base
  | known name =>
    if known name = root then [root]
    else known name :: ((bases.lookup name).toList.map known ++ [root])
  | model name => [model name, root]

/-- The class is another one, or is built on it. -/
def isKind (c : Class) (name : String) : Bool := c.lineage.contains (known name)

/-- The classes of the language whose functions are built in. -/
def builtIn : List String :=
  ["str", "int", "float", "bool", "list", "tuple", "dict", "object", "builtins"]

/-- The class of a class. -/
def ofClass (c : Class) : String :=
  if c.isKind OnConflict.title || c.isKind StorageKind.title then "EnumType"
  else if c.isKind Table.title || c.isKind Column.modelName then "ModelMetaclass"
  else if c.isKind "BaseRepository" then "ABCMeta"
  else "type"

end Class

/-- The class of a function, or of a function with a receiver. -/
def Function.className (bound : Bool) : Function → String
  | known owner _ =>
    if owner ∈ Class.builtIn then "builtin_function_or_method"
    else if bound then "method" else "function"
  | _ => if bound then "method" else "function"

namespace Value

/-- The class of a value. -/
def classOf : Value → Class
  | null => .known "NoneType"
  | bool _ => .known "bool"
  | int _ => .known "int"
  | double _ => .known "float"
  | text _ => .known "str"
  | tuple _ => .known "tuple"
  | list _ => .known "list"
  | dict _ => .known "dict"
  | view sort _ => .known sort
  | object c _ => c
  | cls c => .known c.ofClass
  | function f => .known (f.className false)
  | method _ f => .known (f.className true)
  | ofClass _ => .known "classmethod"
  | table _ => .known Table.title
  | column _ => .known Column.modelName
  | kind _ => .known StorageKind.title
  | policy _ => .known OnConflict.title
  | migration _ => .known "MigrationResult"
  | step _ => .known "StepResult"
  | migrator _ => .known "SchemaMigrator"
  | future _ => .known "Future"
  | foreign name _ => .known name

/-- The name by which messages call the sort of a value. -/
def sortName (v : Value) : String := v.classOf.name

/-- The text that a value is, or counts as. -/
def text? : Value → Option String
  | text s => some s
  | policy p => some p.text
  | kind k => some k.text
  | _ => none

/-- The number that a value is, or counts as. -/
def number? : Value → Option Json
  | bool b => some (.bool b)
  | int n => some (.int n)
  | double x => some (.double x)
  | _ => none

end Value

end PgSchema.Object
