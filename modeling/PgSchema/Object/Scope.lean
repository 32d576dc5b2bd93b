import PgSchema.Object.Library

/-!
Names and modules, while a module runs.

A name stands for what was last assigned to it: in the function or class at hand, else in the
module, else in the language.  What is imported comes from the modules of the library or from those
of models.
-/

namespace PgSchema.Object

/-! ### Names of the language -/

/-- The forms that stand for types. -/
def typeForms : List String :=
  ["Any", "Callable", "Dict", "List", "Optional", "Sequence", "Tuple", "Union", "Type", "Set",
   "FrozenSet", "Iterable", "Iterator", "Mapping", "Generic", "TypeVar"]

/-- The names of the classes of the language. -/
def languageClasses : List String :=
  ["bool", "bytearray", "bytes", "classmethod", "complex", "dict", "enumerate", "filter", "float",
   "frozenset", "int", "list", "map", "memoryview", "object", "property", "range", "reversed",
   "set", "slice", "staticmethod", "str", "super", "tuple", "type", "zip",
   "ArithmeticError", "AssertionError", "AttributeError", "BaseException", "Exception",
   "ImportError", "IndexError", "KeyError", "LookupError", "NameError", "NotImplementedError",
   "OSError", "RuntimeError", "StopIteration", "SyntaxError", "TypeError", "ValueError",
   "ZeroDivisionError"]

/-- The names of the functions of the language. -/
def languageFunctions : List String :=
  ["abs", "all", "any", "ascii", "bin", "callable", "chr", "compile", "delattr", "dir", "divmod",
   "eval", "exec", "format", "getattr", "globals", "hasattr", "hash", "hex", "id", "input",
   "isinstance", "issubclass", "iter", "len", "locals", "max", "min", "next", "oct", "open", "ord",
   "pow", "print", "repr", "round", "setattr", "sorted", "sum", "vars", "__import__"]

/-- What a name of the language stands for. -/
def languageName? (name : String) : Option Value :=
  if name ∈ languageClasses then some (.cls (.known name))
  else if name ∈ languageFunctions then some (.function (.known "builtins" name))
  else
    match name with
    | "__name__" => some (.text "builtins")
    | "__debug__" => some (.bool true)
    | "Ellipsis" => some (.foreign "ellipsis" "Ellipsis")
    | "NotImplemented" => some (.foreign "NotImplementedType" "NotImplemented")
    | _ => none

/-! ### Names of a module -/

/-- Where a statement stands. -/
inductive Place where
  | module
  | cls
  | function
  deriving DecidableEq, Repr

/-- The names of the function or class at hand. -/
structure Frame where
  place : Place
  names : Entries Value := []
  /-- What the names of functions begin with in messages. -/
  outer : String := ""

/-- What a name stands for. -/
def lookName (fr : Frame) (name : String) : Run Value := do
  let s ← Action.work
  match (fr.names.get? name).or ((s.globals.get? name).or (languageName? name)) with
  | some v => return v
  | none => refuse (.undefinedName name)

/-- A name is assigned to. -/
def assignName (fr : Frame) (name : String) (v : Value) : Run Frame :=
  if fr.place = .module then do
    Action.changeWork fun s => { s with globals := s.globals.put name v }
    return fr
  else return { fr with names := fr.names.put name v }

/-! ### Modules -/

/-- The names of classes with the classes. -/
def classesNamed (names : List String) : Entries Value := names.map fun n => (n, .cls (.known n))

/-- The builders of queries. -/
def queryClasses : List String :=
  ["Deleter", "Inserter", "QueryBuilder", "Relation", "Selector", "Updater"]

/-- The classes around migrations. -/
def migrationClasses : List String := ["MigrationResult", "SchemaMigrator", "StepResult"]

/-- What connections are imported with. -/
def connectionNames : Entries Value :=
  classesNamed [Connection.owner] ++
    [("TransactionTask", .foreign "typing" "typing.Callable[[], typing.Any]")]

/-- The kinds of data. -/
def dataClasses : List String := [OnConflict.title, StorageKind.title]

/-- The parts of a schema. -/
def schemaClasses : List String := [Table.title, Column.modelName, "DatabaseDefinition"]

/-- What the modules of the library and of the language have that can be imported. -/
def libraryModules : Entries (Entries Value) :=
  [("builtins", classesNamed languageClasses),
   ("concurrent.futures", classesNamed ["Future", "ThreadPoolExecutor"]),
   ("typing", typeForms.map fun n => (n, .foreign "typing" ("typing." ++ n))),
   ("core", classesNamed (dataClasses ++ schemaClasses)),
   ("core.contracts", classesNamed dataClasses),
   ("core.models", classesNamed schemaClasses),
   ("core.models.column", classesNamed [Column.modelName, StorageKind.title]),
   ("core.models.table", classesNamed [Table.title, Column.modelName]),
   ("core.models.database", classesNamed ["DatabaseDefinition", Table.title]),
   ("infrastructure", classesNamed (queryClasses ++ migrationClasses) ++ connectionNames),
   ("infrastructure.migration", classesNamed migrationClasses),
   ("infrastructure.postgresql", connectionNames ++ classesNamed ["MigrationResult", Table.title]),
   ("infrastructure.query",
      classesNamed (queryClasses ++ [OnConflict.title, Table.title, Column.modelName]))]

/-- What a module has that can be imported. -/
def moduleNames (module : String) : Run (Entries Value) := do
  let s ← Action.work
  let classes ← Action.check (s.world.surroundings.modules.find module)
  return (libraryModules.get? module).getD (classes.map fun n => (n, .cls (.model n)))

/-- Names are imported from a module. -/
def importNames (fr : Frame) (module : String) (known : Entries Value) :
    List (String × Option String) → Run Frame
  | [] => return fr
  | (name, other) :: rest => do
    match known.get? name with
    | some v => do
      let fr ← assignName fr (other.getD name) v
      importNames fr module known rest
    | none => refuse (.noName name module)

/-- A statement that imports names from a module.  There is no package that a module could be found
from by dots. -/
def importFrom (fr : Frame) (level : Nat) (module : String)
    (names : Option (List (String × Option String))) : Run Frame := do
  if level ≠ 0 then refuse (.noKey (.text "'__name__' not in globals"))
  else
    let known ← moduleNames module
    importNames fr module known (names.getD (known.keys.map (·, none)))

/-- A module as a value. -/
def moduleValue (name : String) : Value := .foreign "module" ("<module '" ++ name ++ "'>")

/-- Modules are imported as wholes.  One without a name of its own is kept under its first part. -/
def importModules (fr : Frame) : List (String × Option String) → Run Frame
  | [] => return fr
  | (name, other) :: rest => do
    let _ ← moduleNames name
    let first := String.ofList (name.toList.takeWhile (· ≠ '.'))
    let fr ← match other with
      | some other => assignName fr other (moduleValue name)
      | none => assignName fr first (moduleValue first)
    importModules fr rest

end PgSchema.Object
