import PgSchema.Object.Builtin
import PgSchema.Object.Library

/-!
Values made by calling classes.

The classes of the language make values of other values.  An instance of another class starts without attributes, and the function `__init__` of its class sets it up.
-/

namespace PgSchema.Object

/-- At most one argument, by its place. -/
def oneOrNone (name : String) (g : Given) : Run (Option Value) :=
  if !g.names.isEmpty then refuse (.noKeywords name)
  else if g.places.length ≤ 1 then return g.nth? 0
  else refuse (.argumentCount name 0 1 g.places.length)

/-- A value as a text.  It is read by an encoding as soon as one is told, which only bytes can be. -/
def toText (g : Given) : Run Value := do
  let isCoded := 1 < g.places.length || g.names.has "encoding" || g.names.has "errors"
  let plain := some (Value.text "")
  let g ← Action.check ((Arity.named 3 [("object", plain), ("encoding", plain), ("errors", plain)]
    ).accept "builtins" "str" g)
  let _ ← needTextFor "str" "argument 'encoding'" (g.nth 1)
  let _ ← needTextFor "str" "argument 'errors'" (g.nth 2)
  if !isCoded then
    let text ← showPlain (g.nth 0)
    return .text text
  else if (g.nth 0).text?.isSome then refuse (.badSort "decoding str is not supported")
  else
    refuse (.notText "decoding to str: need a bytes-like object, "
      ((g.nth 0).sortName ++ " found"))

/-- A value as a whole number. -/
def toInt (v : Value) : Run Value :=
  match v.text?, v, wholeOf? v with
  | some s, _, _ => do
    let n ← Action.check (Json.wholeOfText s)
    return .int n
  | none, .double _, _ => toWhole Number.Double.truncated v
  | none, _, some n => return .int n
  | none, _, none =>
    refuse (.badSort ("int() argument must be a string, a bytes-like object or a real number, not "
      ++ Fault.marked v.sortName))

/-- A value as a number with a fraction. -/
def toDouble (v : Value) : Run Value :=
  match v.text?, v.number? with
  | some _, _ => unsupported "float"
  | none, some a => do
    let x ← asDouble a
    return .double x
  | none, none =>
    refuse (.badSort ("float() argument must be a string or a real number, not " ++
      Fault.marked v.sortName))

/-- A value of a class of the language. -/
def convert (m : Machine) (name : String) (g : Given) : Run Value :=
  let one (none_ : Run Value) (some_ : Value → Run Value) : Run Value := do
    match ← oneOrNone name g with
    | none => none_
    | some v => some_ v
  match name with
  | "str" => toText g
  | "int" => one (return .int 0) toInt
  | "float" => one (return .double (Number.Double.ofInt 0)) toDouble
  | "bool" => one (return .bool false) fun v => do
    let b ← isTrue v
    return .bool b
  | "list" => one (newList []) fun v => do
    let items ← m.items v
    newList items
  | "tuple" => one (return .tuple []) fun v => do
    let items ← m.items v
    return .tuple items
  | "dict" => do
    let g ← Action.check ((Arity.free (some 1)).accept "builtins" name g)
    let id ← alloc (.dict [])
    match g.nth? 0 with
    | some v => updateFrom m id v
    | none => pure ()
    updateNamed id g.names
    return .dict id
  | "type" =>
    match g.places with
    | [v] => return .cls v.classOf
    | _ => refuse (.badSort "type() takes 1 or 3 arguments")
  | "classmethod" => one (unsupported name) fun v => return .ofClass v
  | "NoneType" =>
    if g.places.isEmpty && g.names.isEmpty then return .null
    else refuse (.badSort "NoneType takes no arguments")
  | name => return .foreign name ("<" ++ name ++ " object>")

/-! ### Instances -/

/-- The name of the function that sets up instances. -/
def initName : String := "__init__"

/-- A member of an enumeration, by its text. -/
def memberNamed (c : Class) (v : Value) : Run Value := do
  let shown ← showLiteral v
  let fault := Fault.notMember shown c.name
  match c, v.text? with
  | .known "OnConflict", some s =>
    match OnConflict.ofText? s with
    | some p => return .policy p
    | none => refuse fault
  | .known "StorageKind", some s =>
    match StorageKind.ofText? s with
    | some k => return .kind k
    | none => refuse fault
  | _, _ => refuse fault

/-- An instance of a class that has a function to set it up. -/
def instantiate (m : Machine) (c : Class) (given : List Value) (named : Entries Value) :
    Run Value := do
  let h ← heap
  match classMember? h c initName with
  | none | some (.bare _) =>
    if given.isEmpty && named.isEmpty then newObject c []
    else refuse (.noParameters c.name)
  | some found =>
    let self ← newObject c []
    let f ← found.onValue m self initName
    let _ ← m.call f given named
    return self

/-- The classes of the library whose instances are made by calling them. -/
def instantiable : List String :=
  ["QueryBuilder", "Selector", "Updater", "Deleter", "Relation", "Inserter", "DatabaseConnection"]

/-- A class is called. -/
def construct (m : Machine) (c : Class) (given : List Value) (named : Entries Value) :
    Run Value :=
  match c with
  | .made .. => instantiate m c given named
  | .model name =>
    if given.isEmpty then newObject c named
    else refuse (.surplusArguments (name ++ "." ++ initName) 1 1 (given.length + 1))
  | .known name =>
    if name ∈ instantiable then instantiate m c given named
    else if c.ofClass = "EnumType" then
      match given with
      | [v] => memberNamed c v
      | _ => refuse (.missingArguments "EnumType.__call__" ["value"])
    else if c.ofClass = "ModelMetaclass" then
      if given.isEmpty then
        match name with
        | "TableDefinition" => do
          let data ← Action.each (fun e => do
            let x ← showValue e.2
            return (e.1, x)) named
          let t ← Action.check (Table.ofJson (.object data))
          return .table t
        | _ => do
          let data ← Action.each (fun e => do
            let x ← showValue e.2
            return (e.1, x)) named
          let column ← Action.check (Column.ofJson (.object data))
          return .column column
      else refuse (.surplusArguments ("BaseModel." ++ initName) 1 1 (given.length + 1))
    else convert m name ⟨given, named⟩

end PgSchema.Object
