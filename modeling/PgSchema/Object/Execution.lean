import PgSchema.Object.Construction
import PgSchema.Object.Evaluation

/-!
Statements of modules, run.

A class takes its base from the name as it is when the class is defined, and the body of a function
looks its names up when it is called.
-/

namespace PgSchema.Object

open Source (Expr Parameters Stmt)

/-! ### Functions -/

/-- The defaults of parameters. -/
def evalDefaults (m : Machine) (fr : Frame) :
    List Source.Parameter → Run (List (String × Option Value))
  | [] => return []
  | p :: rest => do
    let d ← match p.default with
      | some e => do
        let v ← eval m fr e
        pure (some v)
      | none => pure none
    let others ← evalDefaults m fr rest
    return (p.name, d) :: others

/-- The text that a body begins with. -/
def docOf : List Stmt → Value
  | .expr (.constant (.text s)) :: _ => .text s
  | _ => .null

/-- A function is defined. -/
def define (m : Machine) (fr : Frame) (name : String) (ps : Parameters) (returns : Option Expr)
    (body : List Stmt) : Run Value := do
  let parameters ← evalDefaults m fr ps.plain
  let named ← evalDefaults m fr ps.named
  let _ ← evalItems m fr (ps.all.filterMap (·.type) ++ returns.toList)
  let id ← alloc (.definition
    { callee := fr.outer ++ name, name, doc := docOf body, placed := ps.placed, parameters
      rest := ps.rest.map (·.name), named, more := ps.more.map (·.name), body })
  return .function (.defined id)

/-- A decorator is applied after those that stand below it. -/
def decorate (m : Machine) (v : Value) : List Value → Run Value
  | [] => return v
  | d :: rest => do
    let inner ← decorate m v rest
    m.call d [inner] []

/-! ### Classes -/

/-- The base of a class. -/
def baseOf : List Value → Run Class
  | [] => return .known "object"
  | [.cls c] => return c
  | _ => unsupported "base"

/-- The names that a class begins with. -/
def firstNames (callee : String) : Entries Value :=
  [("__module__", .text "builtins"), ("__qualname__", .text callee)]

/-- A class is made of its names. -/
def makeClass (name : String) (bases : List Value) (doc : Value) (names : Entries Value) :
    Run Value := do
  let base ← baseOf bases
  let names := names.erase "__qualname__"
  let members ← alloc (.attributes (if names.has "__doc__" then names else names.put "__doc__" doc))
  return .cls (.made name base members)

/-! ### Statements -/

mutual

/-- A statement is run.  The outcome is what it gives back, if it ends the function. -/
def exec (m : Machine) (fr : Frame) : Stmt → Run (Frame × Option Value)
  | .expr e => do
    let _ ← eval m fr e
    return (fr, none)
  | .assign targets value => do
    let v ← eval m fr value
    let fr ← assignAll m v fr targets
    return (fr, none)
  | .annotated target type value => do
    let fr ← match value with
      | some e => do
        let v ← eval m fr e
        assign m fr v target
      | none => pure fr
    if fr.place ≠ .function then
      let _ ← eval m fr type
    return (fr, none)
  | .give none => return (fr, some .null)
  | .give (some e) => do
    let v ← eval m fr e
    return (fr, some v)
  | .pass => return (fr, none)
  | .imports modules => do
    let fr ← importModules fr modules
    return (fr, none)
  | .importFrom level module names => do
    let fr ← importFrom fr level module names
    return (fr, none)
  | .cls decorators name kept arguments body => do
    let ds ← evalItems m fr decorators
    let (bases, _) ← evalArguments m fr (.function (.known "builtins" "__build_class__")) [] []
      arguments
    let callee := fr.outer ++ name
    let inner : Frame := { place := .cls, outer := callee ++ ".", names := firstNames callee }
    let (made, _) ← execAll m inner body
    let c ← makeClass name bases (docOf body) made.names
    let v ← decorate m c ds
    let fr ← assignName fr kept v
    return (fr, none)
  | .function decorators name kept ps returns body => do
    let ds ← evalItems m fr decorators
    let f ← define m fr name ps returns body
    let v ← decorate m f ds
    let fr ← assignName fr kept v
    return (fr, none)
  | .other what => unsupported what

/-- Statements are run, up to the one that ends the function. -/
def execAll (m : Machine) (fr : Frame) : List Stmt → Run (Frame × Option Value)
  | [] => return (fr, none)
  | s :: rest => do
    match ← exec m fr s with
    | (fr, none) => execAll m fr rest
    | done => return done

end

/-! ### Calls -/

/-- The signature of a function of a module. -/
def Definition.signature (d : Definition) : Signature :=
  { callee := d.callee, parameters := d.parameters, placed := d.placed, rest := d.rest.isSome
    named := d.named, more := d.more.isSome }

/-- A function of a module is called. -/
def Definition.run (m : Machine) (d : Definition) (given : List Value) (named : Entries Value) :
    Run Value := do
  let a ← Action.check (d.signature.accept given named)
  let more ← newDict (a.more.map fun (name, x) => (.text name, x))
  let names := (d.signature.all.map (·.1)).zip a.arguments ++
    (d.rest.toList.map (·, Value.tuple a.rest)) ++ (d.more.toList.map (·, more))
  let fr : Frame := { place := .function, names, outer := d.callee ++ ".<locals>." }
  let (_, result) ← execAll m fr d.body
  return result.getD .null

end PgSchema.Object
