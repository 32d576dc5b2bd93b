import PgSchema.Object.Operator
import PgSchema.Object.Scope

/-!
Expressions of modules, evaluated, and values assigned to targets.

Operands, items and arguments are evaluated from left to right, each of them before what is made of
all of them.  Of a choice and of a conjunction only what is needed is evaluated.
-/

namespace PgSchema.Object

open Source (Argument Constant Expr)

/-- A constant as a value. -/
def ofConstant : Constant → Value
  | .null => .null
  | .truth b => .bool b
  | .ellipsis => .foreign "ellipsis" "Ellipsis"
  | .int n => .int n
  | .double x => .double x
  | .imaginary _ => .foreign "complex" "complex"
  | .text s => .text s
  | .bytes s => .foreign "bytes" ("b" ++ Text.literal s)

/-! ### Elements -/

/-- The classes that make types of other types. -/
def genericClasses : List String :=
  ["dict", "list", "tuple", "type", "set", "frozenset", "Future", "Inserter"]

/-- The element of a value under an index, or the type that a form makes of another. -/
def subscript (v index : Value) : Run Value := do
  let h ← heap
  match v with
  | .foreign "typing" _ => return .foreign "typing" "typing"
  | .cls c =>
    if genericClasses.any fun name => c = .known name then return .foreign "GenericAlias" c.name
    else if c.isKind "Inserter" then refuse (.notGeneric c.literal)
    else refuse (.typeNotSubscriptable c.name)
  | .list id => itemAt "list" (h.items id) index
  | .tuple items => itemAt "tuple" items index
  | .dict id => do
    needKey index
    match lookUp h id index with
    | some x => return x
    | none => noKey index
  | v =>
    match v.text? with
    | some s => itemAt "string" (characters s) index
    | none => refuse (.notSubscriptable v.sortName)

/-- The element of a value under an index is set. -/
def setElement (v index x : Value) : Run Unit := do
  let h ← heap
  match v with
  | .dict id => do
    setEntry id index x
  | .list id => do
    let i ← placeIn (h.items id) index
    write id (.list ((h.items id).set i x))
  | v => refuse (.notAssignable v.sortName)

/-! ### Arguments -/

/-- What is called, as messages of calls tell it. -/
def calleeText (h : Heap) (f : Value) : String :=
  let inHome (home name : String) : String :=
    (if home = "builtins" then name else home ++ "." ++ name) ++ "()"
  match f with
  | .function g | .method _ g =>
    match g with
    | .known owner _ => inHome (Class.known owner).home (g.callee h)
    | _ => inHome "builtins" (g.callee h)
  | .cls c => inHome c.home c.name
  | v => (literalOf h v).toOption.getD ""

/-- Arguments by name are added to others, each of them once. -/
def addNamed (callee : Value) (given : Entries Value) : Entries Value → Run (Entries Value)
  | [] => return given
  | (name, v) :: rest => do
    if given.has name then
      let h ← heap
      refuse (.repeatedKeyword (calleeText h callee) name)
    else addNamed callee (given ++ [(name, v)]) rest

/-- The items of an argument that stands for several. -/
def spreadItems (m : Machine) (callee v : Value) : Run (List Value) := do
  let h ← heap
  if !hasItems h v then
    refuse (.notGiven (calleeText h callee) v.sortName)
  else m.items v

/-- The entries of an argument that stands for several. -/
def spreadEntries (callee v : Value) : Run (Entries Value) := do
  let h ← heap
  match v with
  | .dict id => return (h.entries id).map fun (key, x) => ((key.text?).getD "", x)
  | other => refuse (.notNamedMapping (calleeText h callee) other.sortName)

/-! ### Expressions -/

/-- A text with fields, of which none can be filled in. -/
def unfilled (s : String) : Run Value :=
  let plain := "".intercalate ((s.splitOn "\x7b\x7b").flatMap (·.splitOn "\x7d\x7d"))
  if plain.toList.any fun c => c = '\x7b' || c = '\x7d' then unsupported "fields"
  else
    return .text ("\x7d".intercalate (("\x7b".intercalate (s.splitOn "\x7b\x7b")).splitOn
      "\x7d\x7d"))

/-- An outcome that is there only for known operators. -/
def known (symbol : String) : Option (Run Value) → Run Value
  | some run => run
  | none => unsupported symbol

mutual

/-- An expression is evaluated. -/
def eval (m : Machine) (fr : Frame) : Expr → Run Value
  | .constant c => return ofConstant c
  | .name id => lookName fr id
  | .member e id => do
    let v ← eval m fr e
    m.member v id
  | .subscript e index => do
    let v ← eval m fr e
    let i ← eval m fr index
    subscript v i
  | .call callee arguments => do
    let f ← eval m fr callee
    let (given, named) ← evalArguments m fr f [] [] arguments
    m.call f given named
  | .tuple items => do
    let values ← evalItems m fr items
    return .tuple values
  | .list items => do
    let values ← evalItems m fr items
    newList values
  | .dict entries => do
    let found ← evalEntries m fr entries
    let h ← heap
    newDict (found.foldl (fun es e => putEntry h es e.1 e.2) [])
  | .spread _ => unsupported "spread"
  | .operation symbol operands => evalOperation m fr symbol operands
  | .other what => unsupported what

/-- An operator is evaluated. -/
def evalOperation (m : Machine) (fr : Frame) (symbol : String) : List Expr → Run Value
  | [.constant (.text s)] => unfilled s
  | [e] => do
    let v ← eval m fr e
    known symbol (unary symbol v)
  | [left, right] => do
    let x ← eval m fr left
    match symbol with
    | "and" => if ← isTrue x then eval m fr right else return x
    | "or" => if ← isTrue x then return x else eval m fr right
    | symbol => do
      let y ← eval m fr right
      known symbol (binary m symbol x y)
  | [condition, e, other] => do
    let b ← eval m fr condition
    if ← isTrue b then eval m fr e else eval m fr other
  | _ => unsupported symbol

/-- Items are evaluated, from left to right. -/
def evalItems (m : Machine) (fr : Frame) : List Expr → Run (List Value)
  | [] => return []
  | .spread e :: rest => do
    let v ← eval m fr e
    let some_ ← m.items v
    let others ← evalItems m fr rest
    return some_ ++ others
  | e :: rest => do
    let v ← eval m fr e
    let others ← evalItems m fr rest
    return v :: others

/-- Entries are evaluated, from left to right. -/
def evalEntries (m : Machine) (fr : Frame) : List (Expr × Expr) → Run (List (Value × Value))
  | [] => return []
  | (key, value) :: rest => do
    let k ← eval m fr key
    let v ← eval m fr value
    let others ← evalEntries m fr rest
    needKey k
    return (k, v) :: others

/-- Arguments are evaluated, from left to right. -/
def evalArguments (m : Machine) (fr : Frame) (callee : Value) (given : List Value)
    (named : Entries Value) : List Argument → Run (List Value × Entries Value)
  | [] => return (given, named)
  | .plain (.spread e) :: rest => do
    let v ← eval m fr e
    let items ← spreadItems m callee v
    evalArguments m fr callee (given ++ items) named rest
  | .plain e :: rest => do
    let v ← eval m fr e
    evalArguments m fr callee (given ++ [v]) named rest
  | .named id e :: rest => do
    let v ← eval m fr e
    let named ← addNamed callee named [(id, v)]
    evalArguments m fr callee given named rest
  | .entries e :: rest => do
    let v ← eval m fr e
    let entries ← spreadEntries callee v
    let named ← addNamed callee named entries
    evalArguments m fr callee given named rest

end

/-! ### Targets -/

/-- The items for so many targets before a starred one, the starred one, and those behind it. -/
def divided (front back : Nat) (items : List Value) : Run (List Value) := do
  if items.length < front + back then refuse (.fewItems (front + back) items.length)
  else
    let middle ← newList ((items.drop front).take (items.length - front - back))
    return items.take front ++ [middle] ++ items.drop (items.length - back)

/-- The target stands for several items. -/
def isSpread : Expr → Bool
  | .spread _ => true
  | _ => false

/-- The items of a value for targets, one for each. -/
def itemsFor (m : Machine) (targets : List Expr) (v : Value) : Run (List Value) := do
  match targets.findIdx? isSpread with
  | none => unpacked m targets.length v
  | some front => do
    let h ← heap
    if !hasItems h v then
      refuse (.notRowValue v.sortName)
    else
      let items ← m.items v
      divided front (targets.length - front - 1) items

mutual

/-- A value is assigned to a target. -/
def assign (m : Machine) (fr : Frame) (v : Value) : Expr → Run Frame
  | .name id => assignName fr id v
  | .member e id => do
    let on ← eval m fr e
    setAttribute on id v
    return fr
  | .subscript e index => do
    let on ← eval m fr e
    let i ← eval m fr index
    setElement on i v
    return fr
  | .tuple targets | .list targets => do
    let items ← itemsFor m targets v
    assignEach m fr items targets
  | .spread target => assign m fr v target
  | _ => unsupported "target"

/-- Values are assigned to targets, one to each. -/
def assignEach (m : Machine) (fr : Frame) (values : List Value) : List Expr → Run Frame
  | [] => return fr
  | target :: rest => do
    let fr ← assign m fr (values.headD .null) target
    assignEach m fr (values.drop 1) rest

end

/-- A value is assigned to several targets, to the first one first. -/
def assignAll (m : Machine) (v : Value) (fr : Frame) : List Expr → Run Frame
  | [] => return fr
  | target :: rest => do
    let fr ← assign m fr v target
    assignAll m v fr rest

end PgSchema.Object
