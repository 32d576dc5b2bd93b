import PgSchema.Object.Machine
import PgSchema.Object.Position

/-!
What every value can do: it is compared, shown, and asked for its members.  Entries of dictionaries
are told by their keys, and set.

There is an order of texts, of numbers, and of lists and tuples item by item.
-/

namespace PgSchema.Object

/-! ### Order -/

/-- The sorts of values that are compared with each other. -/
inductive Kin where
  | text
  | whole
  | double
  | list
  | tuple
  | dict
  | null
  | part
  | other
  deriving DecidableEq, Repr

/-- The sort of a value for comparisons. -/
def kinOf (v : Value) : Kin :=
  if v.text?.isSome then .text
  else
    match v with
    | .int _ | .bool _ => .whole
    | .double _ => .double
    | .list _ => .list
    | .tuple _ => .tuple
    | .dict _ => .dict
    | .null => .null
    | .table _ | .column _ => .part
    | _ => .other

/-- What stands for an outcome that an operator does not have. -/
def noOutcome : Value := .foreign "NotImplementedType" "NotImplemented"

/-- A value tells by itself whether it equals another. -/
def tellsEqual (h : Heap) (x y : Value) : Option Bool :=
  match kinOf x, kinOf y with
  | .double, .whole => some (sameValue h x y)
  | .null, .null => some true
  | .null, _ | _, .null => none
  | .other, _ => if sameValue h x y then some true else none
  | a, b => if a = b then some (sameValue h x y) else none

/-- A value by which it is put in order: a text or a number. -/
def orderKey (v : Value) : Option Json := (v.text?.map .text).or v.number?

/-- The outcome of a comparison, of the value that comes first and of that which comes second. -/
def byOrder (symbol : String) (below above : Bool) : Bool :=
  match symbol with
  | "<" => below
  | ">" => above
  | "<=" => !above
  | _ => !below

/-- Two texts or two numbers are compared. -/
def compareKeys (symbol : String) (a b : Json) : Except Fault Bool := do
  let below ← a.precedes b
  let above ← b.precedes a
  return match a, b with
    | .double x, _ => if x.isUndefined then false else byOrder symbol below above
    | _, .double y => if y.isUndefined then false else byOrder symbol below above
    | _, _ => byOrder symbol below above

/-- Two values are compared, looked into so deep. -/
def compareValues (h : Heap) (symbol : String) : Nat → Value → Value → Except Fault Bool
  | 0, _, _ => .error .tooDeep
  | n + 1, x, y =>
    let fault := Fault.notComparable symbol x.sortName y.sortName
    let items (xs ys : List Value) : Except Fault Bool :=
      match (xs.zip ys).find? fun (a, b) => !sameValue h a b with
      | some (a, b) => compareValues h symbol n a b
      | none => .ok (byOrder symbol (xs.length < ys.length) (ys.length < xs.length))
    match x, y with
    | .list i, .list j => items (h.items i) (h.items j)
    | .tuple xs, .tuple ys => items xs ys
    | x, y =>
      match orderKey x, orderKey y with
      | some a, some b => (compareKeys symbol a b).mapError fun _ => fault
      | _, _ => .error fault

/-- A value tells by itself how it compares with another. -/
def tellsOrder (h : Heap) (symbol : String) (x y : Value) : Run Value :=
  let told := match kinOf x, kinOf y with
    | .double, .whole => true
    | .null, _ | .dict, _ | .part, _ | .other, _ => false
    | a, b => a = b
  if told then do
    let b ← Action.check (compareValues h symbol shownDepth x y)
    return .bool b
  else return noOutcome

/-! ### Entries of dictionaries -/

/-- A value can be a key. -/
def needKey (v : Value) : Run Unit :=
  match v with
  | .list _ | .dict _ => refuse (.notHashable v.sortName)
  | _ => return ()

/-- An entry is set: in its place, or at the end. -/
def putEntry (h : Heap) (entries : List (Value × Value)) (key x : Value) : List (Value × Value) :=
  if entries.any fun e => sameValue h e.1 key then
    entries.map fun e => if sameValue h e.1 key then (e.1, x) else e
  else entries ++ [(key, x)]

/-- A fault of a missing key. -/
def noKey (key : Value) : Run Value := do
  let shown ← showLiteral key
  match key.text? with
  | some s => refuse (.noKey (.text s))
  | none => Action.fail (.raised "KeyError" (.text shown))

/-! ### Every value -/

/-- An operator that every value has, with one operand. -/
def commonOperator (name : String) (run : Heap → Value → Value → Run Value) : String × Feature :=
  (name, .builtin (.slot 1) fun _ self g => do
    let h ← heap
    run h self (g.nth 0))

/-- The outcome of a comparison that a value may tell. -/
def ofTold (negated : Bool) : Option Bool → Value
  | some b => .bool (b != negated)
  | none => noOutcome

/-- What every value has. -/
def objectFeatures : Entries Feature :=
  [commonOperator "__eq__" fun h x y => return ofTold false (tellsEqual h x y),
   commonOperator "__ne__" fun h x y => return ofTold true (tellsEqual h x y),
   commonOperator "__lt__" (tellsOrder · "<"), commonOperator "__le__" (tellsOrder · "<="),
   commonOperator "__gt__" (tellsOrder · ">"), commonOperator "__ge__" (tellsOrder · ">="),
   ("__str__", .builtin (.slot 0) fun _ self _ => do
      let text ← showPlain self
      return .text text),
   ("__repr__", .builtin (.slot 0) fun _ self _ => do
      let text ← showLiteral self
      return .text text),
   ("__format__", .builtin .one fun _ self g => do
      let spec ← needTextFor "__format__" "argument" (g.nth 0)
      if spec = "" then
        let text ← showPlain self
        return .text text
      else
        refuse (.badSort ("unsupported format string passed to " ++ self.sortName ++
          ".__format__"))),
   ("__getattribute__", .builtin (.slot 1) fun m self g =>
      match (g.nth 0).text? with
      | some name => m.member self name
      | none =>
        refuse (.badSort ("attribute name must be string, not '" ++ (g.nth 0).sortName ++ "'"))),
   ("__setattr__", .builtin (.slots 2 2) fun _ self g => do
      match (g.nth 0).text? with
      | some name => do
        setAttribute self name (g.nth 1)
        return .null
      | none =>
        refuse (.badSort ("attribute name must be string, not '" ++ (g.nth 0).sortName ++ "'")))]

/-- The names of the functions of every value that only can be named. -/
def objectNames : List String :=
  ["__delattr__", "__dir__", "__getstate__", "__hash__", "__init__", "__init_subclass__", "__new__",
   "__reduce__", "__reduce_ex__", "__sizeof__", "__subclasshook__"]

/-- The number of items, as a function. -/
def lengthFeature (count : Heap → Value → Nat) : String × Feature :=
  ("__len__", .builtin (.slot 0) fun _ self _ => do
    let h ← heap
    return .int (count h self))

end PgSchema.Object
