import PgSchema.Object.Builtin

/-!
Operators between values.

Whole numbers are counted with as they are, and as soon as one of two numbers is none the outcome is
none.  Texts, lists and tuples are joined and repeated.  Order is told of numbers and of texts.
-/

namespace PgSchema.Object

/-! ### Joined and repeated values -/

/-- Two values joined. -/
def joined (h : Heap) (x y : Value) : Run Value :=
  match x, y with
  | .list i, .list j => newList (h.items i ++ h.items j)
  | .tuple xs, .tuple ys => return .tuple (xs ++ ys)
  | .list _, y | .tuple _, y => refuse (.notSequence x.sortName y.sortName)
  | x, y =>
    match x.text?, y.text? with
    | some s, some t => return .text (s ++ t)
    | some _, none => refuse (.notSequence "str" y.sortName)
    | _, _ => refuse (.notOperands "+" x.sortName y.sortName)

/-- A value that is joined and repeated. -/
def isSequence (v : Value) : Bool :=
  match v with
  | .list _ | .tuple _ => true
  | v => v.text?.isSome

/-- A value so many times. -/
def times (h : Heap) (x y : Value) : Run Value :=
  let copies (v : Value) (count : Int) : Run Value :=
    match v with
    | .list id => do
      let all ← repeated count (h.items id)
      newList all
    | .tuple items => do
      let all ← repeated count items
      return .tuple all
    | v => do
      let all ← repeated count ((v.text?).getD "").toList
      return .text (String.ofList all)
  match isSequence x, wholeOf? y, isSequence y, wholeOf? x with
  | true, some n, _, _ => copies x n
  | _, _, true, some n => copies y n
  | true, none, _, _ => refuse (.notRepeated y.sortName)
  | _, _, true, none => refuse (.notRepeated x.sortName)
  | _, _, _, _ => refuse (.notOperands "*" x.sortName y.sortName)

/-! ### Order and membership -/

/-- A value comes before another, or behind it. -/
def ordered (symbol : String) (x y : Value) : Run Value := do
  let h ← heap
  let b ← Action.check (compareValues h symbol shownDepth x y)
  return .bool b

/-- A value is an item of another. -/
def isAmong (m : Machine) (x y : Value) : Run Bool := do
  let h ← heap
  match y.text?, x.text? with
  | some whole, some part => return Text.occurs part whole
  | some _, none =>
    refuse (.notText "'in <string>' requires string as left operand, not " x.sortName)
  | none, _ => do
    let items ← m.items y
    return items.any (sameValue h x)

/-- Two values are one and the same. -/
def isSelf (h : Heap) (x y : Value) : Bool :=
  match x, y with
  | .list i, .list j | .dict i, .dict j => i == j
  | .null, .null => true
  | x, y => x.sortName == y.sortName && sameValue h x y

/-! ### All operators -/

/-- The operator of a mark between two values, if it is known. -/
def binary (m : Machine) (symbol : String) (x y : Value) : Option (Run Value) :=
  let sequenced (run : Heap → Run Value) : Option (Run Value) := some do
    let h ← heap
    run h
  let refused : Run Value := refuse (.notOperands symbol x.sortName y.sortName)
  let telling (run : Heap → Bool) : Option (Run Value) := some do
    let h ← heap
    return .bool (run h)
  match symbol with
  | "==" => telling fun h => sameValue h x y
  | "!=" => telling fun h => !sameValue h x y
  | "is" => telling fun h => isSelf h x y
  | "is not" => telling fun h => !isSelf h x y
  | "in" => some do
    let found ← isAmong m x y
    return .bool found
  | "not in" => some do
    let found ← isAmong m x y
    return .bool !found
  | "<" | ">" | "<=" | ">=" => some (ordered symbol x y)
  | symbol =>
    match x.number?, y.number? with
    | some a, some b => some ((onNumbers symbol a b).getD refused)
    | _, _ =>
      match symbol, x.text? with
      | "+", _ => sequenced fun h => joined h x y
      | "*", _ => sequenced fun h => times h x y
      | "%", some s => some (fillIn m s y)
      | _, _ => some refused

/-- The operator of a mark before a value, if it is known. -/
def unary (symbol : String) (x : Value) : Option (Run Value) :=
  match symbol, x.number? with
  | "not", _ => some do
    let b ← isTrue x
    return .bool !b
  | "-", some (.double d) => some (return .double d.negate)
  | "+", some (.double d) => some (return .double d)
  | symbol, some a =>
    let n := (a.whole?).getD 0
    match symbol with
    | "-" => some (return .int (-n))
    | "+" => some (return .int n)
    | "~" => some (return .int (-n - 1))
    | _ => none
  | _, none => none

end PgSchema.Object
