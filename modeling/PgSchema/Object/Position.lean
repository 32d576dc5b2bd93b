import PgSchema.Number.Rounding
import PgSchema.Object.Arity
import PgSchema.Object.Machine

/-!
Values as numbers of items and as their places, and what is asked of arguments besides.
-/

namespace PgSchema.Object

/-! ### Texts -/

/-- A text is asked for. -/
def needText (what : String) (v : Value) : Run String :=
  match v.text? with
  | some s => return s
  | none => refuse (.notText what v.sortName)

/-- A text is asked for as an argument. -/
def needTextFor (callee what : String) (v : Value) : Run String :=
  match v, v.text? with
  | _, some s => return s
  | .null, none => refuse (.notText (callee ++ "() " ++ what ++ " must be str, not ") "None")
  | v, none => refuse (.notText (callee ++ "() " ++ what ++ " must be str, not ") v.sortName)

/-! ### Positions -/

/-- The whole number that a value is. -/
def wholeOf? (v : Value) : Option Int :=
  match v with
  | .int n => some n
  | .bool b => some (if b then 1 else 0)
  | _ => none

/-- Counts of items are below this. -/
def mostCount : Int := Number.twoTo 63

/-- A number can be a count of items. -/
def isCount (n : Int) : Bool := -mostCount ≤ n && n < mostCount

/-- The number that a value counts as for a position. -/
def positionOf (v : Value) : Run Int :=
  match wholeOf? v with
  | some n =>
    if isCount n then return n
    else refuse (.tooWide "Python int too large to convert to C ssize_t")
  | none => refuse (.notIndex v.sortName)

/-- The small number that a value counts as. -/
def smallOf (v : Value) : Run Int :=
  match wholeOf? v with
  | some n =>
    if -(Number.twoTo 31 : Int) ≤ n ∧ n < Number.twoTo 31 then return n
    else refuse (.tooWide "Python int too large to convert to C int")
  | none => refuse (.notIndex v.sortName)

/-- The number that a value counts as for the place of an item. -/
def indexOf (sort : String) (v : Value) : Run Int :=
  match wholeOf? v with
  | some n =>
    if isCount n then return n
    else refuse (.noPlace "cannot fit 'int' into an index-sized integer")
  | none => refuse (.badIndex sort v.sortName)

/-- A bound of a part of a text. -/
def boundOf (v : Value) : Run (Option Int) :=
  match v, wholeOf? v with
  | .null, _ => return none
  | _, some n => return some n
  | _, none =>
    refuse (.badSort "slice indices must be integers or None or have an __index__ method")

/-- A place among so many items: negative ones count from the end. -/
def place? (count : Nat) (position : Int) : Option Nat :=
  let at_ := if position < 0 then position + count else position
  if 0 ≤ at_ ∧ at_ < count then some at_.toNat else none

/-- A place to insert at: those beyond an end are at the end. -/
def insertionPlace (count : Nat) (position : Int) : Nat :=
  let at_ := if position < 0 then position + count else position
  min at_.toNat count

/-- The item in a place. -/
def itemAt (sort : String) (items : List Value) (index : Value) : Run Value := do
  let position ← indexOf sort index
  match place? items.length position with
  | some i => return items.getD i .null
  | none => refuse (.noPlace (sort ++ " index out of range"))

/-- The first place of a value among items, between bounds. -/
def placeOf (h : Heap) (x : Value) (first last : Int) (items : List Value) : Option Nat :=
  let bound (n : Int) : Nat := (if n < 0 then max (n + items.length) 0 else n).toNat
  ((items.take (bound last)).drop (bound first)).findIdx? (sameValue h x) |>.map (bound first + ·)

/-- The bounds of a search among items. -/
def searchBounds (g : Given) : Run (Int × Int) := do
  let bound (index : Nat) (otherwise : Int) : Run Int :=
    match g.nth? index with
    | none => return otherwise
    | some v =>
      match wholeOf? v with
      | some n => return n
      | none => refuse (.badSort "slice indices must be integers or have an __index__ method")
  let first ← bound 1 0
  let last ← bound 2 mostCount
  return (first, last)

/-! ### Repetition -/

/-- How often something is repeated. -/
def timesOf (v : Value) : Run Int :=
  match wholeOf? v with
  | some n =>
    if isCount n then return n
    else refuse (.tooWide "cannot fit 'int' into an index-sized integer")
  | none => refuse (.notIndex v.sortName)

/-- More items than there is room for. -/
def mostItems : Nat := Number.twoTo 32

/-- So many items are made, if there is room for them. -/
def withItems {α : Type} (count : Nat) (items : Unit → α) : Run α :=
  if mostItems < count then Action.fail (.raised "MemoryError" (.text "")) else return items ()

/-- Items so many times, if there is room for them. -/
def repeated {α : Type} (count : Int) (items : List α) : Run (List α) :=
  withItems (count.toNat * items.length) fun _ => (List.replicate count.toNat items).flatten

end PgSchema.Object
