import PgSchema.Json.Access
import PgSchema.Object.Text
import PgSchema.Query.Basic

/-!
Equality of values, what counts as true, and bounds on numbers of rows.

Texts are equal to the members of enumerations that they stand for, numbers are equal by size, lists
and tuples by their items, and objects only to themselves.
-/

namespace PgSchema.Object

section Equality

variable (h : Heap)

/-- Items in pairs are equal. -/
def pairwise (same : Value → Value → Bool) (xs ys : List Value) : Bool :=
  xs.length == ys.length && (xs.zip ys).all fun (x, y) => same x y

/-- Equal values. -/
def same : Nat → Value → Value → Bool
  | 0, _, _ => false
  | n + 1, x, y =>
    match x.text?, y.text?, x.number?, y.number? with
    | some s, some t, _, _ => s == t
    | _, _, some a, some b => Json.sameNumber a b
    | _, _, _, _ =>
      match x, y with
      | .null, .null => true
      | .tuple xs, .tuple ys => pairwise (same n) xs ys
      | .list i, .list j => pairwise (same n) (h.items i) (h.items j)
      | .dict i, .dict j =>
        let left := h.entries i
        let right := h.entries j
        left.length == right.length && left.all fun (key, value) =>
          (right.find? fun e => same n e.1 key).any fun e => same n e.2 value
      | .object c i, .object d j => c == d && i == j
      | .cls c, .cls d => c == d
      | .table t, .table u => t = u
      | .column c, .column d => c = d
      | .function (.known a b), .function (.known c d) => a == c && b == d
      | .function (.defined i), .function (.defined j) => i == j
      | _, _ => false

/-- Equal values. -/
def sameValue (x y : Value) : Bool := same h shownDepth x y

/-- A value counts as true: it is not null, false, zero or empty. -/
def holds : Value → Bool
  | .null => false
  | .bool b => b
  | .int n => n != 0
  | .double x => !x.isZero
  | .text s => s != ""
  | .tuple values => !values.isEmpty
  | .list id => !(h.items id).isEmpty
  | .dict id | .view _ id => !(h.entries id).isEmpty
  | _ => true

end Equality

/-- A value counts as true, in a run. -/
def isTrue (v : Value) : Run Bool := do
  let h ← heap
  return holds h v

instance : Query.Amount Value where
  one := .int 1
  isNegative v :=
    match v.number? with
    | some count => count.isBelow 0
    | none => .error (.notComparable "<" v.sortName "int")
  exceedsOne v := (v.number?.map (·.isAbove 1)).getD false
  shown v := v.number?.getD .null

end PgSchema.Object
