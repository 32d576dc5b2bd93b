import PgSchema.Fault
import PgSchema.Number.Numeral
import PgSchema.Text.Words

/-!
The use of values of which only the reader knows the sort: their order, their elements, their
entries.  A value of the wrong sort is a fault.

As keys, numbers are equal by size, whatever their sort, and a truth value counts as zero or one.
Objects are equal if they have equal values under the same keys, in any order.
-/

namespace PgSchema.Json

/-- The whole number that a value counts as. -/
def whole? : Json → Option Int
  | bool b => some (if b then 1 else 0)
  | int n => some n
  | _ => none

/-- The whole number that a text is a numeral of. -/
def wholeOfText (s : String) : Except Fault Int :=
  match Number.numeral s with
  | .ok n => .ok n
  | .error .malformed => .error (.notNumeral s)
  | .error (.tooLong digits) => .error (.longNumeral digits)

/-- A number is below another. -/
def isLess (left right : Json) : Except Fault Bool :=
  match left, left.whole?, right, right.whole? with
  | _, some m, _, some n => .ok (m < n)
  | double x, _, _, some n => .ok (x.ltInt n)
  | _, some m, double y, _ => .ok (y.gtInt m)
  | double x, _, double y, _ => .ok (x.lt y)
  | _, _, _, _ => .error (.notComparable "<" left.sortName right.sortName)

/-- A number is not above another, the way round in which messages tell of it: the second is at
least the first. -/
def atMost (low high : Json) : Except Fault Bool :=
  match low, low.whole?, high, high.whole? with
  | _, some m, _, some n => .ok (m ≤ n)
  | .double x, _, _, some n => .ok (!x.isUndefined && !x.gtInt n)
  | _, some m, .double y, _ => .ok (!y.isUndefined && !y.ltInt m)
  | .double x, _, .double y, _ => .ok (!x.isUndefined && !y.isUndefined && !y.lt x)
  | _, _, _, _ => .error (.notComparable ">=" high.sortName low.sortName)

/-- A number is below a whole number. -/
def isBelow (value : Json) (n : Int) : Except Fault Bool :=
  match value with
  | bool b => .ok ((if b then 1 else 0) < n)
  | int m => .ok (m < n)
  | double x => .ok (x.ltInt n)
  | other => .error (.notComparable "<" other.sortName "int")

/-- A number is above a whole number; a value of another sort is not. -/
def isAbove (value : Json) (n : Int) : Bool :=
  match value with
  | bool b => n < (if b then 1 else 0)
  | int m => n < m
  | double x => x.gtInt n
  | _ => false

/-- What a value is gone through by: the items of a list, the characters of a text, the keys of an
object. -/
def elements : Json → Except Fault (List Json)
  | list items => .ok items
  | text s => .ok (s.toList.map fun c => text (String.ofList [c]))
  | object fields => .ok (fields.map fun (key, _) => text key)
  | other => .error (.notIterable other.sortName)

/-- The value of a key. -/
def entry (value : Json) (key : String) : Except Fault Json :=
  match value with
  | object fields =>
    match Entries.get? fields key with
    | some x => .ok x
    | none => .error (.noKey (.text key))
  | text _ | list _ => .error (.badIndex value.sortName "str")
  | other => .error (.notSubscriptable other.sortName)

/-- The value of a key, if the key is there. -/
def cell? (value : Json) (key : String) : Except Fault (Option Json) :=
  match value with
  | object fields => .ok (Entries.get? fields key)
  | list items =>
    if items.any fun x => x.text? = some key then .error (.badIndex value.sortName "str")
    else .ok none
  | text s => if Text.occurs key s then .error (.badIndex value.sortName "str") else .ok none
  | other => .error (.notContainer other.sortName)

/-! ### Equality and order as keys -/

/-- Numbers of the same size. -/
def sameNumber (left right : Json) : Bool :=
  match left, left.whole?, right, right.whole? with
  | _, some m, _, some n => m == n
  | double x, _, _, some n => x.toInt? == some n
  | _, some m, double y, _ => y.toInt? == some m
  | double x, _, double y, _ => !x.isUndefined && !y.isUndefined && x.rank == y.rank
  | _, _, _, _ => false

mutual

/-- Equal values. -/
def same : Json → Json → Bool
  | null, null => true
  | text s, text t => s == t
  | list xs, list ys => sameItems xs ys
  | object fs, object gs => fs.length == gs.length && sameFields fs gs
  | left, right => sameNumber left right

/-- Equal items in the same order. -/
def sameItems : List Json → List Json → Bool
  | [], [] => true
  | x :: xs, y :: ys => same x y && sameItems xs ys
  | _, _ => false

/-- Every field has an equal value among other fields. -/
def sameFields : List (String × Json) → List (String × Json) → Bool
  | [], _ => true
  | (key, x) :: fs, gs =>
    (match gs.lookup key with
      | some y => same x y
      | none => false) && sameFields fs gs

end

/-- Values can be keys: lists and objects cannot. -/
def asKey : Json → Except Fault Json
  | list _ => .error (.notHashable "list")
  | object _ => .error (.notHashable "dict")
  | value => .ok value

/-- A text is an element of a value: a part of a text, an item of a list, or a key of an object. -/
def hasElement (part : String) : Json → Except Fault Bool
  | text s => .ok (Text.occurs part s)
  | list items => .ok (items.any (same (text part)))
  | object fields => .ok (Entries.has fields part)
  | other => .error (.notContainer other.sortName)

/-- The first elements of a text or a list. -/
def front (n : Nat) : Json → Except Fault Json
  | text s => .ok (text (Text.front n s))
  | list items => .ok (list (items.take n))
  | object _ => .error (.notHashable "slice")
  | other => .error (.notSubscriptable other.sortName)

/-- The first of two values comes before the second: texts by their characters, numbers by size.
Nothing is told of equal values of any sort. -/
def precedes (left right : Json) : Except Fault Bool :=
  match left, right with
  | text s, text t => .ok (s < t)
  | left, right => left.isLess right

end PgSchema.Json
