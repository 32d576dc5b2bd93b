import PgSchema.Object.Builtin.Every

/-!
What lists and tuples can do by themselves.

To put items in order, every item has a key, and items with equal keys keep their order.  Items are
compared one pair after the other, and the first pair that cannot be compared ends it all: what is
in order so far stays so.
-/

namespace PgSchema.Object

/-! ### Items put in order -/

/-- Items with the keys that they are put in order by. -/
abbrev Keyed : Type := List (Value × Value)

/-- Items as far as they are in order, and the fault that has ended it. -/
abbrev Arranged : Type := Keyed × Option Fault

/-- The key of the first item is below that of the second one. -/
def isBelow (h : Heap) (a b : Value × Value) : Except Fault Bool :=
  compareValues h "<" shownDepth a.1 b.1

/-- How many items at the beginning go on in the same direction, and whether it goes down. -/
def runFrom (h : Heap) (down : Bool) : Nat → Value × Value → Keyed → Except Fault Nat
  | count, _, [] => .ok count
  | count, x, y :: rest => do
    let below ← isBelow h y x
    if below = down then runFrom h down (count + 1) y rest else return count

/-- The items at the beginning that are in order: how many there are, and whether they go down. -/
def firstRun (h : Heap) : Keyed → Except Fault (Nat × Bool)
  | x :: y :: rest => do
    let down ← isBelow h y x
    let count ← runFrom h down 2 y rest
    return (count, down)
  | items => .ok (items.length, false)

/-- The place of an item among others that are in order, between bounds: behind equal ones. -/
def placeAmong (h : Heap) (x : Value × Value) (sorted : Array (Value × Value)) :
    Nat → Nat → Nat → Except Fault Nat
  | 0, low, _ => .ok low
  | n + 1, low, high =>
    if low < high then do
      let middle := low + (high - low) / 2
      let below ← isBelow h x (sorted.getD middle x)
      if below then placeAmong h x sorted n low middle
      else placeAmong h x sorted n (middle + 1) high
    else .ok low

/-- Items are put among others that are in order, one after the other. -/
def insertAll (h : Heap) (sorted : Array (Value × Value)) : Keyed → Arranged
  | [] => (sorted.toList, none)
  | x :: rest =>
    match placeAmong h x sorted sorted.size 0 sorted.size with
    | .ok place => insertAll h (sorted.insertIdx! place x) rest
    | .error e => (sorted.toList ++ x :: rest, some e)

/-- Items in order. -/
def inOrder (h : Heap) (items : Keyed) : Arranged :=
  match firstRun h items with
  | .error e => (items, some e)
  | .ok (count, down) =>
    let front := items.take count
    insertAll h (if down then front.reverse else front).toArray (items.drop count)

/-! ### Lists -/

/-- A function of lists, with the place of the list and its items. -/
def listMethod (name : String) (arity : Arity)
    (run : Machine → Nat → List Value → Given → Run Value) : String × Feature :=
  (name, .builtin arity fun m self g => do
    let h ← heap
    match self with
    | .list id => run m id (h.items id) g
    | _ => return .null)

/-- A list is replaced by other items. -/
def rewrite (id : Nat) (items : List Value) : Run Value := do
  write id (.list items)
  return .null

/-- The place of an item of a list that is changed. -/
def placeIn (items : List Value) (index : Value) : Run Nat := do
  let position ← indexOf "list" index
  match place? items.length position with
  | some place => return place
  | none => refuse (.noPlace "list assignment index out of range")

/-- The items of a value are put behind those of a list. -/
def extendList (m : Machine) (id : Nat) (v : Value) : Run Unit := do
  let more ← m.items v
  let h ← heap
  write id (.list (h.items id ++ more))

/-- Keys of items to put them in order by. -/
def keysOf (m : Machine) (key : Value) (items : List Value) : Run (List Value) :=
  match key with
  | .null => return items
  | f => Action.each (fun x => m.call f [x] []) items

/-- A list is put in order. -/
def sortList (m : Machine) (id : Nat) (items : List Value) (g : Given) : Run Value := do
  let backward ← smallOf (g.nth 1)
  let keys ← keysOf m (g.nth 0) items
  let h ← heap
  let turned (all : Keyed) : Keyed := if backward ≠ 0 then all.reverse else all
  let (found, fault) := inOrder h (turned (keys.zip items))
  let _ ← rewrite id ((turned found).map (·.2))
  match fault with
  | some e => refuse e
  | none => return .null

/-- Functions that change a list. -/
def listChanges : Entries Feature :=
  [listMethod "append" .one fun _ id items g => rewrite id (items ++ [g.nth 0]),
   listMethod "extend" .one fun m id _ g => do
      extendList m id (g.nth 0)
      return .null,
   listMethod "insert" (.between 2 2) fun _ id items g => do
      let position ← positionOf (g.nth 0)
      let place := insertionPlace items.length position
      rewrite id (items.take place ++ g.nth 1 :: items.drop place),
   listMethod "pop" (.between 0 1) fun _ id items g => do
      let position ← positionOf ((g.nth? 0).getD (.int (-1)))
      if items.isEmpty then refuse (.noPlace "pop from empty list")
      else
        match place? items.length position with
        | some place => do
          let _ ← rewrite id (items.eraseIdx place)
          return items.getD place .null
        | none => refuse (.noPlace "pop index out of range"),
   listMethod "remove" .one fun _ id items g => do
      let h ← heap
      match placeOf h (g.nth 0) 0 mostCount items with
      | some place => rewrite id (items.eraseIdx place)
      | none => refuse (.badArgument "list.remove(x): x not in list"),
   listMethod "clear" .none fun _ id _ _ => rewrite id [],
   listMethod "reverse" .none fun _ id items _ => rewrite id items.reverse,
   listMethod "sort" (.named 0 [("key", some .null), ("reverse", some (.bool false))]) sortList,
   listMethod "__setitem__" (.slots 2 2) fun _ id items g => do
      let place ← placeIn items (g.nth 0)
      rewrite id (items.set place (g.nth 1)),
   listMethod "__delitem__" (.slot 1) fun _ id items g => do
      let place ← placeIn items (g.nth 0)
      rewrite id (items.eraseIdx place),
   listMethod "__iadd__" (.slot 1) fun m id _ g => do
      extendList m id (g.nth 0)
      return .list id,
   listMethod "__imul__" (.slots 1 1) fun _ id items g => do
      let count ← timesOf (g.nth 0)
      let all ← repeated count items
      let _ ← rewrite id all
      return .list id]

/-- Functions that tell something of a list. -/
def listQueries : Entries Feature :=
  let times (_ : Machine) (_ : Nat) (items : List Value) (g : Given) : Run Value := do
    let count ← timesOf (g.nth 0)
    let all ← repeated count items
    newList all
  [listMethod "copy" .none fun _ _ items _ => newList items,
   listMethod "count" .one fun _ _ items g => do
      let h ← heap
      return .int (items.countP (sameValue h (g.nth 0))),
   listMethod "index" (.between 1 3) fun _ _ items g => do
      let (first, last) ← searchBounds g
      let h ← heap
      match placeOf h (g.nth 0) first last items with
      | some place => return .int place
      | none => do
        let text ← showLiteral (g.nth 0)
        refuse (.badArgument (text ++ " is not in list")),
   lengthFeature fun h self => itemCount h self,
   listMethod "__contains__" (.slot 1) fun _ _ items g => do
      let h ← heap
      return .bool (items.any (sameValue h (g.nth 0))),
   listMethod "__getitem__" .one fun _ _ items g => itemAt "list" items (g.nth 0),
   listMethod "__add__" (.slot 1) fun _ _ items g =>
      match g.nth 0 with
      | .list other => do
        let h ← heap
        newList (items ++ h.items other)
      | v => refuse (.notSequence "list" v.sortName),
   listMethod "__mul__" (.slots 1 1) times, listMethod "__rmul__" (.slots 1 1) times,
   listMethod "__reversed__" .none fun _ _ _ _ =>
      return .foreign "list_reverseiterator" "<list_reverseiterator object>"]

/-- Features of lists. -/
def listFeatures : Entries Feature := listChanges ++ listQueries

/-- The names of the functions of lists that only can be named. -/
def listNames : List String := ["__class_getitem__", "__iter__"]

/-! ### Tuples -/

/-- A function of tuples, with their items. -/
def tupleMethod (name : String) (arity : Arity) (run : List Value → Given → Run Value) :
    String × Feature :=
  (name, .builtin arity fun _ self g =>
    match self with
    | .tuple items => run items g
    | _ => return .null)

/-- Features of tuples. -/
def tupleFeatures : Entries Feature :=
  let times (items : List Value) (g : Given) : Run Value := do
    let count ← timesOf (g.nth 0)
    let all ← repeated count items
    return .tuple all
  [tupleMethod "count" .one fun items g => do
      let h ← heap
      return .int (items.countP (sameValue h (g.nth 0))),
   tupleMethod "index" (.between 1 3) fun items g => do
      let (first, last) ← searchBounds g
      let h ← heap
      match placeOf h (g.nth 0) first last items with
      | some place => return .int place
      | none => refuse (.badArgument "tuple.index(x): x not in tuple"),
   tupleMethod "__len__" (.slot 0) fun items _ => return .int items.length,
   tupleMethod "__contains__" (.slot 1) fun items g => do
      let h ← heap
      return .bool (items.any (sameValue h (g.nth 0))),
   tupleMethod "__getitem__" (.slot 1) fun items g => itemAt "tuple" items (g.nth 0),
   tupleMethod "__add__" (.slot 1) fun items g =>
      match g.nth 0 with
      | .tuple more => return .tuple (items ++ more)
      | v => refuse (.notSequence "tuple" v.sortName),
   tupleMethod "__mul__" (.slots 1 1) times, tupleMethod "__rmul__" (.slots 1 1) times,
   tupleMethod "__getnewargs__" .none fun items _ => return .tuple [.tuple items]]

/-- The names of the functions of tuples that only can be named. -/
def tupleNames : List String := ["__class_getitem__", "__iter__"]

end PgSchema.Object
