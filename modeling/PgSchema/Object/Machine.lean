import PgSchema.Object.Arity
import PgSchema.Object.Equality
import PgSchema.Object.Heap

/-!
What the functions of the library are given to work with, and what they do again and again: the
items of a value, its elements by key, and calls of methods.

A function of the library can call any other value, so the machine comes to it as an argument.

Arguments are matched by their place first and then by their names.  A signature can take more
arguments than it has parameters, by place or by name.
-/

namespace PgSchema.Object

/-- The parameters of a function: their names, with a default if they have one. -/
structure Signature where
  /-- The function, as messages call it. -/
  callee : String
  parameters : List (String × Option Value) := []
  /-- How many of the parameters only have a place. -/
  placed : Nat := 0
  /-- More arguments are taken by their place. -/
  rest : Bool := false
  /-- The parameters that only have a name. -/
  named : List (String × Option Value) := []
  /-- More arguments are taken by their name. -/
  more : Bool := false

/-- Arguments matched: one for each parameter, then those by place, and those by name. -/
structure Matched where
  arguments : List Value
  rest : List Value
  more : Entries Value

/-- The argument of a parameter. -/
def Matched.nth (m : Matched) (index : Nat) : Value := m.arguments.getD index .null

namespace Signature

variable (s : Signature)

/-- All parameters. -/
def all : List (String × Option Value) := s.parameters ++ s.named

/-- The names that arguments can be given by. -/
def names : List String := (s.parameters.drop s.placed ++ s.named).map (·.1)

/-- Named arguments over those that have their place. -/
def addNamed (given more : Entries Value) :
    Entries Value → Except Fault (Entries Value × Entries Value)
  | [] => .ok (given, more)
  | (name, x) :: rest =>
    if name ∈ s.names then
      if given.has name then .error (.repeatedArgument s.callee name)
      else addNamed (given ++ [(name, x)]) more rest
    else if s.more then addNamed given (more ++ [(name, x)]) rest
    else .error (.unknownKeyword s.callee name)

/-- The parameters that are left without a value. -/
def missing (given : Entries Value) (parameters : List (String × Option Value)) : List String :=
  (parameters.filter fun (name, default) => default.isNone && !given.has name).map (·.1)

/-- Arguments are matched with the parameters. -/
def accept (byPlace : List Value) (named : Entries Value) : Except Fault Matched := do
  let (given, more) ← s.addNamed ((s.parameters.map (·.1)).zip byPlace) [] named
  let count := s.parameters.length
  if count < byPlace.length ∧ ¬ s.rest then
    let fewest := (s.parameters.filter (·.2.isNone)).length
    .error (.surplusArguments s.callee fewest count byPlace.length)
  else
    match missing given s.parameters, missing given s.named with
    | [], [] =>
      .ok ⟨s.all.map fun (name, default) => (given.get? name).getD (default.getD .null),
        byPlace.drop count, more⟩
    | [], names => .error (.missingNamed s.callee names)
    | names, _ => .error (.missingArguments s.callee names)

end Signature

/-! ### Ways to act -/

/-- The ways in which values act on each other: a call with arguments by place and by name, and a
member of a value. -/
structure Machine where
  call : Value → List Value → Entries Value → Run Value
  member : Value → String → Run Value

/-- A function of the library: its parameters, and what it does. -/
structure Native where
  signature : Signature
  run : Machine → Matched → Run Value

/-- What a class of the library or of the language has under a name. -/
inductive Feature where
  | method (f : Native)
  /-- A function that is called on the class itself. -/
  | ofClass (f : Native)
  | property (get : Machine → Value → Run Value)
  | constant (v : Value)
  | builtin (arity : Arity) (run : Machine → Value → Given → Run Value)

/-- A fault ends the run. -/
def refuse {α : Type} (fault : Fault) : Run α := Action.fail (.fault fault)

/-- Something that the language has, and generated modules do not. -/
def unsupported {α : Type} (what : String) : Run α :=
  Action.fail (.raised "NotImplementedError" (.text what))

/-! ### Items -/

/-- The characters of a text. -/
def characters (s : String) : List Value := s.toList.map fun c => .text (String.ofList [c])

/-- Fields as pairs. -/
def pairs (fields : Entries Value) : List Value :=
  fields.map fun (name, v) => .tuple [.text name, v]

/-- The items of a value that has them by itself. -/
def ownItems? (h : Heap) : Value → Option (List Value)
  | .tuple values => some values
  | .list id => some (h.items id)
  | .dict id => some ((h.entries id).map (·.1))
  | .view sort id => some ((h.entries id).map (viewed sort))
  | .table t => some (pairs (tableFields t))
  | .column c => some (pairs (columnFields c))
  | .cls (.known name) =>
    if name = OnConflict.title then some (OnConflict.all.map .policy)
    else if name = StorageKind.title then some (StorageKind.all.map .kind)
    else none
  | v => v.text?.map characters

/-- A value has items, by itself or from its own method for them. -/
def hasItems (h : Heap) (v : Value) : Bool :=
  (ownItems? h v).isSome || v.classOf.isKind "Selector" || v.classOf.isKind "Relation"

namespace Machine

variable (m : Machine)

/-- A method of a value is called. -/
def callMethod (v : Value) (name : String) (arguments : List Value) : Run Value := do
  let f ← m.member v name
  m.call f arguments []

/-- The items of a value.  Those of an object come from its own method for them. -/
def items (v : Value) : Run (List Value) := do
  let h ← heap
  match ownItems? h v with
  | some values => return values
  | none =>
    if hasItems h v then
      let found ← m.callMethod v "__iter__" []
      let h ← heap
      match ownItems? h found with
      | some values => return values
      | none => refuse (.notIterable found.sortName)
    else refuse (.notIterable v.sortName)

/-- A text is an element of a value: a part of a text, a key of a dictionary, or an item. -/
def hasElement (part : String) (v : Value) : Run Bool := do
  let h ← heap
  match v.text?, ownItems? h v with
  | some whole, _ => return Text.occurs part whole
  | none, some values => return values.any (sameValue h (.text part))
  | none, none =>
    if hasItems h v then
      let values ← m.items v
      let h ← heap
      return values.any (sameValue h (.text part))
    else refuse (.notContainer v.sortName)

end Machine

/-- Items as texts, if they can be joined. -/
def joinable (items : List Value) : Except Fault (List String) :=
  match items.findIdx? (·.text?.isNone) with
  | some i => .error (.badItem i (items.getD i .null).sortName)
  | none => .ok (items.filterMap Value.text?)

/-- The value of a key of a dictionary. -/
def lookUp (h : Heap) (id : Nat) (key : Value) : Option Value :=
  ((h.entries id).find? fun e => sameValue h e.1 key).map (·.2)

/-- The element of a value under a key that is a text. -/
def elementAt (v : Value) (key : String) : Run Value := do
  let h ← heap
  match v with
  | .dict id =>
    match lookUp h id (.text key) with
    | some x => return x
    | none => refuse (.noKey (.text key))
  | .cls c => refuse (.typeNotSubscriptable c.name)
  | .list _ | .tuple _ => refuse (.badIndex v.sortName "str")
  | v =>
    if v.text?.isSome then refuse (.badIndex "str" "str")
    else refuse (.notSubscriptable v.sortName)

end PgSchema.Object
