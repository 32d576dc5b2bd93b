import PgSchema.Connection.Lifecycle
import PgSchema.Object.Value
import PgSchema.Session.Program
import PgSchema.Source.Syntax

/-!
The heap, and the rest of what a session changes as it runs.

An object keeps its place on the heap.  New ones come at the end, so that two that are made apart
are never the same.
-/

namespace PgSchema.Object

open Connection (Surroundings)
open Session (Answer)

/-- A function that a module defines. -/
structure Definition where
  /-- The name in messages: that of its class, and its own. -/
  callee : String
  name : String
  doc : Value
  /-- How many of the parameters only have a place. -/
  placed : Nat
  parameters : List (String × Option Value)
  /-- The parameter for all further arguments by place. -/
  rest : Option String
  /-- The parameters that only have a name. -/
  named : List (String × Option Value)
  /-- The parameter for all further arguments by name. -/
  more : Option String
  body : List Source.Stmt

/-- A connection at work: its site, and what it was made of. -/
structure Link where
  site : Nat
  connection : Connection
  schemas : Value
  hash : Value
  migrator : Value
  /-- What was given in the place of the workers, if it is not fit for that. -/
  workers : Option Value
  /-- What else was kept on the connection. -/
  kept : Entries Value := []

/-- What has a place on the heap. -/
inductive Stored where
  | list (items : List Value)
  | dict (entries : List (Value × Value))
  | attributes (entries : Entries Value)
  | definition (d : Definition)
  | link (l : Link)

instance : Inhabited Stored := ⟨.list []⟩

/-- The objects by their places. -/
abbrev Heap := Array Stored

namespace Heap

variable (h : Heap)

/-- The items of a list. -/
def items (id : Nat) : List Value :=
  match h[id]? with
  | some (.list items) => items
  | _ => []

/-- The entries of a dictionary. -/
def entries (id : Nat) : List (Value × Value) :=
  match h[id]? with
  | some (.dict entries) => entries
  | _ => []

/-- The attributes of an instance, or the members of a class. -/
def attributes (id : Nat) : Entries Value :=
  match h[id]? with
  | some (.attributes entries) => entries
  | some (.link l) => l.kept
  | _ => []

/-- A connection. -/
def link? (id : Nat) : Option Link :=
  match h[id]? with
  | some (.link l) => some l
  | _ => none

/-- A function of a module. -/
def definition? (id : Nat) : Option Definition :=
  match h[id]? with
  | some (.definition d) => some d
  | _ => none

end Heap

/-- What does not change while a session runs: the tables that it can name, and what surrounds its
connections. -/
structure World where
  tables : List Table
  surroundings : Surroundings

/-- What changes while a session runs. -/
structure State where
  world : World
  registers : Entries Value := []
  heap : Heap := #[]
  /-- What the recorder still has to return, by method. -/
  returns : Entries (List Json) := []
  /-- The answers to the steps of the tasks of the step at hand. -/
  inner : List Answer := []
  /-- The sites of all connections, as they were when they were last at hand. -/
  sites : Array Site := #[]
  /-- The site at hand. -/
  site : Nat := 0
  /-- The names of the module. -/
  globals : Entries Value := []

/-- A run of a session. -/
abbrev Run (α : Type) : Type := Action State α

/-! ### The heap in a run -/

/-- The heap as it is. -/
def heap : Run Heap := do
  let s ← Action.work
  return s.heap

/-- The number of objects. -/
def size : Run Nat := do
  let h ← heap
  return h.size

/-- A new object. -/
def alloc (o : Stored) : Run Nat := do
  let id ← size
  Action.changeWork fun s => { s with heap := s.heap.push o }
  return id

/-- The object in a place is replaced. -/
def write (id : Nat) (o : Stored) : Run Unit :=
  Action.changeWork fun s => { s with heap := s.heap.setIfInBounds id o }

/-- A new list. -/
def newList (items : List Value) : Run Value := do
  let id ← alloc (.list items)
  return .list id

/-- A new dictionary. -/
def newDict (entries : List (Value × Value)) : Run Value := do
  let id ← alloc (.dict entries)
  return .dict id

/-- A new instance of a class. -/
def newObject (c : Class) (attributes : Entries Value) : Run Value := do
  let id ← alloc (.attributes attributes)
  return .object c id

/-- An attribute of an instance or of a class is set. -/
def setAttribute (v : Value) (name : String) (x : Value) : Run Unit := do
  match v with
  | .object _ id | .cls (.made _ _ id) => do
    let h ← heap
    let attributes := (h.attributes id).put name x
    match h.link? id with
    | some l => write id (.link { l with kept := attributes })
    | none => write id (.attributes attributes)
  | v => Action.fail (.fault (.noAttribute v.sortName name))

/-! ### Data as values -/

mutual

/-- Data as a value of its own. -/
def ofJson : Json → Run Value
  | .null => return .null
  | .bool b => return .bool b
  | .int n => return .int n
  | .double x => return .double x
  | .text s => return .text s
  | .list items => do
    let values ← ofItems items
    newList values
  | .object fields => do
    let entries ← ofFields fields
    newDict entries

/-- Items as values. -/
def ofItems : List Json → Run (List Value)
  | [] => return []
  | x :: xs => do
    let v ← ofJson x
    let vs ← ofItems xs
    return v :: vs

/-- Fields as entries. -/
def ofFields : List (String × Json) → Run (List (Value × Value))
  | [] => return []
  | (key, x) :: fs => do
    let v ← ofJson x
    let es ← ofFields fs
    return (.text key, v) :: es

end

/-- Entries of data as attributes. -/
def ofEntries (fields : Entries Json) : Run (Entries Value) :=
  Action.each (fun e => do
    let v ← ofJson e.2
    return (e.1, v)) fields

end PgSchema.Object
