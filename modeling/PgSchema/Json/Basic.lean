import PgSchema.Entries
import PgSchema.Number.Double

/-!
JSON values.  Whole numbers of any size and floating-point numbers are kept apart, and an object
keeps its fields in order.
-/

namespace PgSchema

open Number (Double)

/-- A JSON value. -/
inductive Json where
  | null
  | bool (b : Bool)
  | int (n : Int)
  | double (x : Double)
  | text (s : String)
  | list (items : List Json)
  | object (fields : List (String × Json))
  deriving Inhabited, Repr

namespace Json

/-- A text, or null where there is none. -/
def ofText? : Option String → Json
  | some s => text s
  | none => null

/-- A list of texts. -/
def texts (ss : List String) : Json := list (ss.map text)

/-- A natural number. -/
def ofNat (n : Nat) : Json := int n

/-- The name by which messages call the sort of a value. -/
def sortName : Json → String
  | null => "NoneType"
  | bool _ => "bool"
  | int _ => "int"
  | double _ => "float"
  | text _ => "str"
  | list _ => "list"
  | object _ => "dict"

/-- The value counts as true: it is not null, false, zero or empty. -/
def isTruthy : Json → Bool
  | null => false
  | bool b => b
  | int n => n != 0
  | double x => !x.isZero
  | text s => s != ""
  | list items => !items.isEmpty
  | object fields => !fields.isEmpty

/-- The value of a field. -/
def field? : Json → String → Option Json
  | object fields, key => Entries.get? fields key
  | _, _ => none

/-- The fields of an object, none for any other value. -/
def fields : Json → Entries Json
  | object fs => fs
  | _ => []

/-- The items of a list, none for any other value. -/
def items : Json → List Json
  | list xs => xs
  | _ => []

/-- The text that a value is. -/
def text? : Json → Option String
  | text s => some s
  | _ => none

end Json

end PgSchema
