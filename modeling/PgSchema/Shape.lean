import PgSchema.Fault

/-!
Records filled from named values: which names there are, and which of them have a value of their own
when none is given.
-/

namespace PgSchema

/-- The fields of a record, with the values of those that need not be given. -/
structure Shape where
  name : String
  fields : List (String × Option Json)

namespace Shape

/-- The name of the record itself among the names of its fields. -/
def selfName : String := "self"

/-- The name by which messages call the act of filling. -/
def callee (shape : Shape) : String := shape.name ++ ".__init__"

/-- A name is the name of a field. -/
def has (shape : Shape) (name : String) : Bool := shape.fields.any (·.1 = name)

/-- The names given are names of fields. -/
def checkNames (shape : Shape) (given : List String) : Except Fault Unit :=
  match given.find? (!shape.has ·) with
  | none => .ok ()
  | some name =>
    .error (if name = selfName then .repeatedArgument shape.callee name
      else .unknownKeyword shape.callee name)

/-- The fields without a value of their own that are not given. -/
def missing (shape : Shape) (given : Entries Json) : List String :=
  shape.fields.filterMap fun (name, default) =>
    if default.isNone && !given.has name then some name else none

/-- The values of all fields, in the order of the fields. -/
def fill (shape : Shape) (given : Entries Json) : Except Fault (Entries Json) := do
  shape.checkNames given.keys
  match shape.missing given with
  | [] =>
    return shape.fields.map fun (name, default) =>
      (name, (given.get? name).getD (default.getD .null))
  | names => throw (.missingArguments shape.callee names)

end Shape

end PgSchema
