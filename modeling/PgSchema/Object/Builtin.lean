import PgSchema.Object.Builtin.Dicts
import PgSchema.Object.Builtin.Lists
import PgSchema.Object.Builtin.Numbers
import PgSchema.Object.Builtin.Texts

/-!
The classes of the language and what their values can do.
-/

namespace PgSchema.Object

/-- The sorts of the views of dictionaries. -/
def viewSorts : List String := ["dict_keys", "dict_values", "dict_items"]

/-- What a class of the language has. -/
def languageFeatures : String → Entries Feature
  | "str" => textFeatures
  | "list" => listFeatures
  | "tuple" => tupleFeatures
  | "dict" => dictFeatures
  | "int" => wholeFeatures
  | "float" => doubleFeatures
  | "NoneType" => nullFeatures
  | "object" => objectFeatures
  | name => if name ∈ viewSorts then viewFeatures else []

/-- The names of functions of a class of the language that only can be named. -/
def bareNames : String → List String
  | "str" => textNames
  | "list" => listNames
  | "tuple" => tupleNames
  | "dict" => dictNames
  | "int" => wholeNames
  | "float" => doubleNames
  | "object" => objectNames
  | name => if name ∈ viewSorts then viewNames else []

end PgSchema.Object
