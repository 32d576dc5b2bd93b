/-!
Dictionaries that keep the order in which their keys came.
-/

namespace PgSchema

/-- Keys with their values, in order of arrival. -/
abbrev Entries (α : Type) := List (String × α)

namespace Entries

variable {α β : Type}

/-- The value of a key. -/
def get? (entries : Entries α) (key : String) : Option α := entries.lookup key

/-- The key has a value. -/
def has (entries : Entries α) (key : String) : Bool := (entries.get? key).isSome

/-- The keys in order. -/
def keys (entries : Entries α) : List String := entries.map (·.1)

/-- The values in order of their keys. -/
def values (entries : Entries α) : List α := entries.map (·.2)

/-- A new value for a key: in the place of the old one, or at the end. -/
def put : Entries α → String → α → Entries α
  | [], key, value => [(key, value)]
  | (k, v) :: rest, key, value =>
    if k = key then (key, value) :: rest else (k, v) :: put rest key value

/-- Without a key. -/
def erase (entries : Entries α) (key : String) : Entries α := entries.filter (·.1 != key)

/-- The second dictionary written over the first. -/
def merge (first second : Entries α) : Entries α :=
  second.foldl (fun entries entry => entries.put entry.1 entry.2) first

/-- The last value of each key, at the place where the key came first. -/
def collapse (pairs : List (String × α)) : Entries α := merge [] pairs

/-- The values changed, the keys kept. -/
def mapValues (f : α → β) (entries : Entries α) : Entries β := entries.map fun e => (e.1, f e.2)

end Entries

end PgSchema
