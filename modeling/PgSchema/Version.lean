/-!
The version of the program, and what is told about its release.
-/

namespace PgSchema

/-- A version. -/
structure Version where
  major : Nat
  minor : Nat
  patch : Nat
  deriving DecidableEq, Repr

namespace Version

/-- The numbers of a version, the weightiest first. -/
def numbers (v : Version) : List Nat := [v.major, v.minor, v.patch]

/-- A version as it is written. -/
def text (v : Version) : String := ".".intercalate (v.numbers.map toString)

end Version

/-- A release: its version, the epoch that it belongs to, its name, and the day of its build. -/
structure Release where
  version : Version
  epoch : Nat
  codename : String
  buildDate : String
  deriving DecidableEq, Repr

/-- The release at hand. -/
def release : Release := ⟨⟨0, 1, 0⟩, 1, "Schema Compiler", "2026-10-19"⟩

end PgSchema
