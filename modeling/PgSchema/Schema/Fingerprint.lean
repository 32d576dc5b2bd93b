import PgSchema.Digest.Sha256
import PgSchema.Schema.Database
import PgSchema.Text.Utf8

/-!
Fingerprints of schemas: one hash over all statements in order, without anything between them.

A hash is changed in place by the bytes that it takes.  A digest holds a hash, and it lets only
copies of it take more statements, so that it can be shared, and be continued in several ways.
-/

namespace PgSchema

open Digest (Sha256 hex)

/-! ### Hashes that are changed in place -/

/-- The hashes that there are, each in the place that it was made in. -/
abbrev Hashes := List Sha256

/-- Work with hashes. -/
abbrev Hashing := StateM Hashes

namespace Hashing

/-- A new hash, at the end.  The outcome is its place. -/
def make (state : Sha256) : Hashing Nat := fun hashes => (hashes.length, hashes ++ [state])

/-- The hash in a place, as it is now. -/
def read (place : Nat) : Hashing Sha256 := fun hashes => (hashes.getD place Sha256.empty, hashes)

/-- A new hash that is as another one is now. -/
def copy (place : Nat) : Hashing Nat := do make (← read place)

/-- The hash in a place takes more bytes. -/
def absorb (place : Nat) (bytes : List UInt8) : Hashing Unit :=
  modify fun hashes => hashes.modify place (Sha256.absorb · bytes)

/-- The outcome of work that begins without any hash. -/
def outcome {α : Type} (x : Hashing α) : α := (x []).1

end Hashing

/-! ### Digests -/

/-- A fingerprint that can be continued, by the place of its hash.  Continuing it leaves the
receiver as it was. -/
structure SchemaDigest where
  place : Nat
  deriving DecidableEq, Repr

namespace SchemaDigest

/-- A digest of no statements. -/
def start : Hashing SchemaDigest := return ⟨← Hashing.make Sha256.empty⟩

/-- One more statement. -/
def update (d : SchemaDigest) (statement : String) : Hashing SchemaDigest := do
  let forked ← Hashing.copy d.place
  Hashing.absorb forked (Text.utf8 statement)
  return ⟨forked⟩

/-- More statements, one after the other. -/
def updateAll (d : SchemaDigest) (statements : List String) : Hashing SchemaDigest :=
  statements.foldlM update d

/-- The fingerprint so far, as bytes. -/
def bytes (d : SchemaDigest) : Hashing (List UInt8) := do
  let forked ← Hashing.copy d.place
  return (← Hashing.read forked).digest

/-- The fingerprint so far. -/
def text (d : SchemaDigest) : Hashing String := return hex (← d.bytes)

/-- The digests that a course of updates has left under their names. -/
abbrev Branches := Entries SchemaDigest

/-- The one without a name is there from the start. -/
def Branches.start : Hashing Branches := return [("", ← SchemaDigest.start)]

/-- The digest under one name is continued, and the outcome goes under another.  The digest that was
continued is told with it. -/
def Branches.advance (branches : Branches) (source target : String) (statements : List String) :
    Hashing (Option (SchemaDigest × SchemaDigest × Branches)) :=
  match branches.get? source with
  | none => return none
  | some d => do
    let new ← d.updateAll statements
    return some (d, new, branches.put target new)

end SchemaDigest

/-! ### Fingerprints -/

/-- The fingerprint of statements. -/
def fingerprint (statements : List String) : String :=
  Hashing.outcome do
    let start ← SchemaDigest.start
    let last ← start.updateAll statements
    last.text

/-- The fingerprint of a table. -/
def Table.fingerprint (t : Table) : String := PgSchema.fingerprint t.statements

/-- The fingerprint of a database: the statements of one table after the other. -/
def Database.fingerprint (d : Database) : String :=
  Hashing.outcome do
    let start ← SchemaDigest.start
    let last ← d.tables.foldlM (fun digest t => digest.updateAll t.statements) start
    last.text

/-- The fingerprint of a database, with what is counted in it and the fingerprint of each table. -/
structure Fingerprint where
  fingerprint : String
  tables : Nat
  columns : Nat
  statements : Nat
  perTable : List (String × String)
  deriving DecidableEq, Repr

namespace Fingerprint

/-- The fingerprint of a database in full. -/
def ofDatabase (d : Database) : Fingerprint where
  fingerprint := d.fingerprint
  tables := d.tables.length
  columns := d.tables.foldl (fun n t => n + t.columns.length) 0
  statements := d.tables.foldl (fun n t => n + t.statements.length) 0
  perTable := d.tables.map fun t => (t.name, t.fingerprint)

/-- A fingerprint as a value. -/
def toJson (f : Fingerprint) : Json :=
  .object [("fingerprint", .text f.fingerprint), ("table_count", .ofNat f.tables),
    ("column_count", .ofNat f.columns), ("statement_count", .ofNat f.statements),
    ("per_table_hashes", .list (f.perTable.map fun (name, hash) => .texts [name, hash]))]

end Fingerprint

end PgSchema
