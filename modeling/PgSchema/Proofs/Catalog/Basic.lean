import Mathlib.Data.Set.Basic
import Mathlib.Logic.Function.Basic
import PgSchema.Migration.Migrator
import PgSchema.Proofs.Schema.Statement

/-!
The catalog of a database: which tables and indexes there are, and from which statements.

A catalog is what the statements in effect have made of an empty one.  A statement that creates
something whose name is taken does nothing, and a table that is dropped takes its indexes with it.
The statements are read as texts, so that the catalog knows of a schema only what the database is
told.
-/

namespace PgSchema

open Identifier (quote mark read?_quote)

/-- What a statement does to a catalog. -/
inductive Ddl where
  | createTable (table : String)
  | createIndex (index table : String)
  | dropTable (table : String)
  | dropIndex (index : String)
  deriving DecidableEq, Repr

namespace Ddl

/-- The name behind words at the front of a text, and the text behind it. -/
def named? (words : String) (cs : List Char) : Option (String × List Char) :=
  (IndexStatement.afterWord? words.toList cs).bind Identifier.read?

/-- A statement, read. -/
def read? (statement : String) : Option Ddl :=
  let cs := statement.toList.dropWhile Text.isBlank
  match named? "CREATE TABLE IF NOT EXISTS " cs with
  | some (table, _) => some (createTable table)
  | none =>
    match named? "CREATE INDEX IF NOT EXISTS " cs with
    | some (index, rest) => (named? " ON " rest).map fun (table, _) => createIndex index table
    | none =>
      match named? "DROP TABLE IF EXISTS " cs with
      | some (table, _) => some (dropTable table)
      | none => (named? "DROP INDEX IF EXISTS " cs).map fun (index, _) => dropIndex index

lemma named?_quote (words name : String) {rest : List Char} (h : rest.head? ≠ some mark) :
    named? words (words.toList ++ ((quote name).toList ++ rest)) = some (name, rest) := by
  have hafter : ∀ w cs : List Char, IndexStatement.afterWord? w (w ++ cs) = some cs := by
    intro w cs
    rw [IndexStatement.afterWord?, if_pos (List.isPrefixOf_iff_prefix.2 (List.prefix_append _ _)),
      List.drop_left]
  rw [named?, hafter, Option.bind_some]
  exact read?_quote h name

/-- Behind blanks, a statement that creates a table is read. -/
lemma read?_of_table {statement table : String} {rest : List Char} (h : rest.head? ≠ some mark)
    (hs : statement.toList.dropWhile Text.isBlank =
      "CREATE TABLE IF NOT EXISTS ".toList ++ ((quote table).toList ++ rest)) :
    read? statement = some (createTable table) := by
  unfold read?
  rw [hs]
  dsimp only
  rw [named?_quote _ _ h]

lemma read?_createText (name : String) (columns : List Column) :
    read? (Table.createText name columns) = some (createTable name) := by
  refine read?_of_table ?_ ((congrArg _ (Table.toList_createText name columns)).trans rfl)
  exact Identifier.not_mark rfl (by decide) _

lemma read?_metadataStatement (table : String) :
    read? (Migration.Migrator.metadataStatement table).text = some (createTable table) := by
  obtain ⟨rest, hrest⟩ : ∃ rest : List Char,
      (Migration.Migrator.metadataStatement table).text.toList.dropWhile Text.isBlank =
        "CREATE TABLE IF NOT EXISTS ".toList ++
          ((quote table).toList ++ (" (\n".toList ++ rest)) := by
    simp only [Migration.Migrator.metadataStatement, Store.Statement.text, String.toList_append,
      List.append_assoc]
    exact ⟨_, rfl⟩
  exact read?_of_table (Identifier.not_mark rfl (by decide) _) hrest

lemma read?_indexText (p : String × String) : read? (Table.indexText p) =
    some (createIndex (Index.name Index.defaultStart p.1 [p.2]) p.1) := by
  have hs : (Table.indexText p).toList.dropWhile Text.isBlank = (Table.indexText p).toList := by
    rw [Table.toList_indexText]
    rfl
  have hnot : ∀ cs, named? "CREATE TABLE IF NOT EXISTS "
      ("CREATE INDEX IF NOT EXISTS ".toList ++ cs) = none := fun _ => rfl
  unfold read?
  rw [hs, Table.toList_indexText]
  dsimp only
  rw [hnot, named?_quote _ _ (Identifier.not_mark rfl (by decide) _)]
  dsimp only
  rw [named?_quote _ _ (Identifier.not_mark rfl (by decide) _)]
  rfl

lemma read?_dropTable (name : String) :
    read? ("DROP TABLE IF EXISTS " ++ quote name) = some (dropTable name) := by
  have hs : ("DROP TABLE IF EXISTS " ++ quote name).toList =
      "DROP TABLE IF EXISTS ".toList ++ ((quote name).toList ++ []) := by
    rw [String.toList_append, List.append_nil]
  have hblank : ∀ cs, ("DROP TABLE IF EXISTS ".toList ++ cs).dropWhile Text.isBlank =
      "DROP TABLE IF EXISTS ".toList ++ cs := fun _ => rfl
  have htable : ∀ cs, named? "CREATE TABLE IF NOT EXISTS "
      ("DROP TABLE IF EXISTS ".toList ++ cs) = none := fun _ => rfl
  have hindex : ∀ cs, named? "CREATE INDEX IF NOT EXISTS "
      ("DROP TABLE IF EXISTS ".toList ++ cs) = none := fun _ => rfl
  unfold read?
  rw [hs, hblank]
  dsimp only
  rw [htable, hindex, named?_quote _ _ (by simp)]

lemma read?_dropIndex (name : String) :
    read? ("DROP INDEX IF EXISTS " ++ quote name) = some (dropIndex name) := by
  have hs : ("DROP INDEX IF EXISTS " ++ quote name).toList =
      "DROP INDEX IF EXISTS ".toList ++ ((quote name).toList ++ []) := by
    rw [String.toList_append, List.append_nil]
  have hblank : ∀ cs, ("DROP INDEX IF EXISTS ".toList ++ cs).dropWhile Text.isBlank =
      "DROP INDEX IF EXISTS ".toList ++ cs := fun _ => rfl
  have htable : ∀ cs, named? "CREATE TABLE IF NOT EXISTS "
      ("DROP INDEX IF EXISTS ".toList ++ cs) = none := fun _ => rfl
  have hindex : ∀ cs, named? "CREATE INDEX IF NOT EXISTS "
      ("DROP INDEX IF EXISTS ".toList ++ cs) = none := fun _ => rfl
  have hdrop : ∀ cs, named? "DROP TABLE IF EXISTS "
      ("DROP INDEX IF EXISTS ".toList ++ cs) = none := fun _ => rfl
  unfold read?
  rw [hs, hblank]
  dsimp only
  rw [htable, hindex, hdrop, named?_quote _ _ (by simp)]
  rfl

end Ddl

/-! ### Catalogs -/

/-- The tables by name, with the statements that created them, and the indexes by name, with their
tables and the statements that created them. -/
structure Catalog where
  tables : String → Option String := fun _ => none
  indexes : String → Option (String × String) := fun _ => none

/-- What a catalog shows under the name of a table: the statement that created it, and its indexes
by name, with theirs. -/
@[ext]
structure Catalog.View where
  text : Option String
  entries : Set (String × String)

namespace Catalog

/-- The catalog after a statement. -/
def exec (k : Catalog) (statement : String) : Catalog :=
  match Ddl.read? statement with
  | some (.createTable t) =>
    if (k.tables t).isSome then k
    else { k with tables := Function.update k.tables t (some statement) }
  | some (.createIndex i t) =>
    if (k.indexes i).isSome then k
    else { k with indexes := Function.update k.indexes i (some (t, statement)) }
  | some (.dropTable t) =>
    { tables := Function.update k.tables t none
      indexes := fun i => (k.indexes i).filter fun e => e.1 ≠ t }
  | some (.dropIndex i) => { k with indexes := Function.update k.indexes i none }
  | none => k

lemma exec_of_none {k : Catalog} {statement : String} (h : Ddl.read? statement = none) :
    k.exec statement = k := by
  rw [exec, h]

/-- The catalog after statements, one after the other. -/
def execAll (k : Catalog) (statements : List String) : Catalog := statements.foldl exec k

/-- What the catalog shows under a name. -/
def view (k : Catalog) (t : String) : View where
  text := k.tables t
  entries := {e | k.indexes e.1 = some (t, e.2)}

/-- **A declared table is there**: it has the declared form, and exactly the declared indexes. -/
structure Shows (k : Catalog) (t : Table) : Prop where
  text : k.tables t.name = some t.createStatement
  indexes : ∀ e : String × String, k.indexes e.1 = some (t.name, e.2) ↔ e ∈ t.indexEntries

end Catalog

/-- The catalog after a use of the store. -/
def Catalog.apply (k : Catalog) : Store.Event → Catalog
  | .execute statement _ => k.exec statement
  | _ => k

/-- **The catalog of a store**: what the statements in effect have made of an empty one. -/
def Store.catalog (s : Store) : Catalog := s.applied.foldr (fun event k => k.apply event) {}

lemma Store.catalog_of_applied {s t : Store} {done : List Store.Event}
    (h : t.applied = done.reverse ++ s.applied) :
    t.catalog = done.foldl Catalog.apply s.catalog := by
  rw [catalog, h, List.foldr_append, List.foldr_reverse]
  rfl

end PgSchema
