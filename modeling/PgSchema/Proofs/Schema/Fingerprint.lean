import Mathlib.Data.List.Forall2
import PgSchema.Proofs.Schema.Built
import PgSchema.Proofs.Schema.Digests
import PgSchema.Proofs.Schema.Statement

/-!
What the fingerprint of a schema tells.

The fingerprint is taken of one stream of bytes, in which nothing stands between the statements.
The stream can be read in one way only: `alike_of_stream_eq` finds the tables of a schema in it,
with their statements and all that the statements say.  So two schemas with the same fingerprint are
alike, or their streams are a collision of the hash.
-/

namespace PgSchema

open Digest (Sha256 hex hexByte hexTable)

/-! ### Bytes of texts -/

namespace Text

lemma utf8_inj {s t : String} (h : utf8 s = utf8 t) : s = t := by
  have e : s.toByteArray = t.toByteArray := ByteArray.ext (Array.toList_inj.1 h)
  exact String.toByteArray_inj.1 e

lemma flatMap_utf8 (ss : List String) : ss.flatMap utf8 = utf8 (String.join ss) := by
  induction ss with
  | nil => rfl
  | cons s ss ih => rw [List.flatMap_cons, String.join_cons, utf8_append, ih]

/-- Texts with the same bytes in a row have the same characters in a row. -/
lemma flatMap_toList_of_utf8 {ss ts : List String} (h : ss.flatMap utf8 = ts.flatMap utf8) :
    ss.flatMap String.toList = ts.flatMap String.toList := by
  rw [flatMap_utf8, flatMap_utf8] at h
  rw [← String.toList_join, ← String.toList_join, utf8_inj h]

end Text

/-! ### Digits of bytes -/

namespace Digest

lemma hexTable_inj : ∀ i < 16, ∀ j < 16, hexTable.getD i '0' = hexTable.getD j '0' → i = j := by
  decide

lemma hexByte_inj {b c : UInt8} (h : hexByte b = hexByte c) : b = c := by
  have hb := b.toNat_lt
  have hc := c.toNat_lt
  simp only [hexByte, List.cons.injEq, and_true] at h
  have h1 := hexTable_inj _ (by omega) _ (by omega) h.1
  have h2 := hexTable_inj _ (by omega) _ (by omega) h.2
  exact UInt8.toNat_inj.1 (by omega)

lemma hex_inj {bs cs : List UInt8} (h : hex bs = hex cs) : bs = cs := by
  have e : bs.flatMap hexByte = cs.flatMap hexByte := String.ofList_injective h
  clear h
  induction bs generalizing cs with
  | nil =>
    cases cs with
    | nil => rfl
    | cons c cs => simp [hexByte] at e
  | cons b bs ih =>
    cases cs with
    | nil => simp [hexByte] at e
    | cons c cs =>
      rw [List.flatMap_cons, List.flatMap_cons] at e
      obtain ⟨hbc, hrest⟩ := List.append_inj e rfl
      rw [hexByte_inj hbc, ih hrest]

end Digest

/-! ### Streams -/

/-- The hash of a run of bytes. -/
def Digest.Sha256.hash (bytes : List UInt8) : List UInt8 := (Sha256.empty.absorb bytes).digest

/-- The bytes of statements, without anything between them. -/
def streamOf (statements : List String) : List UInt8 := statements.flatMap Text.utf8

lemma fingerprint_eq (statements : List String) :
    fingerprint statements = hex (Sha256.hash (streamOf statements)) := by
  rw [fingerprint_eq_upperHex, Digest.hex_eq, Sha256.hash, Sha256.digest_absorb_empty, streamOf]

/-- What the statements of two tables have in common, if they are the same: the name, the name, type
and marks of each column, and the columns with an index. -/
structure Table.Alike (t u : Table) : Prop where
  create : t.createStatement = u.createStatement
  indexes : t.indexStatements = u.indexStatements
  name : t.name = u.name
  outlines : t.columns.map Column.outline = u.columns.map Column.outline
  indexed : Table.indexedNames t.columns = Table.indexedNames u.columns

namespace Table

lemma flatMap_statements {tables : List Table} (h : ∀ t ∈ tables, t.IsBuilt) :
    (tables.flatMap statements).flatMap String.toList =
      (tables.map fun t => (t.name, t.columns)).flatMap ddlChars := by
  rw [List.flatMap_assoc, List.flatMap_map]
  refine List.flatMap_congr fun t ht => ?_
  rw [ddlChars, statements, (h t ht).createStatement_eq, (h t ht).indexStatements_eq]

lemma alike_of_ddlKey {t u : Table} (ht : t.IsBuilt) (hu : u.IsBuilt)
    (h : ddlKey (t.name, t.columns) = ddlKey (u.name, u.columns)) : t.Alike u := by
  simp only [ddlKey, Prod.mk.injEq] at h
  obtain ⟨⟨hc, hn, ho⟩, hi⟩ := h
  refine ⟨?_, ?_, hn, ho, ?_⟩
  · rw [ht.createStatement_eq, hu.createStatement_eq]
    exact String.toList_inj.1 hc
  · rw [ht.indexStatements_eq, hu.indexStatements_eq, indexTexts_eq, indexTexts_eq, hi]
  · have e := congrArg (List.map Prod.snd) hi
    simpa [Function.comp_def] using e

/-- **The stream of a schema can be read in one way only.** -/
theorem alike_of_streamOf_eq {tables tables' : List Table} (h : ∀ t ∈ tables, t.IsBuilt)
    (h' : ∀ t ∈ tables', t.IsBuilt)
    (e : streamOf (tables.flatMap statements) = streamOf (tables'.flatMap statements)) :
    List.Forall₂ Alike tables tables' := by
  have hchars := Text.flatMap_toList_of_utf8 e
  rw [flatMap_statements h, flatMap_statements h'] at hchars
  rw [← List.append_nil (List.flatMap _ _), ← List.append_nil (List.flatMap _ (List.map _ tables'))]
    at hchars
  have hkeys := (shows_schema rfl rfl hchars).1
  simp only [List.map_map] at hkeys
  clear e hchars
  induction tables generalizing tables' with
  | nil =>
    cases tables' with
    | nil => exact List.Forall₂.nil
    | cons u us => simp at hkeys
  | cons t ts ih =>
    cases tables' with
    | nil => simp at hkeys
    | cons u us =>
      rw [List.map_cons, List.map_cons] at hkeys
      obtain ⟨hk, hks⟩ := List.cons_eq_cons.1 hkeys
      refine List.Forall₂.cons (alike_of_ddlKey (h t (by simp)) (h' u (by simp)) hk) ?_
      exact ih (fun t ht => h t (List.mem_cons_of_mem _ ht))
        (fun u hu => h' u (List.mem_cons_of_mem _ hu)) hks

end Table

namespace Database

/-- The bytes that the fingerprint of a database is taken of. -/
def stream (d : Database) : List UInt8 := streamOf (d.statements none)

lemma statements_none (d : Database) : d.statements none = d.tables.flatMap Table.statements := by
  simp [statements]

lemma fingerprint_eq (d : Database) : d.fingerprint = hex (Sha256.hash d.stream) := by
  rw [fingerprint_eq_flatMap, PgSchema.fingerprint_eq, stream, statements_none]

/-- **The fingerprint input is unambiguous.** -/
theorem alike_of_stream_eq {d e : Database} (hd : ∀ t ∈ d.tables, t.IsBuilt)
    (he : ∀ t ∈ e.tables, t.IsBuilt) :
    d.fingerprint = hex (Sha256.hash d.stream) ∧
    (d.stream = e.stream →
      d.tables.length = e.tables.length ∧ List.Forall₂ Table.Alike d.tables e.tables) ∧
    (d.fingerprint = e.fingerprint → List.Forall₂ Table.Alike d.tables e.tables ∨
      d.stream ≠ e.stream ∧ Sha256.hash d.stream = Sha256.hash e.stream) := by
  have hread : d.stream = e.stream → List.Forall₂ Table.Alike d.tables e.tables := by
    intro h
    rw [stream, stream, statements_none, statements_none] at h
    exact Table.alike_of_streamOf_eq hd he h
  refine ⟨fingerprint_eq _, fun h => ⟨(hread h).length_eq, hread h⟩, fun h => ?_⟩
  by_cases hs : d.stream = e.stream
  · exact Or.inl (hread hs)
  · have hh := h
    rw [fingerprint_eq, fingerprint_eq] at hh
    exact Or.inr ⟨hs, Digest.hex_inj hh⟩

/-- A database with one table, whose name looks like statements. -/
def posing (model : String) : Database where
  package := "p"
  className := "D"
  tables := [Table.ofColumns "a\" (\"x\" TEXT), CREATE TABLE IF NOT EXISTS \"b" model
    [{ name := "x", columnName := "x\" TEXT PRIMARY KEY, \"y", kind := .string, nullable := false,
       indexed := true, primaryKey := false, autoId := false, onConflict := .none }]]

lemma isBuilt_posing {model : String} (h : model ≠ "") :
    ∀ t ∈ (posing model).tables, t.IsBuilt := by
  intro t ht
  obtain rfl := List.mem_singleton.1 ht
  exact Table.isBuilt_ofColumns (by decide) h _

theorem alike_posing : (∀ t ∈ (posing "A").tables, t.IsBuilt) ∧
    (∀ t ∈ (posing "B").tables, t.IsBuilt) ∧
    List.Forall₂ Table.Alike (posing "A").tables (posing "B").tables := by
  have ha : ∀ t ∈ (posing "A").tables, t.IsBuilt := isBuilt_posing (by decide)
  have hb : ∀ t ∈ (posing "B").tables, t.IsBuilt := isBuilt_posing (by decide)
  exact ⟨ha, hb, ((alike_of_stream_eq ha hb).2.1 rfl).2⟩

end Database

end PgSchema
