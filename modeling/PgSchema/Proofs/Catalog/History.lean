import PgSchema.Proofs.Catalog.Work
import PgSchema.Proofs.Schema.Fingerprint

/-!
Histories of migrations.

A history is a row of calls that all ended well, each on what the one before it had left.  A call
fits those before it (`Call.Fits`) if no table comes back in another form than it had left with,
which is what the catalog needs to show all tables as they were last declared
(`bring_lastDeclared`).
-/

namespace PgSchema

open Catalog (View)
open Migration (Migrator Persisted Result)

/-! ### Calls -/

/-- A call of a migration: the tables that are declared, and whether tables may be dropped. -/
structure Call where
  tables : List Table
  destructive : Bool

namespace Call

/-- The fingerprint of the declared tables. -/
def hash (c : Call) : String := fingerprint (c.tables.flatMap Table.statements)

/-- The migrator of a call. -/
def migrator (c : Call) (metadataTable : String) (now : Moment) : Migrator where
  tables := c.tables
  hash := .text c.hash
  metadataTable := .text metadataTable
  destructive := .bool c.destructive
  now := now

end Call

/-- The store that a history has led to.  Before any call, the database is empty. -/
def latestStore : List (Call × Store) → Store
  | [] => {}
  | (_, s) :: _ => s

/-- **A history of migrations** that all ended well, newest first, with the store behind each.
Every migration is on a course of its own, but on the metadata and the statements of the one before
it. -/
inductive History (σ : Type) (metadataTable : String) : List (Call × Store) → Prop
  | start : History σ metadataTable []
  | step {past : List (Call × Store)} {call : Call} {now : Moment} {c d : Course σ} {r : Result}
      (hpast : History σ metadataTable past) (hscript : c.store.script.OnlyFails)
      (hmetadata : c.store.metadata = (latestStore past).metadata)
      (happlied : c.store.applied = (latestStore past).applied)
      (hrun : (call.migrator metadataTable now).migrate c = (.ok r, d)) :
      History σ metadataTable ((call, d.store) :: past)

/-- The tables that the last call declares. -/
def latestTables : List Call → List Table
  | [] => []
  | c :: _ => c.tables

/-- The table of a name, as it was last declared. -/
def lastDeclared : List Call → String → Option Table
  | [], _ => none
  | c :: past, n => (c.tables.find? fun t => t.name = n).or (lastDeclared past n)

/-- **A call fits the calls before it**: no table is named like that of the metadata, and a table
that comes back after it had left the declaration has the form that it had, with no index less. -/
structure Call.Fits (metadataTable : String) (c : Call) (past : List Call) : Prop where
  apart : ∀ t ∈ c.tables, t.name ≠ metadataTable
  returning : ∀ t ∈ c.tables, (∀ u ∈ latestTables past, u.name ≠ t.name) →
    ∀ u, lastDeclared past t.name = some u →
      u.createStatement = t.createStatement ∧ ∀ e ∈ u.indexEntries, e ∈ t.indexEntries

/-- Every call fits those before it. -/
def AllFit (metadataTable : String) : List Call → Prop
  | [] => True
  | c :: past => c.Fits metadataTable past ∧ AllFit metadataTable past

/-- **Calls that are told apart** by the digests and the texts that stand for them.  The tables of
each call can be declared together; among all tables of a schema, no two indexes have one name, and
none seems to be another table's; and different streams have different fingerprints. -/
structure Call.Distinct (schema : List Table) (calls : List Call) : Prop where
  declared : ∀ c ∈ calls, ∀ t ∈ c.tables, t ∈ schema
  declarable : ∀ c ∈ calls, Table.Declarable c.tables
  names : Table.NamesTell schema
  owners : Table.OwnersTell schema
  hashes : ∀ c ∈ calls, ∀ c' ∈ calls, c.hash = c'.hash →
    streamOf (c.tables.flatMap Table.statements) = streamOf (c'.tables.flatMap Table.statements)

lemma Call.Distinct.tail {schema : List Table} {c : Call} {calls : List Call}
    (h : Distinct schema (c :: calls)) : Distinct schema calls where
  declared := fun c' hc' => h.declared c' (List.mem_cons_of_mem _ hc')
  declarable := fun c' hc' => h.declarable c' (List.mem_cons_of_mem _ hc')
  names := h.names
  owners := h.owners
  hashes := fun c' hc' c'' hc'' =>
    h.hashes c' (List.mem_cons_of_mem _ hc') c'' (List.mem_cons_of_mem _ hc'')

/-- The tables of the call before can be declared together, too. -/
lemma Call.Distinct.latest {schema : List Table} {c : Call} {past : List Call}
    (h : Distinct schema (c :: past)) :
    Table.Declarable (latestTables past) ∧ ∀ u ∈ latestTables past, u ∈ schema := by
  cases past with
  | nil => exact ⟨⟨nofun, List.nodup_nil, List.nodup_nil⟩, nofun⟩
  | cons last past =>
    exact ⟨h.tail.declarable last List.mem_cons_self, h.tail.declared last List.mem_cons_self⟩

/-! ### Views -/

namespace Catalog

variable {k : Catalog} {t u : Table}

/-- What the catalog should show of a table. -/
def viewOf : Option Table → View
  | none => ⟨none, ∅⟩
  | some t => ⟨some t.createStatement, {e | e ∈ t.indexEntries}⟩

lemma shows_iff : k.Shows t ↔ k.view t.name = viewOf (some t) := by
  constructor
  · rintro ⟨htext, hindexes⟩
    ext1
    · exact htext
    · ext e
      exact hindexes e
  · intro h
    exact ⟨congrArg View.text h, fun e => (Set.ext_iff.1 (congrArg View.entries h) e)⟩

/-- **What the work on a table makes of what it was**: the declared table, unless it comes back in
another form. -/
lemma bring_lastDeclared (past : List Call) (t : Table) :
    bring (latestTables past) t (viewOf (lastDeclared past t.name)) = viewOf (some t) ↔
      ((∀ u ∈ latestTables past, u.name ≠ t.name) → ∀ u, lastDeclared past t.name = some u →
        u.createStatement = t.createStatement ∧ ∀ e ∈ u.indexEntries, e ∈ t.indexEntries) := by
  cases hfind : (latestTables past).find? (fun u => u.name = t.name) with
  | some u =>
    -- a table that had not left is brought in line
    have hu : u ∈ latestTables past := List.mem_of_find?_eq_some hfind
    have hname : u.name = t.name := by simpa using List.find?_some hfind
    have hlast : lastDeclared past t.name = some u := by
      cases past with
      | nil => simp [latestTables] at hfind
      | cons c past =>
        rw [lastDeclared]
        exact Option.or_eq_some_iff.2 (Or.inl hfind)
    refine iff_of_true ?_ fun hnew => absurd hname (hnew u hu)
    rw [bring, hfind, hlast]
    dsimp only
    split
    · rename_i htext
      ext e
      · simp [viewOf, htext]
      · by_cases he : e ∈ u.indexEntries <;> simp [viewOf, he]
    · rfl
  | none =>
    have hnew : ∀ u ∈ latestTables past, u.name ≠ t.name := by simpa using hfind
    rw [bring, hfind]
    cases hlast : lastDeclared past t.name with
    | none =>
      refine iff_of_true ?_ fun _ u hu => by cases hu
      ext e <;> simp [viewOf]
    | some u =>
      constructor
      · intro h _ v hv
        cases hv
        refine ⟨Option.some.inj (congrArg View.text h), fun e he => ?_⟩
        exact (Set.ext_iff.1 (congrArg View.entries h) e).1 (Or.inl he)
      · intro h
        obtain ⟨htext, hentries⟩ := h hnew u rfl
        ext e
        · simp [viewOf, htext]
        · exact or_iff_right_of_imp (hentries e)

end Catalog

/-! ### Schemas that read alike -/

namespace Table

lemma find?_of_mem {tables : List Table} (h : (tables.map name).Nodup) {t : Table}
    (ht : t ∈ tables) : tables.find? (fun u => u.name = t.name) = some t := by
  cases hfind : tables.find? (fun u => u.name = t.name) with
  | none => exact absurd (decide_eq_true rfl) (List.find?_eq_none.1 hfind t ht)
  | some u =>
    have hname : u.name = t.name := by simpa using List.find?_some hfind
    rw [List.inj_on_of_nodup_map h (List.mem_of_find?_eq_some hfind) ht hname]

lemma exists_alike {tables tables' : List Table} (h : List.Forall₂ Alike tables tables') {u : Table}
    (hu : u ∈ tables') : ∃ t ∈ tables, t.Alike u := by
  induction h with
  | nil => cases hu
  | @cons t v _ _ ha _ ih =>
    rcases List.mem_cons.1 hu with rfl | hu
    · exact ⟨t, List.mem_cons_self, ha⟩
    · obtain ⟨t', ht', ha'⟩ := ih hu
      exact ⟨t', List.mem_cons_of_mem _ ht', ha'⟩

lemma find?_alike {tables tables' : List Table} (h : List.Forall₂ Alike tables tables')
    (n : String) :
    (tables.find? (fun t => t.name = n) = none ∧ tables'.find? (fun t => t.name = n) = none) ∨
      ∃ t u, tables.find? (fun t => t.name = n) = some t ∧
        tables'.find? (fun t => t.name = n) = some u ∧ t.Alike u := by
  induction h with
  | nil => exact Or.inl ⟨rfl, rfl⟩
  | @cons t u _ _ ha _ ih =>
    by_cases hn : t.name = n
    · exact Or.inr ⟨t, u, List.find?_cons_of_pos (by simpa using hn),
        List.find?_cons_of_pos (by simpa [← ha.name] using hn), ha⟩
    · rw [List.find?_cons_of_neg (by simpa using hn),
        List.find?_cons_of_neg (by simpa [← ha.name] using hn)]
      exact ih

lemma Alike.indexEntries_eq {t u : Table} (h : t.Alike u) : t.indexEntries = u.indexEntries := by
  rw [indexEntries, indexEntries, h.name, h.indexed]

lemma map_eq_of_alike {α : Type} {f : Table → α} (hf : ∀ t u : Table, t.Alike u → f t = f u)
    {tables tables' : List Table} (h : List.Forall₂ Alike tables tables') :
    tables.map f = tables'.map f := by
  induction h with
  | nil => rfl
  | cons ha _ ih => rw [List.map_cons, List.map_cons, hf _ _ ha, ih]

end Table

lemma Migration.Persisted.Tells.of_alike {p : Persisted} {fingerprint : Json}
    {tables tables' : List Table} (h : p.Tells fingerprint tables)
    (ha : List.Forall₂ Table.Alike tables tables') : p.Tells fingerprint tables' where
  hash := h.hash
  tables := by
    rw [← Table.map_eq_of_alike (fun t u htu => by rw [htu.name, htu.create]) ha]
    exact h.tables
  indexes := by
    have hentries := Table.map_eq_of_alike (fun t u htu => htu.indexEntries_eq) ha
    rw [List.flatMap_def, ← hentries, ← List.flatMap_def]
    exact h.indexes

end PgSchema
