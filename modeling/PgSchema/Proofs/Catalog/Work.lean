import PgSchema.Proofs.Catalog.Actions
import PgSchema.Proofs.Migration.Plan
import PgSchema.Proofs.Migration.Success

/-!
What a migration does to the catalog.

The work on a table acts on the name of the table alone, in a way that depends on the schema that is
told (`bring`).  A migration does this for one table after the other, so what the catalog shows of a
table afterwards comes from what it has shown before (`execAll_work`).
-/

namespace PgSchema

open Identifier (quote)
open Migration (Work Migrator Persisted)

namespace Catalog

variable {schema prev tables : List Table} {k : Catalog} {t u : Table}

/-- What the work on a table makes of what the catalog shows of it, by the schema that is told. -/
def bring (prev : List Table) (t : Table) (v : View) : View :=
  match prev.find? fun u => u.name = t.name with
  | none => ⟨v.text.or (some t.createStatement), v.entries ∪ {e | e ∈ t.indexEntries}⟩
  | some u =>
    if u.createStatement = t.createStatement then
      ⟨v.text, (v.entries \ {e | e ∈ u.indexEntries ∧ e ∉ t.indexEntries}) ∪
        {e | e ∈ t.indexEntries ∧ e ∉ u.indexEntries}⟩
    else ⟨some t.createStatement, {e | e ∈ t.indexEntries}⟩

lemma acts_recreate (hschema : Table.NamesTell schema) (ht : t ∈ schema) (hb : t.IsBuilt) :
    Acts schema t.name (Migration.recreateWork t).statements fun _ =>
      ⟨some t.createStatement, {e | e ∈ t.indexEntries}⟩ := by
  have hdrop : Acts schema t.name _ _ := acts_dropTable t.name
  refine (hdrop.append (acts_statements hschema ht hb)).congr fun v => ?_
  ext e
  · rfl
  · simp

/-- The work on a table whose text is the declared one drops and creates indexes of it. -/
lemma acts_kept {p : Persisted} {fingerprint : Json} {w : Work} (h : p.Tells fingerprint prev)
    (hprev : Table.Declarable prev) (hnames : Table.NamesTell schema)
    (howners : Table.OwnersTell schema) (hsub : ∀ u ∈ prev, u ∈ schema) (ht : t ∈ schema)
    (hb : t.IsBuilt) (hentries : (t.indexEntries.map Prod.fst).Nodup) (hu : u ∈ prev)
    (hname : u.name = t.name) (hw : Migration.keptWork p t = .ok w) :
    Acts schema t.name w.statements fun v =>
      ⟨v.text, (v.entries \ {e | e ∈ u.indexEntries ∧ e ∉ t.indexEntries}) ∪
        {e | e ∈ t.indexEntries ∧ e ∉ u.indexEntries}⟩ := by
  obtain ⟨w', own, hkept, -, hown, hstatements⟩ :=
    Migration.keptWork_eq h hprev howners hsub ht hb hentries hu hname
  rw [hkept] at hw
  cases hw
  rw [hstatements]
  -- the indexes to drop are those of the table as it was
  have hgone : ∀ e ∈ own.filter fun e => e ∉ t.indexEntries, e ∈ u.indexEntries :=
    fun e he => (hown e).1 (List.mem_of_mem_filter he)
  have hfresh : ∀ e ∈ t.indexEntries.filter fun e => e ∉ own, e ∈ t.indexEntries :=
    fun e he => List.mem_of_mem_filter he
  have hdrop := acts_dropIndexes hnames (hsub u hu) hgone
  have hcreate := acts_createIndexes hnames ht hfresh
  rw [hname] at hdrop
  refine (hdrop.append hcreate).congr fun v => ?_
  ext e
  · rfl
  · simp [hown]

/-- **The work that is planned for a table acts on it alone.** -/
theorem acts_plan {m : Migrator} {p : Persisted} {fingerprint : Json} {w : Work}
    (h : p.Tells fingerprint prev) (hprev : Table.Declarable prev) (hnames : Table.NamesTell schema)
    (howners : Table.OwnersTell schema) (hsub : ∀ u ∈ prev, u ∈ schema) (ht : t ∈ schema)
    (hb : t.IsBuilt) (hentries : (t.indexEntries.map Prod.fst).Nodup) (hw : m.Plans p t w) :
    Acts schema t.name w.statements (bring prev t) := by
  obtain ⟨hplan, -⟩ := hw
  cases hfind : prev.find? (fun u => u.name = t.name) with
  | none =>
    obtain ⟨w', hnew, -, hstatements⟩ := Migration.plan_new h (by simpa using hfind) m
    rw [hnew] at hplan
    cases hplan
    rw [hstatements]
    refine (acts_statements hnames ht hb).congr fun v => ?_
    rw [bring, hfind]
  | some u =>
    have hu : u ∈ prev := List.mem_of_find?_eq_some hfind
    have hname : u.name = t.name := by simpa using List.find?_some hfind
    rw [Migration.plan_told h hprev hu hname] at hplan
    split at hplan
    · rename_i htext
      cases hkept : Migration.keptWork p t with
      | error fault =>
        rw [hkept] at hplan
        cases hplan
      | ok w' =>
        rw [hkept] at hplan
        cases hplan
        have hacts := acts_kept h hprev hnames howners hsub ht hb hentries hu hname hkept
        refine hacts.congr fun v => ?_
        rw [bring, hfind]
        simp [htext]
    · rename_i htext
      split at hplan
      · cases hplan
        refine (acts_recreate hnames ht hb).congr fun v => ?_
        rw [bring, hfind]
        simp [htext]
      · cases hplan

/-- **The work on one table after the other**: each table is brought in line, and what is declared
by none of them stays as it is. -/
theorem execAll_work {ws : List Work} {f : Table → View → View}
    (h : List.Forall₂ (fun t w => Acts schema t.name w.statements (f t)) tables ws)
    (hnames : (tables.map Table.name).Nodup) (hk : k.From schema) :
    (k.execAll (ws.flatMap Work.statements)).From schema ∧
      (∀ t ∈ tables, (k.execAll (ws.flatMap Work.statements)).view t.name = f t (k.view t.name)) ∧
      ∀ n, (∀ t ∈ tables, t.name ≠ n) →
        (k.execAll (ws.flatMap Work.statements)).view n = k.view n := by
  induction h generalizing k with
  | nil => exact ⟨hk, fun t ht => absurd ht List.not_mem_nil, fun _ _ => rfl⟩
  | @cons t w tables ws ha _ ih =>
    rw [List.map_cons, List.nodup_cons] at hnames
    obtain ⟨hfrom, hview, hother⟩ := ha k hk
    obtain ⟨hfrom', hview', hother'⟩ := ih hnames.2 hfrom
    have hexec : k.execAll ((w :: ws).flatMap Work.statements) =
        (k.execAll w.statements).execAll (ws.flatMap Work.statements) := by
      rw [List.flatMap_cons, execAll, List.foldl_append]
      rfl
    have hne : ∀ u ∈ tables, u.name ≠ t.name :=
      fun u hu he => hnames.1 (List.mem_map.2 ⟨u, hu, he⟩)
    rw [hexec]
    refine ⟨hfrom', ?_, ?_⟩
    · rintro u (_ | ⟨_, hu⟩)
      · rw [hother' _ hne, hview]
      · rw [hview' u hu, hother _ (hne u hu)]
    · intro n hn
      rw [hother' n fun u hu => hn u (List.mem_cons_of_mem _ hu),
        hother n fun he => hn t List.mem_cons_self he.symm]

end Catalog

/-! ### Migrations -/

namespace Migration.Migrator

variable {m : Migrator} {table : String} {p : Persisted} {before after : List Json}
  {steps : List Migration.Step} {done : List Store.Event}

lemma read?_lockStatement : Ddl.read? lockStatement.text = none := rfl

lemma read?_readStatement : Ddl.read? (readStatement table).text = none := by
  obtain ⟨rest, hrest⟩ : ∃ rest, (readStatement table).text.toList.dropWhile Text.isBlank =
      "SELECT".toList ++ rest := by
    simp only [readStatement, Store.metadataQuery, Store.Statement.text, String.toList_append,
      List.append_assoc]
    exact ⟨_, rfl⟩
  unfold Ddl.read?
  rw [hrest]
  rfl

lemma read?_clearStatement : Ddl.read? (clearStatement table).text = none := by
  obtain ⟨rest, hrest⟩ : ∃ rest, (clearStatement table).text.toList.dropWhile Text.isBlank =
      "DELETE".toList ++ rest := by
    simp only [clearStatement, Store.emptying, Store.Statement.text, String.toList_append]
    exact ⟨_, rfl⟩
  unfold Ddl.read?
  rw [hrest]
  rfl

lemma foldl_opening (k : Catalog) (table : String) :
    (opening table).foldl Catalog.apply k = k.exec (metadataStatement table).text := by
  simp only [opening, lockEvent, List.foldl_cons, List.foldl_nil, Catalog.apply]
  rw [Catalog.exec_of_none read?_lockStatement, Catalog.exec_of_none read?_readStatement]

lemma foldl_saving (k : Catalog) (table : String) (rows : List Migration.Row) :
    (saving table rows).foldl Catalog.apply k = k := by
  simp only [saving, List.foldl_cons, List.foldl_nil, Catalog.apply]
  exact Catalog.exec_of_none read?_clearStatement

lemma foldl_events (k : Catalog) (ws : List Work) :
    (ws.flatMap Work.events).foldl Catalog.apply k = k.execAll (ws.flatMap Work.statements) := by
  have h : ws.flatMap Work.events =
      (ws.flatMap Work.statements).map fun s => Store.Event.execute s .null := by
    rw [List.map_flatMap]
    rfl
  rw [h, List.foldl_map]
  rfl

/-- **What a migration makes of the catalog**: the table of metadata is there, and then the work on
each table is done, unless the fingerprint was the declared one. -/
theorem Ran.catalog {s t : Store} (h : m.Ran table p before steps done after)
    (happlied : t.applied = done.reverse ++ s.applied) :
    (p.hash.same m.hash = true ∧ t.catalog = s.catalog.exec (metadataStatement table).text) ∨
      (p.hash.same m.hash = false ∧ ∃ ws, List.Forall₂ (m.Plans p) m.tables ws ∧
        t.catalog = (s.catalog.exec (metadataStatement table).text).execAll
          (ws.flatMap Work.statements)) := by
  rw [Store.catalog_of_applied happlied]
  cases h with
  | unchanged hsame => exact Or.inl ⟨hsame, foldl_opening _ _⟩
  | @changed hsame ws rows saved hws hrows hsaved =>
    refine Or.inr ⟨hsame, ws, hws, ?_⟩
    rw [List.foldl_append, List.foldl_append, foldl_opening, foldl_events, foldl_saving]

end Migration.Migrator

end PgSchema
