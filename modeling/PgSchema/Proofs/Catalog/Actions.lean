import Mathlib.Data.Set.Insert
import PgSchema.Proofs.Catalog.Basic

/-!
What statements on one table do to a catalog.

The names of indexes are taken from all tables together.  As long as no two statements that create
indexes share a name, an index that is there belongs to the table that the statement with its name
names, and a statement on one table leaves everything alone that other tables show (`Acts`).
-/

namespace PgSchema

open Identifier (quote)

/-- Indexes that go by one name come from one statement. -/
def Table.NamesTell (schema : List Table) : Prop :=
  ∀ t ∈ schema, ∀ u ∈ schema, ∀ e ∈ t.indexEntries, ∀ f ∈ u.indexEntries, e.1 = f.1 → e.2 = f.2

namespace Catalog

variable {schema : List Table} {k : Catalog} {t : Table} {e : String × String}

/-- All indexes come from tables of a schema. -/
def From (k : Catalog) (schema : List Table) : Prop :=
  ∀ i owner, k.indexes i = some owner →
    ∃ u ∈ schema, u.name = owner.1 ∧ (i, owner.2) ∈ u.indexEntries

/-- An index under the name of a declared one is that one. -/
lemma From.owner_eq (h : k.From schema) (hschema : Table.NamesTell schema) (ht : t ∈ schema)
    (he : e ∈ t.indexEntries) {owner : String × String} (howner : k.indexes e.1 = some owner) :
    owner = (t.name, e.2) := by
  obtain ⟨u, hu, hname, hmem⟩ := h _ _ howner
  have hs : e.2 = owner.2 := hschema t ht u hu e he (e.1, owner.2) hmem rfl
  rw [hs, (Table.name_eq_of_indexEntries he hmem hs).1, hname]

/-- **Statements act on one name**: they change what the catalog shows under it in one way, and
under other names not at all. -/
def Acts (schema : List Table) (n : String) (statements : List String) (f : View → View) : Prop :=
  ∀ k : Catalog, k.From schema → (k.execAll statements).From schema ∧
    (k.execAll statements).view n = f (k.view n) ∧
    ∀ n', n' ≠ n → (k.execAll statements).view n' = k.view n'

namespace Acts

variable {n : String} {statements statements' : List String} {f g : View → View}

lemma nil : Acts schema n [] id := fun _ hk => ⟨hk, rfl, fun _ _ => rfl⟩

lemma append (h : Acts schema n statements f) (h' : Acts schema n statements' g) :
    Acts schema n (statements ++ statements') (g ∘ f) := by
  intro k hk
  obtain ⟨hfrom, hview, hother⟩ := h k hk
  obtain ⟨hfrom', hview', hother'⟩ := h' _ hfrom
  rw [execAll, List.foldl_append]
  refine ⟨hfrom', hview'.trans (congrArg g hview), fun n' hn' => ?_⟩
  exact (hother' n' hn').trans (hother n' hn')

lemma congr (h : Acts schema n statements f) (hfg : ∀ v, f v = g v) :
    Acts schema n statements g := by
  rw [← funext hfg]
  exact h

end Acts

/-! ### Single statements -/

lemma acts_createTable {statement n : String}
    (hread : Ddl.read? statement = some (.createTable n)) :
    Acts schema n [statement] fun v => { v with text := v.text.or (some statement) } := by
  intro k hk
  have hexec : k.execAll [statement] = if (k.tables n).isSome then k
      else { k with tables := Function.update k.tables n (some statement) } := by
    rw [execAll, List.foldl_cons, List.foldl_nil, exec, hread]
  rw [hexec]
  cases hn : k.tables n with
  | some text =>
    refine ⟨hk, ?_, fun _ _ => rfl⟩
    ext1
    · simp [view, hn]
    · rfl
  | none =>
    refine ⟨hk, ?_, fun n' hn' => ?_⟩
    · ext1
      · simp [view, hn]
      · rfl
    · ext1
      · simp [view, Function.update_of_ne hn']
      · rfl

/-- A table is created, and nothing else changes by that. -/
lemma exec_createTable {statement n : String}
    (hread : Ddl.read? statement = some (.createTable n)) (hk : k.From schema) :
    (k.exec statement).From schema ∧
      (k.exec statement).tables n = (k.tables n).or (some statement) ∧
      ∀ n', n' ≠ n → (k.exec statement).view n' = k.view n' := by
  obtain ⟨hfrom, hview, hother⟩ := acts_createTable hread k hk
  exact ⟨hfrom, congrArg View.text hview, hother⟩

lemma acts_dropTable (n : String) :
    Acts schema n ["DROP TABLE IF EXISTS " ++ quote n] fun _ => ⟨none, ∅⟩ := by
  intro k hk
  have hexec : k.execAll ["DROP TABLE IF EXISTS " ++ quote n] =
      { tables := Function.update k.tables n none
        indexes := fun i => (k.indexes i).filter fun e => e.1 ≠ n } := by
    rw [execAll, List.foldl_cons, List.foldl_nil, exec, Ddl.read?_dropTable]
  rw [hexec]
  refine ⟨fun i owner howner => hk i owner (Option.eq_some_of_filter_eq_some howner), ?_,
    fun n' hn' => ?_⟩
  · ext e
    · simp [view]
    · simp [view, Option.filter_eq_some_iff]
  · ext e
    · simp [view, Function.update_of_ne hn']
    · simp [view, Option.filter_eq_some_iff, hn']

lemma read?_of_indexEntries (he : e ∈ t.indexEntries) :
    Ddl.read? e.2 = some (.createIndex e.1 t.name) := by
  obtain ⟨column, -, rfl⟩ := List.mem_map.1 he
  exact Ddl.read?_indexText _

lemma acts_createIndex (hschema : Table.NamesTell schema) (ht : t ∈ schema)
    (he : e ∈ t.indexEntries) :
    Acts schema t.name [e.2] fun v => { v with entries := insert e v.entries } := by
  intro k hk
  have hexec : k.execAll [e.2] = if (k.indexes e.1).isSome then k
      else ⟨k.tables, Function.update k.indexes e.1 (some (t.name, e.2))⟩ := by
    rw [execAll, List.foldl_cons, List.foldl_nil, exec, read?_of_indexEntries he]
  cases hi : k.indexes e.1 with
  | some owner =>
    -- the name is taken, but by the same index
    obtain rfl := hk.owner_eq hschema ht he hi
    rw [hexec, if_pos (by rw [hi]; rfl)]
    refine ⟨hk, ?_, fun _ _ => rfl⟩
    have hmem : e ∈ (k.view t.name).entries := hi
    dsimp only
    rw [Set.insert_eq_of_mem hmem]
  | none =>
    rw [hexec, if_neg (by rw [hi]; decide)]
    have hview : ∀ n x,
        x ∈ (view ⟨k.tables, Function.update k.indexes e.1 (some (t.name, e.2))⟩ n).entries ↔
          (n = t.name ∧ x = e) ∨ x ∈ (k.view n).entries := by
      intro n x
      change Function.update k.indexes e.1 (some (t.name, e.2)) x.1 = some (n, x.2) ↔
        _ ∨ k.indexes x.1 = some (n, x.2)
      by_cases hx : x.1 = e.1
      · rw [hx, Function.update_self, hi]
        simp [Prod.ext_iff, hx, eq_comm]
      · rw [Function.update_of_ne hx]
        simp [Prod.ext_iff, hx]
    refine ⟨fun i owner howner => ?_, ?_, fun n hn => ?_⟩
    · by_cases hie : i = e.1
      · subst hie
        dsimp only at howner
        rw [Function.update_self] at howner
        cases howner
        exact ⟨t, ht, rfl, he⟩
      · exact hk i owner ((Function.update_of_ne hie ..).symm.trans howner)
    · ext x
      · rfl
      · exact (hview _ x).trans (by simp)
    · ext x
      · rfl
      · exact (hview n x).trans (by simp [hn])

lemma acts_dropIndex (hschema : Table.NamesTell schema) (ht : t ∈ schema)
    (he : e ∈ t.indexEntries) : Acts schema t.name ["DROP INDEX IF EXISTS " ++ quote e.1]
      fun v => { v with entries := v.entries \ {e} } := by
  intro k hk
  have hexec : k.execAll ["DROP INDEX IF EXISTS " ++ quote e.1] =
      { k with indexes := Function.update k.indexes e.1 none } := by
    rw [execAll, List.foldl_cons, List.foldl_nil, exec, Ddl.read?_dropIndex]
  have hview : ∀ n x, x ∈ (view ⟨k.tables, Function.update k.indexes e.1 none⟩ n).entries ↔
      x ∈ (k.view n).entries ∧ x.1 ≠ e.1 := by
    intro n x
    change Function.update k.indexes e.1 none x.1 = some (n, x.2) ↔
      k.indexes x.1 = some (n, x.2) ∧ _
    by_cases hx : x.1 = e.1
    · rw [hx, Function.update_self]
      simp
    · rw [Function.update_of_ne hx]
      simp [hx]
  -- what goes by the name of the index is the index itself
  have hname : ∀ n x, x ∈ (k.view n).entries → x.1 = e.1 → n = t.name ∧ x = e := by
    intro n x hx hxe
    have howner : k.indexes e.1 = some (n, x.2) := hxe ▸ hx
    have hown := hk.owner_eq hschema ht he howner
    simp only [Prod.mk.injEq] at hown
    exact ⟨hown.1, Prod.ext hxe hown.2⟩
  rw [hexec]
  refine ⟨fun i owner howner => ?_, ?_, fun n hn => ?_⟩
  · by_cases hie : i = e.1
    · subst hie
      dsimp only at howner
      rw [Function.update_self] at howner
      cases howner
    · exact hk i owner ((Function.update_of_ne hie ..).symm.trans howner)
  · ext x
    · rfl
    · refine (hview _ x).trans (and_congr_right fun hx => not_congr ?_)
      exact ⟨fun hxe => (hname _ x hx hxe).2, fun hxe => congrArg Prod.fst hxe⟩
  · ext x
    · rfl
    · exact (hview n x).trans (and_iff_left_of_imp fun hx hxe => hn (hname n x hx hxe).1)

/-! ### Indexes of a table -/

lemma acts_createIndexes (hschema : Table.NamesTell schema) (ht : t ∈ schema)
    {entries : List (String × String)} (h : ∀ e ∈ entries, e ∈ t.indexEntries) :
    Acts schema t.name (entries.map Prod.snd)
      fun v => { v with entries := v.entries ∪ {e | e ∈ entries} } := by
  induction entries with
  | nil => exact Acts.nil.congr fun v => by simp
  | cons e entries ih =>
    obtain ⟨he, hrest⟩ := List.forall_mem_cons.1 h
    refine ((acts_createIndex hschema ht he).append (ih hrest)).congr fun v => ?_
    ext x
    · rfl
    · simp only [Function.comp_apply, Set.mem_union, Set.mem_insert_iff, Set.mem_ofPred_eq,
        List.mem_cons, or_assoc, or_left_comm]

lemma acts_dropIndexes (hschema : Table.NamesTell schema) (ht : t ∈ schema)
    {entries : List (String × String)} (h : ∀ e ∈ entries, e ∈ t.indexEntries) :
    Acts schema t.name (entries.map fun e => "DROP INDEX IF EXISTS " ++ quote e.1)
      fun v => { v with entries := v.entries \ {e | e ∈ entries} } := by
  induction entries with
  | nil => exact Acts.nil.congr fun v => by ext x <;> simp
  | cons e entries ih =>
    obtain ⟨he, hrest⟩ := List.forall_mem_cons.1 h
    refine ((acts_dropIndex hschema ht he).append (ih hrest)).congr fun v => ?_
    ext x
    · rfl
    · simp [and_assoc]

/-- **The statements of a table** create it if it is not there, and add its indexes. -/
theorem acts_statements (hschema : Table.NamesTell schema) (ht : t ∈ schema) (hb : t.IsBuilt) :
    Acts schema t.name t.statements fun v =>
      ⟨v.text.or (some t.createStatement), v.entries ∪ {e | e ∈ t.indexEntries}⟩ := by
  have hcreate : Ddl.read? t.createStatement = some (.createTable t.name) := by
    rw [hb.createStatement_eq]
    exact Ddl.read?_createText _ _
  have hindexes := acts_createIndexes hschema ht fun e (he : e ∈ t.indexEntries) => he
  rw [← hb.indexStatements_eq_map] at hindexes
  exact (acts_createTable hcreate).append hindexes

end Catalog

end PgSchema
