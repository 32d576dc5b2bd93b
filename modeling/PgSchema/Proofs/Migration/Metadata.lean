import Mathlib.Data.List.Flatten
import Mathlib.Data.List.Induction
import Mathlib.Data.List.Nodup
import Mathlib.Data.List.Perm.Basic
import Mathlib.Data.Prod.Basic
import PgSchema.Migration.Migrator
import PgSchema.Proofs.Schema.Statement

/-!
Metadata that are written and read back.

A schema is written as rows whose kinds and names are texts, no two of them under the same kind and
name.  The store returns the rows in an order of its own; in any order, they tell the schema and
nothing else (`told_of_declared`).
-/

namespace PgSchema

/-- What the metadata of a store tell. -/
def Store.told (s : Store) : Except Fault Migration.Persisted := do
  Migration.Persisted.ofRows (← s.sortedMetadata)

lemma Store.told_congr {s t : Store} (h : s.metadata = t.metadata) : s.told = t.told := by
  rw [told, told, sortedMetadata, sortedMetadata, h]

namespace Migration

/-! ### Rows with a kind and a name -/

/-- The kind, the name and the content of a row. -/
abbrev Cells := String × String × Json

namespace Cells

/-- The row of cells, as a value. -/
def toJson (c : Cells) : Json := Row.toJson ⟨.text c.1, .text c.2.1, c.2.2⟩

/-- The kind and the name. -/
def key (c : Cells) : String × String := (c.1, c.2.1)

/-- The name and the content, in a row of a kind. -/
def told? (kind : String) (c : Cells) : Option (Json × Json) :=
  if c.1 = kind then some (.text c.2.1, c.2.2) else none

/-- The content, in the row of the fingerprint. -/
def hash? (c : Cells) : Option Json := if c.key = ("hash", "schema") then some c.2.2 else none

lemma rowKey_toJson (c : Cells) : Store.rowKey c.toJson = [.text c.1, .text c.2.1] := rfl

end Cells

/-- What rows tell that have a name each. -/
def Persisted.ofCells (cells : List Cells) : Persisted where
  hash := (cells.filterMap Cells.hash?).getLast?.getD .null
  tables := cells.filterMap (Cells.told? "table")
  indexes := cells.filterMap (Cells.told? "index")

/-! ### Reading -/

lemma Told.put_of_fresh {told : Told} {name content : Json}
    (h : ∀ e ∈ told, e.1.same name = false) :
    told.put name content = told ++ [(name, content)] := by
  induction told with
  | nil => rfl
  | cons e told ih =>
    obtain ⟨hname, hrest⟩ := List.forall_mem_cons.1 h
    rw [Told.put, if_neg (by simpa using hname), ih hrest, List.cons_append]

lemma same_text (s t : String) : (Json.text s).same (.text t) = (s == t) := by
  simp [Json.same]

lemma told?_fresh {cells : List Cells} {c : Cells} (h : c.key ∉ cells.map Cells.key) (kind : String)
    (hkind : c.1 = kind) :
    ∀ e ∈ cells.filterMap (Cells.told? kind), e.1.same (.text c.2.1) = false := by
  intro e he
  obtain ⟨c', hc', hsome⟩ := List.mem_filterMap.1 he
  unfold Cells.told? at hsome
  split at hsome
  · rename_i hk
    cases hsome
    rw [same_text]
    by_contra hsame
    have hname : c'.2.1 = c.2.1 := by simpa using hsame
    exact h (List.mem_map.2 ⟨c', hc', Prod.ext (hk.trans hkind.symm) hname⟩)
  · cases hsome

lemma add_text (p : Persisted) (kind name : String) (content : Json) :
    p.add ⟨.text kind, .text name, content⟩ = .ok (
      if (kind, name) = ("hash", "schema") then { p with hash := content }
      else if kind = "table" then { p with tables := p.tables.put (.text name) content }
      else if kind = "index" then { p with indexes := p.indexes.put (.text name) content }
      else p) := by
  unfold Persisted.add
  split
  · rename_i hk hn
    cases hk
    cases hn
    rfl
  · rename_i hk
    cases hk
    simp only [Prod.mk.injEq, String.reduceEq, false_and, if_false, if_true]
    rfl
  · rename_i hk
    cases hk
    simp only [Prod.mk.injEq, String.reduceEq, false_and, if_false, if_true]
    rfl
  · rename_i htable hindex hhash
    have h1 : (kind, name) ≠ ("hash", "schema") := by
      rintro ⟨⟩
      exact hhash rfl rfl
    have h2 : kind ≠ "table" := by
      rintro rfl
      exact htable rfl
    have h3 : kind ≠ "index" := by
      rintro rfl
      exact hindex rfl
    rw [if_neg h1, if_neg h2, if_neg h3]

lemma add_ofCells {cells : List Cells} {c : Cells} (h : c.key ∉ cells.map Cells.key) :
    (Persisted.ofCells cells).add ⟨.text c.1, .text c.2.1, c.2.2⟩ =
      .ok (Persisted.ofCells (cells ++ [c])) := by
  obtain ⟨kind, name, content⟩ := c
  have htable := told?_fresh h "table"
  have hindex := told?_fresh h "index"
  rw [add_text]
  dsimp only at htable hindex ⊢
  congr 1
  split
  · rename_i hk
    cases hk
    simp [Persisted.ofCells, Cells.hash?, Cells.told?, Cells.key]
  · rename_i hk
    have hhash : Cells.hash? (kind, name, content) = none := if_neg hk
    split
    · rename_i hk
      subst hk
      rw [Persisted.ofCells, Told.put_of_fresh (htable rfl)]
      simp [Persisted.ofCells, hhash, Cells.told?]
    · split
      · rename_i hk
        subst hk
        rw [Persisted.ofCells, Told.put_of_fresh (hindex rfl)]
        simp [Persisted.ofCells, hhash, Cells.told?]
      · rename_i hk hk'
        simp [Persisted.ofCells, hhash, Cells.told?, hk, hk']

/-- **Rows that are kept apart by kind and name** tell what stands in them. -/
theorem ofRows_cells {cells : List Cells} (h : (cells.map Cells.key).Nodup) :
    Persisted.ofRows (cells.map Cells.toJson) = .ok (Persisted.ofCells cells) := by
  induction cells using List.reverseRecOn with
  | nil => rfl
  | append_singleton cells c ih =>
    rw [List.map_append, List.nodup_append] at h
    have hfresh : c.key ∉ cells.map Cells.key := fun hc => h.2.2 _ hc _ (by simp) rfl
    have hread : Persisted.ofRows (cells.map Cells.toJson) = .ok (Persisted.ofCells cells) := ih h.1
    rw [Persisted.ofRows] at hread ⊢
    rw [List.map_append, List.foldlM_append, hread]
    exact (bind_pure _).trans (add_ofCells hfresh)

/-! ### Order -/

lemma keyPrecedes_texts (a b c d : String) :
    ∃ later, Store.keyPrecedes [.text a, .text b] [.text c, .text d] = .ok later := by
  simp only [Store.keyPrecedes, Json.precedes]
  split
  · split
    · exact ⟨_, rfl⟩
    · exact ⟨_, rfl⟩
  · exact ⟨_, rfl⟩

lemma checkOrder_cells (cells : List Cells) :
    Store.checkOrder (cells.map Cells.toJson) = .ok () := by
  induction cells with
  | nil => rfl
  | cons c cells ih =>
    cases cells with
    | nil => rfl
    | cons c' cells =>
      obtain ⟨later, hlater⟩ := keyPrecedes_texts c'.1 c'.2.1 c.1 c.2.1
      rw [List.map_cons, List.map_cons, Store.checkOrder, Cells.rowKey_toJson, Cells.rowKey_toJson,
        hlater]
      exact ih

lemma sortedMetadata_cells {s : Store} {cells : List Cells}
    (h : s.metadata = cells.map Cells.toJson) :
    ∃ cells' : List Cells, cells'.Perm cells ∧
      s.sortedMetadata = .ok (cells'.map Cells.toJson) := by
  refine ⟨cells.mergeSort fun a b => Store.rowLe a.toJson b.toJson, List.mergeSort_perm .., ?_⟩
  have hmap : (cells.mergeSort fun a b => Store.rowLe a.toJson b.toJson).map Cells.toJson =
      (cells.map Cells.toJson).mergeSort Store.rowLe := List.map_mergeSort fun _ _ _ _ => rfl
  rw [Store.sortedMetadata, h, checkOrder_cells, hmap]
  rfl

/-! ### Schemas -/

/-- The cells of a schema. -/
def declaredCells (hash : Json) (tables : List Table) : List Cells :=
  ("hash", "schema", hash) :: tables.flatMap fun t =>
    ("table", t.name, .text t.createStatement) ::
      t.indexEntries.map fun e => ("index", e.1, .text e.2)

lemma mapM_eq_ok {α β ε : Type} {f : α → Except ε β} {g : α → β} {l : List α}
    (h : ∀ a ∈ l, f a = .ok (g a)) : l.mapM f = .ok (l.map g) := by
  induction l with
  | nil => rfl
  | cons a l ih =>
    obtain ⟨ha, hl⟩ := List.forall_mem_cons.1 h
    rw [List.mapM_cons, ha, ih hl]
    rfl

lemma exists_mapM_eq_ok {α β ε : Type} {f : α → Except ε β} {l : List α} :
    (∃ bs, l.mapM f = .ok bs) ↔ ∀ a ∈ l, ∃ b, f a = .ok b := by
  induction l with
  | nil => exact iff_of_true ⟨[], rfl⟩ nofun
  | cons a l ih =>
    rw [List.mapM_cons, List.forall_mem_cons, ← ih]
    rcases f a with e | b
    · exact iff_of_false nofun nofun
    · rcases l.mapM f with e | bs
      · exact iff_of_false nofun nofun
      · exact iff_of_true ⟨b :: bs, rfl⟩ ⟨⟨b, rfl⟩, ⟨bs, rfl⟩⟩

/-- The rows of a table. -/
def declaredRows (t : Table) : List Row :=
  Row.ofTable t.name t.createStatement :: t.indexEntries.map fun e => Row.ofIndex e.1 e.2

lemma tableRows_eq {t : Table} (h : t.IsBuilt) : tableRows t = .ok (declaredRows t) := by
  have hnames : (t.indexEntries.map Prod.snd).mapM
      (fun s => (IndexStatement.name s).map fun name => Row.ofIndex name s) =
        Except.ok (t.indexEntries.map fun e => Row.ofIndex e.1 e.2) := by
    rw [Table.indexEntries, List.map_map, List.map_map, List.mapM_map]
    refine mapM_eq_ok fun column _ => ?_
    simp only [Function.comp_apply, Table.indexText, IndexStatement.name_create]
    rfl
  rw [tableRows, h.indexStatements_eq_map, hnames]
  rfl

/-- **The rows of a schema are written** without fail. -/
lemma metadataRows_eq {tables : List Table} (h : ∀ t ∈ tables, t.IsBuilt) (hash : Json) :
    metadataRows hash tables = .ok (Row.ofHash hash :: tables.flatMap declaredRows) := by
  rw [metadataRows, mapM_eq_ok fun t ht => tableRows_eq (h t ht), List.flatMap_def]
  rfl

lemma exists_map_eq_ok {α β ε : Type} (x : Except ε α) (f : α → β) :
    (∃ b, x.map f = .ok b) ↔ ∃ a, x = .ok a := by
  rcases x with e | a
  · exact iff_of_false nofun nofun
  · exact iff_of_true ⟨f a, rfl⟩ ⟨a, rfl⟩

/-- Rows of any tables can be put together as soon as all the indexes have names. -/
lemma exists_metadataRows {hash : Json} {tables : List Table} :
    (∃ rows, metadataRows hash tables = .ok rows) ↔
      ∀ t ∈ tables, ∀ s ∈ t.indexStatements, ∃ name, IndexStatement.name s = .ok name := by
  rw [metadataRows, exists_map_eq_ok, exists_mapM_eq_ok]
  refine forall₂_congr fun t _ => ?_
  rw [tableRows, exists_map_eq_ok, exists_mapM_eq_ok]
  exact forall₂_congr fun s _ => exists_map_eq_ok _ _

lemma toJson_declaredRows (hash : Json) (tables : List Table) :
    (Row.ofHash hash :: tables.flatMap declaredRows).map Row.toJson =
      (declaredCells hash tables).map Cells.toJson := by
  rw [declaredCells, List.map_cons, List.map_cons, List.map_flatMap, List.map_flatMap]
  congr 1
  refine List.flatMap_congr fun t _ => ?_
  rw [declaredRows, List.map_cons, List.map_cons, List.map_map, List.map_map]
  rfl

lemma declaredCells_perm (hash : Json) (tables : List Table) :
    (declaredCells hash tables).Perm (("hash", "schema", hash) ::
      (tables.map (fun t => ("table", t.name, Json.text t.createStatement)) ++
        (tables.flatMap Table.indexEntries).map fun e => ("index", e.1, Json.text e.2))) := by
  rw [declaredCells, List.map_flatMap]
  exact (List.map_append_flatMap_perm _ _ _).symm.cons _

lemma nodup_keys {tables : List Table} (h : Table.Declarable tables) (hash : Json) :
    ((declaredCells hash tables).map Cells.key).Nodup := by
  refine ((declaredCells_perm hash tables).map Cells.key).nodup_iff.2 ?_
  rw [List.map_cons, List.map_append, List.map_map, List.map_map]
  have htables : (tables.map
      (Cells.key ∘ fun t => ("table", t.name, Json.text t.createStatement))).Nodup := by
    have e : tables.map (Cells.key ∘ fun t => ("table", t.name, Json.text t.createStatement)) =
        (tables.map Table.name).map (Prod.mk "table") := by
      rw [List.map_map]
      rfl
    rw [e]
    exact List.Nodup.map (Prod.mk_right_injective _) h.names
  have hindexes : ((tables.flatMap Table.indexEntries).map
      (Cells.key ∘ fun e => ("index", e.1, Json.text e.2))).Nodup := by
    have e : (tables.flatMap Table.indexEntries).map
        (Cells.key ∘ fun e => ("index", e.1, Json.text e.2)) =
          ((tables.flatMap Table.indexEntries).map Prod.fst).map (Prod.mk "index") := by
      rw [List.map_map]
      rfl
    rw [e]
    exact List.Nodup.map (Prod.mk_right_injective _) h.indexes
  refine List.nodup_cons.2 ⟨?_, List.nodup_append.2 ⟨htables, hindexes, ?_⟩⟩
  · simp [Cells.key]
  · -- rows of tables and rows of indexes have different kinds
    intro a ha b hb
    obtain ⟨t, -, rfl⟩ := List.mem_map.1 ha
    obtain ⟨e, -, rfl⟩ := List.mem_map.1 hb
    simp [Cells.key]

/-- **What is told is a schema** and nothing else: the fingerprint, and the text of each table and
index under its name. -/
structure Persisted.Tells (p : Persisted) (fingerprint : Json) (schema : List Table) : Prop where
  hash : p.hash = fingerprint
  tables : p.tables.Perm (schema.map fun t => (.text t.name, .text t.createStatement))
  indexes : p.indexes.Perm
    ((schema.flatMap Table.indexEntries).map fun e => (.text e.1, .text e.2))

lemma tells_ofCells {hash : Json} {tables : List Table} {cells : List Cells}
    (h : cells.Perm (declaredCells hash tables)) : (Persisted.ofCells cells).Tells hash tables := by
  have hp := h.trans (declaredCells_perm hash tables)
  refine ⟨?_, ?_, ?_⟩
  · have hh : (cells.filterMap Cells.hash?).Perm [hash] := by
      simpa [Cells.hash?, Cells.key, List.filterMap_map, Function.comp_def] using
        hp.filterMap Cells.hash?
    rw [Persisted.ofCells, List.perm_singleton.1 hh]
    rfl
  · change (cells.filterMap (Cells.told? "table")).Perm _
    simpa [Cells.told?, List.filterMap_map, Function.comp_def] using
      hp.filterMap (Cells.told? "table")
  · change (cells.filterMap (Cells.told? "index")).Perm _
    simpa [Cells.told?, List.filterMap_map, Function.comp_def] using
      hp.filterMap (Cells.told? "index")

/-- **A schema that was written is told again**, in whatever order the rows are returned. -/
theorem told_of_declared {s : Store} {hash : Json} {tables : List Table}
    (h : Table.Declarable tables)
    (hs : s.metadata = (declaredCells hash tables).map Cells.toJson) :
    ∃ p, s.told = .ok p ∧ p.Tells hash tables := by
  obtain ⟨cells, hperm, hsorted⟩ := sortedMetadata_cells hs
  refine ⟨Persisted.ofCells cells, ?_, tells_ofCells hperm⟩
  rw [Store.told, hsorted]
  exact ofRows_cells ((hperm.map Cells.key).nodup_iff.2 (nodup_keys h hash))

end Migration

end PgSchema
