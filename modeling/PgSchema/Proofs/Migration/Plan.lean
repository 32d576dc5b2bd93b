import PgSchema.Proofs.Migration.Metadata
import PgSchema.Proofs.Migration.Parts
import PgSchema.Proofs.Text.Basic

/-!
What is planned for a table, by the schema that is told.

A table that is not in the schema is created; one with another text is dropped and created again, or
refused; and of one with the same text, the indexes that are not declared any more are dropped, and
the new ones created (`keptWork_eq`).
-/

namespace PgSchema

open Identifier (quote)

/-- The text that shows whose an index is occurs in the indexes of no other table. -/
def Table.OwnersTell (schema : List Table) : Prop :=
  ∀ t ∈ schema, ∀ u ∈ schema, t.name ≠ u.name →
    ∀ e ∈ u.indexEntries, Text.occurs (Migration.ownerText t) e.2 = false

namespace Migration

/-! ### Texts that are told of names -/

/-- Texts that are told of names. -/
def Told.ofTexts (l : Entries String) : Told := l.map fun e => (.text e.1, .text e.2)

lemma Told.get?_ofTexts (l : Entries String) (name : String) :
    (Told.ofTexts l).get? (.text name) = (l.get? name).map .text := by
  induction l with
  | nil => rfl
  | cons e l ih =>
    obtain ⟨k, v⟩ := e
    rw [ofTexts, get?] at ih ⊢
    rw [List.map_cons, Entries.get?, List.lookup_cons]
    by_cases hk : name = k
    · subst hk
      rw [List.find?_cons_of_pos (by simp [same_text]), beq_self_eq_true]
      rfl
    · rw [List.find?_cons_of_neg (by simpa [same_text] using Ne.symm hk), ih,
        beq_false_of_ne hk]
      rfl

lemma exists_map_of_perm {α β : Type} {f : α → β} {l : List α} {m : List β}
    (h : m.Perm (l.map f)) : ∃ l' : List α, l'.Perm l ∧ m = l'.map f := by
  induction l generalizing m with
  | nil => exact ⟨[], List.Perm.nil, h.eq_nil⟩
  | cons a l ih =>
    obtain ⟨s, t, rfl⟩ := List.append_of_mem (h.mem_iff.2 List.mem_cons_self)
    have hrest : (s ++ t).Perm (l.map f) :=
      (List.perm_cons (f a)).1 (List.perm_middle.symm.trans h)
    obtain ⟨l', hl', hst⟩ := ih hrest
    obtain ⟨l₁, l₂, rfl, rfl, rfl⟩ := List.map_eq_append_iff.1 hst.symm
    exact ⟨l₁ ++ a :: l₂, List.perm_middle.trans (hl'.cons a), by simp⟩

/-! ### Tables -/

section Told

variable {p : Persisted} {fingerprint : Json} {prev : List Table} {t u : Table}

lemma Persisted.Tells.get?_table (h : p.Tells fingerprint prev) (hprev : Table.Declarable prev)
    (hu : u ∈ prev) : p.tables.get? (.text u.name) = some (.text u.createStatement) := by
  have hperm : p.tables.Perm (Told.ofTexts (prev.map fun t => (t.name, t.createStatement))) := by
    rw [Told.ofTexts, List.map_map]
    exact h.tables
  obtain ⟨l, hl, htables⟩ := exists_map_of_perm hperm
  have hnodup : (l.map Prod.fst).Nodup := by
    refine (hl.map Prod.fst).nodup_iff.2 ?_
    rw [List.map_map]
    exact hprev.names
  have hmem : (u.name, u.createStatement) ∈ l := hl.mem_iff.2 (List.mem_map.2 ⟨u, hu, rfl⟩)
  have hget := Told.get?_ofTexts l u.name
  rw [(Entries.get?_eq_some_iff hnodup).2 hmem] at hget
  rw [htables]
  exact hget

lemma Persisted.Tells.get?_table_none (h : p.Tells fingerprint prev) {name : String}
    (hname : ∀ u ∈ prev, u.name ≠ name) : p.tables.get? (.text name) = none := by
  unfold Told.get?
  rw [Option.map_eq_none_iff, List.find?_eq_none]
  intro e he
  obtain ⟨u, hu, rfl⟩ := List.mem_map.1 (h.tables.mem_iff.1 he)
  simpa [same_text] using hname u hu

lemma tableWork_new (h : p.Tells fingerprint prev) (hname : ∀ u ∈ prev, u.name ≠ t.name)
    (hash : Json) (destructive : Bool) : tableWork hash destructive p t = .ok (createWork t) := by
  rw [tableWork, h.get?_table_none hname]
  rfl

lemma tableWork_told (h : p.Tells fingerprint prev) (hprev : Table.Declarable prev) (hu : u ∈ prev)
    (hname : u.name = t.name) (hash : Json) (destructive : Bool) :
    tableWork hash destructive p t =
      if u.createStatement = t.createStatement then (keptWork p t).mapError .fault
      else if destructive then .ok (recreateWork t) else .error (refusal hash p t) := by
  rw [tableWork, ← hname, h.get?_table hprev hu]
  simp [same_text]

/-! ### Indexes -/

lemma occurs_ownerText {e : String × String} (he : e ∈ t.indexEntries) :
    Text.occurs (ownerText t) e.2 = true := by
  obtain ⟨column, -, rfl⟩ := List.mem_map.1 he
  rw [Text.occurs_iff, Table.toList_indexText, ownerText, String.toList_append,
    String.toList_append]
  refine ⟨"CREATE INDEX IF NOT EXISTS ".toList ++
    (quote (Index.name Index.defaultStart t.name [column])).toList,
    (quote column).toList ++ ")".toList, ?_⟩
  simp only [List.append_assoc]

lemma filterM_eq_ok {α ε : Type} {f : α → Except ε Bool} {g : α → Bool} {l : List α}
    (h : ∀ a ∈ l, f a = .ok (g a)) : l.filterM f = .ok (l.filter g) := by
  have haux : ∀ acc, l.filterAuxM f acc = .ok ((l.filter g).reverse ++ acc) := by
    induction l with
    | nil => exact fun acc => rfl
    | cons a l ih =>
      obtain ⟨ha, hl⟩ := List.forall_mem_cons.1 h
      intro acc
      have hstep : (a :: l).filterAuxM f acc = l.filterAuxM f (cond (g a) (a :: acc) acc) := by
        rw [List.filterAuxM, ha]
        rfl
      rw [hstep, ih hl]
      cases hg : g a <;> simp [hg]
  rw [List.filterM, haux]
  simp

/-- Of the texts that are told of indexes, those that show that the index belongs to a table. -/
def ownedTexts (t : Table) (told : Entries String) : Entries String :=
  told.filter fun e => Text.occurs (ownerText t) e.2

lemma ownedIndexes_texts (t : Table) (told : Entries String) :
    ownedIndexes t (Told.ofTexts told) = .ok (Told.ofTexts (ownedTexts t told)) := by
  rw [ownedIndexes, Told.ofTexts, Told.ofTexts, ownedTexts, filterM_eq_ok
    (g := fun e => e.2.text?.any (Text.occurs (ownerText t)))]
  · rw [List.filter_map]
    rfl
  · intro e he
    obtain ⟨e', -, rfl⟩ := List.mem_map.1 he
    rfl

lemma nodup_ownedTexts {told : Entries String} (h : (told.map Prod.fst).Nodup) (t : Table) :
    ((ownedTexts t told).map Prod.fst).Nodup :=
  h.sublist (List.filter_sublist.map _)

/-- **The indexes that are known to belong to a table** are those that it had. -/
lemma ownedIndexes_eq {schema : List Table} (h : p.Tells fingerprint prev)
    (hprev : Table.Declarable prev) (hschema : Table.OwnersTell schema)
    (hsub : ∀ u ∈ prev, u ∈ schema) (ht : t ∈ schema) (hu : u ∈ prev) (hname : u.name = t.name) :
    ∃ own : Entries String, ownedIndexes t p.indexes = .ok (Told.ofTexts own) ∧
      (own.map Prod.fst).Nodup ∧ ∀ e, e ∈ own ↔ e ∈ u.indexEntries := by
  obtain ⟨l, hl, hindexes⟩ : ∃ l : List (String × String),
      l.Perm (prev.flatMap Table.indexEntries) ∧ p.indexes = Told.ofTexts l :=
    exists_map_of_perm h.indexes
  have hnodup : (l.map Prod.fst).Nodup := (hl.map Prod.fst).nodup_iff.2 hprev.indexes
  refine ⟨ownedTexts t l, ?_, nodup_ownedTexts hnodup t, ?_⟩
  · rw [hindexes, ownedIndexes_texts]
  · intro e
    rw [ownedTexts, List.mem_filter, hl.mem_iff, List.mem_flatMap]
    constructor
    · rintro ⟨⟨v, hv, he⟩, hocc⟩
      by_cases hvt : t.name = v.name
      · -- tables of one name are one table
        have huv : v = u := List.inj_on_of_nodup_map hprev.names hv hu (by rw [← hvt, hname])
        rwa [← huv]
      · rw [hschema t ht v (hsub v hv) hvt e he] at hocc
        cases hocc
    · intro he
      have howner : ownerText t = ownerText u := by rw [ownerText, ownerText, hname]
      rw [howner]
      exact ⟨⟨u, hu, he⟩, occurs_ownerText he⟩

lemma dropStatements_texts (names : List String) : dropStatements (names.map .text) =
    (names.map fun name => "DROP INDEX IF EXISTS " ++ quote name, none) := by
  induction names with
  | nil => rfl
  | cons name names ih =>
    rw [List.map_cons, dropStatements, ih]
    rfl

lemma droppedNames_texts {own declared : Entries String} (h : (declared.map Prod.fst).Nodup) :
    droppedNames (Told.ofTexts own) declared =
      ((own.filter fun e => e ∉ declared).map Prod.fst).map .text := by
  rw [droppedNames, Told.ofTexts, List.filter_map, List.map_map, List.map_map]
  congr 1
  refine List.filter_congr fun e _ => ?_
  have hget := @Entries.get?_eq_some_iff _ _ e.1 e.2 h
  simp only [Function.comp_apply, declaredText?, Json.text?, Option.bind_some]
  cases hdecl : declared.get? e.1 with
  | none =>
    have hnot : e ∉ declared := fun hm => by rw [hget.2 hm] at hdecl; cases hdecl
    simp [hnot]
  | some text =>
    rw [hdecl] at hget
    simp only [same_text]
    by_cases hm : e ∈ declared
    · simp [Option.some.inj (hget.2 hm), hm]
    · have hne : e.2 ≠ text := fun he => hm (hget.1 (congrArg some he.symm))
      simp [hne, hm]

lemma createdNames_texts {own declared : Entries String} (h : (own.map Prod.fst).Nodup) :
    createdNames (Told.ofTexts own) declared = (declared.filter fun e => e ∉ own).map Prod.fst := by
  rw [createdNames, Entries.keys]
  congr 1
  refine List.filter_congr fun e _ => ?_
  have hget := @Entries.get?_eq_some_iff _ _ e.1 e.2 h
  simp only [Told.get?_ofTexts]
  cases hown : own.get? e.1 with
  | none =>
    have hnot : e ∉ own := fun hm => by rw [hget.2 hm] at hown; cases hown
    simp [hnot, Json.same]
    rfl
  | some text =>
    rw [hown] at hget
    simp only [Option.map_some, Option.getD_some, same_text]
    by_cases hm : e ∈ own
    · simp [Option.some.inj (hget.2 hm), hm]
    · have hne : text ≠ e.2 := fun he => hm (hget.1 (congrArg some he))
      simp [hne, hm]

lemma filterMap_get? {l m : Entries String} (h : (l.map Prod.fst).Nodup) (hm : ∀ e ∈ m, e ∈ l) :
    (m.map Prod.fst).filterMap l.get? = m.map Prod.snd := by
  rw [List.filterMap_map, ← List.filterMap_eq_map]
  refine List.filterMap_congr fun e he => ?_
  exact (Entries.get?_eq_some_iff h).2 (hm e he)

lemma indexWork_texts {own declared : Entries String} (ho : (own.map Prod.fst).Nodup)
    (hd : (declared.map Prod.fst).Nodup) (t : Table) :
    (indexWork t (Told.ofTexts own) declared).stop = none ∧
      (indexWork t (Told.ofTexts own) declared).statements =
        ((own.filter fun e => e ∉ declared).map fun e => "DROP INDEX IF EXISTS " ++ quote e.1) ++
          (declared.filter fun e => e ∉ own).map Prod.snd := by
  have hcreated : ((declared.filter fun e => e ∉ own).map Prod.fst).filterMap declared.get? =
      (declared.filter fun e => e ∉ own).map Prod.snd :=
    filterMap_get? hd fun e he => List.mem_of_mem_filter he
  unfold indexWork
  rw [droppedNames_texts hd, createdNames_texts ho]
  dsimp only
  split
  · rename_i hnone
    simp only [List.isEmpty_iff, List.map_eq_nil_iff] at hnone
    rw [hnone.1, hnone.2]
    exact ⟨rfl, rfl⟩
  · rw [dropStatements_texts]
    dsimp only
    rw [hcreated, List.map_map]
    exact ⟨rfl, rfl⟩

/-- The names of the declared indexes are read from their statements. -/
lemma declaredIndexes_of_names {declared : Entries String}
    (hstatements : t.indexStatements = declared.map Prod.snd)
    (hnames : ∀ e ∈ declared, IndexStatement.name e.2 = .ok e.1) :
    declaredIndexes t = .ok (Entries.collapse declared) := by
  have hread : (declared.map Prod.snd).mapM
      (fun s => (IndexStatement.name s).map (·, s)) = Except.ok declared := by
    rw [List.mapM_map, mapM_eq_ok (g := id), List.map_id]
    intro e he
    simp only [Function.comp_apply, hnames e he]
    rfl
  rw [declaredIndexes, hstatements, hread]
  rfl

lemma declaredIndexes_built (hb : t.IsBuilt) :
    declaredIndexes t = .ok (Entries.collapse t.indexEntries) :=
  declaredIndexes_of_names hb.indexStatements_eq_map fun _ => Table.name_of_indexEntries

lemma declaredIndexes_eq (hb : t.IsBuilt) (h : (t.indexEntries.map Prod.fst).Nodup) :
    declaredIndexes t = .ok t.indexEntries := by
  rw [declaredIndexes_built hb, Entries.collapse_of_nodup h]

/-- The work on the indexes of a table, where texts are told. -/
lemma keptWork_of_texts {told declared : Entries String}
    (hindexes : p.indexes = Told.ofTexts told) (hdeclared : declaredIndexes t = .ok declared) :
    keptWork p t = .ok (indexWork t (Told.ofTexts (ownedTexts t told)) declared) := by
  rw [keptWork, hdeclared, hindexes, ownedIndexes_texts]
  rfl

/-- **The work on a table that is told with the declared text**: the indexes that it had and that
are not declared are dropped, and those that are declared and that it had not are created. -/
theorem keptWork_eq {schema : List Table} (h : p.Tells fingerprint prev)
    (hprev : Table.Declarable prev) (hschema : Table.OwnersTell schema)
    (hsub : ∀ u ∈ prev, u ∈ schema) (ht : t ∈ schema) (hb : t.IsBuilt)
    (hnames : (t.indexEntries.map Prod.fst).Nodup) (hu : u ∈ prev) (hname : u.name = t.name) :
    ∃ (w : Work) (own : Entries String), keptWork p t = .ok w ∧ w.stop = none ∧
      (∀ e, e ∈ own ↔ e ∈ u.indexEntries) ∧
      w.statements = ((own.filter fun e => e ∉ t.indexEntries).map fun e =>
        "DROP INDEX IF EXISTS " ++ quote e.1) ++
          (t.indexEntries.filter fun e => e ∉ own).map Prod.snd := by
  obtain ⟨own, hown, hnodup, hmem⟩ := ownedIndexes_eq h hprev hschema hsub ht hu hname
  obtain ⟨hstop, hstatements⟩ := indexWork_texts hnodup hnames t
  refine ⟨_, own, ?_, hstop, hmem, hstatements⟩
  rw [keptWork, declaredIndexes_eq hb hnames, hown]
  rfl

/-! ### Plans -/

lemma Persisted.Tells.isEmpty_eq_false (h : p.Tells fingerprint prev) (hu : u ∈ prev) :
    p.isEmpty = false := by
  have hne : p.tables ≠ [] := fun hnil => by
    have hperm := h.tables
    rw [hnil] at hperm
    exact List.ne_nil_of_mem hu (List.map_eq_nil_iff.1 hperm.nil_eq.symm)
  simp [Persisted.isEmpty, hne]

/-- A table that is not told is created. -/
lemma plan_new (h : p.Tells fingerprint prev) (hnew : ∀ u ∈ prev, u.name ≠ t.name) (m : Migrator) :
    ∃ w, m.plan p t = .ok w ∧ w.stop = none ∧ w.statements = t.statements := by
  unfold Migrator.plan
  cases p.isEmpty with
  | true => exact ⟨installWork t, rfl, rfl, rfl⟩
  | false => exact ⟨createWork t, tableWork_new h hnew _ _, rfl, rfl⟩

lemma plan_told (h : p.Tells fingerprint prev) (hprev : Table.Declarable prev) (hu : u ∈ prev)
    (hname : u.name = t.name) (m : Migrator) :
    m.plan p t =
      if u.createStatement = t.createStatement then (keptWork p t).mapError .fault
      else if m.destructive.isTruthy then .ok (recreateWork t)
      else .error (refusal m.hash p t) := by
  rw [Migrator.plan, h.isEmpty_eq_false hu, if_neg (by decide)]
  exact tableWork_told h hprev hu hname m.hash m.destructive.isTruthy

end Told

end Migration

end PgSchema
