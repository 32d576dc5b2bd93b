import PgSchema.Proofs.Entries
import PgSchema.Proofs.Migration.Atomicity
import PgSchema.Proofs.Migration.Plan

/-!
Tables that a migration drops.

No statement drops a table but the one that a recreated table begins with, and a table is recreated
only if that is allowed (`spares_of_plan`).  Where all that is told are texts, the work on a
table can always be planned, unless a text is told of the table that is not the declared one and
dropping it is not allowed (`plan_of_textual`).
-/

namespace PgSchema

open Identifier (quote)
open Store (Event)

/-- A statement that drops a table. -/
def Store.Event.drops (e : Event) : Bool :=
  e.text?.any fun text => "DROP TABLE".toList.isPrefixOf (text.toList.dropWhile Text.isBlank)

/-- The statement that drops a table, as an event. -/
def Table.dropEvent (t : Table) : Event :=
  .execute ("DROP TABLE IF EXISTS " ++ quote t.name) .null

namespace Store.Event

/-- A statement with other words at its front drops no table. -/
lemma drops_of_front {e : Event} {text front : String} {rest : List Char} (he : e.text? = some text)
    (ht : text.toList = front.toList ++ rest) (hf : ∀ rest, "DROP TABLE".toList.isPrefixOf
      ((front.toList ++ rest).dropWhile Text.isBlank) = false) : e.drops = false := by
  rw [drops, he, Option.any_some, ht]
  exact hf rest

lemma drops_createText (name : String) (columns : List Column) (params : Json) :
    (execute (Table.createText name columns) params).drops = false :=
  drops_of_front rfl (Table.toList_createText name columns) fun _ => rfl

lemma drops_indexText (p : String × String) (params : Json) :
    (execute (Table.indexText p) params).drops = false :=
  drops_of_front rfl (Table.toList_indexText p) fun _ => rfl

lemma drops_append {front : String} (rest : String) (params : Json)
    (hf : ∀ rest, "DROP TABLE".toList.isPrefixOf
      ((front.toList ++ rest).dropWhile Text.isBlank) = false) :
    (execute (front ++ rest) params).drops = false :=
  drops_of_front rfl String.toList_append hf

lemma drops_dropEvent (t : Table) : t.dropEvent.drops = true := by
  have h : ("DROP TABLE IF EXISTS " ++ quote t.name).toList =
      "DROP TABLE IF EXISTS ".toList ++ (quote t.name).toList := String.toList_append
  rw [Table.dropEvent, drops, text?, Option.any_some, h]
  rfl

end Store.Event

/-- The statements of a built table drop no table. -/
lemma Table.IsBuilt.drops_statements {t : Table} (h : t.IsBuilt) {s : String}
    (hs : s ∈ t.statements) : (Event.execute s .null).drops = false := by
  rcases List.mem_cons.1 hs with rfl | hs
  · rw [h.createStatement_eq]
    exact Event.drops_createText _ _ _
  · rw [h.indexStatements_eq_map] at hs
    obtain ⟨e, he, rfl⟩ := List.mem_map.1 hs
    obtain ⟨column, -, rfl⟩ := List.mem_map.1 he
    exact Event.drops_indexText _ _

namespace Migration

/-! ### Work that drops no table -/

/-- Work that drops no table. -/
def Work.Spares (w : Work) : Prop := ∀ e ∈ w.events, e.drops = false

lemma spares_of_statements {w : Work}
    (h : ∀ s ∈ w.statements, (Event.execute s .null).drops = false) : w.Spares := by
  intro e he
  obtain ⟨s, hs, rfl⟩ := List.mem_map.1 he
  exact h s hs

variable {t : Table} {p : Persisted} {w : Work}

lemma exists_of_dropStatements {names : List Json} {s : String}
    (h : s ∈ (dropStatements names).1) : ∃ name, s = "DROP INDEX IF EXISTS " ++ quote name := by
  induction names with
  | nil => simp [dropStatements] at h
  | cons name names ih =>
    cases name with
    | text name =>
      rcases List.mem_cons.1 h with rfl | h
      · exact ⟨name, rfl⟩
      · exact ih h
    | _ => simp [dropStatements] at h

lemma spares_indexWork (hb : t.IsBuilt) (owned : Told) :
    (indexWork t owned (Entries.collapse t.indexEntries)).Spares := by
  refine spares_of_statements fun s hs => ?_
  unfold indexWork at hs
  dsimp only at hs
  split at hs
  · simp at hs
  · rcases List.mem_append.1 hs with hs | hs
    · obtain ⟨name, rfl⟩ := exists_of_dropStatements hs
      exact Event.drops_append _ _ fun _ => rfl
    · split at hs
      · simp at hs
      · obtain ⟨name, -, hname⟩ := List.mem_filterMap.1 hs
        have he := Entries.mem_of_collapse (Entries.mem_of_get? hname)
        refine hb.drops_statements (List.mem_cons_of_mem _ ?_)
        rw [hb.indexStatements_eq_map]
        exact List.mem_map.2 ⟨_, he, rfl⟩

lemma spares_keptWork (hb : t.IsBuilt) (h : keptWork p t = .ok w) : w.Spares := by
  rw [keptWork, declaredIndexes_built hb] at h
  rcases howned : ownedIndexes t p.indexes with fault | owned
  · rw [howned] at h
    cases h
  · rw [howned] at h
    cases h
    exact spares_indexWork hb owned

lemma spares_createWork (hb : t.IsBuilt) : (createWork t).Spares :=
  spares_of_statements fun _ hs => hb.drops_statements hs

lemma spares_installWork (hb : t.IsBuilt) : (installWork t).Spares :=
  spares_of_statements fun _ hs => hb.drops_statements hs

/-- **No table is dropped without leave**, whatever is told. -/
lemma spares_of_plan {m : Migrator} (hd : m.destructive.isTruthy = false) (hb : t.IsBuilt)
    (h : m.plan p t = .ok w) : w.Spares := by
  unfold Migrator.plan tableWork at h
  rw [hd] at h
  split at h
  · cases h
    exact spares_installWork hb
  · split at h
    · cases h
      exact spares_createWork hb
    · split at h
      · rcases hkept : keptWork p t with fault | w'
        · rw [hkept] at h
          cases h
        · rw [hkept] at h
          cases h
          exact spares_keptWork hb hkept
      · cases h

/-! ### What is told of a table -/

/-- **A text is told of a table that is not the declared one.** -/
def Persisted.differs (p : Persisted) (t : Table) : Bool :=
  ((p.tables.get? (.text t.name)).bind Json.text?).any (· != t.createStatement)

lemma Told.Textual.get? {told : Told} (h : told.Textual) {name content : Json}
    (hget : told.get? name = some content) : ∃ text, content = .text text := by
  obtain ⟨e, he, rfl⟩ := Option.map_eq_some_iff.1 hget
  obtain ⟨_, text, rfl⟩ := h e (List.mem_of_find?_eq_some he)
  exact ⟨text, rfl⟩

lemma ownedIndexes_of_textual {told : Told} (h : told.Textual) (t : Table) :
    ∃ owned, ownedIndexes t told = .ok owned ∧ owned.Textual := by
  refine ⟨told.filter fun e => e.2.text?.any (Text.occurs (ownerText t)), ?_,
    fun e he => h e (List.mem_of_mem_filter he)⟩
  refine filterM_eq_ok fun e he => ?_
  obtain ⟨name, content, rfl⟩ := h e he
  rfl

lemma stop_of_dropStatements {names : List Json} (h : ∀ n ∈ names, ∃ name, n = .text name) :
    (dropStatements names).2 = none := by
  induction names with
  | nil => rfl
  | cons n names ih =>
    obtain ⟨⟨name, rfl⟩, hrest⟩ := List.forall_mem_cons.1 h
    exact ih hrest

/-- The work on the indexes of a table goes through. -/
lemma stop_of_indexWork {owned : Told} (h : owned.Textual) (t : Table)
    (declared : Entries String) : (indexWork t owned declared).stop = none := by
  have hnames : ∀ n ∈ droppedNames owned declared, ∃ name, n = .text name := by
    intro n hn
    obtain ⟨e, he, rfl⟩ := List.mem_map.1 hn
    obtain ⟨name, content, rfl⟩ := h e (List.mem_of_mem_filter he)
    exact ⟨name, rfl⟩
  unfold indexWork
  dsimp only
  split
  · rfl
  · exact stop_of_dropStatements hnames

lemma keptWork_of_textual (hb : t.IsBuilt) (hp : p.Textual) :
    ∃ w, keptWork p t = .ok w ∧ w.stop = none := by
  obtain ⟨owned, howned, htextual⟩ := ownedIndexes_of_textual hp.indexes t
  refine ⟨_, ?_, stop_of_indexWork htextual t (Entries.collapse t.indexEntries)⟩
  rw [keptWork, declaredIndexes_built hb, howned]
  rfl

/-- **What is planned for a table** if all that is told are texts.  Work that goes through and drops
no table, unless another text is told of the table: then the table is dropped and created again, or
the work is refused. -/
lemma tableWork_of_textual (hb : t.IsBuilt) (hp : p.Textual) (hash : Json) (destructive : Bool) :
    (p.differs t = false →
      ∃ w, tableWork hash destructive p t = .ok w ∧ w.stop = none ∧ w.Spares) ∧
    (p.differs t = true → tableWork hash destructive p t =
      if destructive then .ok (recreateWork t) else .error (refusal hash p t)) := by
  unfold tableWork Persisted.differs
  cases hget : p.tables.get? (.text t.name) with
  | none =>
    exact ⟨fun _ => ⟨createWork t, rfl, rfl, spares_createWork hb⟩,
      fun h => absurd h Bool.false_ne_true⟩
  | some content =>
    obtain ⟨text, rfl⟩ := hp.tables.get? hget
    simp only [Option.getD_some, Option.bind_some, Json.text?, Option.any_some, same_text]
    by_cases htext : text = t.createStatement
    · obtain ⟨w, hw, hstop⟩ := keptWork_of_textual hb hp
      simp only [htext, bne_self_eq_false, beq_self_eq_true, if_true, hw]
      exact ⟨fun _ => ⟨w, rfl, hstop, spares_keptWork hb hw⟩,
        fun h => absurd h Bool.false_ne_true⟩
    · simp only [bne_iff_ne, ne_eq, htext, not_false_eq_true, beq_eq_false_iff_ne.2 htext,
        Bool.false_eq_true, if_false]
      exact ⟨fun h => by simp [htext] at h, fun _ => trivial⟩

lemma differs_of_isEmpty (h : p.isEmpty = true) (t : Table) : p.differs t = false := by
  have htables : p.tables = [] := by
    simpa using (Bool.and_eq_true_iff.1 h).2
  rw [Persisted.differs, htables]
  rfl

lemma plan_of_textual (hb : t.IsBuilt) (hp : p.Textual) (m : Migrator) :
    (p.differs t = false → ∃ w, m.Plans p t w ∧ w.Spares) ∧
    (p.differs t = true → m.plan p t =
      if m.destructive.isTruthy then .ok (recreateWork t) else .error (refusal m.hash p t)) := by
  unfold Migrator.Plans Migrator.plan
  cases hempty : p.isEmpty with
  | true =>
    rw [differs_of_isEmpty hempty]
    exact ⟨fun _ => ⟨installWork t, ⟨rfl, rfl⟩, spares_installWork hb⟩, nofun⟩
  | false =>
    obtain ⟨hsame, hdiffers⟩ := tableWork_of_textual hb hp m.hash m.destructive.isTruthy
    refine ⟨fun h => ?_, hdiffers⟩
    obtain ⟨w, hw, hstop, hspares⟩ := hsame h
    exact ⟨w, ⟨hw, hstop⟩, hspares⟩

end Migration

end PgSchema
