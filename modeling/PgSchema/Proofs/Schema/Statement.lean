import Mathlib.Data.List.Nodup
import PgSchema.Proofs.Schema.Built
import PgSchema.Proofs.Schema.IndexStatement
import PgSchema.Proofs.Text.Decoding
import PgSchema.Schema.Build

/-!
The statements that create tables and indexes are read back from a text without any separators.

Names stand in quotes, and what may follow a name, a type or a mark is never what could continue it.
So a statement shows all that it was made of, and where it ends: `shows_createText` for tables,
`shows_indexText` for indexes, `shows_ddl` for the statements of a table in a row, and
`shows_schema` for those of all tables.

The indexes of tables that are declared together have names of their own, which are also the names
that are read from the statements that create them.
-/

namespace PgSchema

open Text (Shows Starts)
open Identifier (mark quote toList_quote quote_append_inj)

theorem Identifier.shows_quote :
    Shows (fun n : String => (quote n).toList) (fun x => x.head? ≠ some mark) id :=
  fun _ _ _ _ hx hy e => quote_append_inj hx hy e

/-- A text that begins with something else than a quote may stand behind an identifier. -/
lemma Identifier.not_mark {c : Char} {w : List Char} (hw : w.head? = some c) (hc : c ≠ mark)
    (x : List Char) : (w ++ x).head? ≠ some mark := by
  obtain ⟨w', rfl⟩ := List.head?_eq_some_iff.1 hw
  simpa using hc

open Identifier (not_mark)

/-! ### Columns -/

namespace Column

/-- What a column adds to its name and type: a primary key is marked as such, and any other column
that takes no null. -/
def constraint (c : Column) : String :=
  if c.primaryKey then " PRIMARY KEY" else if c.nullable then "" else " NOT NULL"

/-- A column that is no primary key takes no null. -/
def isRequired (c : Column) : Bool := !c.primaryKey && !c.nullable

/-- What the statement that creates a table tells of a column: the name, the type, and the two
marks. -/
def outline (c : Column) : String × String × Bool × Bool :=
  (c.columnName, c.kind.columnType c.autoId, c.primaryKey, c.isRequired)

lemma toList_definition (c : Column) :
    c.definition.toList = (quote c.columnName).toList ++ (" ".toList ++
      ((c.kind.columnType c.autoId).toList ++ c.constraint.toList)) := by
  unfold definition constraint
  rw [String.toList_append, String.toList_append, String.toList_append, List.append_assoc,
    List.append_assoc]

/-- The types of columns. -/
def typeTexts : List String :=
  ["BOOLEAN", "SMALLINT", "INTEGER", "BIGINT", "REAL", "DOUBLE PRECISION", "TEXT", "BYTEA",
   "SMALLSERIAL", "SERIAL", "BIGSERIAL"]

lemma columnType_mem (kind : StorageKind) (autoId : Bool) : kind.columnType autoId ∈ typeTexts := by
  cases kind <;> cases autoId <;> decide

lemma eq_of_front : ∀ s ∈ typeTexts, ∀ t ∈ typeTexts, s.toList <+: t.toList → s = t := by
  decide +kernel

lemma shows_columnType :
    Shows (fun c : Column => (c.kind.columnType c.autoId).toList) (fun _ => True)
      fun c => c.kind.columnType c.autoId := by
  have h : Shows (fun c : Column => (c.kind.columnType c.autoId).toList) (fun _ => True)
      fun c => (c.kind.columnType c.autoId).toList :=
    Shows.of_front fun a b hp => congrArg String.toList
      (eq_of_front _ (columnType_mem a.kind a.autoId) _ (columnType_mem b.kind b.autoId) hp)
  intro a b x y hx hy e
  obtain ⟨hk, hxy⟩ := h hx hy e
  exact ⟨String.toList_inj.1 hk, hxy⟩

/-- What stands behind a column: a comma, or the parenthesis at the end. -/
def Ends (x : List Char) : Prop := Starts [',', ')'] x

lemma Ends.not_blank {x : List Char} (h : Ends x) (y : List Char) : x ≠ ' ' :: y := by
  rintro rfl
  obtain ⟨c, hc, e⟩ := h
  cases Option.some.inj e
  revert hc
  decide

lemma constraint_cases (c : Column) :
    (c.primaryKey = true ∧ c.isRequired = false ∧
      c.constraint.toList = ' ' :: 'P' :: "RIMARY KEY".toList) ∨
    (c.primaryKey = false ∧ c.isRequired = true ∧
      c.constraint.toList = ' ' :: 'N' :: "OT NULL".toList) ∨
    (c.primaryKey = false ∧ c.isRequired = false ∧ c.constraint.toList = []) := by
  unfold isRequired constraint
  cases c.primaryKey <;> cases c.nullable
  · exact Or.inr (Or.inl ⟨rfl, rfl, rfl⟩)
  · exact Or.inr (Or.inr ⟨rfl, rfl, rfl⟩)
  · exact Or.inl ⟨rfl, rfl, rfl⟩
  · exact Or.inl ⟨rfl, rfl, rfl⟩

/-- The three texts part at the first character or at the second. -/
lemma shows_constraint :
    Shows (fun c : Column => c.constraint.toList) Ends fun c => (c.primaryKey, c.isRequired) := by
  intro a b x y hx hy e
  rcases constraint_cases a with ⟨hp, hr, ha⟩ | ⟨hp, hr, ha⟩ | ⟨hp, hr, ha⟩ <;>
    rcases constraint_cases b with ⟨hp', hr', hb⟩ | ⟨hp', hr', hb⟩ | ⟨hp', hr', hb⟩ <;>
    simp only [ha, hb, hp, hr, hp', hr', List.cons_append, List.nil_append, List.cons.injEq] at e ⊢
  · exact ⟨trivial, List.append_cancel_left e.2.2⟩
  · exact absurd e.2.1 (by decide)
  · exact absurd e.symm (hy.not_blank _)
  · exact absurd e.2.1 (by decide)
  · exact ⟨trivial, List.append_cancel_left e.2.2⟩
  · exact absurd e.symm (hy.not_blank _)
  · exact absurd e (hx.not_blank _)
  · exact absurd e (hx.not_blank _)
  · exact ⟨trivial, e⟩

theorem shows_definition : Shows (fun c : Column => c.definition.toList) Ends outline := by
  have e : (fun c : Column => c.definition.toList) = _ := funext toList_definition
  rw [e]
  exact (Identifier.shows_quote.comap columnName).append
    ((shows_columnType.append shows_constraint fun _ _ _ => trivial).prepend " ".toList)
    fun _ x _ => by
      rw [List.append_assoc]
      exact not_mark rfl (by decide) _

end Column

/-! ### Tables and indexes -/

namespace Table

/-- A row of columns is read back up to its parenthesis. -/
lemma shows_columns :
    Shows (fun cs : List Column => (", ".intercalate (cs.map Column.definition)).toList)
      (Starts [')']) fun cs => cs.map Column.outline := by
  have e : (fun cs : List Column => (", ".intercalate (cs.map Column.definition)).toList) =
      fun cs => ", ".toList.intercalate (cs.map fun c => c.definition.toList) := by
    funext cs
    rw [String.toList_intercalate, List.map_map]
    rfl
  rw [e]
  refine Column.shows_definition.intercalate ?_ ?_ ?_ ?_
  · exact fun x => Starts.cons (by decide) _
  · rintro x ⟨c, hc, hx⟩
    exact ⟨c, List.mem_cons_of_mem _ hc, hx⟩
  · intro c x
    rw [Column.toList_definition, toList_quote]
    exact Starts.disjoint (by simp [mark, Text.doubleMark])
      (Starts.cons (List.mem_singleton_self mark) _)
  · exact fun x => Starts.disjoint (by simp) (Starts.cons (List.mem_singleton_self ',') _)

lemma toList_createText (name : String) (columns : List Column) :
    (createText name columns).toList = "CREATE TABLE IF NOT EXISTS ".toList ++
      ((quote name).toList ++ (" (".toList ++
        ((", ".intercalate (columns.map Column.definition)).toList ++ ")".toList))) := by
  unfold createText
  rw [String.toList_append, String.toList_append, String.toList_append, String.toList_append,
    List.append_assoc, List.append_assoc, List.append_assoc]

/-- **The statement that creates a table is read back**: the name, and the outlines of the
columns. -/
theorem shows_createText :
    Shows (fun p : String × List Column => (createText p.1 p.2).toList) (fun _ => True)
      fun p => (p.1, p.2.map Column.outline) := by
  have e : (fun p : String × List Column => (createText p.1 p.2).toList) = _ :=
    funext fun p => toList_createText p.1 p.2
  rw [e]
  refine Shows.prepend (Shows.append (Identifier.shows_quote.comap Prod.fst)
    (Shows.prepend (Shows.behind (shows_columns.comap Prod.snd) ?_) _) ?_) _
  · intro x _
    exact Starts.cons (by decide) _
  · intro p x _
    rw [List.append_assoc]
    exact not_mark rfl (by decide) _

/-- The statement that creates the index on a column of a table. -/
def indexText (p : String × String) : String := Index.create p.1 [p.2] ""

lemma toList_indexText (p : String × String) :
    (indexText p).toList = "CREATE INDEX IF NOT EXISTS ".toList ++
      ((quote (Index.name Index.defaultStart p.1 [p.2])).toList ++ (" ON ".toList ++
        ((quote p.1).toList ++ (" (".toList ++ ((quote p.2).toList ++ ")".toList))))) := by
  unfold indexText
  rw [IndexStatement.toList_create, if_pos rfl, IndexStatement.createTail, List.map_singleton,
    String.intercalate_singleton]

/-- **The statement that creates an index is read back**: the table and the column. -/
theorem shows_indexText :
    Shows (fun p : String × String => (indexText p).toList) (fun _ => True) id := by
  have h : Shows (fun p : String × String => (indexText p).toList) (fun _ => True)
      fun p => (Index.name Index.defaultStart p.1 [p.2], p.1, p.2) := by
    have e : (fun p : String × String => (indexText p).toList) = _ := funext toList_indexText
    rw [e]
    refine Shows.prepend (Shows.append (Identifier.shows_quote.comap
        fun p : String × String => Index.name Index.defaultStart p.1 [p.2])
      (Shows.prepend (Shows.append (Identifier.shows_quote.comap Prod.fst) (Shows.prepend
        (Shows.behind (Identifier.shows_quote.comap Prod.snd) ?_) _) ?_) _) ?_) _
    · intro x _
      exact not_mark rfl (by decide) _
    · intro p x _
      rw [List.append_assoc]
      exact not_mark rfl (by decide) _
    · intro p x _
      rw [List.append_assoc]
      exact not_mark rfl (by decide) _
  exact h.map Prod.snd

/-! ### Statements in a row -/

/-- The names of the columns that get an index of their own. -/
def indexedNames (columns : List Column) : List String :=
  (columns.filter fun c => c.indexed && !c.primaryKey).map Column.columnName

lemma indexTexts_eq (name : String) (columns : List Column) :
    indexTexts name columns = ((indexedNames columns).map (name, ·)).map indexText := by
  simp [indexTexts, indexedNames, indexText, Function.comp_def]

/-- The statements of a table in a row, one behind the other. -/
def ddlChars (p : String × List Column) : List Char :=
  (createText p.1 p.2 :: indexTexts p.1 p.2).flatMap String.toList

/-- What is read back of the statements of a table: the statement that creates it, the name, the
outlines of its columns, and the columns with an index. -/
def ddlKey (p : String × List Column) :
    (List Char × String × List (String × String × Bool × Bool)) × List (String × String) :=
  (((createText p.1 p.2).toList, p.1, p.2.map Column.outline), (indexedNames p.2).map (p.1, ·))

/-- Behind the statements of a table stands the next table, or nothing. -/
def AtTable (x : List Char) : Prop := x = [] ∨ ∃ y, x = "CREATE TABLE ".toList ++ y

/-- At the statement that creates an index. -/
def AtIndex (x : List Char) : Prop := ∃ y, x = "CREATE INDEX ".toList ++ y

lemma AtTable.not_index {x : List Char} (h : AtTable x) : ¬ AtIndex x := by
  rintro ⟨y, rfl⟩
  rcases h with h | ⟨z, h⟩
  · exact absurd h (by simp)
  · have e : ("CREATE INDEX ".toList ++ y)[7]? = ("CREATE TABLE ".toList ++ z)[7]? := by rw [h]
    exact absurd (Option.some.inj e) (by decide)

lemma shows_indexTexts :
    Shows (fun p : String × List Column => (indexTexts p.1 p.2).flatMap String.toList) AtTable
      fun p => (indexedNames p.2).map (p.1, ·) := by
  have h : Shows (fun l : List (String × String) => l.flatMap fun p => (indexText p).toList) AtTable
      fun l => l.map id := by
    refine shows_indexText.flatMap AtIndex ?_ ?_ ?_
    · intro p x
      rw [toList_indexText, List.append_assoc]
      exact ⟨_, rfl⟩
    · exact fun _ _ => trivial
    · exact fun _ hx => hx.not_index
  have e : (fun p : String × List Column => (indexTexts p.1 p.2).flatMap String.toList) =
      fun p => ((indexedNames p.2).map (p.1, ·)).flatMap fun p => (indexText p).toList := by
    funext p
    rw [indexTexts_eq, List.flatMap_map]
  rw [e]
  simpa using h.comap fun p : String × List Column => (indexedNames p.2).map (p.1, ·)

/-- **The statements of a table are read back.** -/
theorem shows_ddl : Shows ddlChars AtTable ddlKey :=
  (shows_createText.withText).append shows_indexTexts fun _ _ _ => trivial

/-- **The statements of all tables are read back**, table by table. -/
theorem shows_schema :
    Shows (fun l : List (String × List Column) => l.flatMap ddlChars) (· = [])
      fun l => l.map ddlKey := by
  have hstart : ∀ (p : String × List Column) (x : List Char),
      ∃ y, ddlChars p ++ x = "CREATE TABLE ".toList ++ y := by
    intro p x
    rw [ddlChars, List.flatMap_cons, toList_createText, List.append_assoc, List.append_assoc]
    exact ⟨_, rfl⟩
  refine shows_ddl.flatMap (fun x => ∃ y, x = "CREATE TABLE ".toList ++ y) hstart ?_ ?_
  · rintro x (hx | rfl)
    · exact Or.inr hx
    · exact Or.inl rfl
  · rintro x rfl ⟨y, hy⟩
    exact absurd hy (by simp)

end Table

/-! ### Tables that are declared together -/

/-- The indexes of a table by name, with the statements that create them. -/
def Table.indexEntries (t : Table) : List (String × String) :=
  (indexedNames t.columns).map fun column =>
    (Index.name Index.defaultStart t.name [column], indexText (t.name, column))

lemma Table.IsBuilt.indexStatements_eq_map {t : Table} (h : t.IsBuilt) :
    t.indexStatements = t.indexEntries.map Prod.snd := by
  rw [h.indexStatements_eq, indexTexts_eq, indexEntries, List.map_map, List.map_map]
  rfl

/-- **Tables that can be declared together**: all are built, and no two have the same name, nor any
two of their indexes. -/
structure Table.Declarable (tables : List Table) : Prop where
  built : ∀ t ∈ tables, t.IsBuilt
  names : (tables.map Table.name).Nodup
  indexes : ((tables.flatMap Table.indexEntries).map Prod.fst).Nodup

namespace Table

lemma Declarable.nodup_indexEntries {tables : List Table} (h : Declarable tables) {t : Table}
    (ht : t ∈ tables) : (t.indexEntries.map Prod.fst).Nodup := by
  have hall := h.indexes
  rw [List.map_flatMap, List.nodup_flatMap] at hall
  exact hall.1 t ht

/-- **A statement that creates an index tells whose it is.** -/
lemma indexText_inj {p q : String × String} (h : indexText p = indexText q) : p = q := by
  have e : (indexText p).toList ++ [] = (indexText q).toList ++ [] := by rw [h]
  exact (shows_indexText trivial trivial e).1

lemma name_of_indexEntries {t : Table} {e : String × String} (h : e ∈ t.indexEntries) :
    IndexStatement.name e.2 = .ok e.1 := by
  obtain ⟨column, -, rfl⟩ := List.mem_map.1 h
  exact IndexStatement.name_create _ _

/-- Indexes with the same statement are indexes of tables with the same name. -/
lemma name_eq_of_indexEntries {t u : Table} {e f : String × String} (he : e ∈ t.indexEntries)
    (hf : f ∈ u.indexEntries) (h : e.2 = f.2) : t.name = u.name ∧ e = f := by
  obtain ⟨column, -, rfl⟩ := List.mem_map.1 he
  obtain ⟨column', -, rfl⟩ := List.mem_map.1 hf
  have hp := indexText_inj h
  simp only [Prod.mk.injEq] at hp
  rw [hp.1, hp.2]
  exact ⟨rfl, rfl⟩

end Table

end PgSchema
