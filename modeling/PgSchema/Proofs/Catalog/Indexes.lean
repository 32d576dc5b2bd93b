import Mathlib.Logic.Function.Basic
import PgSchema.Proofs.Catalog.Basic
import PgSchema.Proofs.Migration.Plan
import PgSchema.Proofs.Migration.Progress

/-!
The indexes of a table, brought in line with those that are declared.

The statements are run on the indexes that the table has: one that drops an index takes it away, and
one that creates an index whose name is taken does nothing.  What is known with another text than
the declared one is dropped before anything is created, so that each statement that creates an index
finds its name free, and the declared indexes are reached (`execAll_reconciling`).  Nothing else is
touched, and the step tells what was (`migrateTable_reconciles`).
-/

namespace PgSchema

open Identifier (quote mark)

/-- The indexes of a table by name, with the statements that created them. -/
abbrev IndexMap := String → Option String

namespace IndexMap

/-- The statement that drops an index. -/
def dropText (name : String) : String := "DROP INDEX IF EXISTS " ++ quote name

/-- The indexes after a statement. -/
def exec (k : IndexMap) (statement : String) : IndexMap :=
  match IndexStatement.name? statement with
  | some name => if (k name).isSome then k else Function.update k name (some statement)
  | none =>
    match Ddl.named? "DROP INDEX IF EXISTS " statement.toList with
    | some (name, _) => Function.update k name none
    | none => k

/-- The indexes after statements, one after the other. -/
def execAll (k : IndexMap) (statements : List String) : IndexMap := statements.foldl exec k

variable {k : IndexMap}

/-! ### Statements -/

lemma toList_dropText (name : String) :
    (dropText name).toList = "DROP INDEX IF EXISTS ".toList ++ ((quote name).toList ++ []) := by
  unfold dropText
  rw [String.toList_append, List.append_nil]

/-- What drops an index creates none. -/
lemma name?_dropText (name : String) : IndexStatement.name? (dropText name) = none := by
  obtain ⟨cs, hcs⟩ : ∃ cs, (dropText name).toList = 'D' :: (cs ++ [mark]) := by
    refine ⟨"ROP INDEX IF EXISTS ".toList ++ mark :: Identifier.double name.toList, ?_⟩
    rw [toList_dropText, Identifier.toList_quote, List.append_nil, List.append_assoc]
    rfl
  have hword : ∀ cs, IndexStatement.afterKeyword? "CREATE" ('D' :: cs) = none := fun _ => rfl
  unfold IndexStatement.name?
  rw [hcs, IndexStatement.trim_of_edges (c := 'D') (d := mark) rfl rfl, hword]
  rfl

lemma exec_dropText (k : IndexMap) (name : String) :
    k.exec (dropText name) = Function.update k name none := by
  rw [exec, name?_dropText, toList_dropText]
  dsimp only
  rw [Ddl.named?_quote _ _ (by simp)]

/-- A statement that finds its name free creates its index. -/
lemma exec_of_free {statement name : String} (hname : IndexStatement.name? statement = some name)
    (hfree : k name = none) : k.exec statement = Function.update k name (some statement) := by
  rw [exec, hname]
  simp [hfree]

/-! ### Statements in a row -/

lemma execAll_cons (k : IndexMap) (statement : String) (statements : List String) :
    k.execAll (statement :: statements) = (k.exec statement).execAll statements := rfl

lemma execAll_drops (k : IndexMap) (names : List String) (name : String) :
    k.execAll (names.map dropText) name = if name ∈ names then none else k name := by
  induction names generalizing k with
  | nil => rfl
  | cons first names ih =>
    rw [List.map_cons, execAll_cons, exec_dropText, ih]
    by_cases hfirst : name = first <;> by_cases hmem : name ∈ names <;> simp [hfirst, hmem]

/-- Statements that find their names free create their indexes. -/
lemma execAll_creates {fresh : Entries String}
    (hnames : ∀ e ∈ fresh, IndexStatement.name? e.2 = some e.1)
    (hdistinct : (fresh.map Prod.fst).Nodup) (hfree : ∀ e ∈ fresh, k e.1 = none) (name : String) :
    k.execAll (fresh.map Prod.snd) name = (fresh.get? name).or (k name) := by
  induction fresh generalizing k with
  | nil => rfl
  | cons e fresh ih =>
    obtain ⟨hname, hnames⟩ := List.forall_mem_cons.1 hnames
    obtain ⟨hk, hfree⟩ := List.forall_mem_cons.1 hfree
    obtain ⟨hother, hdistinct⟩ := List.nodup_cons.1 hdistinct
    -- the names that come later are still free
    have hstill : ∀ e' ∈ fresh, Function.update k e.1 (some e.2) e'.1 = none := by
      intro e' he'
      have hne : e'.1 ≠ e.1 := fun h => hother (h ▸ List.mem_map_of_mem he')
      rw [Function.update_of_ne hne, hfree e' he']
    rw [List.map_cons, execAll_cons, exec_of_free hname hk, ih hnames hdistinct hstill]
    obtain ⟨first, text⟩ := e
    by_cases hfirst : name = first
    · subst hfirst
      have hnone : fresh.lookup name = none := Entries.get?_eq_none_iff.2 hother
      simp [Entries.get?, hnone]
    · simp [Entries.get?, List.lookup_cons, hfirst, beq_false_of_ne hfirst]

end IndexMap

/-! ### What is dropped and what is created -/

/-- The statements of the declared indexes, by the names that are read from them, no two of them the
same. -/
structure Table.Declares (t : Table) (declared : Entries String) : Prop where
  statements : t.indexStatements = declared.map Prod.snd
  names : ∀ e ∈ declared, IndexStatement.name e.2 = .ok e.1
  distinct : (declared.map Prod.fst).Nodup

lemma Table.Declares.declaredIndexes {t : Table} {declared : Entries String}
    (h : t.Declares declared) : Migration.declaredIndexes t = .ok declared := by
  rw [Migration.declaredIndexes_of_names h.statements h.names, Entries.collapse_of_nodup h.distinct]

namespace Migration

open IndexMap (dropText execAll)

/-- The names that have a text which they do not have in another dictionary. -/
def differing (l m : Entries String) : List String := (l.filter fun e => e ∉ m).map Prod.fst

/-- The statements that lead from the indexes of a table to others. -/
def reconciling (own declared : Entries String) : List String :=
  (differing own declared).map dropText ++ (declared.filter fun e => e ∉ own).map Prod.snd

section Reconciling

variable {own declared l m : Entries String} {name text : String}

lemma nodup_differing (h : (l.map Prod.fst).Nodup) (m : Entries String) :
    (differing l m).Nodup :=
  h.sublist (List.filter_sublist.map _)

lemma mem_differing (hl : (l.map Prod.fst).Nodup) (hm : (m.map Prod.fst).Nodup) :
    name ∈ differing l m ↔ ∃ text, l.get? name = some text ∧ m.get? name ≠ some text := by
  simp only [differing, List.mem_map, List.mem_filter, decide_eq_true_eq]
  constructor
  · rintro ⟨⟨_, text⟩, ⟨hmem, hnot⟩, rfl⟩
    exact ⟨text, (Entries.get?_eq_some_iff hl).2 hmem, mt (Entries.get?_eq_some_iff hm).1 hnot⟩
  · rintro ⟨text, hmem, hnot⟩
    exact ⟨(name, text), ⟨(Entries.get?_eq_some_iff hl).1 hmem,
      mt (Entries.get?_eq_some_iff hm).2 hnot⟩, rfl⟩

/-- What is created has lost its name, if it had it with another text. -/
lemma free_of_fresh (ho : (own.map Prod.fst).Nodup) (hd : (declared.map Prod.fst).Nodup)
    {e : String × String} (he : e ∈ declared) (hnot : e ∉ own) :
    (if e.1 ∈ differing own declared then none else own.get? e.1) = none := by
  split
  · rfl
  · rename_i hkept
    by_contra hsome
    obtain ⟨text, hown⟩ := Option.ne_none_iff_exists'.1 hsome
    have hsame : declared.get? e.1 = some text :=
      not_not.1 fun hne => hkept ((mem_differing ho hd).2 ⟨text, hown, hne⟩)
    rw [(Entries.get?_eq_some_iff hd).2 he, Option.some.injEq] at hsame
    exact hnot ((Entries.get?_eq_some_iff ho).1 (hsame ▸ hown))

/-- What is created, and what is not dropped, together are what is declared. -/
lemma created_or_kept (ho : (own.map Prod.fst).Nodup) (hd : (declared.map Prod.fst).Nodup)
    (name : String) :
    (Entries.get? (declared.filter fun e => e ∉ own) name).or
      (if name ∈ differing own declared then none else own.get? name) = declared.get? name := by
  cases hfresh : Entries.get? (declared.filter fun e => e ∉ own) name with
  | some text =>
    obtain ⟨hmem, -⟩ := (Entries.get?_filter hd _).1 hfresh
    rw [Option.some_or, (Entries.get?_eq_some_iff hd).2 hmem]
  | none =>
    rw [Option.none_or]
    -- what is declared and not created is there already
    have hthere : ∀ text, declared.get? name = some text → own.get? name = some text := by
      intro text hdecl
      by_contra hne
      have hcreated : Entries.get? (declared.filter fun e => e ∉ own) name = some text :=
        (Entries.get?_filter hd _).2 ⟨(Entries.get?_eq_some_iff hd).1 hdecl,
          decide_eq_true (mt (Entries.get?_eq_some_iff ho).2 hne)⟩
      rw [hfresh] at hcreated
      cases hcreated
    split
    · rename_i hdropped
      obtain ⟨text, hown, hne⟩ := (mem_differing ho hd).1 hdropped
      refine (Option.eq_none_iff_forall_ne_some.2 fun text' hdecl => hne ?_).symm
      rw [hdecl, ← hthere text' hdecl, hown]
    · rename_i hkept
      rw [mem_differing ho hd, not_exists] at hkept
      ext text
      refine ⟨fun hown => ?_, hthere text⟩
      exact not_not.1 fun hne => hkept text ⟨hown, hne⟩

/-- **The declared indexes are reached** from those that the table has. -/
theorem execAll_reconciling (ho : (own.map Prod.fst).Nodup) (hd : (declared.map Prod.fst).Nodup)
    (hnames : ∀ e ∈ declared, IndexStatement.name? e.2 = some e.1) :
    execAll own.get? (reconciling own declared) = declared.get? := by
  funext name
  have hfresh : ∀ e ∈ declared.filter fun e => e ∉ own,
      execAll own.get? ((differing own declared).map dropText) e.1 = none := by
    intro e he
    rw [IndexMap.execAll_drops]
    obtain ⟨hmem, hnot⟩ := List.mem_filter.1 he
    exact free_of_fresh ho hd hmem (of_decide_eq_true hnot)
  rw [reconciling, execAll, List.foldl_append]
  change execAll (execAll own.get? _) _ name = _
  rw [IndexMap.execAll_creates (fun e he => hnames e (List.mem_of_mem_filter he))
    (hd.sublist (List.filter_sublist.map _)) hfresh, IndexMap.execAll_drops,
    created_or_kept ho hd]

lemma dropText_inj {a b : String} (h : dropText a = dropText b) : a = b := by
  unfold dropText at h
  have hquote : quote a = quote b := String.append_right_inj _ |>.1 h
  exact (Identifier.quote_append_inj (x := []) (y := []) (by simp) (by simp)
    (by rw [hquote])).1

/-- What stays as it is is not dropped, and what creates it is not run. -/
lemma notMem_reconciling (ho : (own.map Prod.fst).Nodup) (hd : (declared.map Prod.fst).Nodup)
    (hnames : ∀ e ∈ declared, IndexStatement.name? e.2 = some e.1)
    (hown : own.get? name = some text) (hdecl : declared.get? name = some text) :
    dropText name ∉ reconciling own declared ∧ text ∉ reconciling own declared := by
  have hread : IndexStatement.name? text = some name :=
    hnames (name, text) ((Entries.get?_eq_some_iff hd).1 hdecl)
  rw [reconciling, List.mem_append, List.mem_append]
  constructor
  · rintro (h | h)
    · obtain ⟨name', hmem, hsame⟩ := List.mem_map.1 h
      obtain rfl := dropText_inj hsame
      obtain ⟨text', hown', hne⟩ := (mem_differing ho hd).1 hmem
      rw [hown] at hown'
      exact hne (hdecl.trans hown')
    · obtain ⟨e, hmem, hsame⟩ := List.mem_map.1 h
      have hcreates := hnames e (List.mem_of_mem_filter hmem)
      rw [hsame, IndexMap.name?_dropText] at hcreates
      cases hcreates
  · rintro (h | h)
    · obtain ⟨name', -, rfl⟩ := List.mem_map.1 h
      rw [IndexMap.name?_dropText] at hread
      cases hread
    · obtain ⟨⟨name', _⟩, hmem, rfl⟩ := List.mem_map.1 h
      obtain ⟨hmem, hnot⟩ := List.mem_filter.1 hmem
      obtain rfl : name' = name := Option.some.inj ((hnames _ hmem).symm.trans hread)
      exact of_decide_eq_true hnot ((Entries.get?_eq_some_iff ho).1 hown)

/-- What has another text is dropped before it is created. -/
lemma dropped_before_created {text' : String} (ho : (own.map Prod.fst).Nodup)
    (hd : (declared.map Prod.fst).Nodup) (hown : own.get? name = some text)
    (hdecl : declared.get? name = some text') (hne : text ≠ text') :
    ∃ front middle back,
      reconciling own declared = front ++ dropText name :: (middle ++ text' :: back) := by
  have hdropped : dropText name ∈ (differing own declared).map dropText := by
    refine List.mem_map_of_mem ((mem_differing ho hd).2 ⟨text, hown, fun h => hne ?_⟩)
    exact Option.some.inj (h.symm.trans hdecl)
  have hcreated : text' ∈ (declared.filter fun e => e ∉ own).map Prod.snd := by
    refine List.mem_map.2 ⟨(name, text'), List.mem_filter.2
      ⟨(Entries.get?_eq_some_iff hd).1 hdecl, decide_eq_true fun h => hne ?_⟩, rfl⟩
    exact Option.some.inj (hown.symm.trans ((Entries.get?_eq_some_iff ho).2 h))
  obtain ⟨front, middle, hdrops⟩ := List.append_of_mem hdropped
  obtain ⟨middle', back, hcreates⟩ := List.append_of_mem hcreated
  refine ⟨front, middle ++ middle', back, ?_⟩
  rw [reconciling, hdrops, hcreates]
  simp only [List.append_assoc, List.cons_append]

/-! ### The work -/

lemma reconciling_eq_nil : reconciling own declared = [] ↔
    differing own declared = [] ∧ differing declared own = [] := by
  simp only [reconciling, differing, List.append_eq_nil_iff, List.map_eq_nil_iff]

/-- The step tells of what is dropped and what is created, unless that is nothing. -/
lemma step_indexWork (t : Table) (owned : Told) (declared : Entries String) :
    ((indexWork t owned declared).step.status = .skipped ↔
      droppedNames owned declared = [] ∧ createdNames owned declared = []) ∧
    (¬ (droppedNames owned declared = [] ∧ createdNames owned declared = []) →
      (indexWork t owned declared).step.details =
        [("dropped", .list (droppedNames owned declared)),
          ("created", .texts (createdNames owned declared))]) := by
  unfold indexWork
  generalize droppedNames owned declared = dropped
  generalize createdNames owned declared = created
  cases dropped <;> cases created <;> simp

end Reconciling

/-- **Statements that bring indexes in line**, and the step that tells of them. -/
structure Reconciles (old new : IndexMap) (gone fresh statements : List String) (step : Step) :
    Prop where
  reached : execAll old statements = new
  /-- What is dropped is there with another text than the declared one, or with none declared. -/
  dropped : ∀ name, name ∈ gone ↔ ∃ text, old name = some text ∧ new name ≠ some text
  /-- What is created is declared with another text than it has, or it is not there. -/
  created : ∀ name, name ∈ fresh ↔ ∃ text, new name = some text ∧ old name ≠ some text
  once : gone.Nodup ∧ fresh.Nodup
  /-- All that is dropped comes before all that is created, and there is nothing else. -/
  order : statements = gone.map dropText ++ fresh.filterMap new
  kept : ∀ name text, old name = some text → new name = some text →
    dropText name ∉ statements ∧ text ∉ statements
  changed : ∀ name text text', old name = some text → new name = some text' → text ≠ text' →
    ∃ front middle back, statements = front ++ dropText name :: (middle ++ text' :: back)
  skipped : step.status = .skipped ↔ statements = []
  details : statements ≠ [] → step.details = [("dropped", .texts gone), ("created", .texts fresh)]

lemma reconciles_indexWork {own declared : Entries String} (ho : (own.map Prod.fst).Nodup)
    (hd : (declared.map Prod.fst).Nodup)
    (hnames : ∀ e ∈ declared, IndexStatement.name? e.2 = some e.1) (t : Table) :
    Reconciles own.get? declared.get? (differing own declared) (differing declared own)
      (indexWork t (Told.ofTexts own) declared).statements
      (indexWork t (Told.ofTexts own) declared).step := by
  have hstatements : (indexWork t (Told.ofTexts own) declared).statements =
      reconciling own declared := by
    rw [(indexWork_texts ho hd t).2, reconciling, differing, List.map_map]
    rfl
  obtain ⟨hskipped, hdetails⟩ := step_indexWork t (Told.ofTexts own) declared
  rw [droppedNames_texts hd, createdNames_texts ho, List.map_eq_nil_iff] at hskipped hdetails
  rw [hstatements]
  exact {
    reached := execAll_reconciling ho hd hnames
    dropped := fun name => mem_differing ho hd
    created := fun name => mem_differing hd ho
    once := ⟨nodup_differing ho _, nodup_differing hd _⟩
    order := by
      rw [reconciling, differing, differing,
        filterMap_get? hd fun e he => List.mem_of_mem_filter he]
    kept := fun name text => notMem_reconciling ho hd hnames
    changed := fun name text text' => dropped_before_created ho hd
    skipped := hskipped.trans reconciling_eq_nil.symm
    details := fun hne => hdetails (mt reconciling_eq_nil.2 hne) }

section Table

open Store (Leads)

variable {σ : Type} {p : Persisted} {t : Table} {told declared : Entries String}
  {k : IndexMap}

lemma tableWork_of_text (htext : p.tables.get? (.text t.name) = some (.text t.createStatement))
    (hash : Json) (destructive : Bool) :
    tableWork hash destructive p t = (keptWork p t).mapError .fault := by
  rw [tableWork, htext]
  simp [same_text]

lemma name?_of_name {statement name : String} (h : IndexStatement.name statement = .ok name) :
    IndexStatement.name? statement = some name := by
  unfold IndexStatement.name at h
  split at h
  · rename_i hname
    rw [hname, Except.ok.inj h]
  · cases h

/-- **The indexes of a table are brought in line**, if the table is told with the declared text.
The indexes that it has are those that are told and show that they belong to it.  The statements are
exactly those that a migration of the table has run when it ends well, as it does where nothing
fails. -/
theorem migrateTable_reconciles (m : Migrator)
    (htext : p.tables.get? (.text t.name) = some (.text t.createStatement))
    (hindexes : p.indexes = Told.ofTexts told) (htold : (told.map Prod.fst).Nodup)
    (hk : k = (ownedTexts t told).get?) (hdeclares : t.Declares declared) :
    ∃ gone fresh statements step, Reconciles k declared.get? gone fresh statements step ∧
      (∀ (c d : Course σ) (told : Step), c.store.script.OnlyFails →
        m.migrateTable p t c = (.ok told, d) → told = step ∧
          Leads c.store d.store (statements.map (.execute · .null)) c.store.metadata) ∧
      ∀ c : Course σ, c.store.Quiet → ∃ d, m.migrateTable p t c = (.ok step, d) := by
  have ho := nodup_ownedTexts htold t
  have hwork : tableWork m.hash m.destructive.isTruthy p t =
      .ok (indexWork t (Told.ofTexts (ownedTexts t told)) declared) := by
    rw [tableWork_of_text htext, keptWork_of_texts hindexes hdeclares.declaredIndexes]
    rfl
  have hran : ∀ (c d : Course σ) (step : Step), c.store.script.OnlyFails →
      m.migrateTable p t c = (.ok step, d) →
        step = (indexWork t (Told.ofTexts (ownedTexts t told)) declared).step ∧
        Leads c.store d.store (indexWork t (Told.ofTexts (ownedTexts t told)) declared).events
          c.store.metadata := by
    intro c d step hc hrun
    obtain ⟨w, hw, -, hstep, hleads⟩ := Migrator.migrateTable_eq_ok hc hrun
    obtain rfl := Except.ok.inj (hwork.symm.trans hw)
    exact ⟨hstep.symm, hleads⟩
  refine ⟨differing (ownedTexts t told) declared, differing declared (ownedTexts t told), _, _, ?_,
    hran, fun c hc => ?_⟩
  · rw [hk]
    exact reconciles_indexWork ho hdeclares.distinct
      (fun e he => name?_of_name (hdeclares.names e he)) t
  · have hstop := (indexWork_texts ho hdeclares.distinct t).1
    obtain ⟨step, d, hrun, -⟩ := Migrator.migrateTable_of_quiet hwork hstop hc
    obtain ⟨rfl, -⟩ := hran c d step (Store.onlyFails_of_quiet hc.script) hrun
    exact ⟨d, hrun⟩

end Table

/-! ### Indexes of every kind -/

/-- What is told of indexes: one that is kept, one that changes, one that goes, and one of another
table. -/
def toldIndexes : Entries String :=
  [("kept", Index.create "a" ["x"] "kept"), ("changed", Index.create "a" ["x"] "changed"),
    ("gone", Index.create "a" ["x"] "gone"), ("other", Index.create "b" ["x"] "other")]

/-- What is declared then. -/
def newIndexes : Entries String :=
  [("kept", Index.create "a" ["x"] "kept"), ("changed", Index.create "a" ["y"] "changed"),
    ("fresh", Index.create "a" ["y"] "fresh")]

/-- The table with these indexes. -/
def indexedTable : Table :=
  { (default : Table) with
    name := "a"
    createStatement := "CREATE TABLE IF NOT EXISTS \"a\" (\"x\" INTEGER, \"y\" INTEGER)"
    indexStatements := newIndexes.map Prod.snd }

/-- What is told of the table and its indexes. -/
def toldOfIndexed : Persisted where
  tables := [(.text indexedTable.name, .text indexedTable.createStatement)]
  indexes := Told.ofTexts toldIndexes

/-- A migrator that is to reach it. -/
def indexedMigrator : Migrator :=
  ⟨[indexedTable], .text "A", .text "schema_metadata", .bool false, ⟨"2024-01-02", "03:04:05"⟩⟩

/-- What goes and what changes is dropped, what changes and what is new is created, and the index of
the other table is left alone. -/
theorem migrateTable_reconciles_overlap : ∃ gone fresh statements step d,
    indexedMigrator.migrateTable toldOfIndexed indexedTable { work := () } = (.ok step, d) ∧
      Reconciles (ownedTexts indexedTable toldIndexes).get? newIndexes.get? gone fresh statements
        step ∧
      (∀ name ∈ ["changed", "gone"], name ∈ gone) ∧ (∀ name ∈ ["kept", "other"], name ∉ gone) ∧
      (∀ name ∈ ["changed", "fresh"], name ∈ fresh) ∧ "kept" ∉ fresh := by
  have hnames : ∀ e ∈ newIndexes, IndexStatement.name e.2 = .ok e.1 := by
    simp [newIndexes, IndexStatement.name, IndexStatement.name?_create]
  have hquiet : ({} : Store).Quiet := ⟨rfl, [], by simp [Store.sortedMetadata, Store.checkOrder]⟩
  obtain ⟨gone, fresh, statements, step, h, -, hruns⟩ :=
    migrateTable_reconciles (σ := Unit) (t := indexedTable) (p := toldOfIndexed) indexedMigrator
      (by simp [toldOfIndexed, Told.get?, same_text]) rfl (by decide) rfl ⟨rfl, hnames, by decide⟩
  obtain ⟨d, hrun⟩ := hruns { work := () } hquiet
  have howned : ownedTexts indexedTable toldIndexes = toldIndexes.take 3 := by decide +kernel
  refine ⟨gone, fresh, statements, step, d, hrun, h, ?_, ?_, ?_, ?_⟩
  · simp only [h.dropped, howned]
    decide +kernel
  · simp only [h.dropped, howned]
    decide +kernel
  · simp only [h.created, howned]
    decide +kernel
  · simp only [h.created, howned]
    decide +kernel

end Migration

end PgSchema
