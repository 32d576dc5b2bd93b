import PgSchema.Proofs.Catalog.History
import PgSchema.Proofs.Migration.Idempotence

/-!
What histories of migrations leave in the catalog.

After every migration the metadata tell what was declared.  The catalog shows it too, unless a table
had left the declaration and came back: such a table is still there as it was when it left, and the
statement that creates it does nothing.  `converges_iff` says so for whole histories: the declared
tables are there after every migration exactly if every table that comes back has the form that it
had, with no index less, and none is named like the table of metadata (`AllFit`).
-/

namespace PgSchema

open Catalog (View)
open Migration (Migrator Persisted Result)

/-! ### One call -/

/-- The fingerprint that is told after calls. -/
def toldHash : List Call → Json
  | [] => .null
  | c :: _ => .text c.hash

/-- **What holds after any calls**: the metadata tell the last of them, and all indexes that there
are were declared at some time. -/
structure Holds (schema : List Table) (calls : List Call) (s : Store) : Prop where
  told : ∃ p, s.told = .ok p ∧ p.Tells (toldHash calls) (latestTables calls)
  indexes : s.catalog.From schema

/-- **What holds while all calls fit**: the catalog shows every table as it was last declared, and
the table of metadata. -/
structure Mirrors (metadataTable : String) (calls : List Call) (s : Store) : Prop where
  metadata : ∀ text, s.catalog.tables metadataTable = some text →
    text = (Migrator.metadataStatement metadataTable).text
  views : ∀ n, n ≠ metadataTable → s.catalog.view n = Catalog.viewOf (lastDeclared calls n)

lemma Mirrors.metadata_of_or {metadataTable : String} {calls : List Call} {s : Store}
    (h : Mirrors metadataTable calls s) {text : String}
    (htext : (s.catalog.tables metadataTable).or
      (some (Migrator.metadataStatement metadataTable).text) = some text) :
    text = (Migrator.metadataStatement metadataTable).text := by
  rcases Option.or_eq_some_iff.1 htext with hsome | ⟨-, hsome⟩
  · exact h.metadata text hsome
  · exact (Option.some.inj hsome).symm

section Step

variable {σ : Type} {metadataTable : String} {schema : List Table} {past : List Call} {call : Call}
  {now : Moment} {s : Store} {c d : Course σ} {r : Result}

/-- The outcome of a call, by what it has found: either the last call has declared the same, or the
work on each table was done. -/
def Outcome (metadataTable : String) (schema : List Table) (past : List Call) (call : Call)
    (s t : Store) : Prop :=
  (past ≠ [] ∧ List.Forall₂ Table.Alike (latestTables past) call.tables ∧
    t.catalog = s.catalog.exec (Migrator.metadataStatement metadataTable).text) ∨
  ∃ ws, List.Forall₂ (fun t w => Catalog.Acts schema t.name w.statements
      (Catalog.bring (latestTables past) t)) call.tables ws ∧
    t.catalog = (s.catalog.exec (Migrator.metadataStatement metadataTable).text).execAll
      (ws.flatMap Migration.Work.statements)

/-- **One call**: the metadata tell it, and the catalog is what the call has made of it. -/
theorem outcome_of_run (hdistinct : Call.Distinct schema (call :: past)) (hs : Holds schema past s)
    (hscript : c.store.script.OnlyFails) (hmetadata : c.store.metadata = s.metadata)
    (happlied : c.store.applied = s.applied)
    (hrun : (call.migrator metadataTable now).migrate c = (.ok r, d)) :
    (∃ p, d.store.told = .ok p ∧ p.Tells (toldHash (call :: past)) call.tables) ∧
      Outcome metadataTable schema past call s d.store := by
  obtain ⟨p, htold, htells⟩ := hs.told
  have hdecl : Table.Declarable call.tables := hdistinct.declarable call List.mem_cons_self
  obtain ⟨table, p', done, rows, htable, htold', -, hran, -, hrows, happlied', -⟩ :=
    Migrator.migrate_eq_ok hscript hrun
  cases htable
  rw [Store.told_congr hmetadata, htold] at htold'
  cases htold'
  obtain ⟨q, hq, hqsame, hqtells⟩ := hran.told_after hdecl rfl
    (fun t ht => (Store.told_congr (ht.trans hmetadata)).trans htold) hrows
  have hcatalog := hran.catalog (s := s) (t := d.store) (by rw [happlied', happlied])
  rcases hcatalog with ⟨hsame, hcatalog⟩ | ⟨hdiffer, ws, hws, hcatalog⟩
  · -- the fingerprint was there, so the last call has declared what reads alike
    cases past with
    | nil =>
      rw [htells.hash] at hsame
      cases hsame
    | cons last past =>
      have hhash : last.hash = call.hash := by
        rw [htells.hash] at hsame
        exact beq_iff_eq.1 ((Migration.same_text _ _).symm.trans hsame)
      have hlast : last ∈ call :: last :: past := List.mem_cons_of_mem _ List.mem_cons_self
      have halike : List.Forall₂ Table.Alike last.tables call.tables :=
        Table.alike_of_streamOf_eq (hdistinct.declarable last hlast).built hdecl.built
          (hdistinct.hashes last hlast call List.mem_cons_self hhash)
      have hafter : d.store.told = .ok p := by
        rw [Store.told_congr (hrows.trans (hran.after_eq hsame)), Store.told_congr hmetadata, htold]
      have hp : p.Tells (toldHash (call :: last :: past)) call.tables := by
        have hlike := htells.of_alike halike
        rw [toldHash, hhash] at hlike
        exact hlike
      exact ⟨⟨p, hafter, hp⟩, Or.inl ⟨List.cons_ne_nil _ _, halike, hcatalog⟩⟩
  · refine ⟨⟨q, hq, hqtells hdiffer⟩, Or.inr ⟨ws, ?_, hcatalog⟩⟩
    have hlatest := hdistinct.latest
    have hall : ∀ t ∈ call.tables, t ∈ call.tables := fun _ => id
    refine ((List.forall₂_and_left _ _).2 ⟨hall, hws⟩).imp fun t w ⟨ht, hw⟩ => ?_
    exact Catalog.acts_plan htells hlatest.1 hdistinct.names hdistinct.owners hlatest.2
      (hdistinct.declared call List.mem_cons_self t ht) (hdecl.built t ht)
      (hdecl.nodup_indexEntries ht) hw

end Step

section Outcome

variable {metadataTable : String} {schema : List Table} {past : List Call} {call : Call}
  {s t : Store}

lemma indexes_of_outcome (h : Outcome metadataTable schema past call s t)
    (hnames : (call.tables.map Table.name).Nodup) (hs : s.catalog.From schema) :
    t.catalog.From schema := by
  obtain ⟨hfrom, -, -⟩ := Catalog.exec_createTable (Ddl.read?_metadataStatement metadataTable) hs
  rcases h with ⟨-, -, hcatalog⟩ | ⟨ws, hws, hcatalog⟩
  · rw [hcatalog]
    exact hfrom
  · rw [hcatalog]
    exact (Catalog.execAll_work hws hnames hfrom).1

/-- A catalog that shows all tables shows those of the last call. -/
lemma Mirrors.shows (h : Mirrors metadataTable (call :: past) t)
    (hnames : (call.tables.map Table.name).Nodup)
    (hapart : ∀ u ∈ call.tables, u.name ≠ metadataTable) {u : Table} (hu : u ∈ call.tables) :
    t.catalog.Shows u := by
  rw [Catalog.shows_iff, h.views u.name (hapart u hu), lastDeclared, Table.find?_of_mem hnames hu]
  rfl

/-- A call for what the last call has declared fits, and leaves the catalog as it was. -/
lemma mirrors_of_alike (hpast : past ≠ [])
    (halike : List.Forall₂ Table.Alike (latestTables past) call.tables)
    (hcatalog : t.catalog = s.catalog.exec (Migrator.metadataStatement metadataTable).text)
    (hs : s.catalog.From schema) (hfit : AllFit metadataTable past)
    (hmirror : Mirrors metadataTable past s) :
    call.Fits metadataTable past ∧ Mirrors metadataTable (call :: past) t := by
  obtain ⟨-, hmeta, hother⟩ :=
    Catalog.exec_createTable (Ddl.read?_metadataStatement metadataTable) hs
  cases past with
  | nil => exact absurd rfl hpast
  | cons last past =>
    refine ⟨⟨fun u hu => ?_, fun u hu hnew => ?_⟩, ⟨fun text htext => ?_, fun n hn => ?_⟩⟩
    · obtain ⟨v, hv, hvu⟩ := Table.exists_alike halike hu
      rw [← hvu.name]
      exact hfit.1.apart v hv
    · obtain ⟨v, hv, hvu⟩ := Table.exists_alike halike hu
      exact absurd hvu.name (hnew v hv)
    · rw [hcatalog, hmeta] at htext
      exact hmirror.metadata_of_or htext
    · rw [hcatalog, hother n hn, hmirror.views n hn]
      rcases Table.find?_alike halike n with ⟨hv, hu⟩ | ⟨v, u, hv, hu, hvu⟩
      · rw [lastDeclared, lastDeclared, hu]
        exact congrArg Catalog.viewOf (by rw [Option.none_or]; rfl)
      · have hv' : last.tables.find? (fun t => t.name = n) = some v := hv
        rw [lastDeclared, lastDeclared, hu, hv', Option.some_or, Option.some_or]
        simp only [Catalog.viewOf, hvu.create, hvu.indexEntries_eq]

lemma createText_ne_metadataStatement (name table : String) (columns : List Column) :
    Table.createText name columns ≠ (Migrator.metadataStatement table).text := by
  intro h
  have hlist := congrArg String.toList h
  rw [Table.toList_createText] at hlist
  simp only [Migrator.metadataStatement, Store.Statement.text, String.toList_append,
    List.append_assoc] at hlist
  have hhead : some 'C' = some '\n' := congrArg List.head? hlist
  cases hhead

/-- A call that fits leaves a catalog that shows all tables. -/
lemma mirrors_of_work {ws : List Migration.Work}
    (hws : List.Forall₂ (fun t w => Catalog.Acts schema t.name w.statements
      (Catalog.bring (latestTables past) t)) call.tables ws)
    (hcatalog : t.catalog = (s.catalog.exec (Migrator.metadataStatement metadataTable).text).execAll
      (ws.flatMap Migration.Work.statements))
    (hnames : (call.tables.map Table.name).Nodup) (hs : s.catalog.From schema)
    (hmirror : Mirrors metadataTable past s) (hfits : call.Fits metadataTable past) :
    Mirrors metadataTable (call :: past) t := by
  obtain ⟨hfrom, hmeta, hother⟩ :=
    Catalog.exec_createTable (Ddl.read?_metadataStatement metadataTable) hs
  obtain ⟨-, hwork, hrest⟩ := Catalog.execAll_work hws hnames hfrom
  rw [← hcatalog] at hwork hrest
  refine ⟨fun text htext => ?_, fun n hn => ?_⟩
  · have hview := congrArg View.text (hrest metadataTable hfits.apart)
    simp only [Catalog.view] at hview
    rw [hview, hmeta] at htext
    exact hmirror.metadata_of_or htext
  · rw [lastDeclared]
    cases hfind : call.tables.find? (fun t => t.name = n) with
    | some u =>
      have hu : u ∈ call.tables := List.mem_of_find?_eq_some hfind
      obtain rfl : u.name = n := by simpa using List.find?_some hfind
      rw [hwork u hu, hother _ hn, hmirror.views _ hn]
      exact (Catalog.bring_lastDeclared past u).2 (hfits.returning u hu)
    | none =>
      have hnone : ∀ u ∈ call.tables, u.name ≠ n := by simpa using hfind
      rw [hrest n hnone, hother n hn, hmirror.views n hn, Option.none_or]

/-- A call after which all declared tables are there does fit. -/
lemma fits_of_shows {ws : List Migration.Work}
    (hws : List.Forall₂ (fun t w => Catalog.Acts schema t.name w.statements
      (Catalog.bring (latestTables past) t)) call.tables ws)
    (hcatalog : t.catalog = (s.catalog.exec (Migrator.metadataStatement metadataTable).text).execAll
      (ws.flatMap Migration.Work.statements))
    (hdecl : Table.Declarable call.tables) (hs : s.catalog.From schema)
    (hfit : AllFit metadataTable past) (hmirror : Mirrors metadataTable past s)
    (hshows : ∀ u ∈ call.tables, t.catalog.Shows u) : call.Fits metadataTable past := by
  obtain ⟨hfrom, hmeta, hother⟩ :=
    Catalog.exec_createTable (Ddl.read?_metadataStatement metadataTable) hs
  obtain ⟨-, hwork, -⟩ := Catalog.execAll_work hws hdecl.names hfrom
  rw [← hcatalog] at hwork
  have hlatest : ∀ u ∈ latestTables past, u.name ≠ metadataTable := by
    cases past with
    | nil => exact nofun
    | cons last past => exact hfit.1.apart
  have hview : ∀ u ∈ call.tables, _ := fun u hu => (hwork u hu).symm.trans
    (Catalog.shows_iff.1 (hshows u hu))
  have hapart : ∀ u ∈ call.tables, u.name ≠ metadataTable := by
    rintro u hu hname
    -- the name is taken by the table of metadata
    have hfind : (latestTables past).find? (fun v => v.name = u.name) = none := by
      rw [List.find?_eq_none]
      intro v hv
      simpa [hname] using hlatest v hv
    have htext := congrArg View.text (hview u hu)
    rw [Catalog.bring, hfind, hname] at htext
    simp only [Catalog.view, Catalog.viewOf, hmeta, Option.or_assoc, Option.some_or] at htext
    have hsame := hmirror.metadata_of_or htext
    rw [(hdecl.built u hu).createStatement_eq] at hsame
    exact createText_ne_metadataStatement _ _ _ hsame
  refine ⟨hapart, fun u hu => ?_⟩
  have hu' := hview u hu
  rw [hother _ (hapart u hu), hmirror.views _ (hapart u hu)] at hu'
  exact (Catalog.bring_lastDeclared past u).1 hu'

/-- **One call on a catalog that shows all tables**: the declared tables are there afterwards
exactly if the call fits those before it, and if so, the catalog still shows all tables. -/
theorem shows_of_outcome (h : Outcome metadataTable schema past call s t)
    (hdistinct : Call.Distinct schema (call :: past)) (hs : s.catalog.From schema)
    (hfit : AllFit metadataTable past) (hmirror : Mirrors metadataTable past s) :
    ((∀ u ∈ call.tables, t.catalog.Shows u) ↔ call.Fits metadataTable past) ∧
      (call.Fits metadataTable past → Mirrors metadataTable (call :: past) t) := by
  have hdecl : Table.Declarable call.tables := hdistinct.declarable call List.mem_cons_self
  rcases h with ⟨hpast, halike, hcatalog⟩ | ⟨ws, hws, hcatalog⟩
  · obtain ⟨hfits, hmirror'⟩ := mirrors_of_alike hpast halike hcatalog hs hfit hmirror
    exact ⟨iff_of_true (fun u hu => hmirror'.shows hdecl.names hfits.apart hu) hfits,
      fun _ => hmirror'⟩
  · have hmirrors := mirrors_of_work hws hcatalog hdecl.names hs hmirror
    refine ⟨⟨fits_of_shows hws hcatalog hdecl hs hfit hmirror, fun hfits u hu => ?_⟩, hmirrors⟩
    exact (hmirrors hfits).shows hdecl.names hfits.apart hu

end Outcome

/-! ### Histories -/

section History

variable {σ : Type} {metadataTable : String} {schema : List Table} {run : List (Call × Store)}

lemma latestStore_holds : Holds schema [] {} where
  told := ⟨{}, Store.told_of_empty rfl, rfl, List.Perm.nil, List.Perm.nil⟩
  indexes := nofun

lemma latestStore_mirrors : Mirrors metadataTable [] {} where
  metadata := nofun
  views := fun n _ => by ext e <;> simp [Store.catalog, Catalog.view, Catalog.viewOf, lastDeclared]

/-- What a history has led to, by induction on its calls. -/
theorem History.holds (h : History σ metadataTable run)
    (hdistinct : Call.Distinct schema (run.map Prod.fst)) :
    Holds schema (run.map Prod.fst) (latestStore run) ∧
      (AllFit metadataTable (run.map Prod.fst) →
        Mirrors metadataTable (run.map Prod.fst) (latestStore run)) ∧
      (∀ q ∈ run, ∃ p, q.2.told = .ok p ∧ p.Tells (.text q.1.hash) q.1.tables) ∧
      ((∀ q ∈ run, ∀ t ∈ q.1.tables, q.2.catalog.Shows t) ↔
        AllFit metadataTable (run.map Prod.fst)) := by
  induction h with
  | start =>
    exact ⟨latestStore_holds, fun _ => latestStore_mirrors, nofun, iff_of_true nofun trivial⟩
  | @step past call now c d r _ hscript hmetadata happlied hrun ih =>
    rw [List.map_cons] at hdistinct ⊢
    obtain ⟨hholds, hmirrors, htolds, hiff⟩ := ih hdistinct.tail
    obtain ⟨htold, houtcome⟩ := outcome_of_run hdistinct hholds hscript hmetadata happlied hrun
    have hnames := (hdistinct.declarable call List.mem_cons_self).names
    refine ⟨⟨htold, indexes_of_outcome houtcome hnames hholds.indexes⟩, ?_,
      List.forall_mem_cons.2 ⟨htold, htolds⟩, ?_⟩
    · rintro ⟨hfits, hfit⟩
      exact (shows_of_outcome houtcome hdistinct hholds.indexes hfit (hmirrors hfit)).2 hfits
    · rw [List.forall_mem_cons]
      constructor
      · rintro ⟨hshows, hpast⟩
        have hfit := hiff.1 hpast
        exact ⟨(shows_of_outcome houtcome hdistinct hholds.indexes hfit (hmirrors hfit)).1.1 hshows,
          hfit⟩
      · rintro ⟨hfits, hfit⟩
        exact ⟨(shows_of_outcome houtcome hdistinct hholds.indexes hfit (hmirrors hfit)).1.2 hfits,
          hiff.2 hfit⟩

/-- **After every migration of a history the metadata tell what was declared**, and the catalog
shows it, too, after every migration, exactly if every call fits those before it: no table has the
name of the table of metadata, and a table that comes back after it had left the declaration has the
form that it had, with no index less. -/
theorem converges_iff (h : History σ metadataTable run)
    (hdistinct : Call.Distinct schema (run.map Prod.fst)) :
    (∀ q ∈ run, ∃ p, q.2.told = .ok p ∧ p.Tells (.text q.1.hash) q.1.tables) ∧
      ((∀ q ∈ run, ∀ t ∈ q.1.tables, q.2.catalog.Shows t) ↔
        AllFit metadataTable (run.map Prod.fst)) :=
  (h.holds hdistinct).2.2

end History

/-! ### Calls that go through -/

/-- A call that may drop tables can plan the work on each of them. -/
lemma ready_of_destructive {schema : List Table} {past : List Call} {call : Call} {p : Persisted}
    {metadataTable : String} {now : Moment} (hdistinct : Call.Distinct schema (call :: past))
    (hdestructive : call.destructive = true)
    (htells : p.Tells (toldHash past) (latestTables past)) :
    (call.migrator metadataTable now).Ready p where
  plans := by
    intro t ht
    have hdecl : Table.Declarable call.tables := hdistinct.declarable call List.mem_cons_self
    have hlatest := hdistinct.latest
    cases hfind : (latestTables past).find? (fun u => u.name = t.name) with
    | none =>
      obtain ⟨w, hw, hstop, -⟩ := Migration.plan_new htells (by simpa using hfind)
        (call.migrator metadataTable now)
      exact ⟨w, hw, hstop⟩
    | some u =>
      have hu : u ∈ latestTables past := List.mem_of_find?_eq_some hfind
      have hname : u.name = t.name := by simpa using List.find?_some hfind
      unfold Migrator.Plans
      rw [Migration.plan_told htells hlatest.1 hu hname]
      split
      · obtain ⟨w, own, hkept, hstop, -⟩ := Migration.keptWork_eq htells hlatest.1
          hdistinct.owners hlatest.2 (hdistinct.declared call List.mem_cons_self t ht)
          (hdecl.built t ht) (hdecl.nodup_indexEntries ht) hu hname
        rw [hkept]
        exact ⟨w, rfl, hstop⟩
      · have htruthy : (call.migrator metadataTable now).destructive.isTruthy = true :=
          hdestructive
        rw [htruthy, if_pos rfl]
        exact ⟨_, rfl, rfl⟩
  rows := ⟨_, Migration.metadataRows_eq (hdistinct.declarable call List.mem_cons_self).built _⟩
  found := by
    rw [htells.hash]
    cases past with
    | nil => exact ⟨_, Migrator.brief_text rfl⟩
    | cons last past =>
      rw [toldHash]
      split
      · exact ⟨_, Migrator.brief_text rfl⟩
      · exact ⟨_, Migrator.brief_text rfl⟩

/-- **A history goes on** with any call that may drop tables. -/
theorem History.exists_step {σ : Type} [Inhabited σ] {metadataTable : String} {schema : List Table}
    {past : List (Call × Store)} {call : Call} (h : History σ metadataTable past)
    (hdistinct : Call.Distinct schema (call :: past.map Prod.fst))
    (hdestructive : call.destructive = true) :
    ∃ s, History σ metadataTable ((call, s) :: past) := by
  obtain ⟨⟨⟨p, htold, htells⟩, -⟩, -⟩ := h.holds hdistinct.tail
  let c : Course σ :=
    { store := { metadata := (latestStore past).metadata, applied := (latestStore past).applied }
      work := default }
  obtain ⟨r, d, hrun⟩ : ∃ r d, (call.migrator metadataTable ⟨"", ""⟩).migrate c = (.ok r, d) :=
    Migrator.migrate_of_quiet (Migrator.brief_text rfl) rfl rfl htold fun _ =>
      ready_of_destructive hdistinct hdestructive htells
  exact ⟨d.store, h.step (Store.onlyFails_of_quiet rfl) rfl rfl hrun⟩

/-! ### A table that comes back -/

/-- A call for one table with one column of a kind. -/
def numberCall (kind : StorageKind) : Call where
  tables := [Table.ofColumns "a" "A"
    [{ name := "x", columnName := "x", kind := kind, nullable := false, indexed := false,
       primaryKey := false, autoId := false, onConflict := .none }]]
  destructive := true

/-- A table is declared, left out, and declared again in another form. -/
def returning : List Call := [numberCall .long, ⟨[], true⟩, numberCall .int]

lemma distinct_returning : Call.Distinct (returning.flatMap Call.tables) returning where
  declared := fun c hc t ht => List.mem_flatMap.2 ⟨c, hc, ht⟩
  declarable := by
    have hnumber : ∀ kind, Table.Declarable (numberCall kind).tables := fun kind =>
      { built := by
          intro t ht
          obtain rfl := List.mem_singleton.1 ht
          exact Table.isBuilt_ofColumns (by decide) (by decide) _
        names := List.nodup_singleton _
        indexes := List.nodup_nil }
    have hnone : Table.Declarable [] := ⟨nofun, List.nodup_nil, List.nodup_nil⟩
    intro c hc
    simp only [returning, List.mem_cons, List.not_mem_nil, or_false] at hc
    rcases hc with rfl | rfl | rfl
    · exact hnumber _
    · exact hnone
    · exact hnumber _
  names := by
    have hnone : ∀ t ∈ returning.flatMap Call.tables, t.indexEntries = [] := by decide
    intro t ht u _ e he
    rw [hnone t ht] at he
    cases he
  owners := by
    have hnone : ∀ t ∈ returning.flatMap Call.tables, t.indexEntries = [] := by decide
    intro t _ u hu _ e he
    rw [hnone u hu] at he
    cases he
  hashes := by
    have hnodup : (returning.map Call.hash).Nodup := by decide +kernel
    intro c hc c' hc' h
    rw [List.inj_on_of_nodup_map hnodup hc hc' h]

/-- The table that comes back in another form is not there in that form, though all calls end
well. -/
theorem converges_iff_returning : ∃ run : List (Call × Store), History Unit "schema_metadata" run ∧
    run.map Prod.fst = returning ∧ Call.Distinct (returning.flatMap Call.tables) returning ∧
      ¬ ∀ q ∈ run, ∀ t ∈ q.1.tables, q.2.catalog.Shows t := by
  have hlong := distinct_returning
  have h₀ : History Unit "schema_metadata" [] := History.start
  obtain ⟨s₁, h₁⟩ := h₀.exists_step hlong.tail.tail rfl
  obtain ⟨s₂, h₂⟩ := h₁.exists_step hlong.tail rfl
  obtain ⟨s₃, h₃⟩ := h₂.exists_step hlong rfl
  refine ⟨_, h₃, rfl, hlong, fun hshows => ?_⟩
  have hfit := ((converges_iff h₃ hlong).2.1 hshows).1
  have htext := (hfit.returning _ List.mem_cons_self nofun _ rfl).1
  revert htext
  decide

end PgSchema
