import PgSchema.Proofs.Migration.Drops
import PgSchema.Proofs.Migration.Progress

/-!
Migrations that would lose rows.

A migration that may not drop tables never does (`adds_migrate`), and is refused exactly if there is
something to do and a table is known in another form.  One that may drop tables is never refused
(`failsAs_migrate`), and drops exactly those tables that are known in another form (`drops_ran`).
-/

namespace PgSchema

open Store (Event)

/-- A refusal to lose the rows of a table. -/
def Failure.isViolation : Failure → Bool
  | violation .. => true
  | _ => false

namespace Migration.Migrator

open PgSchema.Action (Adds FailsAs bind_apply_ok bind_apply_error check_eq_ok)

variable {σ : Type} {m : Migrator} {table : String} {p : Persisted}

/-! ### Statements that drop no table -/

section Adds

lemma drops_lockStatement (params : Json) :
    (Event.execute lockStatement.text params).drops = false := rfl

lemma drops_metadataStatement (table : String) (params : Json) :
    (Event.execute (metadataStatement table).text params).drops = false := by
  obtain ⟨rest, hrest⟩ : ∃ rest : List Char, (metadataStatement table).text.toList =
      "\n            CREATE TABLE IF NOT EXISTS ".toList ++ rest := by
    simp only [metadataStatement, Store.Statement.text, String.toList_append, List.append_assoc]
    exact ⟨_, rfl⟩
  exact Event.drops_of_front rfl hrest fun _ => rfl

lemma drops_readStatement (table : String) (params : Json) :
    (Event.execute (readStatement table).text params).drops = false := by
  obtain ⟨rest, hrest⟩ : ∃ rest : List Char,
      (readStatement table).text.toList = Store.metadataQuery.toList ++ rest := by
    simp only [readStatement, Store.Statement.text, String.toList_append, List.append_assoc]
    exact ⟨_, rfl⟩
  exact Event.drops_of_front rfl hrest fun _ => rfl

lemma drops_clearStatement (table : String) (params : Json) :
    (Event.execute (clearStatement table).text params).drops = false :=
  Event.drops_of_front rfl String.toList_append fun _ => rfl

lemma drops_insertStatement (table : String) (rows : List Json) :
    (Event.executeMany (insertStatement table) rows).drops = false := by
  obtain ⟨rest, hrest⟩ : ∃ rest : List Char,
      (insertStatement table).toList = "INSERT INTO ".toList ++ rest := by
    simp only [insertStatement, String.toList_append, List.append_assoc]
    exact ⟨_, rfl⟩
  exact Event.drops_of_front rfl hrest fun _ => rfl

/-- **A migration that may not drop tables issues no statement that does**, however it ends. -/
lemma adds_migrate (hd : m.destructive.isTruthy = false) (hb : ∀ t ∈ m.tables, t.IsBuilt) :
    (m.migrate : Action σ Result).Adds fun e => e.drops = false := by
  refine Through.migrate Adds.through m (fun _ => Adds.run (drops_lockStatement _))
    (fun _ => Adds.run (drops_metadataStatement _ _)) (fun _ => Adds.run (drops_readStatement _ _))
    (fun _ => Adds.run (drops_clearStatement _ _))
    (fun _ _ => Adds.insertRows (drops_insertStatement _ _)) (fun p => ?_) fun h => ?_
  · refine Through.migrateTables Adds.through (fun t ht w hw s hs => ?_) fun _ _ _ _ => ?_
    · exact Adds.run (spares_of_plan hd (hb t ht) hw _ (List.mem_map.2 ⟨s, hs, rfl⟩))
    · exact Adds.of_store fun _ => rfl
  · exact h.transaction (fun _ => rfl) (fun _ => rfl) fun _ _ => rfl

end Adds

/-! ### Failures that are no refusals -/

section Fails

lemma other_of_plan (hd : m.destructive.isTruthy = true) {t : Table} {e : Failure}
    (h : m.plan p t = .error e) : e.isViolation = false := by
  unfold plan tableWork at h
  rw [hd] at h
  split at h
  · cases h
  · split at h
    · cases h
    · split at h
      · rcases hkept : keptWork p t with fault | w
        · rw [hkept] at h
          cases h
          rfl
        · rw [hkept] at h
          cases h
      · cases h

/-- **A migration that may drop tables is never refused**, whatever else makes it fail. -/
lemma failsAs_migrate (hd : m.destructive.isTruthy = true) :
    (m.migrate : Action σ Result).FailsAs fun e => e.isViolation = false := by
  have hfault : ∀ fault, (Failure.fault fault).isViolation = false := fun _ => rfl
  have hrun : ∀ statement params,
      (Action.run statement params : Action σ Store.Reply).FailsAs fun e => e.isViolation = false :=
    FailsAs.run hfault
  refine Through.migrate (FailsAs.through hfault) m (fun _ => hrun _ _) (fun _ => hrun _ _)
    (fun _ => hrun _ _) (fun _ => hrun _ _) (fun _ _ => FailsAs.insertRows _ _) (fun p => ?_)
    FailsAs.transaction
  exact Through.migrateTables (FailsAs.through hfault) (fun _ _ _ _ _ _ => hrun _ _)
    fun _ _ _ he => FailsAs.fail (other_of_plan hd he)

end Fails

/-! ### Refused migrations -/

section Quiet

variable {c : Course σ} {t : Table} {e : Failure}

lemma migrateTable_refused (he : tableWork m.hash m.destructive.isTruthy p t = .error e)
    (c : Course σ) : ∃ d, m.migrateTable p t c = (.error e, d) := by
  refine ⟨(m.migrateTable p t c).2, Prod.ext ?_ rfl⟩
  unfold migrateTable
  rw [he]
  rfl

/-- The work stops at the first table for which it is refused. -/
lemma migrateTables_refused {before after : List Table}
    (htables : m.tables = before ++ t :: after) (hbefore : ∀ u ∈ before, ∃ w, m.Plans p u w)
    (he : m.plan p t = .error e) (hc : c.store.Quiet) :
    ∃ d, m.migrateTables p c = (.error e, d) := by
  unfold migrateTables
  unfold plan at he
  cases hp : p.isEmpty with
  | true =>
    rw [hp] at he
    cases he
  | false =>
    rw [hp] at he
    rw [if_neg (by decide), htables]
    refine Action.each_error_of_quiet (fun u hu c hc => ?_)
      (fun c _ => migrateTable_refused he c) hc
    obtain ⟨w, hw, hstop⟩ := hbefore u hu
    rw [plan, hp] at hw
    exact migrateTable_of_quiet hw hstop hc

/-- **A migration is refused** at the first table for which the work is. -/
lemma migrate_refused {before after : List Table} (ht : m.metadataTable = .text table)
    (hs : c.store.script = []) (htold : c.store.told = .ok p)
    (hdiffer : p.hash.same m.hash = false) (htables : m.tables = before ++ t :: after)
    (hbefore : ∀ u ∈ before, ∃ w, m.Plans p u w) (he : m.plan p t = .error e) :
    ∃ d, m.migrate c = (.error e, d) := by
  have hquiet : c.store.Quiet := ⟨hs, Store.ordered_of_told htold⟩
  obtain ⟨b, hb, hfst, -⟩ :=
    Action.within_apply .operation "migrate" (Action.transaction m.steps) c
  obtain ⟨d, hd⟩ : ∃ d, Action.transaction m.steps b = (.error e, d) := by
    refine Action.transaction_error_of_quiet (hb ▸ hquiet) fun b' hb' hmeta => ?_
    rw [hb] at hmeta
    obtain ⟨lock, d', hsteps, hd'⟩ :=
      steps_of_told ht hb' ((Store.told_congr hmeta).trans htold)
    obtain ⟨d'', hd''⟩ := migrateTables_refused htables hbefore he hd'
    refine ⟨d'', ?_⟩
    rw [hsteps, proceed, hdiffer]
    exact bind_apply_error hd'' _
  rw [hd] at hfst
  have hfail : m.transacted c = (.error e, (m.transacted c).2) := Prod.ext hfst rfl
  rw [migrate_eq]
  exact ⟨_, bind_apply_error hfail _⟩

end Quiet

/-! ### Tables that are dropped -/

lemma drops_opening (table : String) : (opening table).filter Event.drops = [] := by
  have hlock : (lockEvent table).drops = false := drops_lockStatement _
  rw [opening, List.filter_cons_of_neg (by simp [hlock]),
    List.filter_cons_of_neg (by simpa using drops_metadataStatement table .null),
    List.filter_cons_of_neg (by simpa using drops_readStatement table .null), List.filter_nil]

lemma drops_saving (table : String) (rows : List Row) :
    (saving table rows).filter Event.drops = [] := by
  rw [saving, List.filter_cons_of_neg (by simpa using drops_clearStatement table .null),
    List.filter_cons_of_neg (by simpa using drops_insertStatement table _), List.filter_nil]

lemma drops_recreateWork {t : Table} (hb : t.IsBuilt) :
    (recreateWork t).events.filter Event.drops = [t.dropEvent] := by
  have hrest : (t.statements.map (Event.execute · .null)).filter Event.drops = [] := by
    refine List.filter_eq_nil_iff.2 fun e he => ?_
    obtain ⟨s, hs, rfl⟩ := List.mem_map.1 he
    simp [hb.drops_statements hs]
  change (t.dropEvent :: t.statements.map (Event.execute · .null)).filter Event.drops = _
  rw [List.filter_cons_of_pos (Event.drops_dropEvent t), hrest]

/-- **The tables that are dropped** by planned work are those of which another text is told. -/
lemma drops_works {tables : List Table} {ws : List Work} (hp : p.Textual)
    (hb : ∀ t ∈ tables, t.IsBuilt) (hws : List.Forall₂ (m.Plans p) tables ws) :
    (ws.flatMap Work.events).filter Event.drops =
      (tables.filter p.differs).map Table.dropEvent := by
  induction hws with
  | nil => rfl
  | @cons t w tables ws hplan _ ih =>
    obtain ⟨ht, hrest⟩ := List.forall_mem_cons.1 hb
    obtain ⟨hsame, hother⟩ := plan_of_textual ht hp m
    rw [List.flatMap_cons, List.filter_append, ih hrest]
    cases hdiffers : p.differs t with
    | false =>
      obtain ⟨w', ⟨hw', -⟩, hspares⟩ := hsame hdiffers
      rw [hplan.1] at hw'
      cases hw'
      rw [List.filter_cons_of_neg (by simp [hdiffers]),
        List.filter_eq_nil_iff.2 fun e he => by simp [hspares e he], List.nil_append]
    | true =>
      have hw := hother hdiffers
      rw [hplan.1] at hw
      split at hw
      · cases hw
        rw [List.filter_cons_of_pos hdiffers, List.map_cons, drops_recreateWork ht]
        rfl
      · cases hw

/-- **The tables that a migration drops** that goes through. -/
lemma drops_ran {before after : List Json} {steps : List Step} {done : List Event}
    (hp : p.Textual) (hb : ∀ t ∈ m.tables, t.IsBuilt)
    (h : m.Ran table p before steps done after) :
    done.filter Event.drops = if p.hash.same m.hash then []
      else (m.tables.filter p.differs).map Table.dropEvent := by
  cases h with
  | unchanged hsame => rw [hsame, if_pos rfl, drops_opening]
  | changed hdiffer hws _ _ =>
    rw [hdiffer, if_neg (by decide), List.filter_append, List.filter_append, drops_opening,
      drops_works hp hb hws, drops_saving, List.nil_append, List.append_nil]

/-! ### Rows are kept -/

lemma exists_cells_of_textual {rows : List Json} (hrows : ∀ row ∈ rows, Store.IsTextual row) :
    ∃ cells : List Cells, rows = cells.map Cells.toJson := by
  induction rows with
  | nil => exact ⟨[], rfl⟩
  | cons row rows ih =>
    obtain ⟨⟨kind, name, content, rfl⟩, hrest⟩ := List.forall_mem_cons.1 hrows
    obtain ⟨cells, rfl⟩ := ih hrest
    exact ⟨(kind, name, .text content) :: cells, rfl⟩

lemma told_of_textual {s : Store} (hs : ∀ row ∈ s.metadata, Store.IsTextual row) :
    ∃ p, s.told = .ok p ∧ p.Textual := by
  obtain ⟨cells, hcells⟩ := exists_cells_of_textual hs
  obtain ⟨sorted, hperm, hsorted⟩ := sortedMetadata_cells hcells
  rw [Store.told, hsorted]
  refine Persisted.textual_ofRows fun row hrow => ?_
  rw [hcells] at hs
  exact hs row ((hperm.map Cells.toJson).subset hrow)

/-- A migration finds all ready that need not refuse any work. -/
lemma ready_of_textual (hb : ∀ t ∈ m.tables, t.IsBuilt) (hp : p.Textual)
    (h : m.destructive.isTruthy = true ∨ ∀ t ∈ m.tables, p.differs t = false) : m.Ready p where
  plans := by
    intro t ht
    obtain ⟨hsame, hother⟩ := plan_of_textual (hb t ht) hp m
    cases hdiffers : p.differs t with
    | false =>
      obtain ⟨w, hw, -⟩ := hsame hdiffers
      exact ⟨w, hw⟩
    | true =>
      have hd : m.destructive.isTruthy = true :=
        h.resolve_right fun hall => by simp [hall t ht] at hdiffers
      have hw := hother hdiffers
      rw [hd, if_pos rfl] at hw
      exact ⟨recreateWork t, hw, rfl⟩
  rows := ⟨_, metadataRows_eq hb m.hash⟩
  found := brief_of_textual hp.hash

section Outcome

variable {c : Course σ} {hash : String} (ht : m.metadataTable = .text table)
  (hh : m.hash = .text hash) (hs : c.store.script = []) (htold : c.store.told = .ok p)
  (hp : p.Textual) (hb : ∀ t ∈ m.tables, t.IsBuilt)
include ht hs htold hp hb

/-- A migration that may not drop tables is refused at the first table of which another text is
told. -/
lemma migrate_eq_refusal (hd : m.destructive.isTruthy = false)
    (hdiffer : p.hash.same m.hash = false) {t : Table} (hfirst : m.tables.find? p.differs = some t) :
    (m.migrate c).1 = .error (refusal m.hash p t) := by
  obtain ⟨hdiffers, before, after, htables, hbefore⟩ := List.find?_eq_some_iff_append.1 hfirst
  have hplan := (plan_of_textual (hb t (List.mem_of_find?_eq_some hfirst)) hp m).2 hdiffers
  rw [hd, if_neg Bool.false_ne_true] at hplan
  have hothers : ∀ u ∈ before, ∃ w, m.Plans p u w := by
    intro u hu
    obtain ⟨w, hw, -⟩ := (plan_of_textual (hb u (by simp [htables, hu])) hp m).1
      (by simpa using hbefore u hu)
    exact ⟨w, hw⟩
  obtain ⟨d, hmigrate⟩ := migrate_refused ht hs htold hdiffer htables hothers hplan
  rw [hmigrate]

include hh

/-- A migration goes through unless work is to be refused. -/
lemma migrate_of_textual (h : p.hash.same m.hash = true ∨ m.destructive.isTruthy = true ∨
    ∀ t ∈ m.tables, p.differs t = false) : ∃ r d, m.migrate c = (.ok r, d) := by
  refine migrate_of_quiet (brief_text hh) ht hs htold fun hdiffer => ready_of_textual hb hp ?_
  exact h.resolve_left (by simp [hdiffer])

/-- A migration that may not drop tables fails at nothing but a table of which another text is
told. -/
lemma refusal_of_error (hd : m.destructive.isTruthy = false) {e : Failure}
    (he : (m.migrate c).1 = .error e) : p.hash.same m.hash = false ∧
      ∃ t, m.tables.find? p.differs = some t ∧ e = refusal m.hash p t := by
  have hgoes : ¬ (p.hash.same m.hash = true ∨ m.destructive.isTruthy = true ∨
      ∀ t ∈ m.tables, p.differs t = false) := by
    intro h
    obtain ⟨r, d, hr⟩ := migrate_of_textual ht hh hs htold hp hb h
    rw [hr] at he
    cases he
  rw [not_or, not_or, Bool.not_eq_true] at hgoes
  obtain ⟨hdiffer, -, hall⟩ := hgoes
  refine ⟨hdiffer, ?_⟩
  cases hfirst : m.tables.find? p.differs with
  | none =>
    exact absurd (fun t ht => Bool.eq_false_iff.2 (List.find?_eq_none.1 hfirst t ht)) hall
  | some t =>
    rw [migrate_eq_refusal ht hs htold hp hb hd hdiffer hfirst] at he
    cases he
    exact ⟨t, rfl, rfl⟩

/-- A migration that may drop tables goes through, and drops those of which another text is told. -/
lemma drops_migrate (hd : m.destructive.isTruthy = true) : ∃ r d new, m.migrate c = (.ok r, d) ∧
    d.store.events = new ++ c.store.events ∧
    new.reverse.filter Event.drops = if p.hash.same m.hash then []
      else (m.tables.filter p.differs).map Table.dropEvent := by
  obtain ⟨r, d, hr⟩ := migrate_of_textual ht hh hs htold hp hb (Or.inr (Or.inl hd))
  obtain ⟨table', p', done, rows, -, htold', -, hran, -, -, -, hevents⟩ :=
    migrate_eq_ok (Store.onlyFails_of_quiet hs) hr
  rw [htold] at htold'
  cases htold'
  refine ⟨r, d, .commit c.store.depth :: (done.reverse ++ [.begin c.store.depth]), hr, ?_, ?_⟩
  · rw [hevents, List.cons_append, List.append_assoc]
    rfl
  · have hdrops := drops_ran hp hb hran
    simpa [Event.drops, Event.text?] using hdrops

end Outcome

/-- **No rows are lost without leave.**

A migration that may not drop tables issues no statement that drops one, whatever the database
answers.  In a database that fails no statement, it is refused exactly if the declared fingerprint
is not the one that is found and another text is told of a declared table than the declared one; the
refusal names the first such table, with both fingerprints.

A migration that may drop tables is never refused.  In a database that fails no statement, it goes
through, and drops exactly the declared tables of which another text is told, in their order, and
none of them if it finds the declared fingerprint. -/
theorem migrate_keeps_rows (m : Migrator) (c : Course σ) (hb : ∀ t ∈ m.tables, t.IsBuilt) :
    (m.destructive.isTruthy = false → ∃ new,
      (m.migrate c).2.store.events = new ++ c.store.events ∧ ∀ e ∈ new, e.drops = false) ∧
    (m.destructive.isTruthy = true → c.store.script.FailsAs (fun e => e.isViolation = false) →
      ∀ e, (m.migrate c).1 = .error e → e.isViolation = false) ∧
    ∀ table hash, m.metadataTable = .text table → m.hash = .text hash → c.store.script = [] →
      (∀ row ∈ c.store.metadata, Store.IsTextual row) → ∃ p, c.store.told = .ok p ∧
        (m.destructive.isTruthy = false →
          ((∃ e, (m.migrate c).1 = .error e ∧ e.isViolation = true) ↔
            p.hash.same m.hash = false ∧ ∃ t ∈ m.tables, p.differs t = true) ∧
          ∀ e, (m.migrate c).1 = .error e → ∃ t message, m.tables.find? p.differs = some t ∧
            e = .violation message (some t.name) m.hash p.hash) ∧
        (m.destructive.isTruthy = true → ∃ r d new, m.migrate c = (.ok r, d) ∧
          d.store.events = new ++ c.store.events ∧
          new.reverse.filter Event.drops = if p.hash.same m.hash then []
            else (m.tables.filter p.differs).map Table.dropEvent) := by
  refine ⟨fun hd => adds_migrate hd hb c, fun hd hs e he => ?_, ?_⟩
  · have hfails := (failsAs_migrate hd c hs).2
    rw [he] at hfails
    exact hfails
  intro table hash ht hh hs hrows
  obtain ⟨p, htold, hp⟩ := told_of_textual hrows
  refine ⟨p, htold, fun hd => ⟨⟨?_, ?_⟩, fun e he => ?_⟩, drops_migrate ht hh hs htold hp hb⟩
  · rintro ⟨e, he, -⟩
    obtain ⟨hdiffer, t, hfirst, -⟩ := refusal_of_error ht hh hs htold hp hb hd he
    exact ⟨hdiffer, t, List.mem_of_find?_eq_some hfirst, List.find?_some hfirst⟩
  · rintro ⟨hdiffer, t, htmem, hdiffers⟩
    obtain ⟨u, hfirst⟩ := Option.isSome_iff_exists.1
      (List.find?_isSome.2 ⟨t, htmem, hdiffers⟩ : (m.tables.find? p.differs).isSome)
    exact ⟨_, migrate_eq_refusal ht hs htold hp hb hd hdiffer hfirst, rfl⟩
  · obtain ⟨-, t, hfirst, rfl⟩ := refusal_of_error ht hh hs htold hp hb hd he
    exact ⟨t, _, hfirst, rfl⟩

lemma built_cautious : ∀ t ∈ cautious.tables, t.IsBuilt := by
  intro t ht
  obtain ⟨name, hname, rfl⟩ := List.mem_map.1 ht
  rcases List.mem_pair.1 hname with rfl | rfl
  · exact Table.isBuilt_ofColumns (by decide) (by decide) _
  · exact Table.isBuilt_ofColumns (by decide) (by decide) _

/-- Of two tables the second is known in another form.  Without leave the migration is refused at
it; with leave it is dropped, and the first table is not. -/
theorem migrate_keeps_rows_stale : ∃ p, stale.told = .ok p ∧
    (∃ (message : String) (d : Course Unit), cautious.migrate { store := stale, work := () } =
      (.error (.violation message (some "items") (.text "0f") .null), d)) ∧
    ∃ (r : Result) (d : Course Unit), { cautious with destructive := .bool true }.migrate
        { store := stale, work := () } = (.ok r, d) ∧
      d.store.events.reverse.filter Event.drops =
        [.execute "DROP TABLE IF EXISTS \"items\"" .null] := by
  have hrows : ∀ row ∈ stale.metadata, Store.IsTextual row := by
    intro row hrow
    obtain rfl := List.mem_singleton.1 hrow
    exact ⟨_, _, _, rfl⟩
  obtain ⟨-, -, hrefused⟩ :=
    migrate_keeps_rows cautious ({ store := stale, work := () } : Course Unit) built_cautious
  obtain ⟨p, htold, hkept, -⟩ := hrefused "schema_metadata" "0f" rfl rfl rfl hrows
  obtain ⟨hiff, hnamed⟩ := hkept rfl
  obtain ⟨-, -, hallowed⟩ := migrate_keeps_rows { cautious with destructive := .bool true }
    ({ store := stale, work := () } : Course Unit) built_cautious
  obtain ⟨q, hsame, -, hdropped⟩ := hallowed "schema_metadata" "0f" rfl rfl rfl hrows
  rw [told_stale] at htold hsame
  cases htold
  cases hsame
  refine ⟨_, told_stale, ?_, ?_⟩
  · obtain ⟨e, he, -⟩ := hiff.2 ⟨rfl, _, List.mem_of_getElem? (i := 1) rfl, rfl⟩
    obtain ⟨t, message, hfind, rfl⟩ := hnamed e he
    cases hfind
    rcases hr : cautious.migrate ({ store := stale, work := () } : Course Unit) with ⟨r, d⟩
    rw [hr] at he
    cases he
    exact ⟨message, d, rfl⟩
  · obtain ⟨r, d, new, hr, hevents, hdrops⟩ := hdropped rfl
    refine ⟨r, d, hr, ?_⟩
    rw [hevents, show ({ store := stale, work := () } : Course Unit).store.events = [] from rfl,
      List.append_nil, hdrops]
    rfl

end Migration.Migrator

end PgSchema
