import PgSchema.Proofs.Migration.Progress

/-!
Migrations that follow migrations.

What a migration has written is what the next one reads: the declared schema, and nothing else.  A
further migration to the same schema then finds its fingerprint and goes through without writing
anything (`migrate_round_trip`), and a migration tells that it has changed something exactly if it
has written metadata (`Ran.changed_iff`).
-/

namespace PgSchema

open Store (Event)

namespace Migration.Migrator

variable {σ : Type} {m : Migrator} {c : Course σ} {table : String} {p : Persisted}

/-! ### Changes -/

variable {before after : List Json} {steps : List Step} {done : List Event}

/-- **Something was done exactly if metadata were written**, which is if the fingerprint that was
found is another one. -/
theorem Ran.changed_iff (h : m.Ran table p before steps done after) :
    (steps.any (·.status = .success) = true ↔ p.hash.same m.hash = false) ∧
      ((∃ statement rows, Event.executeMany statement rows ∈ done) ↔
        p.hash.same m.hash = false) := by
  cases h with
  | unchanged hsame =>
    rw [hsame]
    refine ⟨by simp [unchangedStep], iff_of_false ?_ (by simp)⟩
    rintro ⟨statement, rows, hmem⟩
    simp [opening, lockEvent] at hmem
  | @changed hsame ws rows saved hws hrows hsaved =>
    rw [hsame]
    refine ⟨iff_of_true ?_ rfl, iff_of_true ⟨insertStatement table, rows.map Row.toJson, ?_⟩ rfl⟩
    · simp [hsaved]
    · exact List.mem_append_right _ (List.mem_append_right _ (List.mem_cons_of_mem _
        List.mem_cons_self))

/-- **What is told after a migration**, whether it has written metadata or not. -/
theorem Ran.told_after {s : Store} {h : String} (hran : m.Ran table p before steps done after)
    (hm : Table.Declarable m.tables) (hh : m.hash = .text h)
    (htold : ∀ s : Store, s.metadata = before → s.told = .ok p) (hs : s.metadata = after) :
    ∃ q, s.told = .ok q ∧ q.hash.same m.hash = true ∧
      (p.hash.same m.hash = false → q.Tells m.hash m.tables) := by
  cases hran with
  | unchanged hsame =>
    refine ⟨p, htold s hs, hsame, fun hne => ?_⟩
    rw [hsame] at hne
    cases hne
  | changed hsame hws hwritten hsaved =>
    rw [metadataRows_eq hm.built] at hwritten
    cases hwritten
    rw [toJson_declaredRows] at hs
    obtain ⟨q, hq, htells⟩ := told_of_declared hm hs
    refine ⟨q, hq, ?_, fun _ => htells⟩
    rw [htells.hash, hh, same_text, beq_self_eq_true]

/-- **A migration that finds its fingerprint** runs no statement but those that every migration
begins with, and tells of no change. -/
theorem migrate_of_same {d : Course σ} {r : Result} (hs : c.store.script.OnlyFails)
    (ht : m.metadataTable = .text table) (htold : c.store.told = .ok p)
    (hsame : p.hash.same m.hash = true) (hr : m.migrate c = (.ok r, d)) :
    r.steps = [unchangedStep (Lock.id (Lock.migrationKey table))] ∧ r.changed = false ∧
      d.store.metadata = c.store.metadata ∧
      d.store.applied = (opening table).reverse ++ c.store.applied ∧
      d.store.events = .commit c.store.depth :: ((opening table).reverse ++
        .begin c.store.depth :: c.store.events) := by
  obtain ⟨table', p', done, rows, ht', htold', -, hran, -, hrows, happlied, hevents⟩ :=
    migrate_eq_ok hs hr
  rw [ht] at ht'
  cases ht'
  rw [htold] at htold'
  cases htold'
  rw [Result.changed]
  generalize r.steps = steps at hran
  cases hran with
  | unchanged _ => exact ⟨rfl, by simp [unchangedStep], hrows, happlied, hevents⟩
  | changed hne _ _ _ =>
    rw [hsame] at hne
    cases hne

/-- **What a migration writes is what the next one reads.**  A migration that found another
fingerprint leaves metadata that tell the declared schema and nothing else.  After any migration, a
further one to the same schema goes through, and runs no statement but those that every migration
begins with.  And exactly those migrations tell of a change that have written metadata. -/
theorem migrate_round_trip {d : Course σ} {r : Result} {h : String}
    (hm : Table.Declarable m.tables) (hh : m.hash = .text h) (hs : c.store.script.OnlyFails)
    (hr : m.migrate c = (.ok r, d)) :
    ∃ table, m.metadataTable = .text table ∧
      (r.persisted.same m.hash = false → ∀ c' : Course σ, c'.store.script = [] →
        c'.store.metadata = d.store.metadata →
          ∃ p d', readPersisted table c' = (.ok p, d') ∧ p.Tells m.hash m.tables) ∧
      (∀ (m' : Migrator) (c' : Course σ), m'.tables = m.tables → m'.hash = m.hash →
        m'.metadataTable = m.metadataTable → c'.store.metadata = d.store.metadata →
          (c'.store.script = [] → ∃ r' d', m'.migrate c' = (.ok r', d')) ∧
          (c'.store.script.OnlyFails → ∀ r' d', m'.migrate c' = (.ok r', d') →
            r'.steps = [unchangedStep (Lock.id (Lock.migrationKey table))] ∧ r'.changed = false ∧
            d'.store.metadata = c'.store.metadata ∧
            d'.store.applied = (opening table).reverse ++ c'.store.applied ∧
            d'.store.events = .commit c'.store.depth :: ((opening table).reverse ++
              .begin c'.store.depth :: c'.store.events))) ∧
      ∃ new, d.store.events = new ++ c.store.events ∧
        (r.changed = true ↔ ∃ statement rows, Event.executeMany statement rows ∈ new) ∧
        (r.changed = true ↔ r.persisted.same m.hash = false) := by
  obtain ⟨table, p, done, rows, htable, htold, hp, hran, -, hrows, -, hevents⟩ :=
    migrate_eq_ok hs hr
  obtain ⟨q, htold', hsame, htells⟩ :=
    hran.told_after hm hh (fun s hs => (Store.told_congr hs).trans htold) hrows
  have htold_of : ∀ c' : Course σ, c'.store.metadata = d.store.metadata → c'.store.told = .ok q :=
    fun c' hc' => (Store.told_congr hc').trans htold'
  refine ⟨table, htable, ?_, ?_, ?_⟩
  · intro hne c' hs' hc'
    obtain ⟨d', hread, -⟩ := readPersisted_of_quiet table hs' (htold_of c' hc')
    exact ⟨q, d', hread, htells (hp ▸ hne)⟩
  · intro m' c' _ hhash htable' hc'
    rw [← hhash] at hsame
    refine ⟨fun hs' => ?_, fun hs' r' d' hr' => ?_⟩
    · refine migrate_of_quiet (brief_text (hhash.trans hh)) (htable'.trans htable) hs'
        (htold_of c' hc') fun hne => ?_
      rw [hsame] at hne
      cases hne
    · exact migrate_of_same hs' (htable'.trans htable) (htold_of c' hc') hsame hr'
  · refine ⟨.commit c.store.depth :: (done.reverse ++ [.begin c.store.depth]), ?_, ?_, ?_⟩
    · rw [hevents, List.cons_append, List.append_assoc]
      rfl
    · rw [Result.changed, hran.changed_iff.1, ← hran.changed_iff.2]
      simp
    · rw [Result.changed, hran.changed_iff.1, hp]

/-- A migrator for one table with an index. -/
def first : Migrator where
  tables := [Table.ofColumns "items" "Item"
    [{ name := "id", columnName := "id", kind := .long, nullable := false, indexed := false,
       primaryKey := true, autoId := true, onConflict := .none },
     { name := "label", columnName := "label", kind := .string, nullable := true, indexed := true,
       primaryKey := false, autoId := false, onConflict := .none }]]
  hash := .text "0f"
  metadataTable := .text "schema_metadata"
  destructive := .bool false
  now := ⟨"2026-10-19", "00:00:00"⟩

lemma declarable_first : Table.Declarable first.tables where
  built := by
    intro t ht
    obtain rfl := List.mem_singleton.1 ht
    exact Table.isBuilt_ofColumns (by decide) (by decide) _
  names := List.nodup_singleton _
  indexes := List.nodup_singleton _

theorem migrate_round_trip_first : ∃ (r : Result) (d : Course Unit),
    Table.Declarable first.tables ∧ first.hash = .text "0f" ∧ Store.Script.OnlyFails [] ∧
      (first.migrate : Action Unit Result) { work := () } = (.ok r, d) ∧
      r.persisted.same first.hash = false ∧
      ∃ p d', readPersisted "schema_metadata" { d with store := { metadata := d.store.metadata } } =
        (.ok p, d') ∧ p.Tells first.hash first.tables := by
  have hs : Store.Script.OnlyFails [] := fun rule hrule => absurd hrule List.not_mem_nil
  obtain ⟨r, d, hr⟩ : ∃ r d, (first.migrate : Action Unit Result) { work := () } = (.ok r, d) :=
    migrate_of_quiet (brief_text rfl) rfl rfl (Store.told_of_empty rfl) fun _ =>
      ready_of_empty declarable_first.built
  obtain ⟨table, htable, hread, -⟩ := migrate_round_trip declarable_first rfl hs hr
  obtain ⟨-, p, -, -, -, htold, hp, -⟩ := migrate_eq_ok hs hr
  rw [Store.told_of_empty rfl] at htold
  cases htold
  cases htable
  have hne : r.persisted.same first.hash = false := by rw [hp]; rfl
  exact ⟨r, d, declarable_first, rfl, hs, hr, hne, hread hne _ rfl rfl⟩

end Migration.Migrator

end PgSchema
