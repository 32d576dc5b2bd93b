import PgSchema.Proofs.Migration.Success

/-!
Migrations that go through.

In a store without a script nothing fails on its own: a statement goes through
(`Store.run_of_quiet`), and so does a migration whose work on each table can be planned
(`migrate_of_quiet`).
-/

namespace PgSchema

open Store (Event Leads)

namespace Store

variable {s : Store}

/-- A store without a script, whose metadata can be put in order. -/
structure Quiet (s : Store) : Prop where
  script : s.script = []
  ordered : ∃ rows, s.sortedMetadata = .ok rows

lemma told_of_empty (h : s.metadata = []) : s.told = .ok {} := by
  simp [told, sortedMetadata, h, checkOrder, Migration.Persisted.ofRows]
  rfl

lemma ordered_of_told {p : Migration.Persisted} (h : s.told = .ok p) :
    ∃ rows, s.sortedMetadata = .ok rows := by
  rcases hrows : s.sortedMetadata with fault | rows
  · rw [told, hrows] at h
    cases h
  · exact ⟨rows, rfl⟩

lemma onlyFails_of_quiet (hs : s.script = []) : s.script.OnlyFails := by
  rw [hs]
  exact fun r hr => absurd hr List.not_mem_nil

lemma ask_of_quiet (hs : s.script = []) (text : String) : s.ask text = (.ok none, s) := by
  unfold ask
  rw [hs]
  exact congrArg _ (congrArg (fun script => { s with script }) hs.symm)

/-- **Without a script, a statement goes through.** -/
lemma run_of_quiet (hs : s.Quiet) (event : Event) (statement : Statement) :
    ∃ reply t, s.run event statement = (.ok reply, t) ∧ t.Quiet := by
  obtain ⟨hscript, rows, hrows⟩ := hs
  have hrows' : (s.record event).sortedMetadata = .ok rows := hrows
  have hanswer : ∃ reply t, (s.record event).answer statement = (.ok reply, t) ∧ t.Quiet := by
    unfold answer
    split
    · rw [hrows']
      exact ⟨_, _, rfl, hscript, rows, hrows⟩
    · cases statement with
      | plain text => exact ⟨_, _, rfl, hscript, rows, hrows⟩
      | composed text =>
        dsimp only
        split
        · exact ⟨_, _, rfl, hscript, [], by simp [sortedMetadata, checkOrder]⟩
        · exact ⟨_, _, rfl, hscript, rows, hrows⟩
  obtain ⟨reply, t, hrun, ht⟩ := hanswer
  unfold run
  rw [ask_of_quiet (s := s.record event) hscript]
  dsimp only
  rw [hrun]
  exact ⟨_, _, rfl, ht.script, ht.ordered⟩

lemma insertRows_of_quiet (hs : s.script = []) (statement : String) (rows : List Json) :
    ∃ t, s.insertRows statement rows = (.ok (), t) ∧ t.script = [] := by
  unfold insertRows
  dsimp only
  rw [ask_of_quiet (s := s.record _) hs]
  exact ⟨_, rfl, hs⟩

lemma signal_of_quiet (hs : s.script = []) (event : Event) (text : String) :
    s.signal event text = (.ok (), s.record event) := by
  unfold signal
  rw [ask_of_quiet (s := s.record event) hs]

end Store

namespace Action

variable {σ α β : Type} {c : Course σ}

lemma run_of_quiet (hc : c.store.Quiet) (statement : Store.Statement) (params : Json) :
    ∃ reply d, run statement params c = (.ok reply, d) ∧ d.store.Quiet := by
  obtain ⟨reply, s, hrun, hs⟩ := Store.run_of_quiet hc (.execute statement.text params) statement
  exact ⟨reply, { c with store := s }, onStore_eq_ok.2 ⟨s, hrun, rfl⟩, hs⟩

lemma each_of_quiet {f : α → Action σ β} {l : List α}
    (hf : ∀ a ∈ l, ∀ c : Course σ, c.store.Quiet → ∃ b d, f a c = (.ok b, d) ∧ d.store.Quiet)
    (hc : c.store.Quiet) : ∃ bs d, each f l c = (.ok bs, d) ∧ d.store.Quiet := by
  induction l generalizing c with
  | nil => exact ⟨[], c, rfl, hc⟩
  | cons a l ih =>
    obtain ⟨ha, hl⟩ := List.forall_mem_cons.1 hf
    obtain ⟨b, d, hb, hd⟩ := ha c hc
    obtain ⟨bs, e, hbs, he⟩ := ih hl hd
    exact ⟨b :: bs, e, bind_eq_ok.2 ⟨b, d, hb, bind_eq_ok.2 ⟨bs, e, hbs, rfl⟩⟩, he⟩

/-- Work on one item after the other stops at the first that fails. -/
lemma each_error_of_quiet {f : α → Action σ β} {before after : List α} {a : α} {e : Failure}
    (hf : ∀ b ∈ before, ∀ c : Course σ, c.store.Quiet → ∃ r d, f b c = (.ok r, d) ∧ d.store.Quiet)
    (ha : ∀ c : Course σ, c.store.Quiet → ∃ d, f a c = (.error e, d)) (hc : c.store.Quiet) :
    ∃ d, each f (before ++ a :: after) c = (.error e, d) := by
  induction before generalizing c with
  | nil =>
    obtain ⟨d, hd⟩ := ha c hc
    exact ⟨d, bind_apply_error hd _⟩
  | cons b before ih =>
    obtain ⟨hb, hrest⟩ := List.forall_mem_cons.1 hf
    obtain ⟨r, d, hr, hd⟩ := hb c hc
    obtain ⟨d', hd'⟩ := ih hrest hd
    refine ⟨d', ?_⟩
    rw [List.cons_append, each, bind_apply_ok hr, bind_apply_error hd']

lemma within_of_ok {coordinate : Log.Coordinate} {value : String} {body : Action σ α}
    {P : α → Store → Prop} (h : ∀ b : Course σ, b.store = c.store →
      ∃ a e, body b = (.ok a, e) ∧ P a e.store) :
    ∃ a d, within coordinate value body c = (.ok a, d) ∧ P a d.store := by
  let context := c.contexts.current.withCoordinate coordinate value
  obtain ⟨a, e, he, hp⟩ := h { c with contexts := context :: c.contexts } rfl
  refine ⟨a, { e with contexts := e.contexts.pop }, ?_, hp⟩
  have hbody : body { c with contexts := c.contexts.current.withCoordinate coordinate value ::
    c.contexts } = (.ok a, e) := he
  rw [within]
  dsimp only
  rw [hbody]

lemma transaction_of_quiet {body : Action σ α} {P : α → Prop} (hs : c.store.Quiet)
    (hbody : ∀ b : Course σ, b.store.Quiet → b.store.metadata = c.store.metadata →
      ∃ a e, body b = (.ok a, e) ∧ e.store.script = [] ∧ P a) :
    ∃ a d, transaction body c = (.ok a, d) ∧ P a := by
  obtain ⟨a, e, he, hscript, hp⟩ := hbody { c with store :=
    { c.store.record (.begin c.store.depth) with depth := c.store.depth + 1 } }
      ⟨hs.script, hs.ordered⟩ rfl
  simp only [transaction, Store.signal_of_quiet hs.script, he]
  rw [Store.signal_of_quiet (s := { e.store with depth := c.store.depth }) hscript]
  exact ⟨a, _, rfl, hp⟩

lemma transaction_error_of_quiet {body : Action σ α} {e : Failure} (hs : c.store.Quiet)
    (hbody : ∀ b : Course σ, b.store.Quiet → b.store.metadata = c.store.metadata →
      ∃ d, body b = (.error e, d)) :
    ∃ d, transaction body c = (.error e, d) := by
  obtain ⟨d, hd⟩ := hbody { c with store :=
    { c.store.record (.begin c.store.depth) with depth := c.store.depth + 1 } }
      ⟨hs.script, hs.ordered⟩ rfl
  simp only [transaction, Store.signal_of_quiet hs.script, hd]
  exact ⟨_, rfl⟩

end Action

namespace Migration.Migrator

open PgSchema.Action (bind_eq_ok check_eq_ok bind_apply_ok)

variable {σ : Type} {m : Migrator} {c : Course σ} {table : String} {p : Persisted}

lemma takeLock_of_quiet (table : String) (hc : c.store.Quiet) :
    ∃ lock d, takeLock table c = (.ok lock, d) ∧ d.store.Quiet := by
  obtain ⟨reply, e, hrun, he⟩ := Action.run_of_quiet hc lockStatement
    (.list [.int (Lock.id (Lock.migrationKey table))])
  exact ⟨_, _, bind_eq_ok.2 ⟨_, _, hrun, bind_eq_ok.2 ⟨(), _, rfl, rfl⟩⟩, he⟩

/-- **What is told is read.** -/
lemma readPersisted_of_quiet (table : String) (hs : c.store.script = [])
    (htold : c.store.told = .ok p) :
    ∃ d, readPersisted table c = (.ok p, d) ∧ d.store.Quiet := by
  obtain ⟨reply, d, hrun, hd⟩ := Action.run_of_quiet ⟨hs, Store.ordered_of_told htold⟩
    (readStatement table) .null
  have hfetched := (Action.run_eq_ok (Store.onlyFails_of_quiet hs) hrun).2 begins_readStatement
  rw [Store.told, hfetched] at htold
  exact ⟨d, bind_eq_ok.2 ⟨_, _, hrun, check_eq_ok.2 ⟨htold, rfl⟩⟩, hd⟩

lemma perform_of_quiet {w : Work} (hw : w.stop = none) (hc : c.store.Quiet) :
    ∃ step d, perform w c = (.ok step, d) ∧ d.store.Quiet := by
  obtain ⟨_, e, heach, he⟩ := Action.each_of_quiet
    (f := fun s => Action.run (.plain s) .null) (l := w.statements)
    (fun s _ c hc => Action.run_of_quiet hc (.plain s) .null) hc
  unfold perform
  rw [bind_apply_ok heach, hw]
  rcases w.note with _ | ⟨level, message⟩
  · exact ⟨_, _, rfl, he⟩
  · exact ⟨_, _, rfl, he⟩

lemma migrateTable_of_quiet {t : Table} {w : Work}
    (hw : tableWork m.hash m.destructive.isTruthy p t = .ok w) (hstop : w.stop = none)
    (hc : c.store.Quiet) : ∃ step d, m.migrateTable p t c = (.ok step, d) ∧ d.store.Quiet := by
  refine Action.within_of_ok (P := fun _ s => s.Quiet) fun b hb => ?_
  rw [hw]
  exact perform_of_quiet hstop (hb ▸ hc)

lemma migrateTables_of_quiet (hplan : ∀ t ∈ m.tables, ∃ w, m.Plans p t w) (hc : c.store.Quiet) :
    ∃ done d, m.migrateTables p c = (.ok done, d) ∧ d.store.Quiet := by
  unfold migrateTables
  cases hp : p.isEmpty with
  | true => exact Action.each_of_quiet (fun t _ c hc => perform_of_quiet rfl hc) hc
  | false =>
    refine Action.each_of_quiet (fun t ht c hc => ?_) hc
    obtain ⟨w, hw, hstop⟩ := hplan t ht
    rw [plan, hp] at hw
    exact migrateTable_of_quiet hw hstop hc

lemma saveMetadata_of_quiet (table : String) {rows : List Row} {shown : String}
    (hrows : metadataRows m.hash m.tables = .ok rows) (hshown : brief m.hash = .ok shown)
    (hc : c.store.Quiet) :
    ∃ step d, m.saveMetadata table c = (.ok step, d) ∧ d.store.script = [] := by
  obtain ⟨_, e, hrun, he⟩ := Action.run_of_quiet hc (clearStatement table) .null
  obtain ⟨s, hinsert, hs⟩ := Store.insertRows_of_quiet he.script (insertStatement table)
    (rows.map Row.toJson)
  unfold saveMetadata
  rw [bind_apply_ok hrun, bind_apply_ok (check_eq_ok.2 ⟨hrows, rfl⟩),
    bind_apply_ok (Action.onStore_eq_ok.2 ⟨s, hinsert, rfl⟩),
    bind_apply_ok (check_eq_ok.2 ⟨hshown, rfl⟩)]
  exact ⟨_, _, rfl, hs⟩

lemma brief_text {hash : Json} {h : String} (hh : hash = .text h) :
    brief hash = .ok (Text.front 12 h) := by
  rw [brief, hh]
  rfl

/-- What a migration needs that finds another fingerprint: the work on each table can be planned,
and all that is written and told about it can be put together. -/
structure Ready (m : Migrator) (p : Persisted) : Prop where
  plans : ∀ t ∈ m.tables, ∃ w, m.Plans p t w
  rows : ∃ rows, metadataRows m.hash m.tables = .ok rows
  found : ∃ shown, brief (if p.hash.isTruthy then p.hash else .text "none") = .ok shown

/-- In an empty database, tables that were built can be created. -/
lemma ready_of_empty (h : ∀ t ∈ m.tables, t.IsBuilt) : m.Ready {} where
  plans := fun t _ => ⟨installWork t, rfl, rfl⟩
  rows := ⟨_, metadataRows_eq h m.hash⟩
  found := ⟨_, brief_text rfl⟩

lemma proceed_of_quiet (table : String) (lock : Int) {shown : String}
    (hshown : brief m.hash = .ok shown) (hready : p.hash.same m.hash = false → m.Ready p)
    (hc : c.store.Quiet) :
    ∃ r d, m.proceed table lock p c = (.ok r, d) ∧ d.store.script = [] ∧ r.1 = p := by
  unfold proceed
  cases hsame : p.hash.same m.hash with
  | true =>
    rw [if_pos rfl, bind_apply_ok (check_eq_ok.2 ⟨hshown, rfl⟩)]
    exact ⟨_, _, rfl, hc.script, rfl⟩
  | false =>
    obtain ⟨hplans, ⟨rows, hrows⟩, -⟩ := hready hsame
    obtain ⟨done, e, hdone, he⟩ := migrateTables_of_quiet hplans hc
    obtain ⟨step, d, hsave, hd⟩ := saveMetadata_of_quiet table hrows hshown he
    rw [if_neg (by decide), bind_apply_ok hdone, bind_apply_ok hsave]
    exact ⟨_, _, rfl, hd, rfl⟩

/-- What is told is reached behind the first statements, and the migration goes on from there. -/
lemma steps_of_opening (ht : m.metadataTable = .text table) (hc : c.store.Quiet)
    (htold : c.store.told = .ok p) :
    ∃ lock d, m.steps c = m.proceed table lock p d ∧ d.store.Quiet ∧
      Leads c.store d.store (opening table) c.store.metadata := by
  have hname := tableName_eq_ok.2 ht
  obtain ⟨lock, e₁, htake, h₁⟩ := takeLock_of_quiet table hc
  obtain ⟨-, hlead₁⟩ := takeLock_eq_ok (Store.onlyFails_of_quiet hc.script) htake
  obtain ⟨_, e₂, hrun, h₂⟩ := Action.run_of_quiet h₁ (metadataStatement table) .null
  have hlead₂ := (Action.run_eq_ok (Store.onlyFails_of_quiet h₁.script) hrun).1
  rw [rowsAfter_metadataStatement, hlead₁.metadata] at hlead₂
  rw [← Store.told_congr hlead₂.metadata] at htold
  obtain ⟨e₃, hread, h₃⟩ := readPersisted_of_quiet table h₂.script htold
  have hlead₃ := (readPersisted_eq_ok hlead₂.script hread).2
  rw [hlead₂.metadata] at hlead₃
  refine ⟨lock, e₃, ?_, h₃, (hlead₁.trans hlead₂).trans hlead₃⟩
  rw [steps_eq, bind_apply_ok (check_eq_ok.2 ⟨hname, rfl⟩), bind_apply_ok htake,
    bind_apply_ok hrun, bind_apply_ok hread]

lemma steps_of_told (ht : m.metadataTable = .text table) (hc : c.store.Quiet)
    (htold : c.store.told = .ok p) :
    ∃ lock d, m.steps c = m.proceed table lock p d ∧ d.store.Quiet := by
  obtain ⟨lock, d, hsteps, hd, -⟩ := steps_of_opening ht hc htold
  exact ⟨lock, d, hsteps, hd⟩

lemma steps_of_quiet {shown : String} (hshown : brief m.hash = .ok shown)
    (ht : m.metadataTable = .text table) (hc : c.store.Quiet) (htold : c.store.told = .ok p)
    (hready : p.hash.same m.hash = false → m.Ready p) :
    ∃ r d, m.steps c = (.ok r, d) ∧ d.store.script = [] ∧ r.1 = p := by
  obtain ⟨lock, d, hsteps, hd⟩ := steps_of_told ht hc htold
  rw [hsteps]
  exact proceed_of_quiet table lock hshown hready hd

/-- **A migration goes through** in a store without a script, if it finds its fingerprint, or all is
ready for the work. -/
theorem migrate_of_quiet {shown : String} (hshown : brief m.hash = .ok shown)
    (ht : m.metadataTable = .text table) (hs : c.store.script = []) (htold : c.store.told = .ok p)
    (hready : p.hash.same m.hash = false → m.Ready p) : ∃ r d, m.migrate c = (.ok r, d) := by
  have hquiet : c.store.Quiet := ⟨hs, Store.ordered_of_told htold⟩
  obtain ⟨⟨q, steps⟩, d, hd, rfl⟩ : ∃ r d, m.transacted c = (.ok r, d) ∧ r.1 = p := by
    refine Action.within_of_ok (P := fun (r : Persisted × List Step) _ => r.1 = p) fun b hb => ?_
    refine Action.transaction_of_quiet (hb ▸ hquiet) fun b' hb' hmeta => ?_
    rw [hb] at hmeta
    exact steps_of_quiet hshown ht hb' ((Store.told_congr hmeta).trans htold) hready
  rw [migrate_eq, bind_apply_ok hd]
  refine report_of_summary ?_ d
  dsimp only at hready ⊢
  cases hsame : q.hash.same m.hash with
  | true => exact Or.inl rfl
  | false =>
    obtain ⟨-, -, found, hfound⟩ := hready hsame
    exact Or.inr (summary_of_brief hfound hshown steps.length)

end Migration.Migrator

end PgSchema
