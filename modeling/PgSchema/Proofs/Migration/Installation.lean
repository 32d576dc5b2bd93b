import PgSchema.Proofs.Migration.Atomicity
import PgSchema.Proofs.Schema.Fingerprint

/-!
What a fresh installation runs.

Where nothing is told of any schema, a migration runs the statements of its tables, one after the
other, between those that every migration begins with and those that write the metadata
(`installation`).  It stops at the first statement that fails, and otherwise it comes to the end
(`attempts_migrate`, `migrate_of_unscripted`).

The statements are the ones that the fingerprint is taken of, in the same order
(`Database.statements_hashed_and_installed`).
-/

namespace PgSchema

open Store (Event)

/-- **The events of one transaction with a plan for its statements**, oldest first: it could not
begin, or it was taken back behind the first statements of the plan, or its end was asked for behind
all of them. -/
inductive Store.Attempts (depth : Nat) (plan : List Event) : List Event → Prop
  | refused : Attempts depth plan [.begin depth]
  | takenBack {done : List Event} {e : Failure} (h : done <+: plan) :
      Attempts depth plan (.begin depth :: (done ++ [.rollback depth e]))
  | ended : Attempts depth plan (.begin depth :: (plan ++ [.commit depth]))

/-! ### Actions with a plan -/

namespace Action

variable {σ α β : Type} {c : Course σ} {plan plan' : List Event}

/-- **An action pursues a plan**: the events that it adds are the first ones of the plan, and if it
ends well, all of them. -/
def Pursues (x : Action σ α) (c : Course σ) (plan : List Event) : Prop :=
  ∃ done, (x c).2.store.events = done.reverse ++ c.store.events ∧ done <+: plan ∧
    ∀ a, (x c).1 = .ok a → done = plan

namespace Pursues

lemma of_store {x : Action σ α} (h : (x c).2.store = c.store) : x.Pursues c [] :=
  ⟨[], by rw [h]; rfl, List.nil_prefix, fun _ _ => rfl⟩

lemma of_event {x : Action σ α} {e : Event} (h : (x c).2.store.events = e :: c.store.events) :
    x.Pursues c [e] :=
  ⟨[e], h, List.prefix_rfl, fun _ _ => rfl⟩

lemma run (statement : Store.Statement) (params : Json) :
    (Action.run statement params).Pursues c [.execute statement.text params] :=
  of_event (Store.events_run _ _ _)

lemma check (x : Except Fault α) : (Action.check x).Pursues c [] := by
  refine of_store ?_
  cases x <;> rfl

/-- **One action after another.** -/
lemma bind {x : Action σ α} {f : α → Action σ β} (hx : x.Pursues c plan)
    (hf : ∀ a d, x c = (.ok a, d) → (f a).Pursues d plan') :
    (x >>= f).Pursues c (plan ++ plan') := by
  obtain ⟨done, hevents, hbegins, hall⟩ := hx
  rcases hd : x c with ⟨e | a, d⟩
  · rw [hd] at hevents
    refine ⟨done, ?_, hbegins.trans (List.prefix_append _ _), ?_⟩
    · rw [bind_apply_error hd, hevents]
    · rw [bind_apply_error hd]
      exact nofun
  · rw [hd] at hevents hall
    obtain ⟨more, hmore, hbegins', hall'⟩ := hf a d hd
    obtain rfl := hall a rfl
    refine ⟨done ++ more, ?_, (List.prefix_append_right_inj done).2 hbegins', ?_⟩
    · rw [bind_apply_ok hd, hmore, hevents, List.reverse_append, List.append_assoc]
    · rw [bind_apply_ok hd]
      exact fun b hb => by rw [hall' b hb]

/-- An action that adds nothing may come before another one. -/
lemma bind_left {x : Action σ α} {f : α → Action σ β} (hx : x.Pursues c [])
    (hf : ∀ a d, x c = (.ok a, d) → (f a).Pursues d plan) : (x >>= f).Pursues c plan :=
  hx.bind hf

/-- Actions that add nothing may come behind another one. -/
lemma bind_right {x : Action σ α} {f : α → Action σ β} (hx : x.Pursues c plan)
    (hf : ∀ a d, (f a d).2.store = d.store) : (x >>= f).Pursues c plan := by
  have h := hx.bind fun a d _ => of_store (hf a d)
  rwa [List.append_nil] at h

lemma each {f : α → Action σ β} {plans : α → List Event} (hf : ∀ a d, (f a).Pursues d (plans a))
    (l : List α) (c : Course σ) : (Action.each f l).Pursues c (l.flatMap plans) := by
  induction l generalizing c with
  | nil => exact of_store rfl
  | cons a l ih => exact (hf a c).bind fun b d _ => (ih d).bind_right fun bs e => rfl

end Pursues

/-- **A transaction around an action with a plan.** -/
lemma attempts_transaction {body : Action σ α}
    (hbody : ∀ s, c.store.signal (.begin c.store.depth) Store.beginText = (.ok (), s) →
      body.Pursues (begun c s) plan) :
    ∃ trace, (transaction body c).2.store.events = trace.reverse ++ c.store.events ∧
      Store.Attempts c.store.depth plan trace ∧ ∀ a, (transaction body c).1 = .ok a →
        trace = .begin c.store.depth :: (plan ++ [.commit c.store.depth]) := by
  -- a body that went well, whether its end is accepted or not
  have hended : ∀ {s t : Store} {a : α} {d : Course σ} {r : Except Failure Unit},
      c.store.signal (.begin c.store.depth) Store.beginText = (.ok (), s) →
      body (begun c s) = (.ok a, d) →
      { d.store with depth := c.store.depth }.signal (.commit c.store.depth) Store.commitText =
        (r, t) →
      t.events = (.begin c.store.depth :: (plan ++ [.commit c.store.depth])).reverse ++
        c.store.events := by
    intro s t a d r hbegin hrun hcommit
    obtain ⟨done, hevents, -, hall⟩ := hbody s hbegin
    rw [hrun] at hevents hall
    obtain rfl := hall a rfl
    rw [Store.events_of_signal hcommit, hevents]
    simp [begun, Store.events_of_signal hbegin]
  rcases h : transaction body c with ⟨r, d⟩
  cases ends h with
  | refused hbegin => exact ⟨[_], Store.events_of_signal hbegin, .refused, fun a ha => by cases ha⟩
  | @failed e s d hbegin hrun =>
    obtain ⟨done, hevents, hbegins, -⟩ := hbody s hbegin
    rw [hrun] at hevents
    refine ⟨_, ?_, .takenBack (e := e) hbegins, fun a ha => by cases ha⟩
    change _ :: d.store.events = _
    rw [hevents]
    simp [begun, Store.events_of_signal hbegin]
  | uncommitted hbegin hrun hcommit =>
    have hevents := hended hbegin hrun hcommit
    exact ⟨_, hevents, .ended, fun a ha => by cases ha⟩
  | committed hbegin hrun hcommit =>
    have hevents := hended hbegin hrun hcommit
    exact ⟨_, hevents, .ended, fun _ _ => rfl⟩

/-- A transaction whose body fails is taken back. -/
lemma transaction_of_failed {body : Action σ α} {e : Failure} {s : Store} {d : Course σ}
    (hbegin : c.store.signal (.begin c.store.depth) Store.beginText = (.ok (), s))
    (hbody : body (begun c s) = (.error e, d)) :
    transaction body c = (.error e, takenBack c d s e) := by
  rw [begun] at hbody
  simp only [transaction, hbegin, hbody]
  rfl

end Action

/-! ### Fresh installations -/

namespace Migration

open PgSchema.Action (Pursues bind_eq_ok check_eq_ok pure_eq_ok bind_apply_ok bind_apply_error)

namespace Migrator

/-- **A fresh installation**: nothing is told of any schema in a database that can do no more than
refuse a statement, and the fingerprint and the name of the table of metadata are texts. -/
structure Fresh (m : Migrator) (table : String) (s : Store) : Prop where
  table : m.metadataTable = .text table
  hash : ∃ text, m.hash = .text text
  script : s.script.OnlyFails
  told : ∃ p, s.told = .ok p ∧ p.isEmpty = true

/-- What is run behind the statements of the tables: the metadata are emptied, and written if their
rows can be put together. -/
def closing (table : String) : Except Fault (List Row) → List Event
  | .ok rows => saving table rows
  | .error _ => [.execute (clearStatement table).text .null]

/-- **All that a fresh installation is to run**, around the statements of its tables. -/
def installation (m : Migrator) (table : String) (statements : List String) : List Event :=
  opening table ++ (statements.map (.execute · .null) ++
    closing table (metadataRows m.hash m.tables))

variable {σ : Type} {m : Migrator} {table : String} {p : Persisted} {c : Course σ}

lemma hash_of_isEmpty (hp : p.isEmpty = true) : p.hash = .null := by
  unfold Persisted.isEmpty at hp
  rw [Bool.and_eq_true] at hp
  rcases hhash : p.hash <;> simp_all

/-- What is told in a fresh database is not the declared fingerprint. -/
lemma same_eq_false_of_isEmpty (hp : p.isEmpty = true) {text : String} (hm : m.hash = .text text) :
    p.hash.same m.hash = false := by
  rw [hash_of_isEmpty hp, hm]
  rfl

/-! ### The parts of an installation -/

lemma pursues_perform (w : Work) (c : Course σ) : (perform w).Pursues c w.events := by
  have hstatements : (Action.each (fun s => Action.run (.plain s) .null) w.statements).Pursues c
      w.events := by
    rw [Work.events, List.map_eq_flatMap]
    exact Pursues.each (fun s d => Pursues.run (.plain s) .null) _ c
  refine hstatements.bind_right fun replies d => ?_
  rcases w.stop with _ | fault <;> rcases w.note with _ | ⟨level, message⟩ <;> rfl

lemma flatMap_installWork (tables : List Table) :
    tables.flatMap (fun t => (installWork t).events) =
      (tables.flatMap Table.statements).map (.execute · .null) := by
  rw [List.map_flatMap]
  rfl

/-- **The statements of the tables**, table by table. -/
lemma pursues_migrateTables (hp : p.isEmpty = true) (c : Course σ) :
    (m.migrateTables p).Pursues c ((m.tables.flatMap Table.statements).map (.execute · .null)) := by
  unfold migrateTables
  rw [hp, if_pos rfl, ← flatMap_installWork]
  exact Pursues.each (fun t d => pursues_perform (installWork t) d) _ c

lemma pursues_saveMetadata (table : String) (c : Course σ) :
    (m.saveMetadata table).Pursues c (closing table (metadataRows m.hash m.tables)) := by
  unfold saveMetadata
  cases hrows : metadataRows m.hash m.tables with
  | error fault =>
    refine (Pursues.run _ _).bind_right fun reply d => ?_
    rfl
  | ok rows =>
    have hplan : closing table (.ok rows) = [.execute (clearStatement table).text .null] ++
        [.executeMany (insertStatement table) (rows.map Row.toJson)] := rfl
    rw [hplan]
    refine (Pursues.run _ _).bind fun reply d _ => ?_
    refine (Pursues.check _).bind_left fun rows' e hcheck => ?_
    obtain ⟨hrows', -⟩ := check_eq_ok.1 hcheck
    cases hrows'
    refine (Pursues.of_event (Store.events_insertRows _ _ _)).bind_right fun _ f => ?_
    rcases brief m.hash with fault | shown <;> rfl

/-- What comes behind the reading of metadata that tell nothing. -/
lemma pursues_proceed (hp : p.isEmpty = true) {text : String} (hm : m.hash = .text text)
    (lock : Int) (c : Course σ) : (m.proceed table lock p).Pursues c
      ((m.tables.flatMap Table.statements).map (.execute · .null) ++
        closing table (metadataRows m.hash m.tables)) := by
  unfold proceed
  rw [same_eq_false_of_isEmpty hp hm, if_neg (by decide)]
  exact (pursues_migrateTables hp c).bind fun done d _ =>
    (pursues_saveMetadata table d).bind_right fun saved e => rfl

lemma pursues_takeLock (table : String) (c : Course σ) :
    (takeLock table).Pursues c [lockEvent table] :=
  (Pursues.run lockStatement _).bind_right fun _ _ => rfl

lemma pursues_readPersisted (table : String) (c : Course σ) :
    (readPersisted table).Pursues c [.execute (readStatement table).text .null] := by
  refine (Pursues.run _ _).bind_right fun reply d => ?_
  rcases Persisted.ofRows reply.fetched with fault | p <;> rfl

/-- **All that happens inside the transaction.** -/
lemma pursues_steps (h : m.Fresh table c.store) :
    m.steps.Pursues c (m.installation table (m.tables.flatMap Table.statements)) := by
  obtain ⟨p, htold, hp⟩ := h.told
  obtain ⟨text, hm⟩ := h.hash
  rw [steps_eq]
  refine (Pursues.check _).bind_left fun name d hcheck => ?_
  obtain ⟨hname, rfl⟩ := check_eq_ok.1 hcheck
  obtain rfl : table = name := Json.text.inj (h.table.symm.trans (tableName_eq_ok.1 hname))
  refine (pursues_takeLock table c).bind fun lock e₁ htake => ?_
  have hlead₁ := (takeLock_eq_ok h.script htake).2
  refine (Pursues.run _ _).bind fun reply e₂ hrun => ?_
  have hlead₂ := (Action.run_eq_ok hlead₁.script hrun).1
  rw [rowsAfter_metadataStatement, hlead₁.metadata] at hlead₂
  refine (pursues_readPersisted table e₂).bind fun q e₃ hread => ?_
  have hq := (readPersisted_eq_ok hlead₂.script hread).1
  rw [Store.told_congr hlead₂.metadata, htold] at hq
  obtain rfl := Except.ok.inj hq
  exact pursues_proceed hp hm lock e₃

/-- The context of the log that a migration opens is no part of what its transaction does. -/
lemma exists_transacted (m : Migrator) (c : Course σ) : ∃ b : Course σ, b.store = c.store ∧
    (m.transacted c).1 = (Action.transaction m.steps b).1 ∧
    (m.transacted c).2.store = (Action.transaction m.steps b).2.store :=
  ⟨{ c with contexts := c.contexts.current.withCoordinate .operation "migrate" :: c.contexts },
    rfl, rfl, rfl⟩

/-- **A fresh installation** does what is planned, as far as the database lets it. -/
lemma attempts_migrate (h : m.Fresh table c.store) :
    ∃ trace, (m.migrate c).2.store.events = trace.reverse ++ c.store.events ∧
      Store.Attempts c.store.depth (m.installation table (m.tables.flatMap Table.statements)) trace ∧
      ∀ r, (m.migrate c).1 = .ok r → trace = .begin c.store.depth ::
        (m.installation table (m.tables.flatMap Table.statements) ++ [.commit c.store.depth]) := by
  obtain ⟨b, hb, hresult, hstore⟩ := m.exists_transacted c
  obtain ⟨trace, hevents, hattempts, hall⟩ :=
    Action.attempts_transaction (c := b) fun s hbegin => by
      rw [hb] at hbegin
      obtain ⟨hscript, hbegun⟩ := Store.signal_eq_ok h.script hbegin
      have htold : (Action.begun b s).store.told = c.store.told :=
        Store.told_congr (by rw [hbegun]; rfl)
      exact pursues_steps ⟨h.table, h.hash, hscript, htold ▸ h.told⟩
  rw [hb] at hevents hattempts hall
  refine ⟨trace, by rw [store_migrate, hstore, hevents], hattempts, fun r hr => ?_⟩
  obtain ⟨done, hdone⟩ := transacted_eq_ok hr
  exact hall done (hresult.symm.trans hdone)

/-! ### Installations in which nothing is refused -/

lemma plans_of_isEmpty (hp : p.isEmpty = true) : ∀ t ∈ m.tables, ∃ w, m.Plans p t w :=
  fun t _ => ⟨installWork t, by rw [plan, if_pos hp], rfl⟩

/-- An index without a name is noticed behind all the statements of the tables. -/
lemma proceed_of_unnamed (table : String) (hp : p.isEmpty = true) {text : String}
    (hm : m.hash = .text text) {fault : Fault}
    (hrows : metadataRows m.hash m.tables = .error fault) (lock : Int) (hc : c.store.Quiet) :
    ∃ d, m.proceed table lock p c = (.error (.fault fault), d) ∧
      d.store.events = ((m.tables.flatMap Table.statements).map (Event.execute · .null) ++
        closing table (metadataRows m.hash m.tables)).reverse ++ c.store.events := by
  obtain ⟨steps, e, htables, he⟩ := migrateTables_of_quiet (plans_of_isEmpty hp) hc
  obtain ⟨done, hevents, -, hall⟩ := pursues_migrateTables (m := m) hp c
  rw [htables] at hevents hall
  obtain rfl := hall steps rfl
  obtain ⟨reply, f, hrun, -⟩ := Action.run_of_quiet he (clearStatement table) .null
  have hclear := (Action.run_eq_ok (Store.onlyFails_of_quiet he.script) hrun).1.events
  have hsave : m.saveMetadata table e = (.error (.fault fault), f) := by
    unfold saveMetadata
    rw [bind_apply_ok hrun, hrows]
    rfl
  refine ⟨f, ?_, ?_⟩
  · unfold proceed
    rw [same_eq_false_of_isEmpty hp hm, if_neg (by decide), bind_apply_ok htables,
      bind_apply_error hsave]
  · rw [hclear, hevents, hrows, closing, List.reverse_append, List.append_assoc]

/-- Then all that was planned is taken back. -/
lemma migrate_of_unnamed (h : m.Fresh table c.store) (hs : c.store.script = []) {fault : Fault}
    (hrows : metadataRows m.hash m.tables = .error fault) :
    (¬∃ r, (m.migrate c).1 = .ok r) ∧ (m.migrate c).2.store.events = (.begin c.store.depth ::
      (m.installation table (m.tables.flatMap Table.statements) ++
        [.rollback c.store.depth (.fault fault)])).reverse ++ c.store.events := by
  obtain ⟨p, htold, hp⟩ := h.told
  obtain ⟨text, hm⟩ := h.hash
  obtain ⟨b, hb, hresult, hstore⟩ := m.exists_transacted c
  have hbegin : b.store.signal (.begin b.store.depth) Store.beginText =
      (.ok (), b.store.record (.begin b.store.depth)) := Store.signal_of_quiet (hb ▸ hs) _ _
  rw [hb] at hbegin
  have hquiet : (Action.begun b (c.store.record (.begin c.store.depth))).store.Quiet :=
    ⟨hs, Store.ordered_of_told htold⟩
  obtain ⟨lock, e, hsteps, he, hopening⟩ := steps_of_opening h.table hquiet htold
  obtain ⟨d, hproceed, hdone⟩ := proceed_of_unnamed table hp hm hrows lock he
  rw [Action.transaction_of_failed (hb ▸ hbegin) (hsteps.trans hproceed)] at hresult hstore
  refine ⟨?_, ?_⟩
  · rintro ⟨r, hr⟩
    obtain ⟨done, hdone⟩ := transacted_eq_ok hr
    rw [hresult] at hdone
    cases hdone
  · have hevents := hopening.events
    rw [store_migrate, hstore]
    simp [Action.takenBack, Store.restore, Store.record, hdone, hevents, installation,
      Action.begun, hb]

/-- **All that is planned is done** where no statement is refused, and if the indexes have names,
the installation ends well. -/
lemma migrate_of_unscripted (h : m.Fresh table c.store) (hs : c.store.script = []) :
    (∃ last, (m.migrate c).2.store.events = (.begin c.store.depth ::
      (m.installation table (m.tables.flatMap Table.statements) ++ [last])).reverse ++
        c.store.events) ∧
    ((∃ r, (m.migrate c).1 = .ok r) ↔ ∃ rows, metadataRows m.hash m.tables = .ok rows) := by
  obtain ⟨p, htold, hp⟩ := h.told
  obtain ⟨text, hm⟩ := h.hash
  cases hrows : metadataRows m.hash m.tables with
  | ok rows =>
    have hready : m.Ready p := ⟨plans_of_isEmpty hp, ⟨rows, hrows⟩, by
      rw [hash_of_isEmpty hp]
      exact ⟨_, brief_text rfl⟩⟩
    obtain ⟨r, d, hrun⟩ := migrate_of_quiet (brief_text hm) h.table hs htold fun _ => hready
    obtain ⟨trace, hevents, -, hall⟩ := attempts_migrate h
    obtain rfl := hall r (by rw [hrun])
    exact ⟨⟨_, hevents⟩, iff_of_true ⟨r, by rw [hrun]⟩ ⟨rows, rfl⟩⟩
  | error fault =>
    obtain ⟨hfailed, hevents⟩ := migrate_of_unnamed h hs hrows
    exact ⟨⟨_, hevents⟩, iff_of_false hfailed nofun⟩

/-- **A migration installs statements**, all of them and no others, in this order, between those
that every migration begins with and those that write the metadata. -/
structure Installs (m : Migrator) (table : String) (statements : List String) (c : Course σ) :
    Prop where
  /-- Whatever is refused on the way, the plan is followed up to there. -/
  attempts : ∃ trace, (m.migrate c).2.store.events = trace.reverse ++ c.store.events ∧
    Store.Attempts c.store.depth (m.installation table statements) trace
  /-- A migration that ends well has run the whole plan. -/
  ended : ∀ r, (m.migrate c).1 = .ok r → (m.migrate c).2.store.events =
    (.begin c.store.depth :: (m.installation table statements ++
      [.commit c.store.depth])).reverse ++ c.store.events
  /-- So has every migration, if nothing is refused. -/
  unscripted : c.store.script = [] → ∃ last, (m.migrate c).2.store.events =
    (.begin c.store.depth :: (m.installation table statements ++ [last])).reverse ++ c.store.events
  /-- If nothing is refused, nothing but an index without a name keeps it from ending well. -/
  named : c.store.script = [] → ((∃ r, (m.migrate c).1 = .ok r) ↔
    ∀ t ∈ m.tables, ∀ s ∈ t.indexStatements, ∃ name, IndexStatement.name s = .ok name)

/-- A fresh installation installs the statements of the tables. -/
theorem installs_of_fresh (h : m.Fresh table c.store) :
    m.Installs table (m.tables.flatMap Table.statements) c where
  attempts := by
    obtain ⟨trace, hevents, hattempts, -⟩ := attempts_migrate h
    exact ⟨trace, hevents, hattempts⟩
  ended := fun r hr => by
    obtain ⟨trace, hevents, -, hall⟩ := attempts_migrate h
    rw [hevents, hall r hr]
  unscripted := fun hs => (migrate_of_unscripted h hs).1
  named := fun hs => (migrate_of_unscripted h hs).2.trans exists_metadataRows

end Migrator

end Migration

/-! ### One sequence of statements -/

open Digest (sha256 upperHex)
open Migration (Migrator)

/-- **The statements that are listed are the ones that are hashed, and the ones that are installed**,
in one order.  The fingerprint of a database is the hash of its statements in a row, in upper case,
and a fresh installation of its tables runs just these statements.

And digests may be continued in any order, by one statement or by many, and be forked and told
meanwhile: what is told of each is the hash of the statements on its own path, those that there are
stay, and what is told of them is never changed by any later steps. -/
theorem Database.statements_hashed_and_installed (d : Database) :
    d.fingerprint = upperHex (sha256 (Text.utf8 (String.join (d.statements none)))) ∧
    (∀ {σ : Type} (m : Migrator) (table : String) (c : Course σ), m.tables = d.tables →
      m.Fresh table c.store → m.Installs table (d.statements none) c) ∧
    ∀ past later : List SchemaDigest.Step,
      let before := SchemaDigest.run past [] []
      let after := SchemaDigest.run (past ++ later) [] []
      List.Forall₂ (fun digest path =>
          (digest.text before.2).1 = upperHex (sha256 (Text.utf8 (String.join path))))
        before.1 (SchemaDigest.paths past []) ∧
      before.1 <+: after.1 ∧
      ∀ digest ∈ before.1, (digest.text after.2).1 = (digest.text before.2).1 := by
  refine ⟨?_, ?_, fun past later => ?_⟩
  · rw [fingerprint_eq_flatMap, fingerprint_eq_upperHex, statements_none, Text.flatMap_utf8]
  · intro σ m table c htables hfresh
    rw [statements_none, ← htables]
    exact Migrator.installs_of_fresh hfresh
  · have hstart : SchemaDigest.Reflects [] [] [] := .nil
    have hpast := SchemaDigest.adds_run hstart past
    have hlater := SchemaDigest.adds_run hpast.reflects later
    dsimp only
    rw [SchemaDigest.run_append]
    refine ⟨hpast.reflects.texts.imp fun digest path htext => ?_, hlater.made_kept,
      fun digest hdigest => hpast.reflects.text_later hlater.hashes_kept hdigest⟩
    rw [htext, Text.flatMap_utf8]

/-- Two tables, one of them with an index and a name that takes more bytes than letters. -/
def Database.menu : Database where
  package := "com.example.menu"
  className := "Menu"
  tables :=
    [Table.ofColumns "café" "Cafe"
      [{ name := "id", columnName := "id", kind := .long, nullable := false, indexed := false,
         primaryKey := true, autoId := true, onConflict := .none },
       { name := "label", columnName := "label", kind := .string, nullable := true, indexed := true,
         primaryKey := false, autoId := false, onConflict := .none }],
     Table.ofColumns "dish" "Dish"
      [{ name := "id", columnName := "id", kind := .long, nullable := false, indexed := false,
         primaryKey := true, autoId := true, onConflict := .none }]]

/-- A migrator for the tables of a menu. -/
def Migration.Migrator.forMenu : Migrator where
  tables := Database.menu.tables
  hash := .text Database.menu.fingerprint
  metadataTable := .text "schema_metadata"
  destructive := .bool false
  now := ⟨"2026-10-19", "00:00:00"⟩

lemma Migration.Migrator.fresh_forMenu : Migrator.forMenu.Fresh "schema_metadata" {} where
  table := rfl
  hash := ⟨_, rfl⟩
  script := fun _ hrule => absurd hrule List.not_mem_nil
  told := ⟨_, Store.told_of_empty rfl, rfl⟩

lemma Database.isBuilt_menu : ∀ t ∈ Database.menu.tables, t.IsBuilt :=
  List.forall_mem_cons.2 ⟨Table.isBuilt_ofColumns (by decide) (by decide) _,
    List.forall_mem_singleton.2 (Table.isBuilt_ofColumns (by decide) (by decide) _)⟩

theorem Database.statements_hashed_and_installed_menu :
    (Migrator.forMenu.tables = Database.menu.tables ∧
      Migrator.forMenu.Fresh "schema_metadata" {} ∧
      Migrator.forMenu.Installs "schema_metadata" (Database.menu.statements none)
        ({ work := () } : Course Unit)) ∧
    ((Database.menu.statements none).length = 3 ∧
      ∃ r, (Migrator.forMenu.migrate ({ work := () } : Course Unit)).1 = .ok r) ∧
    (⟨1⟩ ∈ (SchemaDigest.run [.start, .update 0 "a"] [] []).1 ∧
      (SchemaDigest.text ⟨1⟩
          (SchemaDigest.run [.start, .update 0 "a", .update 1 "é", .text 2] [] []).2).1 =
        (SchemaDigest.text ⟨1⟩ (SchemaDigest.run [.start, .update 0 "a"] [] []).2).1) := by
  obtain ⟨-, hinstalled, hdigests⟩ := Database.statements_hashed_and_installed Database.menu
  have hinstalls := hinstalled Migrator.forMenu "schema_metadata" ({ work := () } : Course Unit)
    rfl Migrator.fresh_forMenu
  have hnames := Migration.exists_metadataRows.1
    ⟨_, Migration.metadataRows_eq Database.isBuilt_menu .null⟩
  have hone : ⟨1⟩ ∈ (SchemaDigest.run [.start, .update 0 "a"] [] []).1 := by decide
  obtain ⟨-, -, hkept⟩ := hdigests [.start, .update 0 "a"] [.update 1 "é", .text 2]
  exact ⟨⟨rfl, Migrator.fresh_forMenu, hinstalls⟩, ⟨by rfl, (hinstalls.named rfl).2 hnames⟩,
    hone, hkept _ hone⟩

end PgSchema
