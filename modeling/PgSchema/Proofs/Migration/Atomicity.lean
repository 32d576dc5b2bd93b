import PgSchema.Proofs.Catalog.Basic
import PgSchema.Proofs.Course.Traces
import PgSchema.Proofs.Migration.Progress

/-!
Migrations that fail leave everything as it was.

Whatever fails inside the transaction of a migration is taken back with it, and what follows the
transaction does not fail (`steps_told`), as long as the rows of metadata are texts, which is all
that the table of metadata takes.  All statements of a run stand inside one transaction, and the one
that takes the lock comes first (`OneTransaction`).
-/

namespace PgSchema

open Store (Event)

namespace Store

/-- A statement, among the uses of a store. -/
def Event.IsStatement : Event → Prop
  | .execute .. | .executeMany .. => True
  | _ => False

/-- **The events of one transaction**, oldest first.  It begins; if it could, statements follow, of
which the first is a given one; and then it ends. -/
inductive OneTransaction (depth : Nat) (first : Event) : List Event → Prop
  | refused : OneTransaction depth first [.begin depth]
  | ended {body : List Event} {last : Event} (hbody : ∀ e ∈ body, e.IsStatement)
      (hlast : last = .commit depth ∨ ∃ failure, last = .rollback depth failure) :
      OneTransaction depth first (.begin depth :: first :: (body ++ [last]))

/-! ### Rows of texts -/

/-- A row of metadata whose kind, name and content are texts. -/
def IsTextual (row : Json) : Prop :=
  ∃ kind name content : String, row = .list [.text kind, .text name, .text content]

/-- A rule that answers with rows of texts where metadata are read. -/
def Rule.IsTextual (rule : Rule) : Prop :=
  ∀ text, Text.begins metadataQuery text = true → Text.occurs rule.pattern text = true →
    ∀ row ∈ rule.rows.getD [], Store.IsTextual row

/-- **All rows of metadata are rows of texts**: those that are held, and those that the script
answers with. -/
structure Textual (s : Store) : Prop where
  metadata : ∀ row ∈ s.metadata, IsTextual row
  script : ∀ rule ∈ s.script, rule.IsTextual

lemma textual_ask {s : Store} (hs : s.Textual) (text : String) :
    (s.ask text).2.Textual ∧ ∀ rule, (s.ask text).1 = .ok (some rule) →
      Text.begins metadataQuery text = true → ∀ row ∈ rule.rows.getD [], IsTextual row := by
  have hcovers := @Script.covers_of_consult text s.script
  obtain ⟨hfound, hleft⟩ := Script.consult_forall (P := Rule.IsTextual) (fun _ h => h)
    (fun _ h => h) text hs.script
  unfold ask
  revert hcovers hfound hleft
  rcases Script.consult text s.script with ⟨_ | rule, script⟩
  · exact fun _ _ hleft => ⟨⟨hs.metadata, hleft⟩, nofun⟩
  · intro hcovers hfound hleft
    dsimp only
    split
    · exact ⟨⟨hs.metadata, hleft⟩, nofun⟩
    · refine ⟨⟨hs.metadata, hleft⟩, ?_⟩
      rintro _ ⟨⟩ hbegins
      have hoccurs := (Bool.and_eq_true_iff.1 (hcovers rfl)).2
      exact hfound rule rfl text hbegins hoccurs

lemma perm_sortedMetadata {s : Store} {rows : List Json} (h : s.sortedMetadata = .ok rows) :
    rows.Perm s.metadata := by
  rw [sortedMetadata] at h
  rcases hcheck : checkOrder s.metadata with fault | u
  · rw [hcheck] at h
    cases h
  · rw [hcheck] at h
    cases h
    exact List.mergeSort_perm _ _

lemma textual_answer {s t : Store} {statement : Statement} {reply : Reply} (hs : s.Textual)
    (h : s.answer statement = (.ok reply, t)) :
    t.Textual ∧ ∀ row ∈ reply.fetched, IsTextual row := by
  unfold answer at h
  split at h
  · rcases hrows : s.sortedMetadata with fault | rows
    · simp [hrows] at h
    · rw [hrows] at h
      cases h
      exact ⟨hs, fun row hrow => hs.metadata row ((perm_sortedMetadata hrows).subset hrow)⟩
  · cases statement with
    | plain text =>
      cases h
      exact ⟨hs, nofun⟩
    | composed text =>
      dsimp only at h
      split at h
      · cases h
        exact ⟨⟨nofun, hs.script⟩, nofun⟩
      · cases h
        exact ⟨hs, nofun⟩

/-- **Where metadata are read, rows of texts are returned**, and rows of texts are left. -/
lemma textual_run {s t : Store} {event : Event} {statement : Statement} {reply : Reply}
    (hs : s.Textual) (h : s.run event statement = (.ok reply, t)) :
    t.Textual ∧ (Text.begins metadataQuery statement.text = true →
      ∀ row ∈ reply.fetched, IsTextual row) := by
  obtain ⟨hleft, hfound⟩ :=
    textual_ask (s := s.record event) ⟨hs.metadata, hs.script⟩ statement.text
  unfold run at h
  rcases hask : (s.record event).ask statement.text with ⟨failure | _ | rule, u⟩
  · simp [hask, settle] at h
  · rw [hask] at h hleft
    dsimp only at h
    rcases hanswer : u.answer statement with ⟨failure | r, v⟩
    · simp [hanswer, settle] at h
    · rw [hanswer] at h
      cases h
      obtain ⟨hv, hrows⟩ := textual_answer hleft hanswer
      exact ⟨⟨hv.metadata, hv.script⟩, fun _ => hrows⟩
  · rw [hask] at h hleft hfound
    cases h
    exact ⟨⟨hleft.metadata, hleft.script⟩, hfound rule rfl⟩

lemma textual_signal {s t : Store} {event : Event} {text : String} {r : Except Failure Unit}
    (hs : s.Textual) (h : s.signal event text = (r, t)) : t.Textual := by
  obtain ⟨hleft, -⟩ := textual_ask (s := s.record event) ⟨hs.metadata, hs.script⟩ text
  unfold signal at h
  rcases hask : (s.record event).ask text with ⟨failure | found, u⟩
  · rw [hask] at h hleft
    cases h
    exact hleft
  · rw [hask] at h hleft
    cases h
    exact hleft

end Store

namespace Migration

/-- Names that are texts, with texts that are told of them. -/
def Told.Textual (told : Told) : Prop := ∀ e ∈ told, ∃ name content, e = (.text name, .text content)

lemma Told.Textual.put {told : Told} (h : told.Textual) (name content : String) :
    (told.put (.text name) (.text content)).Textual := by
  induction told with
  | nil =>
    intro e he
    exact ⟨name, content, List.mem_singleton.1 he⟩
  | cons e told ih =>
    obtain ⟨⟨n, c, rfl⟩, hrest⟩ := List.forall_mem_cons.1 h
    rw [Told.put]
    split
    · exact List.forall_mem_cons.2 ⟨⟨n, content, rfl⟩, hrest⟩
    · exact List.forall_mem_cons.2 ⟨⟨n, c, rfl⟩, ih hrest⟩

/-- **All that is told are texts**, and there may be no fingerprint. -/
structure Persisted.Textual (p : Persisted) : Prop where
  hash : p.hash = .null ∨ ∃ text, p.hash = .text text
  tables : p.tables.Textual
  indexes : p.indexes.Textual

/-- What rows of texts tell. -/
lemma Persisted.textual_ofRows {rows : List Json} (hrows : ∀ row ∈ rows, Store.IsTextual row) :
    ∃ p, Persisted.ofRows rows = .ok p ∧ p.Textual := by
  suffices hgen : ∀ q : Persisted, q.Textual → ∃ p,
      rows.foldlM (fun p row => do p.add (← Row.ofJson row)) q = .ok p ∧ p.Textual from
    hgen {} ⟨Or.inl rfl, nofun, nofun⟩
  induction rows with
  | nil => exact fun q hq => ⟨q, rfl, hq⟩
  | cons row rows ih =>
    intro q hq
    obtain ⟨⟨kind, name, content, rfl⟩, hrest⟩ := List.forall_mem_cons.1 hrows
    have hadd := add_text q kind name (.text content)
    rw [List.foldlM_cons]
    change ∃ p, (q.add _ >>= _) = _ ∧ _
    rw [hadd]
    refine ih hrest _ ?_
    split
    · exact ⟨Or.inr ⟨content, rfl⟩, hq.tables, hq.indexes⟩
    · split
      · exact ⟨hq.hash, hq.tables.put name content, hq.indexes⟩
      · split
        · exact ⟨hq.hash, hq.tables, hq.indexes.put name content⟩
        · exact hq

end Migration

/-! ### Actions that only run statements -/

namespace Action

variable {σ α β : Type} {c : Course σ}

/-- Whatever becomes of an action, it has added nothing but statements. -/
def Issues (x : Action σ α) : Prop :=
  ∀ c, ∃ new, (x c).2.store.events = new ++ c.store.events ∧ ∀ e ∈ new, e.IsStatement

namespace Issues

lemma through : Through fun _ (x : Action σ _) => x.Issues := Adds.through

lemma bind {x : Action σ α} {f : α → Action σ β} (hx : x.Issues) (hf : ∀ a, (f a).Issues) :
    (x >>= f).Issues :=
  Adds.bind hx hf

lemma run (statement : Store.Statement) (params : Json) :
    (Action.run statement params : Action σ Store.Reply).Issues :=
  Adds.run trivial

end Issues

lemma within_apply (coordinate : Log.Coordinate) (value : String) (body : Action σ α)
    (c : Course σ) :
    ∃ b : Course σ, b.store = c.store ∧ (Action.within coordinate value body c).1 = (body b).1 ∧
      (Action.within coordinate value body c).2.store = (body b).2.store :=
  ⟨{ c with contexts := c.contexts.current.withCoordinate coordinate value :: c.contexts },
    rfl, rfl, rfl⟩

/-- **A transaction around a body that only runs statements**, the first of them a given one. -/
lemma oneTransaction {body : Action σ α} {first : Event}
    (hbody : ∀ b : Course σ, ∃ new, (body b).2.store.events = new ++ first :: b.store.events ∧
      ∀ e ∈ new, e.IsStatement) (c : Course σ) :
    ∃ trace, (transaction body c).2.store.events = trace.reverse ++ c.store.events ∧
      Store.OneTransaction c.store.depth first trace ∧
      ∀ a, (transaction body c).1 = .ok a → trace.getLast? = some (.commit c.store.depth) := by
  rcases h : transaction body c with ⟨r, d⟩
  cases encloses h with
  | refused _ hevents =>
    exact ⟨[.begin c.store.depth], hevents, Store.OneTransaction.refused, nofun⟩
  | @ran _ _ s _ _ last hran _ hevents _ _ hlast hend _ hok =>
    obtain ⟨new, hnew, hall⟩ := hbody (begun c s)
    rw [hran] at hnew
    refine ⟨.begin c.store.depth :: first :: (new.reverse ++ [last]), ?_,
      Store.OneTransaction.ended (fun e he => hall e (List.mem_reverse.1 he)) hlast, fun a ha => ?_⟩
    · rw [hend, hnew]
      simp [begun, hevents]
    · rw [← List.cons_append, ← List.cons_append, List.getLast?_concat, (hok a ha).2.1]

end Action

namespace Migration.Migrator

open PgSchema.Action (Adds Issues bind_eq_ok bind_apply_ok bind_apply_error check_eq_ok pure_eq_ok)

variable {σ : Type} {m : Migrator} {table : String}

/-! ### Statements of a migration -/

lemma events_takeLock (table : String) (c : Course σ) :
    (takeLock table c).2.store.events = lockEvent table :: c.store.events := by
  have hrun := Store.events_run c.store (lockEvent table) lockStatement
  unfold takeLock
  rcases hd : Action.run lockStatement (.list [.int (Lock.id (Lock.migrationKey table))]) c
    with ⟨e | reply, d⟩
  · have hstore : d.store = (c.store.run (lockEvent table) lockStatement).2 := by
      rw [← congrArg (fun x : Except Failure Store.Reply × Course σ => x.2.store) hd]
      rfl
    rw [bind_apply_error hd, ← hrun, ← hstore]
  · have hstore : d.store = (c.store.run (lockEvent table) lockStatement).2 := by
      rw [← congrArg (fun x : Except Failure Store.Reply × Course σ => x.2.store) hd]
      rfl
    rw [bind_apply_ok hd, ← hrun, ← hstore]
    rfl

lemma issues_readPersisted : (readPersisted table : Action σ Persisted).Issues :=
  (Issues.run _ _).bind fun _ => Issues.through.check _

lemma issues_proceed (lock : Int) (p : Persisted) :
    (m.proceed table lock p : Action σ (Persisted × List Step)).Issues := by
  refine Through.proceed Issues.through lock (Issues.run _ _)
    (fun rows => Adds.insertRows trivial) ?_
  refine Through.migrateTables Issues.through (fun t _ w _ s _ => Issues.run _ _) fun t _ e _ => ?_
  exact Adds.of_store fun _ => rfl

/-- **The lock is taken first**, and all else are statements. -/
lemma events_steps (ht : m.metadataTable = .text table) (c : Course σ) :
    ∃ new, (m.steps c).2.store.events = new ++ lockEvent table :: c.store.events ∧
      ∀ e ∈ new, e.IsStatement := by
  have hlock := events_takeLock table c
  rw [steps_eq, bind_apply_ok (check_eq_ok.2 ⟨tableName_eq_ok.2 ht, rfl⟩)]
  rcases hd : takeLock table c with ⟨e | lock, d⟩
  · rw [hd] at hlock
    rw [bind_apply_error hd]
    exact ⟨[], hlock, nofun⟩
  · rw [hd] at hlock
    rw [bind_apply_ok hd, ← hlock]
    have hrest : Issues (Action.run (metadataStatement table) .null >>= fun _ =>
        readPersisted table >>= fun p => (m.proceed table lock p : Action σ _)) :=
      (Issues.run _ _).bind fun _ => issues_readPersisted.bind fun p => issues_proceed lock p
    exact hrest d

/-! ### What is told behind the transaction -/

lemma textual_run {c d : Course σ} {statement : Store.Statement} {params : Json}
    {reply : Store.Reply} (hs : c.store.Textual)
    (h : Action.run statement params c = (.ok reply, d)) :
    d.store.Textual ∧ (Text.begins Store.metadataQuery statement.text = true →
      ∀ row ∈ reply.fetched, Store.IsTextual row) := by
  obtain ⟨s, hrun, rfl⟩ := Action.onStore_eq_ok.1 h
  exact Store.textual_run hs hrun

lemma textual_takeLock {c d : Course σ} {lock : Int} (hs : c.store.Textual)
    (h : takeLock table c = (.ok lock, d)) : d.store.Textual := by
  obtain ⟨_, e, hrun, h⟩ := bind_eq_ok.1 h
  obtain ⟨_, e', hlog, h⟩ := bind_eq_ok.1 h
  obtain ⟨-, rfl⟩ := pure_eq_ok.1 h
  rw [Action.log_eq_ok hlog]
  exact (textual_run hs hrun).1

/-- The fingerprint that is told of rows of texts, if any, is a text. -/
lemma hash_of_textual {rows : List Json} (hrows : ∀ row ∈ rows, Store.IsTextual row) {p : Persisted}
    (h : Persisted.ofRows rows = .ok p) : p.hash = .null ∨ ∃ text, p.hash = .text text := by
  obtain ⟨q, hq, htextual⟩ := Persisted.textual_ofRows hrows
  rw [hq] at h
  cases h
  exact htextual.hash

lemma brief_of_textual {p : Persisted} (h : p.hash = .null ∨ ∃ text, p.hash = .text text) :
    ∃ shown, brief (if p.hash.isTruthy then p.hash else .text "none") = .ok shown := by
  rcases h with h | ⟨text, h⟩
  · rw [h]
    exact ⟨_, brief_text rfl⟩
  · rw [h]
    split
    · exact ⟨_, brief_text rfl⟩
    · exact ⟨_, brief_text rfl⟩

lemma brief_of_saveMetadata {c d : Course σ} {step : Step}
    (h : m.saveMetadata table c = (.ok step, d)) : ∃ shown, brief m.hash = .ok shown := by
  obtain ⟨_, _, -, h⟩ := bind_eq_ok.1 h
  obtain ⟨_, _, -, h⟩ := bind_eq_ok.1 h
  obtain ⟨_, _, -, h⟩ := bind_eq_ok.1 h
  obtain ⟨shown, _, hshown, -⟩ := bind_eq_ok.1 h
  exact ⟨shown, (check_eq_ok.1 hshown).1⟩

lemma summary_of_proceed {c d : Course σ} {lock : Int} {p q : Persisted} {steps : List Step}
    (hp : p.hash = .null ∨ ∃ text, p.hash = .text text)
    (h : m.proceed table lock p c = (.ok (q, steps), d)) :
    q.hash.same m.hash = true ∨ ∀ n, ∃ text, m.summary q n = .ok text := by
  unfold proceed at h
  cases hsame : p.hash.same m.hash with
  | true =>
    rw [hsame] at h
    obtain ⟨_, _, -, h⟩ := bind_eq_ok.1 h
    obtain ⟨_, _, -, h⟩ := bind_eq_ok.1 h
    cases (pure_eq_ok.1 h).1
    exact Or.inl hsame
  | false =>
    rw [hsame] at h
    obtain ⟨_, _, -, h⟩ := bind_eq_ok.1 h
    obtain ⟨_, _, hsave, h⟩ := bind_eq_ok.1 h
    cases (pure_eq_ok.1 h).1
    obtain ⟨declared, hdeclared⟩ := brief_of_saveMetadata hsave
    obtain ⟨found, hfound⟩ := brief_of_textual hp
    exact Or.inr (summary_of_brief hfound hdeclared)

/-- **What there is to tell can be told**, once the steps of a migration went well. -/
lemma steps_told {c d : Course σ} {p : Persisted} {steps : List Step} (hs : c.store.Textual)
    (h : m.steps c = (.ok (p, steps), d)) :
    p.hash.same m.hash = true ∨ ∀ n, ∃ text, m.summary p n = .ok text := by
  rw [steps_eq] at h
  obtain ⟨table, _, hcheck, h⟩ := bind_eq_ok.1 h
  obtain ⟨-, rfl⟩ := check_eq_ok.1 hcheck
  obtain ⟨lock, e₁, htake, h⟩ := bind_eq_ok.1 h
  have h₁ := textual_takeLock hs htake
  obtain ⟨_, e₂, hcreate, h⟩ := bind_eq_ok.1 h
  have h₂ := (textual_run h₁ hcreate).1
  obtain ⟨q, e₃, hread, h⟩ := bind_eq_ok.1 h
  obtain ⟨reply, e₄, hrun, hread⟩ := bind_eq_ok.1 hread
  obtain ⟨hrows, rfl⟩ := check_eq_ok.1 hread
  exact summary_of_proceed (hash_of_textual ((textual_run h₂ hrun).2 begins_readStatement) hrows) h

/-! ### The whole migration -/

lemma store_migrate (m : Migrator) (c : Course σ) :
    (m.migrate c).2.store = (m.transacted c).2.store := by
  rcases hd : m.transacted c with ⟨e | done, d⟩
  · rw [migrate_eq, bind_apply_error hd]
  · rw [migrate_eq, bind_apply_ok hd]
    exact store_report m done d

/-- What a migration found and did, when its transaction ended well, can be told. -/
lemma report_of_transacted {c d : Course σ} {done : Persisted × List Step} (hs : c.store.Textual)
    (h : m.transacted c = (.ok done, d)) : ∃ r e, m.report done d = (.ok r, e) := by
  obtain ⟨b, _, htrans, hb, -⟩ := Action.within_eq_ok h
  obtain ⟨s, f, _, hbegin, hf, hsteps, -⟩ := Action.transaction_eq_ok htrans
  rw [hb] at hbegin hf
  have hbegun : f.store.Textual := by
    obtain ⟨hmetadata, hscript⟩ := Store.textual_signal hs hbegin
    rw [hf]
    exact ⟨hmetadata, hscript⟩
  exact report_of_summary ((steps_told hbegun hsteps).imp_right fun h => h done.2.length) d

/-- **A migration that fails, fails in its transaction.** -/
lemma transacted_eq_error {c : Course σ} {e : Failure} (hs : c.store.Textual)
    (h : (m.migrate c).1 = .error e) : (m.transacted c).1 = .error e := by
  rcases hd : m.transacted c with ⟨e' | done, d⟩
  · rw [migrate_eq, bind_apply_error hd] at h
    cases h
    rfl
  · obtain ⟨r, d', hr⟩ := report_of_transacted hs hd
    rw [migrate_eq, bind_apply_ok hd, hr] at h
    cases h

lemma transacted_eq_ok {c : Course σ} {r : Result} (h : (m.migrate c).1 = .ok r) :
    ∃ done, (m.transacted c).1 = .ok done := by
  rcases hd : m.transacted c with ⟨e | done, d⟩
  · rw [migrate_eq, bind_apply_error hd] at h
    cases h
  · exact ⟨done, rfl⟩

/-- **A migration is done as a whole or not at all**, where the rows of metadata are texts, and the
table of metadata takes no others.  A migration that fails, at whatever statement and on whatever
table, leaves the metadata and the catalog as they were.  However it ends, all its statements stand
in one transaction, the one that takes the lock comes first, and the transaction is committed if the
migration goes through. -/
theorem migrate_atomic (m : Migrator) {c : Course σ} (hs : c.store.Textual) :
    (∀ e d, m.migrate c = (.error e, d) → d.store.metadata = c.store.metadata ∧
      d.store.applied = c.store.applied ∧ d.store.catalog = c.store.catalog) ∧
    ∀ table, m.metadataTable = .text table →
      ∃ trace, (m.migrate c).2.store.events = trace.reverse ++ c.store.events ∧
        Store.OneTransaction c.store.depth (lockEvent table) trace ∧
        ∀ r, (m.migrate c).1 = .ok r → trace.getLast? = some (.commit c.store.depth) := by
  -- the transaction is all of a migration that reaches the store
  obtain ⟨b, hb, hr, hstore⟩ :=
    Action.within_apply .operation "migrate" (Action.transaction m.steps) c
  have hmigrate : (m.migrate c).2.store = (Action.transaction m.steps b).2.store :=
    (store_migrate m c).trans hstore
  refine ⟨fun e d h => ?_, fun table ht => ?_⟩
  · have hfail := transacted_eq_error hs (congrArg Prod.fst h)
    obtain ⟨hmetadata, happlied⟩ := Action.transaction_eq_error
      (Prod.ext (hr.symm.trans hfail) rfl)
    rw [← hmigrate, hb, h] at hmetadata happlied
    exact ⟨hmetadata, happlied, by rw [Store.catalog, happlied, Store.catalog]⟩
  · obtain ⟨trace, htrace, hone, hlast⟩ := Action.oneTransaction (events_steps ht) b
    rw [← hmigrate, hb] at htrace
    rw [hb] at hone hlast
    refine ⟨trace, htrace, hone, fun r h => ?_⟩
    obtain ⟨done, hdone⟩ := transacted_eq_ok h
    exact hlast done (hr.symm.trans hdone)

/-- A migrator for two tables that may not drop any. -/
def cautious : Migrator where
  tables := ["labels", "items"].map fun name => Table.ofColumns name name
    [{ name := "id", columnName := "id", kind := .long, nullable := false, indexed := false,
       primaryKey := true, autoId := true, onConflict := .none }]
  hash := .text "0f"
  metadataTable := .text "schema_metadata"
  destructive := .bool false
  now := ⟨"2026-10-19", "00:00:00"⟩

/-- A database in which the second table is known in another form. -/
def stale : Store := { metadata := [(Row.ofTable "items" "CREATE TABLE items ()").toJson] }

lemma told_stale :
    stale.told = .ok { tables := [(.text "items", .text "CREATE TABLE items ()")] } := by
  simp only [Store.told, stale, Store.sortedMetadata, Store.checkOrder, List.mergeSort_singleton]
  rfl

/-- The first table is created, and then the migration is refused at the second. -/
theorem migrate_atomic_refused : ∃ (e : Failure) (d : Course Unit), stale.Textual ∧
    cautious.migrate { store := stale, work := () } = (.error e, d) ∧
    d.store.metadata = stale.metadata ∧ d.store.catalog = stale.catalog := by
  have hs : stale.Textual := by
    refine ⟨fun row hrow => ?_, nofun⟩
    obtain rfl := List.mem_singleton.1 hrow
    exact ⟨_, _, _, rfl⟩
  rcases hr : cautious.migrate { store := stale, work := () } with ⟨e | r, d⟩
  · obtain ⟨hmetadata, -, hcatalog⟩ := (migrate_atomic cautious hs).1 e d hr
    exact ⟨e, d, hs, rfl, hmetadata, hcatalog⟩
  · exfalso
    obtain ⟨table, p, done, rows, -, htold, -, hran, -⟩ :=
      migrate_eq_ok (Store.onlyFails_of_quiet rfl) hr
    rw [told_stale] at htold
    cases htold
    generalize r.steps = steps at hran
    cases hran with
    | unchanged hsame => cases hsame
    | @changed _ ws _ _ hws _ _ =>
      obtain ⟨_, _, -, hrest, -⟩ := List.forall₂_cons_left_iff.1 hws
      obtain ⟨w, _, ⟨hplan, -⟩, -⟩ := List.forall₂_cons_left_iff.1 hrest
      cases hplan

end Migration.Migrator

end PgSchema
