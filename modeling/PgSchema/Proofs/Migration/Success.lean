import Mathlib.Data.List.Forall2
import PgSchema.Proofs.Migration.Metadata
import PgSchema.Proofs.Migration.Parts
import PgSchema.Proofs.Store.Statements
import PgSchema.Proofs.Text.Basic

/-!
Migrations that succeeded, taken apart.

`migrate_eq_ok` says all that a migration that ended well can have done: what the metadata told, the
work that was planned on each table, the statements that came into effect, and the rows of metadata
behind them.
-/

namespace PgSchema

open Store (Event Leads)

namespace Action

variable {σ α β : Type} {c d : Course σ}

lemma run_eq_ok {statement : Store.Statement} {params : Json} {reply : Store.Reply}
    (hs : c.store.script.OnlyFails) (h : run statement params c = (.ok reply, d)) :
    Leads c.store d.store [.execute statement.text params] (statement.rowsAfter c.store.metadata) ∧
      (Text.begins Store.metadataQuery statement.text = true →
        c.store.sortedMetadata = .ok reply.fetched) := by
  obtain ⟨s, hrun, rfl⟩ := onStore_eq_ok.1 h
  exact Store.run_eq_ok hs hrun

/-- **Work on one item after the other**: what is known of the work on each item is known of all. -/
lemma each_eq_ok {ω : Type} {f : α → Action σ β} {R : α → ω → Prop} {value : ω → β}
    {events : ω → List Event} (hf : ∀ a (c d : Course σ) b, c.store.script.OnlyFails →
      f a c = (.ok b, d) → ∃ w, R a w ∧ value w = b ∧
        Leads c.store d.store (events w) c.store.metadata)
    {l : List α} {bs : List β} (hs : c.store.script.OnlyFails) (h : each f l c = (.ok bs, d)) :
    ∃ ws, List.Forall₂ R l ws ∧ ws.map value = bs ∧
      Leads c.store d.store (ws.flatMap events) c.store.metadata := by
  induction l generalizing c bs with
  | nil =>
    obtain ⟨rfl, rfl⟩ := pure_eq_ok.1 h
    exact ⟨[], List.Forall₂.nil, rfl, Leads.refl hs⟩
  | cons a l ih =>
    rw [each] at h
    obtain ⟨b, e, hb, h⟩ := bind_eq_ok.1 h
    obtain ⟨bs', e', hbs, h⟩ := bind_eq_ok.1 h
    obtain ⟨rfl, rfl⟩ := pure_eq_ok.1 h
    obtain ⟨w, hw, rfl, hlead⟩ := hf a c e b hs hb
    obtain ⟨ws, hws, rfl, hleads⟩ := ih hlead.script hbs
    rw [hlead.metadata] at hleads
    exact ⟨w :: ws, List.Forall₂.cons hw hws, rfl, hlead.trans hleads⟩

end Action

namespace Migration

/-- The statements of a piece of work, as events. -/
def Work.events (w : Work) : List Event := w.statements.map (.execute · .null)

namespace Migrator

open PgSchema.Action (bind_eq_ok check_eq_ok pure_eq_ok log_eq_ok)

/-- The statement that takes the lock, as an event. -/
def lockEvent (table : String) : Event :=
  .execute lockStatement.text (.list [.int (Lock.id (Lock.migrationKey table))])

/-- The statements that every migration begins with. -/
def opening (table : String) : List Event :=
  [lockEvent table, .execute (metadataStatement table).text .null,
   .execute (readStatement table).text .null]

/-- The statements that write metadata. -/
def saving (table : String) (rows : List Row) : List Event :=
  [.execute (clearStatement table).text .null,
   .executeMany (insertStatement table) (rows.map Row.toJson)]

variable {σ : Type} {m : Migrator} {c d : Course σ} {table : String} {p : Persisted}

/-! ### Texts of statements -/

lemma rowsAfter_metadataStatement (rows : List Json) :
    (metadataStatement table).rowsAfter rows = rows := by
  have h : Text.begins Store.emptying (metadataStatement table).text = false := by
    refine Text.not_begins (c := 'D') (d := '\n') rfl ?_ (by decide)
    simp only [metadataStatement, Store.Statement.text, String.toList_append, List.append_assoc]
    rfl
  rw [metadataStatement] at h ⊢
  simp only [Store.Statement.rowsAfter, Store.Statement.text] at h ⊢
  rw [h]
  rfl

lemma begins_readStatement :
    Text.begins Store.metadataQuery (readStatement table).text = true :=
  Text.begins_append_of_begins (Text.begins_append _ _) _

lemma rowsAfter_readStatement (rows : List Json) : (readStatement table).rowsAfter rows = rows := by
  have h : Text.begins Store.metadataQuery (readStatement table).text = true := begins_readStatement
  rw [readStatement] at h ⊢
  simp only [Store.Statement.rowsAfter, Store.Statement.text] at h ⊢
  rw [h]
  simp

lemma rowsAfter_clearStatement (rows : List Json) : (clearStatement table).rowsAfter rows = [] := by
  have he : Text.begins Store.emptying (clearStatement table).text = true := Text.begins_append _ _
  have hq : Text.begins Store.metadataQuery (clearStatement table).text = false := by
    refine Text.not_begins (c := 'S') (d := 'D') rfl ?_ (by decide)
    simp only [clearStatement, Store.Statement.text, String.toList_append]
    rfl
  rw [clearStatement] at he hq ⊢
  simp only [Store.Statement.rowsAfter, Store.Statement.text] at he hq ⊢
  rw [he, hq]
  rfl

/-! ### Inside the transaction -/

lemma takeLock_eq_ok {lock : Int} (hs : c.store.script.OnlyFails)
    (h : takeLock table c = (.ok lock, d)) : lock = Lock.id (Lock.migrationKey table) ∧
      Leads c.store d.store [lockEvent table] c.store.metadata := by
  obtain ⟨_, e, hrun, h⟩ := bind_eq_ok.1 h
  obtain ⟨_, e', hlog, h⟩ := bind_eq_ok.1 h
  obtain ⟨rfl, rfl⟩ := pure_eq_ok.1 h
  rw [log_eq_ok hlog]
  exact ⟨rfl, (Action.run_eq_ok hs hrun).1⟩

lemma readPersisted_eq_ok (hs : c.store.script.OnlyFails)
    (h : readPersisted table c = (.ok p, d)) : c.store.told = .ok p ∧
      Leads c.store d.store [.execute (readStatement table).text .null] c.store.metadata := by
  obtain ⟨reply, e, hrun, h⟩ := bind_eq_ok.1 h
  obtain ⟨hp, rfl⟩ := check_eq_ok.1 h
  obtain ⟨hlead, hread⟩ := Action.run_eq_ok hs hrun
  rw [rowsAfter_readStatement] at hlead
  refine ⟨?_, hlead⟩
  rw [Store.told, hread begins_readStatement]
  exact hp

lemma each_statement_eq_ok {statements : List String} {replies : List Store.Reply}
    (hs : c.store.script.OnlyFails)
    (h : Action.each (fun s => Action.run (.plain s) .null) statements c = (.ok replies, d)) :
    Leads c.store d.store (statements.map (.execute · .null)) c.store.metadata := by
  induction statements generalizing c replies with
  | nil =>
    obtain ⟨-, rfl⟩ := pure_eq_ok.1 h
    exact Leads.refl hs
  | cons s statements ih =>
    rw [Action.each] at h
    obtain ⟨_, e, hrun, h⟩ := bind_eq_ok.1 h
    obtain ⟨_, e', heach, h⟩ := bind_eq_ok.1 h
    obtain ⟨-, rfl⟩ := pure_eq_ok.1 h
    have hlead := (Action.run_eq_ok hs hrun).1
    have hleads := ih hlead.script heach
    rw [hlead.metadata] at hleads
    exact hlead.trans hleads

lemma perform_eq_ok {w : Work} {step : Step} (hs : c.store.script.OnlyFails)
    (h : perform w c = (.ok step, d)) : w.stop = none ∧ w.step = step ∧
      Leads c.store d.store w.events c.store.metadata := by
  obtain ⟨_, e, heach, h⟩ := bind_eq_ok.1 h
  have hlead := each_statement_eq_ok hs heach
  cases hstop : w.stop with
  | some fault =>
    rw [hstop] at h
    obtain ⟨_, _, hfail, -⟩ := bind_eq_ok.1 h
    exact absurd hfail Action.fail_ne_ok
  | none =>
    rw [hstop] at h
    dsimp only at h
    rcases hnote : w.note with _ | ⟨level, message⟩
    · rw [hnote] at h
      obtain ⟨rfl, rfl⟩ := pure_eq_ok.1 h
      exact ⟨rfl, rfl, hlead⟩
    · rw [hnote] at h
      obtain ⟨_, e', hlog, h⟩ := bind_eq_ok.1 h
      obtain ⟨rfl, rfl⟩ := pure_eq_ok.1 h
      rw [log_eq_ok hlog]
      exact ⟨rfl, rfl, hlead⟩

lemma migrateTable_eq_ok {t : Table} {step : Step} (hs : c.store.script.OnlyFails)
    (h : m.migrateTable p t c = (.ok step, d)) :
    ∃ w, tableWork m.hash m.destructive.isTruthy p t = .ok w ∧ w.stop = none ∧ w.step = step ∧
      Leads c.store d.store w.events c.store.metadata := by
  obtain ⟨b, e, hbody, hb, hd⟩ := Action.within_eq_ok h
  cases hw : tableWork m.hash m.destructive.isTruthy p t with
  | error failure =>
    rw [hw] at hbody
    exact absurd hbody Action.fail_ne_ok
  | ok w =>
    rw [hw] at hbody
    obtain ⟨hstop, hstep, hlead⟩ := perform_eq_ok (hb ▸ hs) hbody
    rw [hb, hd] at hlead
    exact ⟨w, rfl, hstop, hstep, hlead⟩

lemma migrateTables_eq_ok {done : List Step} (hs : c.store.script.OnlyFails)
    (h : m.migrateTables p c = (.ok done, d)) :
    ∃ ws, List.Forall₂ (m.Plans p) m.tables ws ∧ ws.map Work.step = done ∧
      Leads c.store d.store (ws.flatMap Work.events) c.store.metadata := by
  unfold migrateTables at h
  cases hp : p.isEmpty with
  | true =>
    rw [hp] at h
    refine Action.each_eq_ok (fun t c d b hs hb => ?_) hs h
    obtain ⟨hstop, hstep, hlead⟩ := perform_eq_ok hs hb
    exact ⟨installWork t, ⟨by rw [plan, hp]; rfl, hstop⟩, hstep, hlead⟩
  | false =>
    rw [hp] at h
    refine Action.each_eq_ok (fun t c d b hs hb => ?_) hs h
    obtain ⟨w, hw, hstop, hstep, hlead⟩ := migrateTable_eq_ok hs hb
    exact ⟨w, ⟨by rw [plan, hp]; exact hw, hstop⟩, hstep, hlead⟩

lemma saveMetadata_eq_ok {step : Step} (hs : c.store.script.OnlyFails)
    (h : m.saveMetadata table c = (.ok step, d)) :
    ∃ rows, metadataRows m.hash m.tables = .ok rows ∧ step.status = .success ∧
      Leads c.store d.store (saving table rows) (rows.map Row.toJson) := by
  obtain ⟨_, e, hrun, h⟩ := bind_eq_ok.1 h
  obtain ⟨rows, e', hcheck, h⟩ := bind_eq_ok.1 h
  obtain ⟨hrows, rfl⟩ := check_eq_ok.1 hcheck
  obtain ⟨_, e', hstore, h⟩ := bind_eq_ok.1 h
  obtain ⟨s, hinsert, rfl⟩ := Action.onStore_eq_ok.1 hstore
  obtain ⟨shown, e', hshown, h⟩ := bind_eq_ok.1 h
  obtain ⟨-, rfl⟩ := check_eq_ok.1 hshown
  obtain ⟨rfl, rfl⟩ := pure_eq_ok.1 h
  have hclear := (Action.run_eq_ok hs hrun).1
  rw [rowsAfter_clearStatement] at hclear
  have hwrite := Store.insertRows_eq_ok hclear.script hinsert
  rw [hclear.metadata, List.nil_append] at hwrite
  exact ⟨rows, hrows, rfl, hclear.trans hwrite⟩

/-! ### The whole migration -/

/-- **What a migration does that ends well**: from what is told and the rows of metadata there were,
to the steps, the statements, and the rows of metadata there are. -/
inductive Ran (m : Migrator) (table : String) (p : Persisted) (before : List Json) :
    List Step → List Event → List Json → Prop
  /-- The declared fingerprint is there. -/
  | unchanged (h : p.hash.same m.hash = true) :
      Ran m table p before [unchangedStep (Lock.id (Lock.migrationKey table))] (opening table)
        before
  /-- The work on each table is done, and then the metadata are written. -/
  | changed (h : p.hash.same m.hash = false) {ws : List Work} {rows : List Row} {saved : Step}
      (hws : List.Forall₂ (m.Plans p) m.tables ws) (hrows : metadataRows m.hash m.tables = .ok rows)
      (hsaved : saved.status = .success) :
      Ran m table p before (ws.map Work.step ++ [saved])
        (opening table ++ (ws.flatMap Work.events ++ saving table rows)) (rows.map Row.toJson)

/-- A migration that finds its fingerprint leaves the metadata. -/
lemma Ran.after_eq {before after : List Json} {steps : List Step} {done : List Event}
    (h : m.Ran table p before steps done after) (hsame : p.hash.same m.hash = true) :
    after = before := by
  cases h with
  | unchanged _ => rfl
  | changed hdiffer _ _ _ =>
    rw [hsame] at hdiffer
    cases hdiffer

lemma proceed_eq_ok {lock : Int} {q : Persisted} {steps : List Step}
    (hs : c.store.script.OnlyFails) (h : m.proceed table lock p c = (.ok (q, steps), d)) :
    q = p ∧ ((p.hash.same m.hash = true ∧ steps = [unchangedStep lock] ∧ d.store = c.store) ∨
      (p.hash.same m.hash = false ∧ ∃ ws rows saved, List.Forall₂ (m.Plans p) m.tables ws ∧
        metadataRows m.hash m.tables = .ok rows ∧ saved.status = .success ∧
        steps = ws.map Work.step ++ [saved] ∧ Leads c.store d.store
          (ws.flatMap Work.events ++ saving table rows) (rows.map Row.toJson))) := by
  unfold proceed at h
  cases hsame : p.hash.same m.hash with
  | true =>
    rw [hsame] at h
    obtain ⟨_, _, hbrief, h⟩ := bind_eq_ok.1 h
    obtain ⟨-, rfl⟩ := check_eq_ok.1 hbrief
    obtain ⟨_, e, hlog, h⟩ := bind_eq_ok.1 h
    obtain ⟨he, rfl⟩ := pure_eq_ok.1 h
    cases he
    exact ⟨rfl, Or.inl ⟨rfl, rfl, log_eq_ok hlog⟩⟩
  | false =>
    rw [hsame] at h
    obtain ⟨done, e, hdone, h⟩ := bind_eq_ok.1 h
    obtain ⟨saved, e', hsaved, h⟩ := bind_eq_ok.1 h
    obtain ⟨he, rfl⟩ := pure_eq_ok.1 h
    cases he
    obtain ⟨ws, hws, rfl, hwork⟩ := migrateTables_eq_ok hs hdone
    obtain ⟨rows, hrows, hstatus, hsaving⟩ := saveMetadata_eq_ok hwork.script hsaved
    exact ⟨rfl, Or.inr ⟨rfl, ws, rows, saved, hws, hrows, hstatus, rfl, hwork.trans hsaving⟩⟩

lemma steps_eq_ok {steps : List Step} (hs : c.store.script.OnlyFails)
    (h : m.steps c = (.ok (p, steps), d)) :
    ∃ table done rows, m.metadataTable = .text table ∧ c.store.told = .ok p ∧
      m.Ran table p c.store.metadata steps done rows ∧ Leads c.store d.store done rows := by
  rw [steps_eq] at h
  obtain ⟨table, _, hcheck, h⟩ := bind_eq_ok.1 h
  obtain ⟨hname, rfl⟩ := check_eq_ok.1 hcheck
  have htable := tableName_eq_ok.1 hname
  obtain ⟨lock, e, htake, h⟩ := bind_eq_ok.1 h
  obtain ⟨rfl, hlock⟩ := takeLock_eq_ok hs htake
  obtain ⟨_, e', hrun, h⟩ := bind_eq_ok.1 h
  have hcreate := (Action.run_eq_ok hlock.script hrun).1
  rw [rowsAfter_metadataStatement, hlock.metadata] at hcreate
  obtain ⟨q, e'', hread, h⟩ := bind_eq_ok.1 h
  obtain ⟨htold', hreads⟩ := readPersisted_eq_ok hcreate.script hread
  rw [hcreate.metadata] at hreads
  have hopening : Leads c.store e''.store (opening table) c.store.metadata :=
    (hlock.trans hcreate).trans hreads
  have htold : c.store.told = .ok q := by
    rw [← htold', Store.told_congr hcreate.metadata]
  obtain ⟨rfl, hproceed⟩ := proceed_eq_ok hopening.script h
  rcases hproceed with ⟨hsame, rfl, hstore⟩ |
    ⟨hdiffer, ws, rows, saved, hws, hrows, hstatus, rfl, hdone⟩
  · rw [← hstore] at hopening
    exact ⟨table, _, _, htable, htold, Ran.unchanged hsame, hopening⟩
  · exact ⟨table, _, _, htable, htold, Ran.changed hdiffer hws hrows hstatus, hopening.trans hdone⟩

lemma report_eq_ok {done : Persisted × List Step} {r : Result}
    (h : m.report done c = (.ok r, d)) :
    r.persisted = done.1.hash ∧ r.steps = done.2 ∧ d.store = c.store := by
  unfold report at h
  cases hsame : done.1.hash.same m.hash with
  | true =>
    rw [hsame] at h
    obtain ⟨rfl, rfl⟩ := pure_eq_ok.1 h
    exact ⟨rfl, rfl, rfl⟩
  | false =>
    rw [hsame] at h
    obtain ⟨text, _, hcheck, h⟩ := bind_eq_ok.1 h
    obtain ⟨-, rfl⟩ := check_eq_ok.1 hcheck
    obtain ⟨_, e, hlog, h⟩ := bind_eq_ok.1 h
    obtain ⟨rfl, rfl⟩ := pure_eq_ok.1 h
    exact ⟨rfl, rfl, log_eq_ok hlog⟩

/-- **All that a migration can have done that ended well.** -/
theorem migrate_eq_ok {r : Result} (hs : c.store.script.OnlyFails)
    (h : m.migrate c = (.ok r, d)) :
    ∃ table p done rows, m.metadataTable = .text table ∧ c.store.told = .ok p ∧
      r.persisted = p.hash ∧ m.Ran table p c.store.metadata r.steps done rows ∧
      d.store.script.OnlyFails ∧ d.store.metadata = rows ∧
      d.store.applied = done.reverse ++ c.store.applied ∧
      d.store.events = .commit c.store.depth :: (done.reverse ++
        .begin c.store.depth :: c.store.events) := by
  rw [migrate_eq] at h
  obtain ⟨⟨p, steps⟩, e, htrans, hreport⟩ := bind_eq_ok.1 h
  obtain ⟨hpersisted, hrsteps, hstore⟩ := report_eq_ok hreport
  obtain ⟨b, b', htrans, hb, hd⟩ := Action.within_eq_ok htrans
  obtain ⟨s, f, g, hbegin, hf, hsteps, hcommit⟩ := Action.transaction_eq_ok htrans
  rw [hb] at hbegin hf hcommit
  obtain ⟨hscript, hbegun⟩ := Store.signal_eq_ok hs hbegin
  obtain ⟨table, done, rows, htable, htold, hran, hleads⟩ :=
    steps_eq_ok (c := f) (by rw [hf]; exact hscript) hsteps
  obtain ⟨hscript', hdone⟩ := Store.signal_eq_ok (s := { g.store with depth := c.store.depth })
    hleads.script hcommit
  rw [hf, hbegun] at htold hran hleads
  rw [hstore, ← hd, hdone, hrsteps]
  refine ⟨table, p, done, rows, htable, htold, hpersisted, hran, hscript', hleads.metadata,
    hleads.applied, ?_⟩
  exact congrArg _ hleads.events

end Migrator

end Migration

end PgSchema
