import PgSchema.Migration.Migrator
import PgSchema.Proofs.Course.Traces

/-!
The parts of a migration.

A migration takes the lock, sees to the table of metadata, reads it, and then proceeds by what it
has read (`steps_eq`).  All that happens in one transaction, and what was done is reported behind it
(`migrate_eq`).  What goes through the ways in which actions are put together, and is true of the
statements and of the work on each table, is true of the whole (`Through.migrate`).
-/

namespace PgSchema.Migration.Migrator

variable {σ : Type} {m : Migrator} {table : String} {p : Persisted}

lemma tableName_eq_ok : m.tableName = .ok table ↔ m.metadataTable = .text table := by
  unfold tableName
  cases m.metadataTable <;> simp

/-- The work on a table: all tables are created where nothing is told of any. -/
def plan (m : Migrator) (p : Persisted) (t : Table) : Except Failure Work :=
  if p.isEmpty then .ok (installWork t) else tableWork m.hash m.destructive.isTruthy p t

/-- Work that is planned for a table, and goes through. -/
def Plans (m : Migrator) (p : Persisted) (t : Table) (w : Work) : Prop :=
  m.plan p t = .ok w ∧ w.stop = none

/-- All tables are brought in line. -/
def migrateTables (m : Migrator) (p : Persisted) : Action σ (List Step) :=
  if p.isEmpty then Action.each (fun t => perform (installWork t)) m.tables
  else Action.each (m.migrateTable p) m.tables

/-- What a migration does once the metadata are read. -/
def proceed (m : Migrator) (table : String) (lock : Int) (p : Persisted) :
    Action σ (Persisted × List Step) :=
  if p.hash.same m.hash then do
    let shown ← Action.check (brief m.hash)
    Action.log .debug .migration ("Schema up to date (" ++ shown ++ ")")
    return (p, [unchangedStep lock])
  else do
    let done ← m.migrateTables p
    let saved ← m.saveMetadata table
    return (p, done ++ [saved])

lemma steps_eq (m : Migrator) : (m.steps : Action σ (Persisted × List Step)) =
    (Action.check m.tableName >>= fun table => takeLock table >>= fun lock =>
      Action.run (metadataStatement table) .null >>= fun _ =>
        readPersisted table >>= fun p => m.proceed table lock p) := by
  have hproceed : ∀ table lock p, (m.proceed table lock p : Action σ (Persisted × List Step)) =
      if p.hash.same m.hash then
        (do
          let shown ← Action.check (brief m.hash)
          Action.log .debug .migration ("Schema up to date (" ++ shown ++ ")")
          return (p, [unchangedStep lock]))
      else
        (do
          let done ← if p.isEmpty then Action.each (fun t => perform (installWork t)) m.tables
            else Action.each (m.migrateTable p) m.tables
          let saved ← m.saveMetadata table
          return (p, done ++ [saved])) := by
    intro table lock p
    unfold proceed migrateTables
    cases p.isEmpty <;> rfl
  simp only [hproceed]
  rfl

/-- The part of a migration that runs statements. -/
def transacted (m : Migrator) : Action σ (Persisted × List Step) :=
  Action.within .operation "migrate" (Action.transaction m.steps)

/-- The part of a migration that tells what was done. -/
def report (m : Migrator) (done : Persisted × List Step) : Action σ Result := do
  if done.1.hash.same m.hash then pure ()
  else
    let text ← Action.check (m.summary done.1 done.2.length)
    Action.log .info .migration text
  return ⟨m.hash, done.1.hash, m.now.stamp, done.2⟩

lemma summary_of_brief {found declared : String}
    (hfound : brief (if p.hash.isTruthy then p.hash else .text "none") = .ok found)
    (hdeclared : brief m.hash = .ok declared) (count : Nat) :
    ∃ text, m.summary p count = .ok text := by
  refine ⟨"Migrated schema " ++ found ++ " -> " ++ declared ++ " (" ++ toString count ++
    " steps)", ?_⟩
  rw [summary, hfound, hdeclared]
  rfl

/-- What was done is reported, if there is nothing to tell or it can be put together. -/
lemma report_of_summary {done : Persisted × List Step}
    (h : done.1.hash.same m.hash = true ∨ ∃ text, m.summary done.1 done.2.length = .ok text)
    (c : Course σ) : ∃ r d, m.report done c = (.ok r, d) := by
  unfold report
  cases hsame : done.1.hash.same m.hash with
  | true => exact ⟨_, _, rfl⟩
  | false =>
    obtain ⟨text, htext⟩ := h.resolve_left (by simp [hsame])
    rw [htext]
    exact ⟨_, _, rfl⟩

lemma store_report (m : Migrator) (done : Persisted × List Step) (c : Course σ) :
    (m.report done c).2.store = c.store := by
  unfold report
  cases done.1.hash.same m.hash with
  | true => rfl
  | false => cases m.summary done.1 done.2.length <;> rfl

lemma migrate_eq (m : Migrator) : (m.migrate : Action σ Result) = m.transacted >>= m.report := rfl

/-! ### Properties of the parts and of the whole -/

section Through

open PgSchema.Action (Through)

variable {C : ∀ α : Type, Action σ α → Prop}

lemma Through.perform (hC : Through C) {w : Work}
    (h : ∀ s ∈ w.statements, C Store.Reply (Action.run (.plain s) .null)) :
    C Step (perform w) := by
  refine hC.bind (hC.each h) fun _ => ?_
  rcases w.stop with _ | fault <;> rcases w.note with _ | ⟨level, message⟩
  · exact hC.pure w.step
  · exact hC.bind (hC.log _ _ _) fun _ => hC.pure w.step
  · exact hC.bind (hC.check (.error fault)) fun _ => hC.pure w.step
  · exact hC.bind (hC.check (.error fault)) fun _ =>
      hC.bind (hC.log _ _ _) fun _ => hC.pure w.step

/-- What is true of the work on each table is true of the work on all. -/
lemma Through.migrateTables (hC : Through C) (hwork : ∀ t ∈ m.tables, ∀ w, m.plan p t = .ok w →
      ∀ s ∈ w.statements, C Store.Reply (Action.run (.plain s) .null))
    (hfail : ∀ t ∈ m.tables, ∀ e, m.plan p t = .error e → C Step (Action.fail e)) :
    C (List Step) (m.migrateTables p) := by
  unfold Migrator.migrateTables
  unfold plan at hwork hfail
  cases hp : p.isEmpty with
  | true =>
    rw [hp] at hwork
    exact hC.each fun t ht => Through.perform hC (hwork t ht _ rfl)
  | false =>
    rw [hp] at hwork hfail
    refine hC.each fun t ht => hC.within _ _ ?_
    have hwork' := hwork t ht
    have hfail' := hfail t ht
    revert hwork' hfail'
    rcases tableWork m.hash m.destructive.isTruthy p t with e | w
    · exact fun _ hfail' => hfail' e rfl
    · exact fun hwork' _ => Through.perform hC (hwork' w rfl)

lemma Through.proceed (hC : Through C) (lock : Int)
    (hclear : C Store.Reply (Action.run (clearStatement table) .null))
    (hinsert : ∀ rows, C Unit (Action.onStore fun s => s.insertRows (insertStatement table) rows))
    (htables : C (List Step) (m.migrateTables p)) :
    C (Persisted × List Step) (m.proceed table lock p) := by
  have hsave : C Step (m.saveMetadata table) :=
    hC.bind hclear fun _ => hC.bind (hC.check _) fun _ => hC.bind (hinsert _) fun _ =>
      hC.bind (hC.check _) fun _ => hC.pure _
  unfold Migrator.proceed
  split
  · exact hC.bind (hC.check _) fun _ => hC.bind (hC.log _ _ _) fun _ => hC.pure _
  · exact hC.bind htables fun _ => hC.bind hsave fun _ => hC.pure _

/-- **What is true of its statements and of the work on each table** is true of a migration. -/
lemma Through.migrate (hC : Through C) (m : Migrator)
    (hlock : ∀ params, C Store.Reply (Action.run lockStatement params))
    (hmetadata : ∀ table, C Store.Reply (Action.run (metadataStatement table) .null))
    (hread : ∀ table, C Store.Reply (Action.run (readStatement table) .null))
    (hclear : ∀ table, C Store.Reply (Action.run (clearStatement table) .null))
    (hinsert : ∀ table rows,
      C Unit (Action.onStore fun s => s.insertRows (insertStatement table) rows))
    (htables : ∀ p, C (List Step) (m.migrateTables p))
    (htransaction : ∀ {body : Action σ (Persisted × List Step)},
      C (Persisted × List Step) body → C (Persisted × List Step) (Action.transaction body)) :
    C Result m.migrate := by
  have hsteps : C (Persisted × List Step) m.steps := by
    rw [steps_eq]
    refine hC.bind (hC.check _) fun table => hC.bind ?_ fun lock =>
      hC.bind (hmetadata table) fun _ => hC.bind ?_ fun p =>
        Through.proceed hC lock (hclear table) (hinsert table) (htables p)
    · exact hC.bind (hlock _) fun _ => hC.bind (hC.log _ _ _) fun _ => hC.pure _
    · exact hC.bind (hread table) fun _ => hC.check _
  have hreport : ∀ done, C Result (m.report done) := by
    intro done
    unfold report
    split
    · exact hC.bind (hC.pure ()) fun _ => hC.pure _
    · exact hC.bind (hC.check _) fun _ => hC.bind (hC.log _ _ _) fun _ => hC.pure _
  rw [migrate_eq]
  exact hC.bind (hC.within _ _ (htransaction hsteps)) hreport

end Through

end PgSchema.Migration.Migrator
