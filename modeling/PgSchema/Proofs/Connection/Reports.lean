import PgSchema.Proofs.Connection.Client
import PgSchema.Proofs.Connection.Gate

/-!
What is reported of failures.

The failure of a task is reported as an abort by the outermost transaction.  A transaction inside
another one passes the failure on as it is, and that is an abort only if it was one before
(`call_eq_of_failed`).

Failures are wrapped once.  Guards stand within each other: a level of the nesting does something,
goes on to the next level, and does something with what comes of it, all under its own guard.  What
is raised within the innermost guard leaves that guard as a failure of the repository
(`Guard.Leaves`), and every guard around it passes that failure on, with no line of the log of its
own (`wrapped_once`).  A statement outside of a transaction has the guard of the migration within
its own one.  So its caller is told of a migration that fails just what a caller of the migration is
told.
-/

namespace PgSchema.Connection

variable {S : Type}

/-! ### Aborts -/

/-- **The failure of a task is reported as an abort**: as it is, if it is one, and otherwise as one
that names the operation and has the failure for its cause. -/
def Aborts (exclusive : Bool) (e : Failure) (call : Except Failure Json) : Prop :=
  ∃ abort, call = .error abort ∧ abort.isAbort = true ∧
    if e.isAbort then abort = e
    else abort.operation? = some (transactionName exclusive) ∧ abort.cause? = some e

lemma aborts_reported (exclusive : Bool) (e : Failure) :
    Aborts exclusive e (.error (reported exclusive e)) := by
  refine ⟨_, rfl, ?_⟩
  unfold reported
  split
  · rename_i habort
    exact ⟨habort, rfl⟩
  · exact ⟨rfl, rfl, rfl⟩

/-- A failure that is passed on is an abort if it was one. -/
lemma aborts_same_iff {exclusive : Bool} {e : Failure} :
    Aborts exclusive e (.error e) ↔ e.isAbort = true := by
  constructor
  · rintro ⟨_, ⟨⟩, habort, -⟩
    exact habort
  · exact fun habort => ⟨e, rfl, habort, by rw [if_pos habort]⟩

/-! ### Reports on tasks that fail -/

/-- A report tells of the failure of a task what the kind of call makes of it. -/
def Report.Fair (report : Report) : Prop :=
  ∀ e, report.task = some (.error e) →
    report.call = .error (if report.nested then e else reported report.exclusive e)

/-- All reports so far are fair. -/
def Fair (_ : List Frame) (c : Course (Ledger S)) : Prop := ∀ report ∈ c.work.reports, report.Fair

namespace Fair

lemma kept {name : Nat → String} : Kept (S := S) name Fair where
  attend h := h
  remember _ h := h
  call h hd := by
    unfold Fair
    rw [hd.work]
    exact h
  barred h hd := by
    refine List.forall_mem_cons.2 ⟨?_, ?_⟩
    · -- no task has run since the call began
      change ∀ e, Ledger.came _ = _ → _
      rw [hd.work]
      nofun
    · rw [hd.work]
      exact h
  entered h _ _ hb := by
    unfold Fair
    obtain ⟨workers, hhold⟩ := Course.hold_eq _ _
    rw [hhold]
    rw [hb.work]
    exact h
  left {_ f _ _ _ _ _} hd' hd herror := by
    refine List.forall_mem_cons.2 ⟨?_, ?_⟩
    · change ∀ e, Ledger.came _ = _ → _
      rw [hd.work]
      rintro e ⟨⟩
      rw [herror e rfl]
      cases f.outermost <;> rfl
    · rw [hd.work]
      exact hd'

end Fair

/-- **The outermost transaction reports the failure of its task as an abort, and one inside another
passes it on.**  That is so for each task that fails in a run of a client, at whatever depth.  The
call that was given the task therefore fails with an abort exactly if no other transaction is around
it, or the task has failed with an abort itself. -/
theorem call_eq_of_failed (k : Connection) (name : Nat → String) (client : Client S)
    {c : Course (Ledger S)} (hj : c.joined = false) (hreports : c.work.reports = [])
    {report : Report} (hreport : report ∈ (client.attended k name [] c).2.work.reports)
    {e : Failure} (he : report.task = some (.error e)) :
    report.call = .error (if report.nested then e else reported report.exclusive e) ∧
      (Aborts report.exclusive e report.call ↔ report.nested = false ∨ e.isAbort = true) := by
  have hstart : Fair [] c := by
    unfold Fair
    rw [hreports]
    nofun
  have hcall := (Fair.kept.attended client hj hstart).2 report hreport e he
  refine ⟨hcall, ?_⟩
  rw [hcall]
  cases report.nested with
  | false => exact iff_of_true (aborts_reported _ _) (.inl rfl)
  | true => exact aborts_same_iff.trans (by simp)

/-- A task fails inside of another one, which lets the failure through. -/
def careless : Client Unit :=
  .transact false true
    (.transact false true (.done (.error (.raised "ValueError" (.text "bad")))) .done) .done

/-- A course that has seen a migration, and no transactions. -/
def settled : Course (Ledger Unit) where
  migrated := some ⟨.null, .null, "", []⟩
  work := { memory := () }

/-- The failure of the task. -/
def Report.failed? (report : Report) : Option Failure :=
  match report.task with
  | some (.error e) => some e
  | _ => none

lemma Report.task_eq_of_failed? {report : Report} {e : Failure} (h : report.failed? = some e) :
    report.task = some (.error e) := by
  unfold failed? at h
  split at h
  · rename_i heq
    rw [heq, Option.some.inj h]
  · cases h

/-- Inside, a failure that is no abort is passed on; outside, one is reported as an abort. -/
theorem call_eq_of_failed_careless :
    ∃ outer inner e e', (careless.attended bare toString [] settled).2.work.reports =
        [outer, inner] ∧
      inner.task = some (.error e) ∧ ¬ Aborts inner.exclusive e inner.call ∧
      outer.task = some (.error e') ∧ Aborts outer.exclusive e' outer.call := by
  have hview : (careless.attended bare toString [] settled).2.work.reports.map
      (fun report => (report.nested, report.failed?.map Failure.isAbort)) =
        [(false, some false), (true, some false)] := by decide +kernel
  obtain ⟨outer, rest, hreports, houter, hrest⟩ := List.map_eq_cons_iff.1 hview
  obtain ⟨inner, rest, rfl, hinner, hnone⟩ := List.map_eq_cons_iff.1 hrest
  obtain rfl := List.map_eq_nil_iff.1 hnone
  obtain ⟨hnested, hfailed⟩ := Prod.mk.inj hinner
  obtain ⟨e, he, habort⟩ := Option.map_eq_some_iff.1 hfailed
  obtain ⟨hnested', hfailed'⟩ := Prod.mk.inj houter
  obtain ⟨e', he', -⟩ := Option.map_eq_some_iff.1 hfailed'
  have hcall : ∀ report ∈ [outer, inner], ∀ e, report.task = some (.error e) →
      (Aborts report.exclusive e report.call ↔ report.nested = false ∨ e.isAbort = true) :=
    fun report hreport e he => (call_eq_of_failed bare toString careless (c := settled) rfl rfl
      (hreports ▸ hreport) he).2
  have htask := Report.task_eq_of_failed? he
  have htask' := Report.task_eq_of_failed? he'
  refine ⟨outer, inner, e, e', hreports, htask, fun h => ?_, htask',
    (hcall outer (by simp) e' htask').2 (.inl hnested')⟩
  have hneither := (hcall inner (by simp) e htask).1 h
  rw [hnested, habort] at hneither
  simp at hneither

end PgSchema.Connection

namespace PgSchema

namespace Action

/-- A guard: who reports, the operation that is reported, and the table that it is on. -/
structure Guard where
  owner : String
  operation : String
  table : Option String

/-- A level of nested guards: what it does before the next level, and with what comes of that. -/
structure Level (σ α : Type) where
  guard : Guard
  before : Action σ Unit := pure ()
  after : α → Action σ α := pure

variable {σ α : Type}

namespace Guard

/-- A block under a guard. -/
def around (g : Guard) (body : Action σ α) : Action σ α :=
  guarding g.owner g.operation g.table body

/-- **What a failure is when it leaves the guard that it was raised in**, and the course then.  A
failure of the repository's own kind passes as it is and unlogged.  Any other one leaves as the
failure of the guard's operation on its table, of which it is the cause, with the state of the
database if it is one of the driver that has one; the log has one more line, which is an error. -/
inductive Leaves (g : Guard) (e : Failure) (d : Course σ) : Failure → Course σ → Prop
  | passed (htyped : e.isTyped = true) : Leaves g e d e d
  | wrapped {w : Failure} (hforeign : e.isTyped = false)
      (hrepository : w = .repository g.operation g.table e)
      (hoperation : w.operation? = some g.operation) (htable : w.table? = g.table)
      (hcause : w.cause? = some e)
      (hstate : w.state? = match e with | .driver state _ => state | _ => none) :
      Leaves g e d w
        { d with lines := ⟨.error, .repository g.owner, w.text, d.contexts.current⟩ :: d.lines }

variable {g : Guard} {body : Action σ α} {c d d' : Course σ} {e e' : Failure}

lemma Leaves.isTyped (h : g.Leaves e d e' d') : e'.isTyped = true := by
  cases h with
  | passed htyped => exact htyped
  | wrapped _ hrepository => rw [hrepository]; rfl

/-- What is raised in a block leaves its guard. -/
lemma exists_leaves (h : body c = (.error e, d)) :
    ∃ e' d', g.Leaves e d e' d' ∧ g.around body c = (.error e', d') := by
  unfold around guarding
  rw [h]
  cases htyped : e.isTyped with
  | true => exact ⟨e, d, .passed htyped, if_pos htyped⟩
  | false =>
    refine ⟨_, _, .wrapped htyped rfl rfl rfl rfl ?_, if_neg (by simp [htyped])⟩
    cases e <;> rfl

/-- A guard passes a failure of the repository on. -/
lemma around_of_isTyped (h : body c = (.error e, d)) (htyped : e.isTyped = true) :
    g.around body c = (.error e, d) := by
  unfold around guarding
  rw [h]
  exact if_pos htyped

end Guard

/-! ### Nested guards -/

/-- The levels around a block, the outermost first. -/
def nested (levels : List (Level σ α)) (body : Action σ α) : Action σ α :=
  levels.foldr (fun l inner => l.guard.around (do l.before; let a ← inner; l.after a)) body

/-- The way through the levels to what stands within them. -/
def entering (levels : List (Level σ α)) : Action σ Unit :=
  levels.foldr (fun l rest => do l.before; rest) (pure ())

variable {levels : List (Level σ α)} {l : Level σ α} {body : Action σ α} {c c' d : Course σ}
  {e : Failure}

lemma entering_cons (h : entering (l :: levels) c = (.ok (), c')) :
    ∃ b, l.before c = (.ok (), b) ∧ entering levels b = (.ok (), c') := by
  rcases hbefore : l.before c with ⟨e | _, b⟩
  · rw [entering, List.foldr_cons, bind_apply_error hbefore] at h
    cases h
  · rw [entering, List.foldr_cons, bind_apply_ok hbefore] at h
    exact ⟨b, rfl, h⟩

/-- **A failure of the repository leaves all levels as it is.** -/
lemma nested_of_isTyped (henter : entering levels c = (.ok (), c'))
    (h : body c' = (.error e, d)) (htyped : e.isTyped = true) :
    nested levels body c = (.error e, d) := by
  induction levels generalizing c with
  | nil =>
    obtain rfl := congrArg Prod.snd henter
    exact h
  | cons l levels ih =>
    obtain ⟨b, hbefore, hrest⟩ := entering_cons henter
    refine Guard.around_of_isTyped ?_ htyped
    rw [bind_apply_ok hbefore]
    exact bind_apply_error (ih hrest) _

end Action

/-! ### The gate of the migration -/

namespace Connection

open PgSchema.Action (Guard Level nested entering)

variable {σ α : Type}

/-- The guard of the migration. -/
def migrationGuard : Guard := ⟨owner, "migrate", none⟩

/-- A request has at a closed gate the outcome of the gate. -/
lemma request_of_gate {k : Connection} {c d : Course σ} {e : Failure} (hj : c.joined = false)
    (h : k.ensureMigrated c = (.error e, d)) (r : Request) : r.run k c = (.error e, d) := by
  rw [Knocks.request r c hj]
  exact Action.bind_apply_error h _

/-- **Failures are wrapped once.**  What is raised in the innermost of nested guards leaves the
outermost one as it leaves the innermost, with the log as it is then.  And what the migrator fails
with is told by each request outside of a transaction as it is told by the migration itself. -/
theorem wrapped_once (levels : List (Level σ α)) (inner : Guard) (body : Action σ α) :
    (∀ c c' d e, entering levels c = (.ok (), c') → body c' = (.error e, d) →
      ∃ e' d', inner.Leaves e d e' d' ∧ inner.around body c' = (.error e', d') ∧
        nested levels (inner.around body) c = (.error e', d')) ∧
    ∀ (k : Connection) (c d : Course σ) (e : Failure), c.joined = false → c.migrated = none →
      k.visit c = (.error e, d) →
      ∃ e' d', migrationGuard.Leaves e d e' d' ∧ k.ensureMigrated c = (.error e', d') ∧
        ∀ r : Request, r.run k c = (.error e', d') := by
  constructor
  · intro c c' d e henter hbody
    obtain ⟨e', d', hleaves, hinner⟩ := Guard.exists_leaves (g := inner) hbody
    exact ⟨e', d', hleaves, hinner, Action.nested_of_isTyped henter hinner hleaves.isTyped⟩
  · intro k c d e hj hm hvisit
    obtain ⟨e', d', hleaves, hguarded⟩ := Guard.exists_leaves (g := migrationGuard) hvisit
    have hgate : k.ensureMigrated c = (.error e', d') := by
      rw [k.ensureMigrated_of_none hm]
      exact hguarded
    exact ⟨e', d', hleaves, hgate, request_of_gate hj hgate⟩

/-- A connection that is lost. -/
def lost : Failure := .driver (some "08006") "no connection"

/-- Models are created one by one, each under a guard of its own. -/
def creating : List (Level Unit Json) :=
  [{ guard := ⟨owner, "create_all", none⟩ }, { guard := ⟨owner, "create", some "users"⟩ }]

/-- A connection that is lost under three guards is told of by the innermost one alone; and a pool
without a connection is told of by a query as it is by the migration. -/
theorem wrapped_once_lost :
    (∃ d, nested creating (Guard.around ⟨owner, "insert", some "users"⟩ (Action.fail lost)) fresh =
      (.error (.repository "insert" (some "users") lost), d) ∧ d.lines.length = 1) ∧
    ∃ e' d', keeper.ensureMigrated fresh = (.error e', d') ∧ e'.operation? = some "migrate" ∧
      e'.state? = some "08006" ∧
      (Request.fetchOne "SELECT 1" .null).run keeper fresh = (.error e', d') := by
  obtain ⟨hnested, hgate⟩ :=
    wrapped_once creating ⟨owner, "insert", some "users"⟩ (Action.fail lost : Action Unit Json)
  constructor
  · obtain ⟨e', d', hleaves, -, hout⟩ := hnested fresh fresh fresh lost rfl rfl
    cases hleaves with
    | passed htyped => cases htyped
    | wrapped _ hrepository =>
      rw [hrepository] at hout
      exact ⟨_, hout, rfl⟩
  · have hvisit : keeper.visit fresh = (.error lost, (keeper.visit fresh).2) := rfl
    obtain ⟨e', d', hleaves, hmigration, hrequest⟩ := hgate keeper fresh _ lost rfl rfl hvisit
    cases hleaves with
    | passed htyped => cases htyped
    | wrapped _ _ hoperation _ _ hstate =>
      exact ⟨_, _, hmigration, hoperation, hstate, hrequest _⟩

end Connection

end PgSchema
