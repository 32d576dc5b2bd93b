import PgSchema.Proofs.Connection.Gate
import PgSchema.Proofs.Course.Blame

/-!
What callers are told of the states that the driver reports.

A statement that is refused makes the call fail with a failure of the repository, and that tells the
state.  Transactions do not tell it: the failure of their task is reported as an abort, which has no
state, and where the pool has no connection for them the error of the driver is passed on
(`tells_iff`).
-/

namespace PgSchema

open Store (Asked Event)

namespace Failure

/-- What is at the bottom of a failure. -/
def root : Failure → Failure
  | repository _ _ cause => cause.root
  | transaction _ cause => cause.root
  | e => e

/-- The state that is reported with an error of the driver. -/
def driverState? : Failure → Option String
  | driver state _ => state
  | _ => none

/-- A failure of the repository that tells a state of the database. -/
def Tells (e : Failure) (state : String) : Prop := e.isTyped = true ∧ e.state? = some state

/-- A failure that another one is at the bottom of. -/
def Stems (f e : Failure) : Prop := e.root = f.root

/-- A failure of the repository that stems from another one and tells its state. -/
def Told (f e : Failure) : Prop := Stems f e ∧ e.isTyped = true ∧ e.state? = f.state?

/-- A failure that stems from another one and does not tell the state that the driver reported with
it. -/
def Untold (f e : Failure) : Prop :=
  Stems f e ∧ ∀ state, f.driverState? = some state → ¬ e.Tells state

variable {f e : Failure}

lemma root_of_driverState? {state : String} (h : f.driverState? = some state) : f.root = f := by
  cases f with
  | driver => rfl
  | _ => cases h

lemma state?_of_driverState? {state : String} (h : f.driverState? = some state) :
    f.state? = some state := by
  cases f with
  | driver => exact h
  | _ => cases h

/-- What is taken as a failure of an operation tells the state, as the repository's own do. -/
lemma told_guarded (operation : String) (table : Option String) (h : e = f ∨ Told f e) :
    Told f (if e.isTyped then e else .repository operation table e) := by
  rcases h with rfl | htold
  · split
    · rename_i htyped
      exact ⟨rfl, htyped, rfl⟩
    · rename_i htyped
      refine ⟨rfl, rfl, ?_⟩
      cases e with
      | fault | raised | driver => rfl
      | _ => exact absurd rfl htyped
  · rw [if_pos htold.2.1]
    exact htold

/-- An error of the driver is none of the repository. -/
lemma untold_self (f : Failure) : Untold f f := by
  refine ⟨rfl, fun state hstate htells => ?_⟩
  cases f with
  | driver => cases htells.1
  | _ => cases hstate

/-- An abort has no state. -/
lemma untold_reported (exclusive : Bool) (h : Stems f e) :
    Untold f (Connection.reported exclusive e) := by
  have hstems : Stems f (Connection.reported exclusive e) := by
    unfold Connection.reported
    split
    · exact h
    · exact h
  refine ⟨hstems, fun state _ htells => ?_⟩
  obtain ⟨-, hstate⟩ := htells
  unfold Connection.reported at hstate
  split at hstate
  · rename_i habort
    cases e with
    | abort | transaction => cases hstate
    | _ => cases habort
  · cases hstate

/-- What stems from a failure, by a call that has or has not got behind the gate for a
transaction. -/
def ToldBy (behind : Bool) : Failure → Failure → Prop := if behind then Untold else Told

lemma ToldBy.stems {behind : Bool} (h : ToldBy behind f e) : Stems f e := by
  cases behind with
  | false => exact h.1
  | true => exact h.1

lemma ToldBy.tells {behind : Bool} {state : String} (h : ToldBy behind f e)
    (hstate : f.driverState? = some state) : e.Tells state ↔ behind = false := by
  cases behind with
  | false => exact iff_of_true ⟨h.2.1, h.2.2.trans (state?_of_driverState? hstate)⟩ rfl
  | true => exact iff_of_false (h.2 state hstate) Bool.noConfusion

end Failure

open Failure (Stems Told ToldBy Untold)

namespace Connection

variable {σ α S : Type} (k : Connection)

/-! ### Calls that are no transactions -/

lemma heeds_visit : (k.visit (σ := σ)).Heeds Eq :=
  .locked _ <| .pooled (fun _ => rfl) <|
    .bind (.bind (.check _) fun m => m.heeds_migrate) fun _ => .of_store fun _ => rfl

lemma heeds_ensureMigrated : (k.ensureMigrated (σ := σ)).Heeds Told := by
  intro c
  cases hm : c.migrated with
  | some result =>
    rw [ensureMigrated_of_migrated hm]
    exact ⟨[], .nil rfl rfl _⟩
  | none =>
    rw [k.ensureMigrated_of_none hm]
    exact k.heeds_visit.guarding owner "migrate" none
      (fun f e he => Failure.told_guarded _ _ (.inl he.symm)) c

lemma heeds_onConnection (exclusive : Bool) {body : Action σ α} (h : body.Heeds Eq) :
    (k.onConnection exclusive body).Heeds fun f e => e = f ∨ Told f e := by
  have hbody : body.Heeds fun f e => e = f ∨ Told f e := h.mono fun _ _ he => .inl he.symm
  refine .bind (.of_store fun _ => rfl) fun a => ?_
  split
  · exact hbody
  · exact .bind (k.heeds_ensureMigrated.mono fun _ _ => .inr) fun _ =>
      .locked _ (.pooled (fun _ => .inl rfl) hbody)

lemma heeds_operation (operation : String) (exclusive : Bool) {body : Action σ α}
    (h : body.Heeds Eq) : (guarded operation (k.onConnection exclusive body)).Heeds Told :=
  (k.heeds_onConnection exclusive h).guarding _ _ _ fun _ _ => Failure.told_guarded _ _

lemma Request.heeds (r : Request) : (r.run (σ := σ) k).Heeds Told := by
  cases r with
  | execute text params =>
    exact k.heeds_operation _ _ (.bind (.run _ _) fun _ => .of_store fun _ => rfl)
  | insert text params => exact k.heeds_operation _ _ (.bind (.run _ _) fun _ => .check _)
  | fetchAll text params =>
    exact .bind (k.heeds_operation _ _ (.query _ _)) fun _ => .of_store fun _ => rfl
  | fetchOne text params =>
    exact k.heeds_operation _ _ (.bind (.query _ _) fun _ => .of_store fun _ => rfl)

lemma heeds_modelClass (t : Table) : (k.modelClass (σ := σ) t).Heeds Told := by
  refine .bind (.of_store fun _ => rfl) fun a => ?_
  cases a.models.get? t.name with
  | some name => exact .of_store fun _ => rfl
  | none =>
    dsimp only
    split
    · exact .fail _
    · refine .bind (.check _) fun classes => ?_
      split
      · exact .of_store fun _ => rfl
      · exact .fail _

lemma heeds_first (s : Query.Selector Json) : (s.first (k.backend (σ := σ))).Heeds Told := by
  have hmodel : ∀ row : Json, (k.newModel (σ := σ)
      (fun name => Action.check (row.cell? name)) s.table).Heeds Told :=
    fun row => .bind (.bind (Action.Heeds.through.each fun c _ => .bind (.check _) fun _ =>
      .of_store fun _ => rfl) fun _ => .of_store fun _ => rfl) fun _ =>
        .bind (k.heeds_modelClass s.table) fun _ => .of_store fun _ => rfl
  exact .bind (.bind (k.heeds_operation _ _ (.query _ _)) fun rows =>
    Action.Heeds.through.each fun row _ => hmodel row) fun _ => .of_store fun _ => rfl

lemma heeds_create (t : Table) (made : Except Failure Json) (cell : String → Except Fault Json) :
    (k.create (σ := σ) t made cell).Heeds Told := by
  unfold create createModel
  refine .bind (.ofOutcome made) fun made => .bind (.check _) fun inserter =>
    .bind (.bind (Action.Heeds.through.each fun _ _ => .check _) fun values =>
      Request.heeds k (.insert _ _)) fun value => ?_
  split
  · exact .of_store fun _ => rfl
  · exact .of_store fun _ => rfl
  · refine .bind (k.heeds_first _) fun found => ?_
    cases found <;> exact .of_store fun _ => rfl

/-! ### Transactions -/

section Transactions

variable {exclusive : Bool} {task : Action σ α}

lemma heeds_inTransaction (h : task.Heeds Stems) : (inTransaction exclusive task).Heeds Stems := by
  refine .transaction (fun _ => rfl) ?_
  have hrun : (Action.run isolationStatement .null : Action σ Store.Reply).Heeds Stems :=
    (Action.Heeds.run _ _).mono fun _ _ he => he ▸ rfl
  cases exclusive with
  | false => exact .bind (.of_store fun _ => rfl) fun _ => h
  | true => exact .bind hrun fun _ => .bind (.of_store fun _ => rfl) fun _ => h

lemma heeds_reporting {body : Action σ α} (h : body.Heeds Stems) :
    (reporting exclusive body).Heeds Untold := by
  intro c
  obtain ⟨trace, htrace⟩ := h c
  rcases hbody : body c with ⟨e | a, d⟩
  · obtain ⟨lines, hreport⟩ := reporting_error exclusive hbody
    rw [hbody] at htrace
    rw [hreport]
    exact ⟨trace, htrace.error fun _ => Failure.untold_reported exclusive⟩
  · rw [reporting_ok hbody]
    rw [hbody] at htrace
    exact ⟨trace, htrace.ok⟩

/-- Behind the gate, nothing is told of the states that the driver reports. -/
lemma heeds_apart (h : task.Heeds Stems) : (apart exclusive task).Heeds Untold :=
  .within _ _ <| .locked _ <| .pooled Failure.untold_self <| heeds_reporting <| .joining <|
    heeds_inTransaction h

end Transactions

variable {k} {task : Client S}

lemma asked_transaction (htask : (task.run k).Heeds Stems) (exclusive : Bool) {c : Course S}
    (hj : c.joined = false) : ∃ trace,
      Asked (ToldBy (k.transaction exclusive (task.run k) c).2.migrated.isSome) c.store
        (k.transaction exclusive (task.run k) c).1
        (k.transaction exclusive (task.run k) c).2.store trace := by
  rw [transaction_unjoined hj]
  obtain ⟨before, hbefore⟩ := k.heeds_ensureMigrated c
  rcases hgate : k.ensureMigrated c with ⟨e | result, b⟩
  · -- the gate stays closed, and there is no result behind the call
    have hnone : b.migrated = none := by
      cases hm : c.migrated with
      | some result =>
        rw [ensureMigrated_of_migrated hm] at hgate
        cases hgate
      | none =>
        cases k.visits hm hgate with
        | failed hvisit => exact (k.visit_keeps hvisit).1.trans hm
    rw [Action.bind_apply_error hgate]
    rw [hgate] at hbefore
    rw [hnone]
    exact ⟨before, hbefore.error fun _ h => h⟩
  · -- the task cannot take the result away again
    obtain ⟨hm, -⟩ := k.ensureMigrated_eq_ok hgate
    have hkept : (apart exclusive (task.run k) b).2.migrated = some result := by
      have hsteady := steady_apart exclusive (task.run_told k k.migrator) b hm
      exact hsteady.2
    rw [Action.bind_apply_ok hgate]
    rw [hgate] at hbefore
    have hbehind : (apart exclusive (task.run k)).Heeds Untold := heeds_apart htask
    obtain ⟨after, hafter⟩ := hbehind b
    exact ⟨_, hbefore.trans <| hafter.mono fun _ _ h => by rwa [hkept]⟩

lemma asked_awaited (htask : (task.run k).Heeds Stems) (aside exclusive : Bool) {c : Course S}
    (hout : aside = true ∨ c.joined = false) : ∃ trace,
      Asked (ToldBy (k.awaited aside exclusive (task.run k) c).2.migrated.isSome) c.store
        (k.awaited aside exclusive (task.run k) c).1
        (k.awaited aside exclusive (task.run k) c).2.store trace := by
  cases aside with
  | false => exact asked_transaction htask exclusive (hout.resolve_left Bool.false_ne_true)
  | true =>
    rw [awaited_aside]
    split
    · exact ⟨[], .nil rfl rfl _⟩
    · exact asked_transaction htask exclusive (c := { c with contexts := [], joined := false }) rfl

/-- A task that is run inside others fails with what stems from a refusal. -/
lemma heeds_awaited (htask : (task.run k).Heeds Stems) (aside exclusive : Bool) :
    (k.awaited aside exclusive (task.run k)).Heeds Stems := by
  intro c
  cases hout : aside || !c.joined with
  | true =>
    obtain ⟨trace, htrace⟩ := asked_awaited htask aside exclusive (c := c) (by simpa using hout)
    exact ⟨trace, htrace.mono fun _ _ => Failure.ToldBy.stems⟩
  | false =>
    obtain ⟨rfl, hj⟩ := Bool.or_eq_false_iff.1 hout
    rw [awaited, if_neg Bool.false_ne_true, transaction_joined (by simpa using hj)]
    exact Action.Heeds.transaction (R := Stems) (fun _ => rfl) htask c

/-! ### Candid clients -/

/-- **A candid client** lets the failures of its calls through, and so do its tasks. -/
def Client.Candid : Client S → Prop
  | done _ => True
  | consult next => ∀ memory, (next memory).Candid
  | remember _ next => next.Candid
  | migrate next => (∀ e, next (.error e) = .done (.error e)) ∧ ∀ a, (next (.ok a)).Candid
  | request _ next => (∀ e, next (.error e) = .done (.error e)) ∧ ∀ a, (next (.ok a)).Candid
  | create _ _ _ next => (∀ e, next (.error e) = .done (.error e)) ∧ ∀ a, (next (.ok a)).Candid
  | transact _ _ task next =>
    task.Candid ∧ (∀ e, next (.error e) = .done (.error e)) ∧ ∀ a, (next (.ok a)).Candid

lemma Client.heeds (client : Client S) (h : client.Candid) : (client.run k).Heeds Stems := by
  -- a call whose failure is let through
  have hcall : ∀ {α : Type} {x : Action S α} {next : Except Failure α → Client S},
      x.Heeds Stems → (∀ e, next (.error e) = .done (.error e)) →
      (∀ a, ((next (.ok a)).run k).Heeds Stems) →
      (Action.outcome x >>= fun r => (next r).run k).Heeds Stems := by
    intro α x next hx herror hok
    have hthrough : (Action.outcome x >>= fun r => (next r).run k) =
        x >>= fun a => (next (.ok a)).run k := by
      funext c
      rcases hc : x c with ⟨e | a, d⟩
      · have houtcome : Action.outcome x c = (.ok (.error e), d) := by rw [Action.outcome, hc]
        rw [Action.bind_apply_ok houtcome, Action.bind_apply_error hc, herror]
        rfl
      · have houtcome : Action.outcome x c = (.ok (.ok a), d) := by rw [Action.outcome, hc]
        rw [Action.bind_apply_ok houtcome, Action.bind_apply_ok hc]
    rw [hthrough]
    exact .bind hx hok
  induction client with
  | done outcome => exact .ofOutcome outcome
  | consult next ih => exact .bind (.of_store fun _ => rfl) fun memory => ih memory (h memory)
  | remember memory next ih => exact .bind (.of_store fun _ => rfl) fun _ => ih h
  | migrate next ih =>
    exact hcall (k.heeds_ensureMigrated.mono fun _ _ he => he.1) h.1 fun a => ih _ (h.2 a)
  | request r next ih =>
    exact hcall ((Request.heeds k r).mono fun _ _ he => he.1) h.1 fun a => ih _ (h.2 a)
  | create t made cell next ih =>
    exact hcall ((k.heeds_create t made cell).mono fun _ _ he => he.1) h.1 fun a => ih _ (h.2 a)
  | transact aside exclusive task next ihtask ih =>
    obtain ⟨htask, herror, hok⟩ := h
    exact hcall (heeds_awaited (ihtask htask) aside exclusive) herror fun a => ih _ (hok a)

/-! ### Calls -/

/-- **A call on a connection**: for the migration, for a statement, or for a transaction, which is
made by the caller or by one of the workers. -/
inductive Call (S : Type) where
  | migrate
  | request (r : Request)
  | transact (aside exclusive : Bool) (task : Client S)

namespace Call

/-- What a call returns. -/
def Answer : Call S → Type
  | migrate => Migration.Result
  | request _ | transact .. => Json

/-- A call is made. -/
def run (k : Connection) : (call : Call S) → Action S call.Answer
  | migrate => k.ensureMigrated
  | request r => r.run k
  | transact aside exclusive task => k.awaited aside exclusive (task.run k)

/-- The task of a call lets the failures of its own calls through. -/
def Candid : Call S → Prop
  | migrate | request _ => True
  | transact _ _ task => task.Candid

/-- A call for a transaction. -/
def isTransaction : Call S → Bool
  | migrate | request _ => false
  | transact .. => true

end Call

/-- **What a caller is told of the state that the driver has reported.**  If the driver refuses
something in the course of a call, the call fails, and the error of the driver is at the bottom of
its failure.  The failure is one of the repository that tells the state, unless the call is for a
transaction and has got behind the gate: what fails there does not tell the state. -/
theorem tells_iff (k : Connection) (call : Call S) (hcandid : call.Candid) {c : Course S}
    (hj : c.joined = false) : ∃ trace : List Event,
      (call.run k c).2.store.events = trace.reverse ++ c.store.events ∧
      ∀ f ∈ (c.store.script.replay trace).1, ∀ state, f.driverState? = some state →
        ∃ e, (call.run k c).1 = .error e ∧ e.root = f ∧
          (e.Tells state ↔
            ¬ (call.isTransaction = true ∧ (call.run k c).2.migrated.isSome = true)) := by
  obtain ⟨trace, hevents, -, hblames⟩ : ∃ trace,
      Asked (ToldBy (call.isTransaction && (call.run k c).2.migrated.isSome)) c.store
        (call.run k c).1 (call.run k c).2.store trace := by
    cases call with
    | migrate => exact k.heeds_ensureMigrated c
    | request r => exact Request.heeds k r c
    | transact aside exclusive task =>
      exact asked_awaited (task.heeds hcandid) aside exclusive (.inr hj)
  refine ⟨trace, hevents, fun f hf state hstate => ?_⟩
  rcases hblames with hnone | ⟨f', e, hrefused, hr, htold⟩
  · rw [hnone] at hf
    cases hf
  · rw [hrefused] at hf
    obtain rfl := List.mem_singleton.1 hf
    refine ⟨e, hr, htold.stems.trans (Failure.root_of_driverState? hstate), ?_⟩
    rw [htold.tells hstate, ← Bool.and_eq_true, Bool.not_eq_true]

/-- A transaction that adds a row. -/
def committing : Call Unit := .transact false true (.request (adding "1") .done)

/-- A course in which the schema is in line, and the database cannot serialize a commit. -/
def conflicted : Course Unit where
  store := { script :=
    [⟨Store.commitText, 0, none, some (.driver (some "40001") "not serializable"), none, .null⟩] }
  migrated := some ⟨.null, .null, "", []⟩
  work := ()

/-- The commit is refused, and the state with which it was is not told. -/
theorem tells_iff_conflict : committing.Candid ∧ conflicted.joined = false ∧
    ∃ e, (committing.run bare conflicted).1 = .error e ∧ e.root.driverState? = some "40001" ∧
      ¬ e.Tells "40001" := by
  have hcandid : committing.Candid := ⟨fun _ => rfl, fun _ => trivial⟩
  obtain ⟨trace, hevents, htold⟩ := tells_iff bare committing hcandid (c := conflicted) rfl
  obtain rfl : (committing.run bare conflicted).2.store.events.reverse = trace := by
    rw [hevents]
    simp [conflicted]
  have hview : (conflicted.store.script.replay
      (committing.run bare conflicted).2.store.events.reverse).1.map Failure.driverState? =
        [some "40001"] := by decide +kernel
  have hbehind : (committing.run bare conflicted).2.migrated.isSome = true := by decide +kernel
  obtain ⟨f, rest, hrefused, hstate, -⟩ := List.map_eq_cons_iff.1 hview
  obtain ⟨e, he, hroot, hiff⟩ := htold f (by rw [hrefused]; exact List.mem_cons_self) _ hstate
  exact ⟨hcandid, rfl, e, he, hroot ▸ hstate, fun htells => hiff.1 htells ⟨rfl, hbehind⟩⟩

end Connection

end PgSchema
