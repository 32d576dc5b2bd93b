import PgSchema.Proofs.Connection.Task

/-!
Transactions that hold others.

A transaction that no other surrounds takes one connection of the pool, and gives it back.  All
statements of its task run there.  If it fails, all is held as before.  If it returns, the
statements that the diary of its task keeps are in effect (`transaction_refines`).
-/

namespace PgSchema

open Store (Event)

/-- **The events of one use of the pool**, oldest first: a connection is taken, and if there is one,
other events follow that are not about the pool, with the given statements among them; then the
connection is given back. -/
inductive Store.OneConnection (statements : List Event) : List Event → Prop
  | refused (hnone : statements = []) : OneConnection statements [.checkout]
  | used {body : List Event} {failure : Option Failure} (hpool : ∀ e ∈ body, e.ofPool = false)
      (hall : body.filter Event.hasText = statements) :
      OneConnection statements (.checkout :: (body ++ [.checkin failure]))

namespace Connection

variable {σ α S : Type} {k : Connection} {exclusive : Bool}

/-- The statements with which a transaction begins before its task does. -/
def isolation (exclusive : Bool) : List Event :=
  if exclusive then [.execute isolationStatement.text .null] else []

/-! ### The blocks around a transaction -/

section Blocks

variable {c d : Course σ} {r : Except Failure α}

lemma ensureMigrated_of_migrated {result : Migration.Result} (hm : c.migrated = some result) :
    (k.ensureMigrated : Action σ Migration.Result) c = (.ok result, c) := by
  unfold ensureMigrated
  rw [Action.bind_apply_ok (show Action.course c = (.ok c, c) from rfl), hm]
  rfl

/-- A report on a failure touches nothing but the log, and fails as well. -/
lemma reporting_site (exclusive : Bool) (body : Action σ α) (c : Course σ) :
    (reporting exclusive body c).2.toSite = (body c).2.toSite ∧
      (reporting exclusive body c).2.work = (body c).2.work ∧
      ∀ a, (reporting exclusive body c).1 = .ok a ↔ (body c).1 = .ok a := by
  rcases hbody : body c with ⟨e | a, d⟩
  · have houtcome : Action.outcome body c = (.ok (.error e), d) := by
      unfold Action.outcome
      rw [hbody]
    rw [reporting, Action.bind_apply_ok houtcome]
    dsimp only
    split
    · exact ⟨rfl, rfl, fun _ => ⟨nofun, nofun⟩⟩
    · exact ⟨rfl, rfl, fun _ => ⟨nofun, nofun⟩⟩
  · have houtcome : Action.outcome body c = (.ok (.ok a), d) := by
      unfold Action.outcome
      rw [hbody]
    rw [reporting, Action.bind_apply_ok houtcome]
    exact ⟨rfl, rfl, fun _ => Iff.rfl⟩

/-- **A transaction that no other surrounds**, on a connection of its own. -/
inductive Outermost (exclusive : Bool) (task : Action σ α) (c : Course σ) (r : Except Failure α)
    (d : Course σ) : Prop
  | refused {e : Failure} {s : Store}
      (hcheckout : c.store.signal .checkout Store.checkoutText = (.error e, s))
      (hr : r = .error e) (hstore : d.store = s) (hwork : d.work = c.work)
  | ran {s : Store} {b d' : Course σ} {r' : Except Failure α} {failure : Option Failure}
      (hcheckout : c.store.signal .checkout Store.checkoutText = (.ok (), s))
      (hb : b.store = s) (hj : b.joined = true) (hbwork : b.work = c.work)
      (hran : inTransaction exclusive task b = (r', d')) (hr : ∀ a, r = .ok a ↔ r' = .ok a)
      (hstore : d.store = d'.store.record (.checkin failure)) (hwork : d.work = d'.work)

lemma outermost {task : Action σ α} {result : Migration.Result} (hm : c.migrated = some result)
    (hj : c.joined = false) (h : k.transaction exclusive task c = (r, d)) :
    Outermost exclusive task c r d := by
  let body := reporting exclusive (Action.joining (inTransaction exclusive task))
  -- the course inside the context and the lock
  let b : Course σ :=
    { c with
      contexts := c.contexts.current.withCoordinate .operation (transactionName exclusive) ::
        c.contexts
      counts := (c.counts.arrive (.of exclusive)).enter (.of exclusive) }
  have hblocks : k.transaction exclusive task c = ((Action.pooled body b).1,
      { (Action.pooled body b).2 with
        counts := (Action.pooled body b).2.counts.leave (.of exclusive)
        contexts := (Action.pooled body b).2.contexts.pop }) := by
    rw [transaction, Action.bind_apply_ok (show Action.course c = (.ok c, c) from rfl),
      if_neg (by simp [hj]), Action.bind_apply_ok (ensureMigrated_of_migrated hm)]
    rfl
  rw [hblocks] at h
  rcases hcheckout : c.store.signal .checkout Store.checkoutText with ⟨e | u, s⟩
  · have hpooled : Action.pooled body b = (.error e, { b with store := s }) := by
      unfold Action.pooled
      rw [show b.store = c.store from rfl, hcheckout]
    rw [hpooled] at h
    cases h
    exact .refused hcheckout rfl rfl rfl
  · let inside : Course σ := { b with store := s }
    obtain ⟨hsite, hwork, hok⟩ :=
      reporting_site exclusive (Action.joining (inTransaction exclusive task)) inside
    rcases hran : inTransaction exclusive task { inside with joined := true } with ⟨r', d'⟩
    have hjoining : Action.joining (inTransaction exclusive task) inside =
        (r', { d' with joined := false }) := by
      unfold Action.joining
      rw [hran]
    rw [hjoining] at hsite hwork hok
    obtain ⟨failure, hpooled⟩ : ∃ failure, Action.pooled body b = ((body inside).1,
        { (body inside).2 with store := (body inside).2.store.record (.checkin failure) }) := by
      unfold Action.pooled
      rw [show b.store = c.store from rfl, hcheckout]
      exact ⟨_, rfl⟩
    rw [hpooled] at h
    cases h
    exact .ran (b := { inside with joined := true }) hcheckout rfl rfl rfl hran hok
      (congrArg (fun site => site.store.record (.checkin failure)) hsite) hwork

end Blocks

/-! ### The task of a transaction -/

/-- A task behind the statements with which its transaction begins. -/
def opened (exclusive : Bool) (task : Action σ α) : Action σ α := do
  if exclusive then
    let _ ← Action.run isolationStatement .null
  Action.log .debug .connection ("Transaction started (" ++ modeName exclusive ++ ")")
  task

lemma inTransaction_eq (task : Action σ α) :
    inTransaction exclusive task = Action.transaction (opened exclusive task) := rfl

/-- A task behind the statements with which its transaction begins does these first. -/
lemma enacts_opened (task : Task S) {b : Course (Notes S)} (hj : b.joined = true)
    (hdiary : b.work.diary = .blank) : Enacts (isolation exclusive) b
      (opened exclusive (task.run k) b).1 (opened exclusive (task.run k) b).2 := by
  -- the task itself, once it runs
  have htask : ∀ s lines, Accounts s (task.run k { b with store := s, lines }).2 :=
    fun s lines => accounts_run k task (.start (c := { b with store := s, lines }) hj hdiary)
  cases exclusive with
  | false => exact (htask b.store _).enacts rfl rfl rfl (fun _ he => absurd he List.not_mem_nil) _
  | true =>
    let event : Event := .execute isolationStatement.text .null
    have hstatement : Action.run isolationStatement .null b =
      ((b.store.run event isolationStatement).1,
        { b with store := (b.store.run event isolationStatement).2 }) := rfl
    have hevents := Store.events_run b.store event isolationStatement
    rcases hrun : b.store.run event isolationStatement with ⟨e | reply, s⟩
    · rw [hrun] at hstatement hevents
      have hopened : opened true (task.run k) b = (.error e, { b with store := s }) :=
        Action.bind_apply_error hstatement _
      rw [hopened]
      refine ⟨hj, (Store.held_run_plain hrun).1, nofun, [event], [event], hevents, ?_, ?_,
        List.Sublist.refl _⟩
      · exact List.forall_mem_singleton.2 rfl
      · rw [hdiary]
        rfl
    · rw [hrun] at hstatement hevents
      obtain ⟨lines, hopened⟩ : ∃ lines,
          opened true (task.run k) b = task.run k { b with store := s, lines } :=
        ⟨_, Action.bind_apply_ok hstatement _⟩
      obtain ⟨hmetadata, happlied⟩ := Store.held_run_plain hrun
      rw [hopened]
      refine (htask s lines).enacts hmetadata happlied hevents ?_ _
      exact List.forall_mem_singleton.2 ⟨rfl, rfl⟩

/-- **A transaction is all or nothing, and so is every transaction in it.** -/
theorem transaction_refines (k : Connection) (exclusive : Bool) (task : Task S)
    {c d : Course (Notes S)} {r : Except Failure Json} {result : Migration.Result}
    (hm : c.migrated = some result) (hj : c.joined = false) (hdiary : c.work.diary = .blank)
    (h : k.transaction exclusive (task.run k) c = (r, d)) :
    (∀ e, r = .error e →
      d.store.metadata = c.store.metadata ∧ d.store.applied = c.store.applied) ∧
    (∀ a, r = .ok a → d.store.metadata = c.store.metadata ∧
      d.store.applied = d.work.diary.kept ++ isolation exclusive ++ c.store.applied) ∧
    ∃ trace first, d.store.events = trace.reverse ++ c.store.events ∧
      first.Sublist (isolation exclusive) ∧
      Store.OneConnection (first ++ d.work.diary.issued.reverse) trace := by
  cases outermost hm hj h with
  | @refused e s hcheckout hr hstore hwork =>
    have hsaved := Store.held_of_signal hcheckout
    have hevents := Store.events_of_signal hcheckout
    rw [hr, hstore, hwork, hdiary]
    exact ⟨fun _ _ => hsaved, nofun, [.checkout], [], hevents, List.nil_sublist _, .refused rfl⟩
  | @ran s b d' r' failure hcheckout hb hbj hbwork hran hr hstore hwork =>
    have hsaved := Store.held_of_signal hcheckout
    have hevents := Store.events_of_signal hcheckout
    rw [inTransaction_eq] at hran
    have hdone : Enacts (isolation exclusive) b r' d' := Enacts.transaction hbj (hbwork ▸ hdiary)
      (fun b hj hdiary => enacts_opened task hj hdiary) hran
    obtain ⟨new, issued, hnew, hpool, hissued, hfirst⟩ := hdone.events
    refine ⟨fun e he => ?_, fun a ha => ?_,
      .checkout :: (new.reverse ++ [.checkin failure]), issued.reverse, ?_, ?_, .used ?_ ?_⟩
    · -- the transaction inside failed as well
      cases r' with
      | ok a =>
        rw [(hr a).2 rfl] at he
        cases he
      | error e' =>
        obtain ⟨hmetadata, happlied⟩ := Action.transaction_eq_error hran
        rw [hb] at hmetadata happlied
        rw [hstore]
        exact ⟨hmetadata.trans hsaved.1, happlied.trans hsaved.2⟩
    · have hmetadata := hdone.metadata
      have happlied := hdone.applied a ((hr a).1 ha)
      rw [hb] at hmetadata happlied
      rw [hstore, hwork]
      refine ⟨hmetadata.trans hsaved.1, happlied.trans ?_⟩
      rw [hsaved.2]
    · rw [hstore]
      change .checkin failure :: d'.store.events = _
      rw [hnew, hb, hevents]
      simp
    · exact hfirst.reverse.trans (by cases exclusive <;> exact List.Sublist.refl _)
    · exact fun e he => hpool e (List.mem_reverse.1 he)
    · rw [List.filter_reverse, hissued, List.reverse_append, hwork]

/-- A connection to a schema without tables. -/
def bare : Connection where
  tables := []
  hash := .text "0f"
  migrator := .error .closedExecutor
  ownsWorkers := false
  modules := []

/-- A row is added. -/
def adding (row : String) : Request :=
  .execute ("INSERT INTO items VALUES (" ++ row ++ ")") .null

/-- Two rows are added, and between them another one in a transaction that is given up. -/
def givingUp : Task Unit :=
  .request (adding "1") fun _ =>
    .nested false (.request (adding "2") fun _ => .done (.error (.abort "not this one"))) fun _ =>
      .request (adding "3") .done

/-- A course that has seen a migration, and nothing since. -/
def migrated : Course (Notes Unit) where
  migrated := some ⟨.null, .null, "", []⟩
  work := { memory := () }

/-- The row that was given up is not there, and the other two are; all three came by one
connection. -/
theorem transaction_refines_givingUp : ∃ (a : Json) (d : Course (Notes Unit)),
    bare.transaction true (givingUp.run bare) migrated = (.ok a, d) ∧
    d.store.applied.map Event.text? = [some "INSERT INTO items VALUES (3)",
      some "INSERT INTO items VALUES (1)", some isolationStatement.text] ∧
    ∃ trace first statements, d.store.events = trace.reverse ∧
      Store.OneConnection (first ++ statements) trace ∧
      statements.map Event.text? = [some "INSERT INTO items VALUES (1)",
        some "INSERT INTO items VALUES (2)", some "INSERT INTO items VALUES (3)"] := by
  have hresult : ((bare.transaction true (givingUp.run bare) migrated).1.isOk,
      (bare.transaction true (givingUp.run bare) migrated).2.work.diary.kept.map Event.text?,
      (bare.transaction true (givingUp.run bare) migrated).2.work.diary.issued.map Event.text?) =
        (true, [some "INSERT INTO items VALUES (3)", some "INSERT INTO items VALUES (1)"],
          [some "INSERT INTO items VALUES (3)", some "INSERT INTO items VALUES (2)",
            some "INSERT INTO items VALUES (1)"]) := by decide +kernel
  obtain ⟨hok, hresult⟩ := Prod.mk.inj hresult
  obtain ⟨hkept, hissued⟩ := Prod.mk.inj hresult
  rcases h : bare.transaction true (givingUp.run bare) migrated with ⟨e | a, d⟩
  · rw [h] at hok
    cases hok
  · rw [h] at hkept hissued
    obtain ⟨-, hreturned, trace, first, hevents, -, hone⟩ :=
      transaction_refines bare true givingUp rfl rfl rfl h
    refine ⟨a, d, rfl, ?_, trace, first, _, hevents.trans (List.append_nil _), hone, ?_⟩
    · rw [(hreturned a rfl).2, List.map_append, List.map_append, hkept]
      rfl
    · rw [List.map_reverse, hissued]
      rfl

end Connection

end PgSchema
