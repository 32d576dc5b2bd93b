import PgSchema.Proofs.Connection.Calls

/-!
Transactions, stage by stage.

A call for a transaction is barred before its task begins, or its task runs in a course that the
call has entered, and the call leaves that course behind it (`Stage`).  A call that no transaction
surrounds takes its side of the lock for as long as the task runs, and puts the transaction at the
isolation that it is to have.  A call inside a transaction is a savepoint, and does neither.  A
failure of the task is reported by the former, and passed on by the latter.
-/

namespace PgSchema

open Store (Event)
open Course (Onward)

namespace Connection

variable {σ α : Type} {k : Connection} {exclusive outer : Bool} {task : Action σ α}

/-! ### On one connection -/

/-- A body that runs a task behind some statements, or fails at one of them. -/
def Begins (first : List Event) (task body : Action σ α) : Prop :=
  ∀ b, (∃ e s, body b = (.error e, { b with store := s }) ∧ b.store.events <:+ s.events) ∨
    ∃ s lines, body b = task { b with store := s, lines } ∧
      s.events = first ++ b.store.events ∧ s.applied = first ++ b.store.applied

lemma begins_self (task : Action σ α) : Begins [] task task :=
  fun b => .inr ⟨b.store, b.lines, rfl, rfl, rfl⟩

lemma begins_opened (exclusive : Bool) (task : Action σ α) :
    Begins (isolation exclusive) task (opened exclusive task) := by
  intro b
  cases exclusive with
  | false => exact .inr ⟨b.store, _, rfl, rfl, rfl⟩
  | true =>
    let event : Event := .execute isolationStatement.text .null
    have hstatement : Action.run isolationStatement .null b =
      ((b.store.run event isolationStatement).1,
        { b with store := (b.store.run event isolationStatement).2 }) := rfl
    have hevents := Store.events_run b.store event isolationStatement
    rcases hrun : b.store.run event isolationStatement with ⟨e | reply, s⟩
    · rw [hrun] at hstatement hevents
      exact .inl ⟨e, s, Action.bind_apply_error hstatement _, hevents ▸ List.suffix_cons _ _⟩
    · rw [hrun] at hstatement hevents
      exact .inr ⟨s, _, Action.bind_apply_ok hstatement _, hevents, (Store.held_run_plain hrun).2⟩

/-- **A transaction on the connection at hand**: the task does not begin, or it runs behind the
beginning of the transaction and its first statements. -/
inductive Attempt (first : List Event) (task : Action σ α) (c : Course σ) :
    Except Failure α → Course σ → Prop
  | barred {e : Failure} {s : Store} {lines : List Log.Line}
      (hevents : c.store.events <:+ s.events) :
      Attempt first task c (.error e) { c with store := s, lines }
  | ran {r r' : Except Failure α} {s t : Store} {lines : List Log.Line} {d : Course σ}
      (hevents : s.events = first ++ .begin c.store.depth :: c.store.events)
      (happlied : s.applied = first ++ c.store.applied)
      (hrun : task { c with store := s, lines } = (r', d))
      (hended : d.store.events <:+ t.events) (herror : ∀ e, r' = .error e → r = .error e) :
      Attempt first task c r { d with store := t }

lemma attempt {first : List Event} {body : Action σ α} (hbody : Begins first task body)
    {c d : Course σ} {r : Except Failure α} (h : Action.transaction body c = (r, d)) :
    Attempt first task c r d := by
  -- a body that runs to an end of the transaction, with the task in it
  have hran : ∀ {r r' : Except Failure α} {s t : Store} {d : Course σ},
      c.store.signal (.begin c.store.depth) Store.beginText = (.ok (), s) →
      body (Action.begun c s) = (r', d) → (∀ e, r' = .error e → r = .error e) →
      d.store.events <:+ t.events → Attempt first task c r { d with store := t } := by
    intro r r' s t d hs hd herror hsuffix
    have hbegan := Store.events_of_signal hs
    have hbefore := Store.suffix_of_signal hs
    rcases hbody (Action.begun c s) with ⟨e, s', hfailed, hevents⟩ |
      ⟨s', lines, hrun, hevents, happ⟩
    · obtain ⟨hr', rfl⟩ := Prod.mk.inj (hd.symm.trans hfailed)
      rw [herror e hr']
      exact .barred ((hbefore.trans hevents).trans hsuffix)
    · have htask : task { c with store := s', lines } = (r', d) := hrun.symm.trans hd
      refine .ran ?_ ?_ htask hsuffix herror
      · rw [hevents]
        exact congrArg (first ++ ·) hbegan
      · rw [happ]
        exact congrArg (first ++ ·) (Store.held_of_signal hs).2
  cases Action.ends h with
  | refused hs => exact .barred (Store.suffix_of_signal hs)
  | failed hs hd => exact hran hs hd (fun _ he => he) (List.suffix_cons _ _)
  | uncommitted hs hd hdone =>
    have hlast := Store.suffix_of_signal hdone
    exact hran hs hd nofun hlast
  | committed hs hd hdone =>
    have hlast := Store.suffix_of_signal hdone
    exact hran hs hd nofun hlast

/-! ### Reports -/

/-- The failure that is reported if a task fails. -/
def reported (exclusive : Bool) (e : Failure) : Failure :=
  if e.isAbort then e else .transaction (transactionName exclusive) e

lemma reporting_ok {body : Action σ α} {c d : Course σ} {a : α} (h : body c = (.ok a, d)) :
    reporting exclusive body c = (.ok a, d) := by
  have houtcome : Action.outcome body c = (.ok (.ok a), d) := by rw [Action.outcome, h]
  rw [reporting, Action.bind_apply_ok houtcome]
  rfl

lemma reporting_error (exclusive : Bool) {body : Action σ α} {c d : Course σ} {e : Failure}
    (h : body c = (.error e, d)) :
    ∃ lines, reporting exclusive body c = (.error (reported exclusive e), { d with lines }) := by
  have houtcome : Action.outcome body c = (.ok (.error e), d) := by rw [Action.outcome, h]
  rw [reporting, Action.bind_apply_ok houtcome, reported]
  dsimp only
  split
  · exact ⟨_, rfl⟩
  · exact ⟨_, rfl⟩

/-! ### Stages -/

/-- **The course in which a task begins**, entered from that of the call.  A call that no
transaction surrounds has taken its side of the lock, and the isolation of the transaction is set. -/
structure Entered (outer exclusive : Bool) (c b : Course σ) : Prop where
  work : b.work = c.work
  joined : b.joined = true
  migrated : ∀ result, c.migrated = some result → b.migrated = some result
  counts : c.admits (if outer then [.of exclusive] else []) = true →
    b.counts = if outer then (c.counts.arrive (.of exclusive)).enter (.of exclusive) else c.counts
  events : ∃ depth before, c.store.events <:+ before ∧
    b.store.events = (if outer then isolation exclusive else []) ++ .begin depth :: before
  applied : (if outer then isolation exclusive else []) <+: b.store.applied

/-- **The course behind a call**, left from that in which its task has ended. -/
structure Left (outer exclusive : Bool) (c d' d : Course σ) : Prop where
  work : d.work = d'.work
  joined : d.joined = if outer then c.joined else d'.joined
  migrated : d.migrated = d'.migrated
  counts : d.counts = if outer then d'.counts.leave (.of exclusive) else d'.counts
  events : d'.store.events <:+ d.store.events

/-- **A call for a transaction, stage by stage.**  It is the outermost one, or there is one around
it. -/
inductive Stage (outer exclusive : Bool) (task : Action σ α) (c : Course σ) :
    Except Failure α → Course σ → Prop
  /-- The task does not begin. -/
  | barred {e : Failure} {d : Course σ}
      (h : Onward (if outer then [.of exclusive] else []) c d) :
      Stage outer exclusive task c (.error e) d
  /-- The task runs. -/
  | ran {b d' d : Course σ} {r r' : Except Failure α} (hentered : Entered outer exclusive c b)
      (hrun : task b = (r', d')) (hleft : Left outer exclusive c d' d)
      (herror : ∀ e, r' = .error e → r = .error (if outer then reported exclusive e else e)) :
      Stage outer exclusive task c r d

/-- A transaction inside another one is a savepoint. -/
lemma stage_joined {c d : Course σ} {r : Except Failure α} (hj : c.joined = true)
    (h : k.transaction exclusive task c = (r, d)) : Stage false exclusive task c r d := by
  rw [transaction_joined hj] at h
  cases attempt (begins_self task) h with
  | barred hevents => exact .barred ⟨rfl, rfl, fun _ h => h, fun _ => rfl, hevents⟩
  | @ran _ _ s t lines d' hevents happlied hrun hended herror =>
    refine .ran ?_ hrun ?_ herror
    · exact ⟨rfl, hj, fun _ h => h, fun _ => rfl, ⟨_, _, List.suffix_refl _, hevents⟩,
        List.nil_prefix⟩
    · exact ⟨rfl, rfl, rfl, rfl, hended⟩

/-- A transaction that no other surrounds, once the schema is in line. -/
def apart (exclusive : Bool) (task : Action σ α) : Action σ α :=
  Action.within .operation (transactionName exclusive) <| Action.locked (.of exclusive) <|
    Action.pooled <| reporting exclusive <| Action.joining (inTransaction exclusive task)

lemma transaction_unjoined {c : Course σ} (hj : c.joined = false) :
    k.transaction exclusive task c = (k.ensureMigrated >>= fun _ => apart exclusive task) c := by
  rw [transaction, Action.bind_apply_ok (show Action.course c = (.ok c, c) from rfl),
    if_neg (by simp [hj])]
  rfl

/-- **A transaction on a connection of its own**, with the report on its failure: the task does not
begin, or it runs behind the statements that set the isolation. -/
inductive Lent (exclusive : Bool) (task : Action σ α) (c : Course σ) :
    Except Failure α → Course σ → Prop
  | barred {e : Failure} {s : Store} {lines : List Log.Line}
      (hevents : c.store.events <:+ s.events) :
      Lent exclusive task c (.error e) { c with joined := false, store := s, lines }
  | ran {r r' : Except Failure α} {s t : Store} {lines lines' : List Log.Line} {d : Course σ}
      (hevents : ∃ depth before, c.store.events <:+ before ∧
        s.events = isolation exclusive ++ .begin depth :: before)
      (happlied : isolation exclusive <+: s.applied)
      (hrun : task { c with joined := true, store := s, lines } = (r', d))
      (hended : d.store.events <:+ t.events)
      (herror : ∀ e, r' = .error e → r = .error (reported exclusive e)) :
      Lent exclusive task c r { d with joined := false, store := t, lines := lines' }

lemma lent_reporting {c d : Course σ} {r : Except Failure α}
    (h : reporting exclusive (Action.joining (inTransaction exclusive task)) c = (r, d)) :
    Lent exclusive task c r d := by
  rcases hran : inTransaction exclusive task { c with joined := true } with ⟨r', d'⟩
  have hjoining : Action.joining (inTransaction exclusive task) c =
      (r', { d' with joined := false }) := by
    unfold Action.joining
    rw [hran]
  obtain ⟨⟨lines, rfl⟩, herror⟩ : (∃ lines, d = { d' with joined := false, lines }) ∧
      ∀ e, r' = .error e → r = .error (reported exclusive e) := by
    cases r' with
    | ok a =>
      rw [reporting_ok hjoining] at h
      cases h
      exact ⟨⟨_, rfl⟩, nofun⟩
    | error e =>
      obtain ⟨lines, hreport⟩ := reporting_error exclusive hjoining
      rw [hreport] at h
      cases h
      exact ⟨⟨_, rfl⟩, fun _ he => by cases he; rfl⟩
  cases attempt (begins_opened exclusive task) hran with
  | barred hevents =>
    rw [herror _ rfl]
    exact .barred hevents
  | @ran _ r'' s t lines' d'' hevents happlied hrun hended hfailed =>
    exact .ran (t := t) (d := d'') ⟨_, _, List.suffix_refl _, hevents⟩ ⟨_, happlied.symm⟩ hrun
      hended fun e he => herror e (hfailed e he)

/-- The connection is taken from the pool and given back. -/
lemma lent_pooled {c d : Course σ} {r : Except Failure α} (hj : c.joined = false)
    (h : Action.pooled (reporting exclusive (Action.joining (inTransaction exclusive task))) c =
      (r, d)) : Lent exclusive task c r d := by
  cases Action.lends h with
  | @refused e s hcheckout =>
    have hsame : { c with store := s } = { c with joined := false, store := s } := by rw [← hj]
    rw [hsame]
    exact .barred (Store.suffix_of_signal hcheckout)
  | lent hcheckout hbody =>
    have htaken := Store.suffix_of_signal hcheckout
    cases lent_reporting hbody with
    | barred hevents => exact .barred ((htaken.trans hevents).trans (List.suffix_cons _ _))
    | @ran _ _ s' t lines lines' d' hevents happlied hrun hended herror =>
      obtain ⟨depth, before, hbefore, hevents⟩ := hevents
      exact .ran (d := d') ⟨depth, before, htaken.trans hbefore, hevents⟩ happlied hrun
        (hended.trans (List.suffix_cons _ _)) herror

lemma stage_apart {c d : Course σ} {r : Except Failure α} (hj : c.joined = false)
    (h : apart exclusive task c = (r, d)) : Stage true exclusive task c r d := by
  -- the course inside the context and the lock
  let a : Course σ :=
    { c with
      contexts := c.contexts.current.withCoordinate .operation (transactionName exclusive) ::
        c.contexts
      counts := (c.counts.arrive (.of exclusive)).enter (.of exclusive) }
  rcases hpooled : Action.pooled
    (reporting exclusive (Action.joining (inTransaction exclusive task))) a with ⟨r', d'⟩
  have hblocks : apart exclusive task c = (r', { d' with
      counts := d'.counts.leave (.of exclusive), contexts := d'.contexts.pop }) := by
    unfold apart Action.within Action.locked
    dsimp only
    rw [hpooled]
  rw [hblocks] at h
  cases lent_pooled (c := a) hj hpooled with
  | barred hevents =>
    cases h
    refine .barred ⟨rfl, hj.symm, fun _ h => h, fun hc => ?_, hevents⟩
    obtain ⟨hmodes, -⟩ := Bool.and_eq_true_iff.1 hc
    exact Lock.Counts.passed_of_admits (List.all_eq_true.1 hmodes _ (List.mem_singleton.2 rfl))
  | @ran _ _ s t lines lines' d' hevents happlied hrun hended herror =>
    cases h
    refine .ran ?_ hrun ?_ herror
    · exact ⟨rfl, rfl, fun _ h => h, fun _ => rfl, hevents, happlied⟩
    · exact ⟨rfl, hj.symm, rfl, rfl, hended⟩

/-- The call begins later. -/
lemma Stage.after {c c' d : Course σ} {r : Except Failure α}
    (h : Onward [.of exclusive] c c') (hstage : Stage true exclusive task c' r d) :
    Stage true exclusive task c r d := by
  cases hstage with
  | barred hd => exact .barred (h.trans hd)
  | ran hentered hrun hleft herror =>
    obtain ⟨depth, before, hbefore, hevents⟩ := hentered.events
    refine .ran ⟨hentered.work.trans h.work, hentered.joined,
      fun result hm => hentered.migrated result (h.migrated result hm), fun hc => ?_,
      ⟨depth, before, h.events.trans hbefore, hevents⟩, hentered.applied⟩ hrun
      ⟨hleft.work, hleft.joined.trans h.joined, hleft.migrated, hleft.counts, hleft.events⟩ herror
    rw [hentered.counts (h.admits hc), if_pos rfl, if_pos rfl, h.counts hc]

/-- **A call for a transaction that no other surrounds.** -/
lemma stage_unjoined {c d : Course σ} {r : Except Failure α} (hj : c.joined = false)
    (h : k.transaction exclusive task c = (r, d)) : Stage true exclusive task c r d := by
  have hgate : Onward [.of exclusive] c (k.ensureMigrated c).2 := k.onwards_ensureMigrated c hj
  rw [transaction_unjoined hj] at h
  rcases hensured : k.ensureMigrated c with ⟨e | result, c'⟩
  · rw [Action.bind_apply_error hensured] at h
    rw [hensured] at hgate
    cases h
    exact .barred hgate
  · rw [Action.bind_apply_ok hensured] at h
    rw [hensured] at hgate
    exact (stage_apart (hgate.joined.trans hj) h).after hgate

/-! ### Calls that are waited for -/

/-- A task is run in a transaction, by the caller or by one of the workers, and its outcome is
waited for. -/
def awaited (k : Connection) (aside exclusive : Bool) (task : Action σ α) : Action σ α :=
  if aside then k.transactionAside exclusive task >>= Action.ofOutcome
  else k.transaction exclusive task

/-- The workers run a task aside, unless they are gone. -/
lemma awaited_aside (k : Connection) (exclusive : Bool) (task : Action σ α) (c : Course σ) :
    k.awaited true exclusive task c = if c.workersGone then (.error (.fault .closedExecutor), c)
      else Action.aside (k.transaction exclusive task) c := by
  rw [awaited, if_pos rfl]
  cases hgone : c.workersGone with
  | true =>
    have hfails : k.transactionAside exclusive task c = (.error (.fault .closedExecutor), c) := by
      rw [transactionAside, Action.bind_apply_ok (show Action.course c = (.ok c, c) from rfl),
        if_pos hgone]
      rfl
    rw [Action.bind_apply_error hfails, if_pos rfl]
  | false =>
    have houtcome : k.transactionAside exclusive task c =
        (.ok (Action.aside (k.transaction exclusive task) c).1,
          (Action.aside (k.transaction exclusive task) c).2) := by
      rw [transactionAside, Action.bind_apply_ok (show Action.course c = (.ok c, c) from rfl),
        if_neg (by simp [hgone])]
      rfl
    rw [Action.bind_apply_ok houtcome, if_neg Bool.false_ne_true]
    rcases Action.aside (k.transaction exclusive task) c with ⟨e | a, d⟩ <;> rfl

/-- **A call for a transaction**: it is the outermost one if it is the work of another worker, or if
no transaction surrounds it. -/
theorem stage_awaited {aside : Bool} {c d : Course σ} {r : Except Failure α}
    (h : k.awaited aside exclusive task c = (r, d)) :
    Stage (aside || !c.joined) exclusive task c r d := by
  cases aside with
  | false =>
    cases hj : c.joined with
    | true => exact stage_joined hj h
    | false => exact stage_unjoined hj h
  | true =>
    rw [awaited_aside] at h
    split at h
    · cases h
      exact .barred (.refl _ _)
    · rcases htransaction : k.transaction exclusive task { c with contexts := [], joined := false }
        with ⟨r', d'⟩
      rw [Action.aside, htransaction] at h
      cases h
      cases stage_unjoined rfl htransaction with
      | barred hd => exact .barred ⟨hd.work, rfl, hd.migrated, hd.counts, hd.events⟩
      | ran hentered hrun hleft herror =>
        exact .ran ⟨hentered.work, hentered.joined, hentered.migrated, hentered.counts,
          hentered.events, hentered.applied⟩ hrun
          ⟨hleft.work, rfl, hleft.migrated, hleft.counts, hleft.events⟩ herror

end Connection

end PgSchema
