import PgSchema.Proofs.Connection.Migrated

/-!
The gate to the store.

A call that is not in a transaction brings the schema in line before all else, if that has not been
done.  A client comes by this gate with each such call until it is open (`Gated`), and it does
nothing else at the store before (`run_gated`).
-/

namespace PgSchema

open Migration (Migrator)

/-- A failure as that of an operation of the repository: the repository's own stay as they are. -/
def Failure.during (operation : String) (e : Failure) : Failure :=
  if e.isTyped then e else .repository operation none e

lemma Failure.isTyped_during (operation : String) (e : Failure) :
    (e.during operation).isTyped = true := by
  unfold during
  split
  · assumption
  · rfl

namespace Action

variable {σ α : Type} {c d : Course σ}

lemma guarding_ok (owner operation : String) {body : Action σ α} {a : α}
    (h : body c = (.ok a, d)) : guarding owner operation none body c = (.ok a, d) := by
  unfold guarding
  rw [h]

lemma guarding_error (owner operation : String) {body : Action σ α} {e : Failure}
    (h : body c = (.error e, d)) :
    ∃ lines, guarding owner operation none body c =
      (.error (e.during operation), { d with lines }) := by
  unfold guarding Failure.during
  rw [h]
  dsimp only
  split
  · exact ⟨_, rfl⟩
  · exact ⟨_, rfl⟩

end Action

namespace Connection

variable {σ α β S : Type} (k : Connection)

/-! ### The gate -/

/-- What a visit leaves as it was. -/
lemma visit_keeps {c d : Course σ} {r : Except Failure Migration.Result}
    (h : k.visit c = (r, d)) : d.migrated = r.toOption.or c.migrated ∧ d.joined = c.joined ∧
      d.contexts = c.contexts ∧ d.workersGone = c.workersGone := by
  obtain ⟨s, lines, hd, -⟩ := k.visit_apply c
  rw [h] at hd
  exact ⟨congrArg (fun d => d.migrated) hd, congrArg (fun d => d.joined) hd,
    congrArg (fun d => d.contexts) hd, congrArg (fun d => d.workersGone) hd⟩

/-- **What comes of the gate while it is closed**: the migrator is visited, and the result is kept
or the failure reported. -/
inductive Visits (c : Course σ) : Except Failure Migration.Result → Course σ → Prop
  | settled {result : Migration.Result} {d : Course σ} (hvisit : k.visit c = (.ok result, d)) :
      Visits c (.ok result) d
  | failed {e : Failure} {d : Course σ} {lines : List Log.Line}
      (hvisit : k.visit c = (.error e, d)) :
      Visits c (.error (e.during "migrate")) { d with lines }

lemma visits {c d : Course σ} {r : Except Failure Migration.Result} (hm : c.migrated = none)
    (h : k.ensureMigrated c = (r, d)) : k.Visits c r d := by
  rw [k.ensureMigrated_of_none hm] at h
  rcases hvisit : k.visit c with ⟨e | result, d'⟩
  · obtain ⟨lines, hguarded⟩ := Action.guarding_error owner "migrate" hvisit
    rw [guarded, hguarded] at h
    cases h
    exact .failed hvisit
  · rw [guarded, Action.guarding_ok owner "migrate" hvisit] at h
    cases h
    exact .settled hvisit

/-- Behind the gate there is a result, and the call is where it was. -/
lemma ensureMigrated_eq_ok {c d : Course σ} {result : Migration.Result}
    (h : k.ensureMigrated c = (.ok result, d)) :
    d.migrated = some result ∧ d.joined = c.joined ∧ d.contexts = c.contexts := by
  cases hm : c.migrated with
  | some before =>
    rw [ensureMigrated_of_migrated hm] at h
    cases h
    exact ⟨hm, rfl, rfl⟩
  | none =>
    cases k.visits hm h with
    | settled hvisit =>
      obtain ⟨hmigrated, hjoined, hcontexts, -⟩ := k.visit_keeps hvisit
      exact ⟨hmigrated, hjoined, hcontexts⟩

/-- A gate that stays closed is reported as a failure of the repository. -/
lemma ensureMigrated_eq_error {c d : Course σ} {e : Failure}
    (h : k.ensureMigrated c = (.error e, d)) : e.isTyped = true := by
  cases hm : c.migrated with
  | some result =>
    rw [ensureMigrated_of_migrated hm] at h
    cases h
  | none =>
    cases k.visits hm h with
    | failed hvisit => exact Failure.isTyped_during _ _

/-! ### Calls that come by the gate -/

/-- **A call comes by the gate**, outside of transactions: if the gate stays closed it fails, and
otherwise it is made behind the gate. -/
def Knocks (x : Action σ α) : Prop :=
  ∀ c, c.joined = false → x c = (k.ensureMigrated >>= fun _ => x) c

namespace Knocks

variable {k} {x : Action σ α}

/-- The gate comes first. -/
lemma of_first {f : Migration.Result → Action σ α}
    (h : ∀ c, c.joined = false → x c = (k.ensureMigrated >>= f) c) : k.Knocks x := by
  intro c hj
  rcases hgate : k.ensureMigrated c with ⟨e | result, d⟩
  · rw [h c hj, Action.bind_apply_error hgate, Action.bind_apply_error hgate]
  · obtain ⟨hm, hjoined, -⟩ := k.ensureMigrated_eq_ok hgate
    rw [h c hj, Action.bind_apply_ok hgate, Action.bind_apply_ok hgate, h d (hjoined.trans hj),
      Action.bind_apply_ok (ensureMigrated_of_migrated hm)]

lemma ensureMigrated : k.Knocks (σ := σ) k.ensureMigrated :=
  of_first (f := pure) fun c _ => by
    rcases hgate : k.ensureMigrated c with ⟨e | result, d⟩
    · rw [Action.bind_apply_error hgate]
    · rw [Action.bind_apply_ok hgate]
      rfl

lemma bind (h : k.Knocks x) (f : α → Action σ β) : k.Knocks (x >>= f) := by
  intro c hj
  rw [← Action.bind_assoc]
  rcases hx : x c with ⟨e | a, d⟩
  · rw [Action.bind_apply_error hx, Action.bind_apply_error ((h c hj).symm.trans hx)]
  · rw [Action.bind_apply_ok hx, Action.bind_apply_ok ((h c hj).symm.trans hx)]

/-- The failure of the gate is not reported once more. -/
lemma guarded (h : k.Knocks x) (operation : String) : k.Knocks (guarded operation x) := by
  intro c hj
  have hx := h c hj
  rcases hgate : k.ensureMigrated c with ⟨e | result, d⟩
  · rw [Action.bind_apply_error hgate] at hx ⊢
    rw [Connection.guarded, Action.guarding, hx]
    exact if_pos (k.ensureMigrated_eq_error hgate)
  · rw [Action.bind_apply_ok hgate] at hx ⊢
    rw [Connection.guarded, Action.guarding, Action.guarding, hx]

lemma onConnection (exclusive : Bool) (body : Action σ α) :
    k.Knocks (k.onConnection exclusive body) :=
  of_first (f := fun _ => Action.locked (.of exclusive) (Action.pooled body)) fun c hj => by
    rw [Connection.onConnection, Action.bind_apply_ok (show Action.course c = (.ok c, c) from rfl),
      if_neg (by simp [hj])]

lemma request (r : Request) : k.Knocks (σ := σ) (r.run k) := by
  cases r with
  | execute => exact (onConnection _ _).guarded _
  | insert => exact (onConnection _ _).guarded _
  | fetchAll => exact ((onConnection _ _).guarded _).bind _
  | fetchOne => exact (onConnection _ _).guarded _

lemma transaction (exclusive : Bool) (task : Action σ α) :
    k.Knocks (k.transaction exclusive task) :=
  of_first fun _ hj => transaction_unjoined hj

/-- A call that is made aside comes by the gate there. -/
lemma aside (h : k.Knocks x) (c : Course σ) :
    Action.aside x c = (Action.aside k.ensureMigrated >>= fun _ => Action.aside x) c := by
  have hx := h { c with contexts := [], joined := false } rfl
  rcases hgate : k.ensureMigrated { c with contexts := [], joined := false } with ⟨e | result, d⟩
  · have haside : Action.aside k.ensureMigrated c =
        (.error e, { d with contexts := c.contexts, joined := c.joined }) := by
      rw [Action.aside, hgate]
    rw [Action.bind_apply_error hgate] at hx
    rw [Action.bind_apply_error haside, Action.aside, hx]
  · obtain ⟨-, hjoined, hcontexts⟩ := k.ensureMigrated_eq_ok hgate
    have haside : Action.aside k.ensureMigrated c =
        (.ok result, { d with contexts := c.contexts, joined := c.joined }) := by
      rw [Action.aside, hgate]
    have hsame : { d with contexts := [], joined := false } = d := by
      rw [show ([] : Log.Stack) = d.contexts from hcontexts.symm,
        show false = d.joined from hjoined.symm]
    rw [Action.bind_apply_ok hgate] at hx
    rw [Action.bind_apply_ok haside, Action.aside, Action.aside, hx]
    dsimp only
    rw [hsame]

end Knocks

/-! ### Models that are created -/

/-- The model that is made, with the statement that inserts it and the values for it. -/
def insertion (t : Table) (made : Except Failure Json) (cell : String → Except Fault Json) :
    Except Failure (Json × String × List Json) :=
  match made, Query.Inserter.prepare t .none false with
  | .error e, _ => .error e
  | .ok _, .error fault => .error (.fault fault)
  | .ok model, .ok inserter =>
    match inserter.columns.mapM fun c => cell c.name with
    | .error fault => .error (.fault fault)
    | .ok values => .ok (model, inserter.text, values)

lemma each_check (f : α → Except Fault β) (l : List α) :
    Action.each (σ := σ) (fun a => Action.check (f a)) l = Action.check (l.mapM f) := by
  induction l with
  | nil => rfl
  | cons a l ih =>
    rw [Action.each, ih, List.mapM_cons]
    cases f a with
    | error fault => rfl
    | ok b => cases l.mapM f <;> rfl

lemma execute_eq (inserter : Query.Inserter) (cell : String → Except Fault Json) :
    inserter.execute (k.backend (σ := σ)) (fun name => Action.check (cell name)) =
      (Action.check (inserter.columns.mapM fun c => cell c.name) >>= fun values =>
        k.insert inserter.text (.list values)) := by
  unfold Query.Inserter.execute Query.Inserter.valuesOf
  rw [each_check (fun c : Column => cell c.name)]
  rfl

/-- A model that cannot be made or prepared. -/
lemma create_eq_of_error {t : Table} {made : Except Failure Json}
    {cell : String → Except Fault Json} {e : Failure} (h : insertion t made cell = .error e)
    (c : Course σ) : k.create t made cell c = (.error e, c) := by
  unfold insertion at h
  unfold create createModel
  cases made with
  | error e' =>
    cases h
    rfl
  | ok model =>
    cases hprepared : Query.Inserter.prepare t .none false with
    | error fault =>
      rw [hprepared] at h
      cases h
      rfl
    | ok inserter =>
      rw [hprepared] at h
      dsimp only at h
      cases hcells : inserter.columns.mapM fun c : Column => cell c.name with
      | error fault =>
        rw [hcells] at h
        cases h
        have hexecute := congrFun (k.execute_eq (σ := σ) inserter cell) c
        rw [hcells] at hexecute
        exact Action.bind_apply_error hexecute _
      | ok values =>
        rw [hcells] at h
        cases h

/-- A model that can be made and prepared is inserted first of all. -/
lemma create_eq_of_ok {t : Table} {made : Except Failure Json} {cell : String → Except Fault Json}
    {model : Json} {text : String} {values : List Json}
    (h : insertion t made cell = .ok (model, text, values)) :
    ∃ f, k.create (σ := σ) t made cell = k.insert text (.list values) >>= f := by
  unfold insertion at h
  unfold create createModel
  cases made with
  | error e => cases h
  | ok made =>
    cases hprepared : Query.Inserter.prepare t .none false with
    | error fault =>
      rw [hprepared] at h
      cases h
    | ok inserter =>
      rw [hprepared] at h
      dsimp only at h
      cases hcells : inserter.columns.mapM fun c : Column => cell c.name with
      | error fault =>
        rw [hcells] at h
        cases h
      | ok inserted =>
        rw [hcells] at h
        cases h
        rw [Action.ofOutcome, Action.pure_bind, Action.check, Action.pure_bind, k.execute_eq,
          hcells, Action.check, Action.pure_bind]
        exact ⟨_, rfl⟩

/-! ### Clients at the gate -/

/-- The next call of a client, if it comes by the gate: whether it is made aside, and how the client
goes on if the call fails. -/
def Client.knock? (c : Course S) : Client S → Option (Bool × (Failure → Client S))
  | migrate next => some (false, fun e => next (.error e))
  | request _ next => some (false, fun e => next (.error e))
  | create t made cell next =>
    if (insertion t made cell).isOk then some (false, fun e => next (.error e)) else none
  | transact aside _ _ next =>
    if aside && c.workersGone then none else some (aside, fun e => next (.error e))
  | _ => none

/-- **A run of a client that comes by the gate with each of its calls until the gate is open.**  The
course goes on from one call to the next without anything in between. -/
inductive Gated : Client S → Course S → Except Failure Json → Course S → Prop
  | done {outcome : Except Failure Json} {c : Course S} : Gated (.done outcome) c outcome c
  | consult {next : S → Client S} {c d : Course S} {r : Except Failure Json}
      (h : Gated (next c.work) c r d) : Gated (.consult next) c r d
  | remember {memory : S} {next : Client S} {c d : Course S} {r : Except Failure Json}
      (h : Gated next { c with work := memory } r d) : Gated (.remember memory next) c r d
  /-- A model that cannot be made or prepared never gets to the gate. -/
  | unprepared {t : Table} {made : Except Failure Json} {cell : String → Except Fault Json}
      {next : Except Failure Json → Client S} {e : Failure} {c d : Course S}
      {r : Except Failure Json} (hnone : insertion t made cell = .error e)
      (h : Gated (next (.error e)) c r d) : Gated (.create t made cell next) c r d
  /-- Nor does a task for workers that are gone. -/
  | closed {exclusive : Bool} {task : Client S} {next : Except Failure Json → Client S}
      {c d : Course S} {r : Except Failure Json} (hgone : c.workersGone = true)
      (h : Gated (next (.error (.fault .closedExecutor))) c r d) :
      Gated (.transact true exclusive task next) c r d
  /-- The call has the migrator visited once, and that fails.  So does the call, with what the
  migrator has failed with, as a failure of the migration.  Nothing else is done, but for lines of
  the log, and no result is kept. -/
  | refused {client : Client S} {aside : Bool} {next : Failure → Client S} {c v d : Course S}
      {e : Failure} {lines : List Log.Line} {r : Except Failure Json}
      (hcall : client.knock? c = some (aside, next))
      (hvisit : k.visit { c with contexts := if aside then [] else c.contexts } = (.error e, v))
      (hnone : v.migrated = none)
      (h : Gated (next (e.during "migrate")) { v with contexts := c.contexts, lines } r d) :
      Gated client c r d
  /-- The call has the migrator visited once, and there is a result.  It is made from there on as if
  nothing had been, and the migrator is not visited again: with any other one the client would do
  the same.  Whenever the client asks for the result, it gets that one. -/
  | opened {client : Client S} {aside : Bool} {next : Failure → Client S} {c v d : Course S}
      {result : Migration.Result} {r : Except Failure Json}
      (hcall : client.knock? c = some (aside, next))
      (hvisit : k.visit { c with contexts := if aside then [] else c.contexts } = (.ok result, v))
      (hkept : d.migrated = some result)
      (h : ∀ spare, (client.told result).run (k.withMigrator spare)
        { v with contexts := c.contexts } = (r, d)) : Gated client c r d

/-- The gate, as a call comes by it that is made aside or not. -/
def gate (aside : Bool) : Action σ Migration.Result :=
  if aside then Action.aside k.ensureMigrated else k.ensureMigrated

/-- A call that is made aside comes by the gate without its contexts. -/
lemma gate_apply {c d : Course σ} {r : Except Failure Migration.Result} (hj : c.joined = false)
    (aside : Bool)
    (h : k.ensureMigrated { c with contexts := if aside then [] else c.contexts } = (r, d))
    (hjoined : d.joined = false) (hcontexts : d.contexts = if aside then [] else c.contexts) :
    k.gate aside c = (r, { d with contexts := c.contexts }) := by
  cases aside with
  | true =>
    have hbefore : { c with contexts := [], joined := false } = { c with contexts := [] } := by
      rw [← hj]
    have hafter : { d with contexts := c.contexts, joined := c.joined } =
        { d with contexts := c.contexts } := by rw [hj, ← hjoined]
    rw [if_pos rfl, ← hbefore] at h
    rw [gate, if_pos rfl, Action.aside, h, ← hafter]
  | false =>
    have hafter : { d with contexts := c.contexts } = d := by
      rw [show c.contexts = d.contexts from hcontexts.symm]
    rw [gate, if_neg Bool.false_ne_true, hafter]
    exact h

/-- What comes of the gate while it is closed. -/
lemma gate_eq {c : Course σ} (hj : c.joined = false) (hm : c.migrated = none) (aside : Bool) :
    (∃ e v lines, k.visit { c with contexts := if aside then [] else c.contexts } = (.error e, v) ∧
      v.migrated = none ∧ v.joined = false ∧
      k.gate aside c = (.error (e.during "migrate"), { v with contexts := c.contexts, lines })) ∨
    ∃ result v, k.visit { c with contexts := if aside then [] else c.contexts } = (.ok result, v) ∧
      v.migrated = some result ∧ v.joined = false ∧
      k.gate aside c = (.ok result, { v with contexts := c.contexts }) := by
  let b : Course σ := { c with contexts := if aside then [] else c.contexts }
  rcases hgate : k.ensureMigrated b with ⟨r, d⟩
  cases k.visits (c := b) hm hgate with
  | settled hvisit =>
    obtain ⟨hmigrated, hjoined, hcontexts, -⟩ := k.visit_keeps hvisit
    exact .inr ⟨_, _, hvisit, hmigrated, hjoined.trans hj,
      k.gate_apply hj aside hgate (hjoined.trans hj) hcontexts⟩
  | failed hvisit =>
    rename_i e v lines
    obtain ⟨hmigrated, hjoined, hcontexts, -⟩ := k.visit_keeps hvisit
    exact .inl ⟨e, v, lines, hvisit, hmigrated.trans hm, hjoined.trans hj,
      k.gate_apply (d := { v with lines }) hj aside hgate (hjoined.trans hj) hcontexts⟩

namespace Gated

variable {k}

/-- Workers that are there run a task behind the gate. -/
lemma awaited_aside_eq {c : Course σ} (hj : c.joined = false) (hm : c.migrated = none)
    (hgone : c.workersGone = false) (exclusive : Bool) (task : Action σ α) :
    k.awaited true exclusive task c =
      (k.gate true >>= fun _ => k.awaited true exclusive task) c := by
  have hknocks : Action.aside (k.transaction exclusive task) c =
      (k.gate true >>= fun _ => Action.aside (k.transaction exclusive task)) c :=
    (Knocks.transaction exclusive task).aside c
  rw [awaited_aside, hgone, if_neg Bool.false_ne_true, hknocks]
  rcases k.gate_eq hj hm true with ⟨e, v, lines, -, -, -, hgate⟩ | ⟨result, v, hvisit, -, -, hgate⟩
  · rw [Action.bind_apply_error hgate, Action.bind_apply_error hgate]
  · obtain ⟨-, -, -, hthere⟩ := k.visit_keeps hvisit
    rw [Action.bind_apply_ok hgate, Action.bind_apply_ok hgate, awaited_aside]
    exact (if_neg (by simp [hthere.trans hgone])).symm

/-- **A call at the closed gate**, and what the client does behind it. -/
lemma call (aside : Bool) {client : Client S} {x : Action S α} {rest : Except Failure α → Client S}
    {c : Course S} (hj : c.joined = false) (hm : c.migrated = none)
    (hrun : client.run k = Action.outcome x >>= fun o => (rest o).run k)
    (hx : x c = (k.gate aside >>= fun _ => x) c)
    (hcall : client.knock? c = some (aside, fun e => rest (.error e)))
    (hrest : ∀ {e c'}, c'.joined = false → c'.migrated = none →
      k.Gated (rest (.error e)) c' ((rest (.error e)).run k c').1 ((rest (.error e)).run k c').2) :
    k.Gated client c (client.run k c).1 (client.run k c).2 := by
  rcases k.gate_eq hj hm aside with ⟨e, v, lines, hvisit, hnone, hjoined, hgate⟩ |
    ⟨result, v, hvisit, hsome, hjoined, hgate⟩
  · have houtcome : Action.outcome x c = (.ok (.error (e.during "migrate")),
        { v with contexts := c.contexts, lines }) := by
      rw [Action.bind_apply_error hgate] at hx
      rw [Action.outcome, hx]
    rw [hrun, Action.bind_apply_ok houtcome]
    exact .refused hcall hvisit hnone (hrest hjoined hnone)
  · -- the client is where it was, with the gate open
    have hsame : client.run k c = client.run k { v with contexts := c.contexts } := by
      rw [Action.bind_apply_ok hgate] at hx
      have houtcome : Action.outcome x c = Action.outcome x { v with contexts := c.contexts } := by
        rw [Action.outcome, Action.outcome, hx]
      rw [hrun]
      simp only [Bind.bind, houtcome]
    rw [hsame]
    have htold := fun spare => client.run_told k spare { v with contexts := c.contexts } hsome
    exact .opened hcall hvisit (htold k.migrator).2 fun spare => (htold spare).1.symm

end Gated

/-- **The gate of the migration.**  While there is no result, each call of a client outside of
transactions comes by the gate before it does anything else at the store, and fails there or opens
it; behind it the migrator is not visited again, and there is one result for all. -/
theorem run_gated (client : Client S) {c : Course S} (hj : c.joined = false)
    (hm : c.migrated = none) : k.Gated client c (client.run k c).1 (client.run k c).2 := by
  induction client generalizing c with
  | done outcome =>
    have hdone : (Client.done outcome).run k c = (outcome, c) := by cases outcome <;> rfl
    rw [hdone]
    exact .done
  | consult next ih => exact .consult (ih _ hj hm)
  | remember memory next ih => exact .remember (ih (c := { c with work := memory }) hj hm)
  | migrate next ih =>
    exact .call false hj hm rfl (Knocks.ensureMigrated c hj) rfl fun hj hm => ih _ hj hm
  | request r next ih =>
    exact .call false hj hm rfl (Knocks.request r c hj) rfl fun hj hm => ih _ hj hm
  | create t made cell next ih =>
    cases hinsertion : insertion t made cell with
    | error e =>
      have houtcome : Action.outcome (k.create t made cell) c = (.ok (.error e), c) := by
        rw [Action.outcome, k.create_eq_of_error hinsertion]
      rw [Client.run, Action.bind_apply_ok houtcome]
      exact .unprepared hinsertion (ih _ hj hm)
    | ok inserted =>
      obtain ⟨model, text, values⟩ := inserted
      obtain ⟨f, hcreate⟩ := k.create_eq_of_ok (σ := S) hinsertion
      have hknocks : k.Knocks (k.create (σ := S) t made cell) :=
        hcreate ▸ ((Knocks.request (.insert text (.list values))).bind f)
      refine .call false hj hm rfl (hknocks c hj) ?_ fun hj hm => ih _ hj hm
      rw [Client.knock?, hinsertion]
      rfl
  | transact aside exclusive task next _ ih =>
    cases aside with
    | false =>
      exact .call false hj hm rfl (Knocks.transaction exclusive (task.run k) c hj) rfl
        fun hj hm => ih _ hj hm
    | true =>
      cases hgone : c.workersGone with
      | true =>
        have houtcome : Action.outcome (k.awaited true exclusive (task.run k)) c =
            (.ok (.error (.fault .closedExecutor)), c) := by
          rw [Action.outcome, awaited_aside, if_pos hgone]
        rw [Client.run, Action.bind_apply_ok houtcome]
        exact .closed hgone (ih _ hj hm)
      | false =>
        refine .call true hj hm rfl (Gated.awaited_aside_eq hj hm hgone exclusive _) ?_
          fun hj hm => ih _ hj hm
        rw [Client.knock?, hgone]
        rfl

/-- A connection to a schema without tables that can be brought in line. -/
def keeper : Connection :=
  { bare with migrator := .ok ⟨[], .text "0f", .text "schema_metadata", .bool false, ⟨"", ""⟩⟩ }

/-- A client that asks for the result of the migration after its first request, and once more. -/
def patient : Client Unit :=
  .request (adding "1") fun first => .migrate fun _ => .migrate fun _ =>
    .done <| match first with
      | .ok _ => .ok .null
      | .error e => .ok (.text (e.operation?.getD ""))

/-- A course in which the pool has no connection to give at first, and the database tells of the
declared fingerprint. -/
def fresh : Course Unit where
  store := { script :=
    [⟨"E", 0, none, none, some [(Migration.Row.ofHash (.text "0f")).toJson], .int 1⟩,
     ⟨Store.checkoutText, 0, some 1, some (.driver (some "08006") "no connection"), none, .null⟩] }
  work := ()

/-- The request fails at the gate, the next call opens it, and the last one asks nothing of the pool
any more. -/
theorem run_gated_patient : fresh.joined = false ∧ fresh.migrated = none ∧
    keeper.Gated patient fresh (patient.run keeper fresh).1 (patient.run keeper fresh).2 ∧
    ((patient.run keeper fresh).1.toOption.bind Json.text?,
      (patient.run keeper fresh).2.migrated.isSome,
      ((patient.run keeper fresh).2.store.events.filter Store.Event.ofPool).length) =
        (some "migrate", true, 3) :=
  ⟨rfl, rfl, keeper.run_gated patient rfl rfl, by decide +kernel⟩

end Connection

end PgSchema
