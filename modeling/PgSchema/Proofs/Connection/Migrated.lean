import PgSchema.Proofs.Connection.Client

/-!
Clients of a connection whose schema is in line.

Once the result of the migration is kept, a call asks nothing of the migrator any more: it does the
same with any other one, and keeps the result (`Steady`).  So does a client, and it is told the one
result whenever it asks for it (`run_told`).
-/

namespace PgSchema

open Store (Event)
open Migration (Migrator)

namespace Action

variable {σ α β : Type} {m : Migration.Result}

/-- **Two actions are the same once there is a result**, and keep it. -/
def Steady (m : Migration.Result) (x y : Action σ α) : Prop :=
  ∀ c, c.migrated = some m → x c = y c ∧ (x c).2.migrated = some m

namespace Steady

lemma of_same {x : Action σ α} (h : ∀ c, (x c).2 = c) : Steady m x x :=
  fun c hm => ⟨rfl, by rw [h c, hm]⟩

lemma of_plain {x : Action σ α} (h : x.Plain) : Steady m x x := by
  intro c hm
  obtain ⟨s, lines, hd, -⟩ := h c
  exact ⟨rfl, by rw [hd, hm]⟩

lemma bind {x y : Action σ α} {f g : α → Action σ β} (hxy : Steady m x y)
    (hfg : ∀ a, Steady m (f a) (g a)) : Steady m (x >>= f) (y >>= g) := by
  intro c hm
  obtain ⟨hsame, hd⟩ := hxy c hm
  rcases hx : x c with ⟨e | a, d⟩
  · rw [hx] at hsame hd
    rw [bind_apply_error hx, bind_apply_error hsame.symm]
    exact ⟨rfl, hd⟩
  · rw [hx] at hsame hd
    rw [bind_apply_ok hx, bind_apply_ok hsame.symm]
    exact hfg a d hd

lemma each {f g : α → Action σ β} (h : ∀ a, Steady m (f a) (g a)) :
    ∀ l, Steady m (Action.each f l) (Action.each g l)
  | [] => of_same fun _ => rfl
  | a :: l => bind (h a) fun _ => bind (each h l) fun _ => of_same fun _ => rfl

/-- A block around a body, which runs in a course that the block has prepared. -/
lemma block {x y : Action σ α} (h : Steady m x y) {block : Action σ α → Action σ β}
    (into : Course σ → Course σ) (hinto : ∀ c, (into c).migrated = c.migrated)
    (hsame : ∀ c, x (into c) = y (into c) → block x c = block y c)
    (hkeeps : ∀ c, c.migrated = some m → (x (into c)).2.migrated = some m →
      (block x c).2.migrated = some m) : Steady m (block x) (block y) := by
  intro c hm
  obtain ⟨hxy, hd⟩ := h (into c) ((hinto c).trans hm)
  exact ⟨hsame c hxy, hkeeps c hm hd⟩

variable {x y : Action σ α}

lemma outcome (h : Steady m x y) : Steady m (Action.outcome x) (Action.outcome y) :=
  h.block (fun c => c) (fun _ => rfl) (fun c hxy => by unfold Action.outcome; rw [hxy])
    fun _ _ hd => hd

lemma within (coordinate : Log.Coordinate) (value : String) (h : Steady m x y) :
    Steady m (Action.within coordinate value x) (Action.within coordinate value y) :=
  h.block (fun c => { c with
      contexts := c.contexts.current.withCoordinate coordinate value :: c.contexts })
    (fun _ => rfl) (fun c hxy => by unfold Action.within; dsimp only at hxy ⊢; rw [hxy])
    fun _ _ hd => hd

lemma locked (mode : Lock.Mode) (h : Steady m x y) :
    Steady m (Action.locked mode x) (Action.locked mode y) :=
  h.block (fun c => { c with counts := (c.counts.arrive mode).enter mode }) (fun _ => rfl)
    (fun c hxy => by unfold Action.locked; dsimp only at hxy ⊢; rw [hxy]) fun _ _ hd => hd

lemma joining (h : Steady m x y) : Steady m (Action.joining x) (Action.joining y) :=
  h.block (fun c => { c with joined := true }) (fun _ => rfl)
    (fun c hxy => by unfold Action.joining; dsimp only at hxy ⊢; rw [hxy]) fun _ _ hd => hd

lemma aside (h : Steady m x y) : Steady m (Action.aside x) (Action.aside y) :=
  h.block (fun c => { c with contexts := [], joined := false }) (fun _ => rfl)
    (fun c hxy => by unfold Action.aside; dsimp only at hxy ⊢; rw [hxy]) fun _ _ hd => hd

lemma guarding (owner operation : String) (table : Option String) (h : Steady m x y) :
    Steady m (Action.guarding owner operation table x)
      (Action.guarding owner operation table y) :=
  h.block (fun c => c) (fun _ => rfl) (fun c hxy => by unfold Action.guarding; rw [hxy])
    fun c _ hd => by rw [(Connection.site_guarding owner operation table x c).1]; exact hd

lemma pooled (h : Steady m x y) : Steady m (Action.pooled x) (Action.pooled y) := by
  refine h.block (fun c => { c with store := (c.store.signal .checkout Store.checkoutText).2 })
    (fun _ => rfl) (fun c hxy => ?_) fun c hm hd => ?_
  · unfold Action.pooled
    rcases hcheckout : c.store.signal .checkout Store.checkoutText with ⟨e | u, s⟩
    · rfl
    · rw [hcheckout] at hxy
      dsimp only at hxy ⊢
      rw [hxy]
  · rcases hpooled : Action.pooled x c with ⟨r, d⟩
    cases lends hpooled with
    | refused => exact hm
    | lent hcheckout hbody => rw [hcheckout, hbody] at hd; exact hd

lemma transaction (h : Steady m x y) :
    Steady m (Action.transaction x) (Action.transaction y) := by
  refine h.block (fun c => begun c (c.store.signal (.begin c.store.depth) Store.beginText).2)
    (fun _ => rfl) (fun c hxy => ?_) fun c hm hd => ?_
  · unfold Action.transaction
    unfold begun at hxy
    dsimp only at hxy ⊢
    rcases hbegin : c.store.signal (.begin c.store.depth) Store.beginText with ⟨e | u, s⟩
    · rfl
    · rw [hbegin] at hxy
      dsimp only
      rw [hxy]
  · rcases hran : Action.transaction x c with ⟨r, d⟩
    cases ends hran with
    | refused => exact hm
    | failed hs hbody => rw [hs, hbody] at hd; exact hd
    | uncommitted hs hbody => rw [hs, hbody] at hd; exact hd
    | committed hs hbody => rw [hs, hbody] at hd; exact hd

end Steady

end Action

namespace Connection

open PgSchema.Action (Steady)

variable {σ α S : Type} {m : Migration.Result}

/-- The connection with another migrator. -/
def withMigrator (k : Connection) (spare : Except Fault Migrator) : Connection :=
  { k with migrator := spare }

/-! ### Calls -/

section Calls

variable (k : Connection) (spare : Except Fault Migrator)

lemma steady_ensureMigrated : Steady (σ := σ) m k.ensureMigrated
    (k.withMigrator spare).ensureMigrated := by
  intro c hm
  rw [ensureMigrated_of_migrated hm, ensureMigrated_of_migrated hm]
  exact ⟨rfl, hm⟩

lemma steady_onConnection (exclusive : Bool) {body : Action σ α} (h : body.Plain) :
    Steady m (k.onConnection exclusive body)
      ((k.withMigrator spare).onConnection exclusive body) := by
  refine .bind (.of_same fun _ => rfl) fun a => ?_
  split
  · exact .of_plain h
  · exact .bind (k.steady_ensureMigrated spare) fun _ => .locked _ (.pooled (.of_plain h))

lemma steady_insert (text : String) (params : Json) : Steady (σ := σ) m (k.insert text params)
    ((k.withMigrator spare).insert text params) :=
  .guarding _ _ _ <| k.steady_onConnection spare true (.bind (.run _ _) fun _ => .check _)

lemma steady_fetchAll (text : String) (params : Json) : Steady (σ := σ) m (k.fetchAll text params)
    ((k.withMigrator spare).fetchAll text params) :=
  .guarding _ _ _ <| k.steady_onConnection spare false (.query _ _)

lemma Request.steady (r : Request) :
    Steady (σ := σ) m (r.run k) (r.run (k.withMigrator spare)) := by
  cases r with
  | execute text params =>
    exact .guarding _ _ _ <| k.steady_onConnection spare true
      (.bind (.run _ _) fun _ => .of_same fun _ => rfl)
  | insert text params => exact k.steady_insert spare text params
  | fetchAll text params =>
    exact .bind (k.steady_fetchAll spare text params) fun _ => .of_same fun _ => rfl
  | fetchOne text params =>
    exact .guarding _ _ _ <| k.steady_onConnection spare false
      (.bind (.query _ _) fun _ => .of_same fun _ => rfl)

lemma steady_modelClass (t : Table) : Steady (σ := σ) m (k.modelClass t)
    ((k.withMigrator spare).modelClass t) := by
  refine .bind (.of_same fun _ => rfl) fun a => ?_
  cases a.models.get? t.name with
  | some name => exact .of_same fun _ => rfl
  | none =>
    dsimp only
    split
    · exact .of_plain (.fail _)
    · refine .bind (.of_plain (.check _)) fun classes => ?_
      split
      · exact fun c hm => ⟨rfl, hm⟩
      · exact .of_plain (.fail _)

lemma steady_first (s : Query.Selector Json) : Steady (σ := σ) m (s.first k.backend)
    (s.first (k.withMigrator spare).backend) := by
  have hrow : ∀ row : Json, Steady (σ := σ) m
      (k.newModel (fun name => Action.check (row.cell? name)) s.table)
      ((k.withMigrator spare).newModel (fun name => Action.check (row.cell? name)) s.table) :=
    fun row => .bind (.bind (.each (fun c : Column => .bind (.of_plain (.check _))
      fun _ => .of_same fun _ => rfl) _) fun _ => .of_same fun _ => rfl) fun _ =>
        .bind (k.steady_modelClass spare s.table) fun _ => .of_same fun _ => rfl
  exact .bind (.bind (k.steady_fetchAll spare _ _) fun rows => .each hrow rows) fun _ =>
    .of_same fun _ => rfl

lemma steady_create (t : Table) (made : Except Failure Json) (cell : String → Except Fault Json) :
    Steady (σ := σ) m (k.create t made cell) ((k.withMigrator spare).create t made cell) := by
  unfold create createModel
  refine .bind (.of_same fun _ => by cases made <;> rfl) fun made => .bind (.of_plain (.check _))
    fun inserter => .bind (.bind (.each (fun _ => .of_plain (.check _)) _) fun values =>
      k.steady_insert spare _ _) fun value => ?_
  split
  · exact .of_same fun _ => rfl
  · exact .of_same fun _ => rfl
  · refine .bind (k.steady_first spare _) fun found => ?_
    cases found <;> exact .of_same fun _ => rfl

/-! ### Transactions -/

variable {x y : Action σ α}

lemma steady_reporting (exclusive : Bool) (h : Steady m x y) :
    Steady m (reporting exclusive x) (reporting exclusive y) := by
  refine .bind h.outcome fun r => ?_
  cases r with
  | ok a => exact .of_same fun _ => rfl
  | error e =>
    dsimp only
    split
    · exact .bind (.of_plain (.log _ _ _)) fun _ => .of_plain (.fail _)
    · exact .bind (.of_plain (.log _ _ _)) fun _ => .of_plain (.fail _)

lemma steady_inTransaction (exclusive : Bool) (h : Steady m x y) :
    Steady m (inTransaction exclusive x) (inTransaction exclusive y) := by
  refine Steady.transaction ?_
  cases exclusive with
  | false => exact .bind (.of_plain (.log _ _ _)) fun _ => h
  | true => exact .bind (.of_plain (.run _ _)) fun _ => .bind (.of_plain (.log _ _ _)) fun _ => h

lemma steady_apart (exclusive : Bool) (h : Steady m x y) :
    Steady m (apart exclusive x) (apart exclusive y) :=
  .within _ _ <| .locked _ <| .pooled <| steady_reporting exclusive <| .joining <|
    steady_inTransaction exclusive h

lemma steady_transaction (exclusive : Bool) (h : Steady m x y) :
    Steady m (k.transaction exclusive x) ((k.withMigrator spare).transaction exclusive y) := by
  refine .bind (.of_same fun _ => rfl) fun a => ?_
  split
  · exact h.transaction
  · exact .bind (k.steady_ensureMigrated spare) fun _ => steady_apart exclusive h

lemma steady_awaited (aside exclusive : Bool) (h : Steady m x y) :
    Steady m (k.awaited aside exclusive x) ((k.withMigrator spare).awaited aside exclusive y) := by
  cases aside with
  | false => exact k.steady_transaction spare exclusive h
  | true =>
    refine .bind (.bind (.of_same fun _ => rfl) fun a => ?_) fun r => .of_same fun _ => ?_
    · split
      · exact .of_plain (.fail _)
      · exact (k.steady_transaction spare exclusive h).aside.outcome
    · cases r <;> rfl

end Calls

/-! ### Clients -/

/-- The client, told one result whenever it asks for that of the migration, in its tasks as well. -/
def Client.told (m : Migration.Result) : Client S → Client S
  | done outcome => done outcome
  | consult next => consult fun memory => (next memory).told m
  | remember memory next => remember memory (next.told m)
  | migrate next => (next (.ok m)).told m
  | request r next => request r fun outcome => (next outcome).told m
  | create t made cell next => create t made cell fun outcome => (next outcome).told m
  | transact aside exclusive task next =>
    transact aside exclusive (task.told m) fun outcome => (next outcome).told m

/-- **Once there is a result, a client is told it whenever it asks**, and the migrator does not
matter any more. -/
theorem Client.run_told (k : Connection) (spare : Except Fault Migrator) (client : Client S) :
    Steady m (client.run k) ((client.told m).run (k.withMigrator spare)) := by
  induction client with
  | done outcome => exact .of_same fun _ => by cases outcome <;> rfl
  | consult next ih => exact .bind (.of_same fun _ => rfl) ih
  | remember memory next ih => exact .bind (fun c hm => ⟨rfl, hm⟩) fun _ => ih
  | migrate next ih =>
    intro c hm
    have hgate : Action.outcome k.ensureMigrated c = (.ok (.ok m), c) := by
      unfold Action.outcome
      rw [ensureMigrated_of_migrated hm]
    rw [run, Action.bind_apply_ok hgate]
    exact ih (.ok m) c hm
  | request r next ih => exact .bind (Request.steady k spare r).outcome ih
  | create t made cell next ih => exact .bind (k.steady_create spare t made cell).outcome ih
  | transact aside exclusive task next ihtask ih =>
    exact .bind (k.steady_awaited spare aside exclusive ihtask).outcome ih

end Connection

end PgSchema
