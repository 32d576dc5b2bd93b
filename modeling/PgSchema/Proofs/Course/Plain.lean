import PgSchema.Connection.Basic
import PgSchema.Proofs.Course.Traces
import PgSchema.Proofs.Migration.Parts

/-!
What work leaves alone.

A plain action uses the store and writes to the log, and does nothing else to its course (`Plain`).
It is plain if its parts are.  Whoever holds the lock for a while, and was admitted to it, leaves
its counts as they were (`Counts.passed_of_admits`).

An application has a part of the course to itself.  What a connection does for it leaves this part
alone (`Spares`): its migration and its statements use the store, the lock and the log, and nothing
else.
-/

namespace PgSchema

namespace Lock.Counts

/-- The counts behind a worker that has come and gone. -/
def passed (c : Counts) (mode : Mode) : Counts := ((c.arrive mode).enter mode).leave mode

lemma passed_of_admits {c : Counts} {mode : Mode} (h : c.admits mode = true) :
    c.passed mode = c := by
  obtain ⟨readers, writer, waiting⟩ := c
  cases mode with
  | read => rfl
  | write =>
    obtain ⟨hwriter, -⟩ := Bool.and_eq_true_iff.1 h
    cases writer with
    | true => cases hwriter
    | false => rfl

end Lock.Counts

namespace Action

variable {σ α β : Type}

/-- **A plain action** does nothing to its course but to use the store and to write to the log. -/
def Plain (x : Action σ α) : Prop :=
  ∀ c, ∃ s lines, (x c).2 = { c with store := s, lines } ∧ c.store.events <:+ s.events

namespace Plain

lemma of_same {x : Action σ α} (h : ∀ c, (x c).2 = c) : x.Plain :=
  fun c => ⟨c.store, c.lines, h c, List.suffix_refl _⟩

lemma fail (e : Failure) : (Action.fail e : Action σ α).Plain := of_same fun _ => rfl

lemma bind {x : Action σ α} {f : α → Action σ β} (hx : x.Plain) (hf : ∀ a, (f a).Plain) :
    (x >>= f).Plain := by
  intro c
  obtain ⟨s, lines, hd, hevents⟩ := hx c
  rcases h : x c with ⟨e | a, d⟩
  · rw [bind_apply_error h]
    rw [h] at hd
    exact ⟨s, lines, hd, hevents⟩
  · rw [bind_apply_ok h]
    rw [h] at hd
    obtain rfl : d = { c with store := s, lines } := hd
    obtain ⟨t, more, hlast, hmore⟩ := hf a { c with store := s, lines }
    exact ⟨t, more, hlast, hevents.trans hmore⟩

lemma check (x : Except Fault α) : (Action.check x : Action σ α).Plain := by
  refine of_same fun c => ?_
  cases x <;> rfl

lemma log (level : Log.Level) (channel : Log.Channel) (message : String) :
    (Action.log level channel message : Action σ Unit).Plain :=
  fun c => ⟨c.store, _, rfl, List.suffix_refl _⟩

lemma within {body : Action σ α} (coordinate : Log.Coordinate) (value : String)
    (h : body.Plain) : (Action.within coordinate value body).Plain := by
  intro c
  obtain ⟨s, lines, hd, hevents⟩ :=
    h { c with contexts := c.contexts.current.withCoordinate coordinate value :: c.contexts }
  exact ⟨s, lines, congrArg (fun d => { d with contexts := d.contexts.pop }) hd, hevents⟩

lemma through : Through fun _ (x : Action σ _) => x.Plain where
  pure _ := of_same fun _ => rfl
  bind := bind
  check := check
  log := log
  within _ _ := within _ _

lemma onStore {f : Store → Except Failure α × Store}
    (h : ∀ s, s.events <:+ (f s).2.events) : (Action.onStore f : Action σ α).Plain :=
  fun c => ⟨(f c.store).2, c.lines, rfl, h c.store⟩

lemma run (statement : Store.Statement) (params : Json) :
    (Action.run statement params : Action σ Store.Reply).Plain :=
  onStore fun s => by
    rw [Store.events_run]
    exact List.suffix_cons _ _

lemma query (statement : String) (params : Json) :
    (Action.query statement params : Action σ (List Json)).Plain :=
  bind (onStore fun s => by rw [Store.events_run]; exact List.suffix_cons _ _)
    fun _ => of_same fun _ => rfl

lemma transaction {body : Action σ α} (hbody : body.Plain) :
    (Action.transaction body).Plain := by
  intro c
  -- the body that has run
  have hrun : ∀ {s : Store} {r : Except Failure α} {d : Course σ},
      c.store.signal (.begin c.store.depth) Store.beginText = (.ok (), s) →
      body (begun c s) = (r, d) → ∃ t lines, d = { c with store := t, lines } ∧
        c.store.events <:+ t.events := by
    intro s r d hs hd
    obtain ⟨t, lines, ht, hevents⟩ := hbody (begun c s)
    rw [hd] at ht
    exact ⟨t, lines, ht, (Store.suffix_of_signal hs).trans hevents⟩
  rcases h : Action.transaction body c with ⟨r, d⟩
  cases ends h with
  | @refused e s hs => exact ⟨s, c.lines, rfl, Store.suffix_of_signal hs⟩
  | failed hs hd =>
    obtain ⟨t, lines, rfl, hevents⟩ := hrun hs hd
    exact ⟨_, lines, rfl, hevents.trans (List.suffix_cons _ _)⟩
  | uncommitted hs hd hdone =>
    obtain ⟨t, lines, rfl, hevents⟩ := hrun hs hd
    have hend := Store.suffix_of_signal hdone
    exact ⟨_, lines, rfl, hevents.trans hend⟩
  | committed hs hd hdone =>
    obtain ⟨t, lines, rfl, hevents⟩ := hrun hs hd
    have hend := Store.suffix_of_signal hdone
    exact ⟨_, lines, rfl, hevents.trans hend⟩

end Plain

end Action

/-- A migration uses the store and writes to the log. -/
lemma Migration.Migrator.plain_migrate {σ : Type} (m : Migrator) :
    (m.migrate : Action σ Result).Plain := by
  refine Through.migrate Action.Plain.through m (fun _ => .run _ _) (fun _ => .run _ _)
    (fun _ => .run _ _) (fun _ => .run _ _) (fun _ _ => .onStore fun s => ?_) (fun p => ?_)
    fun h => h.transaction
  · rw [Store.events_insertRows]
    exact List.suffix_cons _ _
  · exact Through.migrateTables Action.Plain.through (fun _ _ _ _ _ _ => .run _ _)
      fun _ _ e _ => .fail e

/-! ### What belongs to the application -/

namespace Action

variable {σ α β : Type}

/-- **An action spares the part of the application**, however it ends. -/
def Spares (x : Action σ α) : Prop := ∀ c, (x c).2.work = c.work

namespace Spares

lemma of_plain {x : Action σ α} (h : x.Plain) : x.Spares := by
  intro c
  obtain ⟨s, lines, hd, -⟩ := h c
  rw [hd]

lemma pure (a : α) : (Pure.pure a : Action σ α).Spares := fun _ => rfl

lemma bind {x : Action σ α} {f : α → Action σ β} (hx : x.Spares) (hf : ∀ a, (f a).Spares) :
    (x >>= f).Spares := by
  intro c
  have hc := hx c
  rcases h : x c with ⟨e | a, d⟩
  · rw [bind_apply_error h]
    rwa [h] at hc
  · rw [bind_apply_ok h]
    rw [h] at hc
    exact (hf a d).trans hc

/-! ### Blocks -/

variable {body : Action σ α}

lemma locked (mode : Lock.Mode) (h : body.Spares) : (Action.locked mode body).Spares :=
  fun c => h { c with counts := (c.counts.arrive mode).enter mode }

lemma pooled (h : body.Spares) : (Action.pooled body).Spares := by
  intro c
  rcases hpooled : Action.pooled body c with ⟨r, d⟩
  cases lends hpooled with
  | refused => rfl
  | @lent _ s d failure hcheckout hbody =>
    have hwork := h { c with store := s }
    rw [hbody] at hwork
    exact hwork

lemma guarding (owner operation : String) (table : Option String) (h : body.Spares) :
    (Action.guarding owner operation table body).Spares := by
  intro c
  have hwork := h c
  unfold Action.guarding
  rcases hrun : body c with ⟨e | a, d⟩
  · rw [hrun] at hwork
    dsimp only
    split <;> exact hwork
  · rwa [hrun] at hwork

end Spares

end Action

/-! ### What connections do -/

namespace Connection

variable {σ α : Type} (k : Connection)

lemma spares_ensureMigrated : (k.ensureMigrated : Action σ Migration.Result).Spares := by
  refine Action.Spares.bind (fun _ => rfl) fun c => ?_
  split
  · exact .pure _
  · refine .guarding _ _ _ (.locked _ (.pooled ?_))
    refine .bind (.of_plain (.check _)) fun migrator => .bind ?_ fun _ => ?_
    · exact .of_plain migrator.plain_migrate
    · exact .bind (fun _ => rfl) fun _ => .pure _

lemma spares_onConnection (exclusive : Bool) {body : Action σ α} (h : body.Spares) :
    (k.onConnection exclusive body).Spares := by
  refine .bind (fun _ => rfl) fun c => ?_
  split
  · exact h
  · exact .bind k.spares_ensureMigrated fun _ => .locked _ (.pooled h)

variable (statement : String) (params : Json)

lemma spares_execute : (k.execute statement params : Action σ Json).Spares :=
  .guarding _ _ _ (k.spares_onConnection _ (.bind (.of_plain (.run _ _)) fun _ => .pure _))

lemma spares_fetchAll : (k.fetchAll statement params : Action σ (List Json)).Spares :=
  .guarding _ _ _ (k.spares_onConnection _ (.of_plain (.query _ _)))

lemma spares_fetchOne : (k.fetchOne statement params : Action σ Json).Spares :=
  .guarding _ _ _ (k.spares_onConnection _ (.bind (.of_plain (.query _ _)) fun _ => .pure _))

end Connection

end PgSchema
