import PgSchema.Connection.Models
import PgSchema.Proofs.Connection.Nesting
import PgSchema.Proofs.Course.Plain

/-!
Calls on a connection, each as a whole.

A call goes on from one course to a later one (`Onward`): it is in a transaction behind it if it was
before, it adds events to the store, and it leaves the lock as it was if the lock admitted it.
Outside of transactions it comes by the migrator first, if there is no result yet (`visit`).
-/

namespace PgSchema

open Store (Event)

/-- The lock admits whoever takes these sides of it one after the other, and the migration first if
there has been none. -/
def Site.admits (s : Site) (modes : List Lock.Mode) : Bool :=
  modes.all s.counts.admits && (s.migrated.isSome || s.counts.admits .write)

/-- **From one course to a later one**, by a call that takes sides of the lock. -/
structure Course.Onward {σ : Type} (modes : List Lock.Mode) (c d : Course σ) : Prop where
  work : d.work = c.work
  joined : d.joined = c.joined
  migrated : ∀ result, c.migrated = some result → d.migrated = some result
  counts : c.admits modes = true → d.counts = c.counts
  events : c.store.events <:+ d.store.events

namespace Course.Onward

variable {σ : Type} {modes : List Lock.Mode} {c d e : Course σ}

lemma refl (modes : List Lock.Mode) (c : Course σ) : Onward modes c c :=
  ⟨rfl, rfl, fun _ h => h, fun _ => rfl, List.suffix_refl _⟩

/-- The lock still admits whom it admitted before. -/
lemma admits (h : Onward modes c d) (hc : c.admits modes = true) : d.admits modes = true := by
  unfold Site.admits at hc ⊢
  rw [h.counts hc]
  obtain ⟨hmodes, hgate⟩ := Bool.and_eq_true_iff.1 hc
  refine Bool.and_eq_true_iff.2 ⟨hmodes, ?_⟩
  cases hm : c.migrated with
  | none =>
    rw [hm] at hgate
    rw [show c.counts.admits .write = true from hgate, Bool.or_true]
  | some result =>
    rw [h.migrated result hm]
    rfl

lemma trans (h : Onward modes c d) (h' : Onward modes d e) : Onward modes c e where
  work := h'.work.trans h.work
  joined := h'.joined.trans h.joined
  migrated result hm := h'.migrated result (h.migrated result hm)
  counts hc := (h'.counts (h.admits hc)).trans (h.counts hc)
  events := h.events.trans h'.events

/-- A report on a failure changes nothing of this. -/
lemma guarding {α : Type} {body : Action σ α} (owner operation : String) (table : Option String)
    (h : Onward modes c (body c).2) :
    Onward modes c (Action.guarding owner operation table body c).2 := by
  obtain ⟨hsite, hwork⟩ := Connection.site_guarding owner operation table body c
  refine ⟨hwork.trans h.work, ?_, ?_, ?_, ?_⟩
  · exact (congrArg Site.joined hsite).trans h.joined
  · rw [hsite]
    exact h.migrated
  · rw [hsite]
    exact h.counts
  · rw [hsite]
    exact h.events

end Course.Onward

namespace Action

variable {σ α β : Type} {modes : List Lock.Mode}

/-- An action goes on from every course that is in a transaction, or from every one that is not. -/
def Onwards (inside : Bool) (modes : List Lock.Mode) (x : Action σ α) : Prop :=
  ∀ c, c.joined = inside → Course.Onward modes c (x c).2

namespace Plain

lemma onwards {x : Action σ α} (h : x.Plain) (inside : Bool) (modes : List Lock.Mode) :
    x.Onwards inside modes := by
  intro c _
  obtain ⟨s, lines, hd, hevents⟩ := h c
  rw [hd]
  exact ⟨rfl, rfl, fun _ h => h, fun _ => rfl, hevents⟩

lemma pooled {body : Action σ α} (h : body.Plain) : (Action.pooled body).Plain := by
  intro c
  rcases hpooled : Action.pooled body c with ⟨r, d⟩
  cases lends hpooled with
  | @refused e s hcheckout => exact ⟨s, c.lines, rfl, Store.suffix_of_signal hcheckout⟩
  | @lent _ s d failure hcheckout hbody =>
    obtain ⟨t, lines, hd, hevents⟩ := h { c with store := s }
    have hbegan := Store.suffix_of_signal hcheckout
    rw [hbody] at hd
    obtain rfl : d = { c with store := t, lines } := hd
    exact ⟨_, lines, rfl, (hbegan.trans hevents).trans (List.suffix_cons _ _)⟩

end Plain

namespace Onwards

variable {inside : Bool}

lemma bind {x : Action σ α} {f : α → Action σ β} (hx : x.Onwards inside modes)
    (hf : ∀ a, (f a).Onwards inside modes) : (x >>= f).Onwards inside modes := by
  intro c hj
  have hc := hx c hj
  rcases h : x c with ⟨e | a, d⟩
  · rw [bind_apply_error h]
    rwa [h] at hc
  · rw [bind_apply_ok h]
    rw [h] at hc
    exact hc.trans (hf a d (hc.joined.trans hj))

lemma of_same {x : Action σ α} (h : ∀ c, (x c).2 = c) : x.Onwards inside modes :=
  (Plain.of_same h).onwards inside modes

lemma each {f : α → Action σ β} (h : ∀ a, (f a).Onwards inside modes) :
    ∀ l, (Action.each f l).Onwards inside modes
  | [] => of_same fun _ => rfl
  | a :: l => bind (h a) fun _ => bind (each h l) fun _ => of_same fun _ => rfl

lemma guarding {body : Action σ α} (owner operation : String) (table : Option String)
    (h : body.Onwards inside modes) :
    (Action.guarding owner operation table body).Onwards inside modes :=
  fun c hj => (h c hj).guarding owner operation table

/-- The lock is taken and given back. -/
lemma locked {body : Action σ α} {mode : Lock.Mode} (h : body.Plain) (hmode : mode ∈ modes) :
    (Action.locked mode body).Onwards inside modes := by
  intro c _
  obtain ⟨s, lines, hd, hevents⟩ := h { c with counts := (c.counts.arrive mode).enter mode }
  have hleft : (Action.locked mode body c).2 =
      { c with store := s, lines, counts := c.counts.passed mode } :=
    congrArg (fun d => { d with counts := d.counts.leave mode }) hd
  rw [hleft]
  refine ⟨rfl, rfl, fun _ h => h, fun hc => ?_, hevents⟩
  obtain ⟨hmodes, -⟩ := Bool.and_eq_true_iff.1 hc
  exact Lock.Counts.passed_of_admits (List.all_eq_true.1 hmodes mode hmode)

end Onwards

end Action

namespace Connection

open PgSchema.Action (Onwards)

variable {σ α β : Type} (k : Connection) {modes : List Lock.Mode}

/-! ### Visits to the migrator -/

/-- The migrator at work. -/
def invoke : Action σ Migration.Result := do
  let migrator ← Action.check k.migrator
  migrator.migrate

/-- A result of the migrator is kept. -/
def settle (result : Migration.Result) : Action σ Migration.Result := do
  Action.change fun c => { c with migrated := some result }
  return result

/-- **A visit to the migrator**: it is run once, on a connection of the pool and with nobody else at
the store, and its result is kept. -/
def visit : Action σ Migration.Result :=
  Action.locked .write <| Action.pooled <| k.invoke >>= settle

/-- Without a result that is kept, the migrator is visited. -/
lemma ensureMigrated_of_none {c : Course σ} (hm : c.migrated = none) :
    k.ensureMigrated c = guarded "migrate" k.visit c := by
  have hbody : (k.invoke >>= settle : Action σ Migration.Result) = do
      let migrator ← Action.check k.migrator
      let result ← migrator.migrate
      Action.change fun c => { c with migrated := some result }
      return result := Action.bind_assoc _ _ _
  unfold ensureMigrated
  rw [Action.bind_apply_ok (show Action.course c = (.ok c, c) from rfl), hm, ← hbody]
  rfl

lemma plain_invoke : (k.invoke (σ := σ)).Plain :=
  .bind (.check _) fun m => m.plain_migrate

/-- **What a visit leaves behind**: the course as it was, but for the store and the log, and for the
result if there is one. -/
lemma visit_apply (c : Course σ) : ∃ s lines, (k.visit c).2 =
    { c with store := s, lines, counts := c.counts.passed .write
             migrated := (k.visit c).1.toOption.or c.migrated } ∧
    c.store.events <:+ s.events := by
  -- the course inside the lock
  let a : Course σ := { c with counts := (c.counts.arrive .write).enter .write }
  rcases hpooled : Action.pooled (k.invoke >>= settle) a with ⟨r, d⟩
  have hvisit : k.visit c = (r, { d with counts := d.counts.leave .write }) := by
    unfold visit Action.locked
    dsimp only
    rw [show Action.pooled (k.invoke >>= settle) _ = (r, d) from hpooled]
  rw [hvisit]
  cases Action.lends hpooled with
  | @refused e s hcheckout => exact ⟨s, c.lines, rfl, Store.suffix_of_signal hcheckout⟩
  | @lent _ s d failure hcheckout hbody =>
    have hbegan : c.store.events <:+ s.events := Store.suffix_of_signal hcheckout
    obtain ⟨t, lines, hb, hevents⟩ := k.plain_invoke { a with store := s }
    have hlast := (hbegan.trans hevents).trans (List.suffix_cons (.checkin failure) _)
    rcases hinvoke : k.invoke { a with store := s } with ⟨e | result, b⟩
    · rw [hinvoke] at hb
      obtain rfl : b = { a with store := t, lines } := hb
      cases (Action.bind_apply_error hinvoke settle).symm.trans hbody
      exact ⟨_, lines, rfl, hlast⟩
    · rw [hinvoke] at hb
      obtain rfl : b = { a with store := t, lines } := hb
      cases (Action.bind_apply_ok hinvoke settle).symm.trans hbody
      exact ⟨_, lines, rfl, hlast⟩

/-! ### Calls that are no transactions -/

variable {inside : Bool}

lemma onwards_ensureMigrated : (k.ensureMigrated (σ := σ)).Onwards inside modes := by
  intro c hj
  cases hm : c.migrated with
  | some result =>
    rw [ensureMigrated_of_migrated hm]
    exact .refl modes c
  | none =>
    rw [k.ensureMigrated_of_none hm]
    refine Course.Onward.guarding owner "migrate" none ?_
    obtain ⟨s, lines, hd, hevents⟩ := k.visit_apply c
    rw [hd]
    refine ⟨rfl, rfl, fun result h => ?_, fun hc => ?_, hevents⟩
    · rw [hm] at h
      cases h
    · obtain ⟨-, hgate⟩ := Bool.and_eq_true_iff.1 hc
      rw [hm, Option.isSome_none, Bool.false_or] at hgate
      exact Lock.Counts.passed_of_admits hgate

/-- The side of the lock that the statement takes outside of transactions. -/
def Request.mode : Request → Lock.Mode
  | execute .. | insert .. => .write
  | fetchAll .. | fetchOne .. => .read

lemma onwards_onConnection {exclusive : Bool} {body : Action σ α} (h : body.Plain)
    (hmode : inside = true ∨ Lock.Mode.of exclusive ∈ modes) :
    (k.onConnection exclusive body).Onwards inside modes := by
  intro c hj
  cases inside with
  | true =>
    rw [onConnection_joined hj]
    exact h.onwards true modes c hj
  | false =>
    have hapart : k.onConnection exclusive body c =
        (k.ensureMigrated >>= fun _ => Action.locked (.of exclusive) (Action.pooled body)) c := by
      rw [onConnection, Action.bind_apply_ok (show Action.course c = (.ok c, c) from rfl),
        if_neg (by simp [hj])]
    rw [hapart]
    exact Onwards.bind k.onwards_ensureMigrated
      (fun _ => Onwards.locked h.pooled (hmode.resolve_left Bool.false_ne_true)) c hj

lemma Request.onwards (r : Request) (hmode : inside = true ∨ r.mode ∈ modes) :
    (r.run (σ := σ) k).Onwards inside modes := by
  cases r with
  | execute text params =>
    exact .guarding _ _ _ <| k.onwards_onConnection
      (.bind (.run _ _) fun _ => .of_same fun _ => rfl) hmode
  | insert text params =>
    exact .guarding _ _ _ <| k.onwards_onConnection (.bind (.run _ _) fun _ => .check _) hmode
  | fetchAll text params =>
    exact .bind (.guarding _ _ _ <| k.onwards_onConnection (.query _ _) hmode)
      fun _ => .of_same fun _ => rfl
  | fetchOne text params =>
    exact .guarding _ _ _ <| k.onwards_onConnection
      (.bind (.query _ _) fun _ => .of_same fun _ => rfl) hmode

/-- A model is made, and inserted with the values of its attributes. -/
def create (t : Table) (made : Except Failure Json) (cell : String → Except Fault Json) :
    Action σ Json :=
  k.createModel t (fun _ name => Action.check (cell name))
    (fun m => return .object m.attributes) (Action.ofOutcome made)

lemma onwards_modelClass (t : Table) : (k.modelClass (σ := σ) t).Onwards inside modes := by
  intro c hj
  unfold modelClass
  rw [Action.bind_apply_ok (show Action.course c = (.ok c, c) from rfl)]
  cases c.models.get? t.name with
  | some name => exact .refl modes c
  | none =>
    dsimp only
    split
    · exact .refl modes c
    · refine Onwards.bind ((Action.Plain.check _).onwards _ _) (fun classes => ?_) c hj
      split
      · exact fun c _ => ⟨rfl, rfl, fun _ h => h, fun _ => rfl, List.suffix_refl _⟩
      · exact (Action.Plain.fail _).onwards _ _

lemma onwards_fetchAll (text : String) (params : Json) (hmode : inside = true ∨ .read ∈ modes) :
    (k.fetchAll (σ := σ) text params).Onwards inside modes :=
  .guarding _ _ _ <| k.onwards_onConnection (.query _ _) hmode

/-- A selection of the first row reads, and imports the class of its model. -/
lemma onwards_first (s : Query.Selector Json) (hmode : inside = true ∨ .read ∈ modes) :
    (s.first (k.backend (σ := σ))).Onwards inside modes := by
  have hcell : ∀ (row : Json) (name : String),
      (Action.check (row.cell? name) : Action σ (Option Json)).Onwards inside modes :=
    fun row name => (Action.Plain.check _).onwards _ _
  have hattributes : ∀ row : Json, (rowAttributes (σ := σ)
      (fun name => Action.check (row.cell? name)) s.table).Onwards inside modes :=
    fun row => .bind (.each (fun c : Column => .bind (hcell row c.columnName)
      fun _ => .of_same fun _ => rfl) _) fun _ => .of_same fun _ => rfl
  have hmodel : ∀ row : Json, (k.newModel (σ := σ)
      (fun name => Action.check (row.cell? name)) s.table).Onwards inside modes :=
    fun row => .bind (hattributes row) fun _ => .bind (k.onwards_modelClass s.table) fun _ =>
      .of_same fun _ => rfl
  exact .bind (.bind (k.onwards_fetchAll _ _ hmode) fun rows => .each hmodel rows) fun _ =>
    .of_same fun _ => rfl

lemma onwards_create (t : Table) (made : Except Failure Json)
    (cell : String → Except Fault Json)
    (hmode : inside = true ∨ .write ∈ modes ∧ .read ∈ modes) :
    (k.create (σ := σ) t made cell).Onwards inside modes := by
  have hmade : (Action.ofOutcome made : Action σ Json).Onwards inside modes :=
    .of_same fun _ => by cases made <;> rfl
  have hinsert : ∀ text params, (k.insert (σ := σ) text params).Onwards inside modes :=
    fun text params => Request.onwards k (.insert text params) (hmode.imp_right (·.1))
  unfold create createModel
  refine .bind hmade fun made => .bind ((Action.Plain.check _).onwards _ _) fun inserter =>
    .bind (.bind (.each (fun _ => (Action.Plain.check _).onwards _ _) _) fun values =>
      hinsert _ _) fun value => ?_
  split
  · exact .of_same fun _ => rfl
  · exact .of_same fun _ => rfl
  · refine .bind (k.onwards_first _ (hmode.imp_right (·.2))) fun found => ?_
    cases found <;> exact .of_same fun _ => rfl

end Connection

end PgSchema
