import PgSchema.Proofs.Course.Inversion
import PgSchema.Proofs.Store.Statements

/-!
What every run of an action leaves behind, however it ends.

`Adds` is about the events that a run adds to those of the store, and `FailsAs` about what it can
fail with.  Both go through the ways in which actions are put together (`Through`), so that a
property of a long action is read off its statements.  Around a transaction there is less to see
than there is in it: it is two events with the body between them, and all or nothing (`Encloses`).
-/

namespace PgSchema

open Store (Event)

/-- The text of a statement, among the uses of a store. -/
def Store.Event.text? : Event → Option String
  | .execute text _ | .fetch text _ | .executeMany text _ => some text
  | _ => none

/-- A script that makes statements fail in some ways only. -/
def Store.Script.FailsAs (P : Failure → Prop) (script : Store.Script) : Prop :=
  ∀ rule ∈ script, ∀ e, rule.failure = some e → P e

namespace Action

variable {σ α β : Type}

/-- **A property that goes through** the ways in which actions are put together. -/
structure Through (C : ∀ α : Type, Action σ α → Prop) : Prop where
  pure : ∀ {α : Type} (a : α), C α (pure a)
  bind : ∀ {α β : Type} {x : Action σ α} {f : α → Action σ β},
    C α x → (∀ a, C β (f a)) → C β (x >>= f)
  check : ∀ {α : Type} (x : Except Fault α), C α (Action.check x)
  log : ∀ level channel message, C Unit (Action.log level channel message)
  within : ∀ {α : Type} {body : Action σ α} coordinate value,
    C α body → C α (Action.within coordinate value body)

lemma Through.each {C : ∀ α : Type, Action σ α → Prop} (hC : Through C) {f : α → Action σ β}
    {l : List α} (h : ∀ a ∈ l, C β (f a)) : C (List β) (Action.each f l) := by
  induction l with
  | nil => exact hC.pure []
  | cons a l ih =>
    obtain ⟨ha, hl⟩ := List.forall_mem_cons.1 h
    exact hC.bind ha fun b => hC.bind (ih hl) fun bs => hC.pure (b :: bs)

/-! ### Transactions -/

/-- **A transaction around a body, from outside**: it could not begin, or the body ran between two
events.  Where it fails, all is held as before; where it does not, what the body left is held. -/
inductive Encloses (body : Action σ α) (c : Course σ) : Except Failure α → Course σ → Prop
  | refused {e : Failure} {s : Store}
      (hheld : s.metadata = c.store.metadata ∧ s.applied = c.store.applied)
      (hevents : s.events = .begin c.store.depth :: c.store.events) :
      Encloses body c (.error e) { c with store := s }
  | ran {r r' : Except Failure α} {s : Store} {d d' : Course σ} {last : Event}
      (hbody : body (begun c s) = (r', d'))
      (hheld : s.metadata = c.store.metadata ∧ s.applied = c.store.applied)
      (hevents : s.events = .begin c.store.depth :: c.store.events)
      (hwork : d.work = d'.work) (hjoined : d.joined = d'.joined)
      (hlast : last = .commit c.store.depth ∨ ∃ e, last = .rollback c.store.depth e)
      (hend : d.store.events = last :: d'.store.events)
      (herror : ∀ e, r = .error e →
        d.store.metadata = c.store.metadata ∧ d.store.applied = c.store.applied)
      (hok : ∀ a, r = .ok a → r' = .ok a ∧ last = .commit c.store.depth ∧
        d.store.metadata = d'.store.metadata ∧ d.store.applied = d'.store.applied) :
      Encloses body c r d

theorem encloses {body : Action σ α} {c d : Course σ} {r : Except Failure α}
    (h : transaction body c = (r, d)) : Encloses body c r d := by
  cases ends h with
  | refused hs => exact .refused (Store.held_of_signal hs) (Store.events_of_signal hs)
  | failed hs hbody =>
    have hheld := Store.held_of_signal hs
    exact .ran hbody hheld (Store.events_of_signal hs) rfl rfl (.inr ⟨_, rfl⟩) rfl
      (fun _ _ => hheld) nofun
  | uncommitted hs hbody hdone =>
    have hheld := Store.held_of_signal hs
    have hend := Store.events_of_signal hdone
    exact .ran hbody hheld (Store.events_of_signal hs) rfl rfl (.inl rfl) hend
      (fun _ _ => hheld) nofun
  | committed hs hbody hdone =>
    have hheld := Store.held_of_signal hs
    have hend := Store.events_of_signal hdone
    have hkept := Store.held_of_signal hdone
    exact .ran hbody hheld (Store.events_of_signal hs) rfl rfl (.inl rfl) hend nofun
      fun _ ha => ⟨ha, rfl, hkept⟩

/-- **A transaction that fails** leaves the metadata and the statements in effect as they were. -/
lemma transaction_eq_error {body : Action σ α} {c d : Course σ} {e : Failure}
    (h : transaction body c = (.error e, d)) :
    d.store.metadata = c.store.metadata ∧ d.store.applied = c.store.applied := by
  cases encloses h with
  | refused hheld _ => exact hheld
  | ran _ _ _ _ _ _ _ herror _ => exact herror e rfl

/-! ### Events -/

/-- **Whatever becomes of an action**, the events that it has added are of a kind. -/
def Adds (Q : Event → Prop) (x : Action σ α) : Prop :=
  ∀ c, ∃ new, (x c).2.store.events = new ++ c.store.events ∧ ∀ e ∈ new, Q e

namespace Adds

variable {Q : Event → Prop}

lemma of_store {x : Action σ α} (h : ∀ c, (x c).2.store = c.store) : x.Adds Q :=
  fun c => ⟨[], by rw [h c, List.nil_append], nofun⟩

lemma bind {x : Action σ α} {f : α → Action σ β} (hx : x.Adds Q) (hf : ∀ a, (f a).Adds Q) :
    (x >>= f).Adds Q := by
  intro c
  obtain ⟨new, hnew, hall⟩ := hx c
  rcases hd : x c with ⟨e | a, d⟩
  · rw [bind_apply_error hd]
    rw [hd] at hnew
    exact ⟨new, hnew, hall⟩
  · rw [bind_apply_ok hd]
    rw [hd] at hnew
    obtain ⟨more, hmore, hall'⟩ := hf a d
    refine ⟨more ++ new, by rw [hmore, hnew, List.append_assoc], fun e he => ?_⟩
    rcases List.mem_append.1 he with he | he
    · exact hall' e he
    · exact hall e he

lemma check (x : Except Fault α) : (Action.check x : Action σ α).Adds Q := by
  refine of_store fun c => ?_
  cases x <;> rfl

lemma run {statement : Store.Statement} {params : Json} (h : Q (.execute statement.text params)) :
    (Action.run statement params : Action σ Store.Reply).Adds Q :=
  fun c => ⟨[.execute statement.text params], Store.events_run _ _ _, fun e he => by
    obtain rfl := List.mem_singleton.1 he
    exact h⟩

lemma insertRows {statement : String} {rows : List Json} (h : Q (.executeMany statement rows)) :
    (Action.onStore (fun s => s.insertRows statement rows) : Action σ Unit).Adds Q :=
  fun c => ⟨[.executeMany statement rows], Store.events_insertRows _ _ _, fun e he => by
    obtain rfl := List.mem_singleton.1 he
    exact h⟩

lemma through : Through fun _ (x : Action σ _) => x.Adds Q where
  pure _ := of_store fun _ => rfl
  bind := bind
  check := check
  log _ _ _ := of_store fun _ => rfl
  within coordinate value h c :=
    h { c with contexts := c.contexts.current.withCoordinate coordinate value :: c.contexts }

lemma transaction {body : Action σ α} (hbody : body.Adds Q) (hbegin : ∀ n, Q (.begin n))
    (hcommit : ∀ n, Q (.commit n)) (hrollback : ∀ n e, Q (.rollback n e)) :
    (Action.transaction body).Adds Q := by
  intro c
  rcases h : Action.transaction body c with ⟨r, d⟩
  cases encloses h with
  | refused _ hevents => exact ⟨[_], hevents, List.forall_mem_singleton.2 (hbegin _)⟩
  | @ran _ _ s _ _ last hran _ hevents _ _ hlast hend _ _ =>
    obtain ⟨new, hnew, hall⟩ := hbody (begun c s)
    rw [hran] at hnew
    have hlast : Q last := by
      rcases hlast with rfl | ⟨e, rfl⟩
      · exact hcommit _
      · exact hrollback _ e
    refine ⟨last :: (new ++ [.begin c.store.depth]), ?_, ?_⟩
    · rw [hend, hnew]
      simpa [begun] using hevents
    · simpa [hlast, hbegin, or_imp, forall_and] using hall

end Adds

/-! ### Failures -/

/-- A result that is a failure, if it is one, of a kind. -/
def Fails (P : Failure → Prop) : Except Failure α → Prop
  | .ok _ => True
  | .error e => P e

/-- **Whatever makes an action fail** is of a kind, if all is that the script makes statements fail
with. -/
def FailsAs (P : Failure → Prop) (x : Action σ α) : Prop :=
  ∀ c : Course σ, c.store.script.FailsAs P →
    (x c).2.store.script.FailsAs P ∧ Fails P (x c).1

end Action

namespace Store

open PgSchema.Action (Fails)

variable {P : Failure → Prop} {s : Store}

lemma failsAs_ask (hs : s.script.FailsAs P) (text : String) :
    (s.ask text).2.script.FailsAs P ∧ Fails P (s.ask text).1 := by
  obtain ⟨hfound, hleft⟩ := Script.consult_forall
    (P := fun rule => ∀ e, rule.failure = some e → P e) (fun _ h => h) (fun _ h => h) text hs
  unfold ask
  revert hfound hleft
  rcases Script.consult text s.script with ⟨_ | rule, script⟩
  · exact fun _ hleft => ⟨hleft, trivial⟩
  · intro hfound hleft
    dsimp only
    split
    · rename_i failure hfailure
      exact ⟨hleft, hfound rule rfl failure hfailure⟩
    · exact ⟨hleft, trivial⟩

lemma failsAs_answer (hP : ∀ fault, P (.fault fault)) (s : Store) (statement : Statement) :
    (s.answer statement).2.script = s.script ∧ Fails P (s.answer statement).1 := by
  unfold answer
  split
  · rcases s.sortedMetadata with fault | rows
    · exact ⟨rfl, hP fault⟩
    · exact ⟨rfl, trivial⟩
  · cases statement with
    | plain text => exact ⟨rfl, trivial⟩
    | composed text =>
      dsimp only
      split <;> exact ⟨rfl, trivial⟩

lemma failsAs_run (hP : ∀ fault, P (.fault fault)) (hs : s.script.FailsAs P) (event : Event)
    (statement : Statement) : (s.run event statement).2.script.FailsAs P ∧
      Fails P (s.run event statement).1 := by
  obtain ⟨hleft, hfails⟩ := failsAs_ask (s := s.record event) hs statement.text
  unfold run
  revert hleft hfails
  rcases (s.record event).ask statement.text with ⟨e | _ | rule, t⟩
  · exact fun hleft hfails => ⟨hleft, hfails⟩
  · intro hleft _
    obtain ⟨hscript, hfails⟩ := failsAs_answer hP t statement
    dsimp only
    revert hscript hfails
    rcases t.answer statement with ⟨e | reply, u⟩
    · exact fun hscript hfails => ⟨hscript ▸ hleft, hfails⟩
    · exact fun hscript _ => ⟨hscript ▸ hleft, trivial⟩
  · exact fun hleft _ => ⟨hleft, trivial⟩

lemma failsAs_insertRows (hs : s.script.FailsAs P) (statement : String) (rows : List Json) :
    (s.insertRows statement rows).2.script.FailsAs P ∧ Fails P (s.insertRows statement rows).1 := by
  obtain ⟨hleft, hfails⟩ := failsAs_ask (s := s.record (.executeMany statement rows)) hs statement
  unfold insertRows
  dsimp only
  revert hleft hfails
  rcases (s.record (.executeMany statement rows)).ask statement with ⟨e | found, t⟩
  · exact fun hleft hfails => ⟨hleft, hfails⟩
  · exact fun hleft _ => ⟨hleft, trivial⟩

lemma failsAs_signal (hs : s.script.FailsAs P) (event : Event) (text : String) :
    (s.signal event text).2.script.FailsAs P ∧ Fails P (s.signal event text).1 := by
  obtain ⟨hleft, hfails⟩ := failsAs_ask (s := s.record event) hs text
  unfold signal
  revert hleft hfails
  rcases (s.record event).ask text with ⟨e | found, t⟩
  · exact fun hleft hfails => ⟨hleft, hfails⟩
  · exact fun hleft _ => ⟨hleft, trivial⟩

end Store

namespace Action.FailsAs

variable {σ α β : Type} {P : Failure → Prop}

lemma of_ok {x : Action σ α} (h : ∀ c, ∃ a d, x c = (.ok a, d) ∧ d.store = c.store) :
    x.FailsAs P := by
  intro c hc
  obtain ⟨a, d, hx, hd⟩ := h c
  rw [hx, hd]
  exact ⟨hc, trivial⟩

lemma fail {e : Failure} (h : P e) : (Action.fail e : Action σ α).FailsAs P :=
  fun _ hc => ⟨hc, h⟩

lemma bind {x : Action σ α} {f : α → Action σ β} (hx : x.FailsAs P) (hf : ∀ a, (f a).FailsAs P) :
    (x >>= f).FailsAs P := by
  intro c hc
  obtain ⟨hscript, hfails⟩ := hx c hc
  rcases hd : x c with ⟨e | a, d⟩
  · rw [bind_apply_error hd]
    rw [hd] at hscript hfails
    exact ⟨hscript, hfails⟩
  · rw [bind_apply_ok hd]
    rw [hd] at hscript
    exact hf a d hscript

lemma check (hP : ∀ fault, P (.fault fault)) (x : Except Fault α) :
    (Action.check x : Action σ α).FailsAs P := by
  cases x with
  | ok a => exact of_ok fun c => ⟨a, c, rfl, rfl⟩
  | error fault => exact fail (hP fault)

lemma run (hP : ∀ fault, P (.fault fault)) (statement : Store.Statement) (params : Json) :
    (Action.run statement params : Action σ Store.Reply).FailsAs P :=
  fun _ hc => Store.failsAs_run hP hc _ _

lemma insertRows (statement : String) (rows : List Json) :
    (Action.onStore (fun s => s.insertRows statement rows) : Action σ Unit).FailsAs P :=
  fun _ hc => Store.failsAs_insertRows hc _ _

lemma through (hP : ∀ fault, P (.fault fault)) :
    Through fun _ (x : Action σ _) => x.FailsAs P where
  pure a := of_ok fun c => ⟨a, c, rfl, rfl⟩
  bind := bind
  check := check hP
  log level channel message := of_ok fun c => ⟨(), (Action.log level channel message c).2, rfl, rfl⟩
  within coordinate value h c hc :=
    h { c with contexts := c.contexts.current.withCoordinate coordinate value :: c.contexts } hc

lemma transaction {body : Action σ α} (hbody : body.FailsAs P) :
    (Action.transaction body).FailsAs P := by
  intro c hc
  -- the script and the outcome of a body that has run
  have hrun : ∀ {r : Except Failure α} {s : Store} {d : Course σ},
      c.store.signal (.begin c.store.depth) Store.beginText = (.ok (), s) →
      body (begun c s) = (r, d) → d.store.script.FailsAs P ∧ Fails P r := by
    intro r s d hs hd
    have hsaved := (Store.failsAs_signal hc (.begin c.store.depth) Store.beginText).1
    rw [hs] at hsaved
    have h := hbody (begun c s) hsaved
    rwa [hd] at h
  rcases h : Action.transaction body c with ⟨r, d⟩
  cases ends h with
  | refused hs =>
    have hsaved := Store.failsAs_signal hc (.begin c.store.depth) Store.beginText
    rwa [hs] at hsaved
  | failed hs hd =>
    obtain ⟨hscript, hfails⟩ := hrun hs hd
    exact ⟨hscript, hfails⟩
  | @uncommitted _ e s t d hs hd hdone =>
    have ht := Store.failsAs_signal (s := { d.store with depth := c.store.depth }) (hrun hs hd).1
      (.commit c.store.depth) Store.commitText
    rwa [hdone] at ht
  | @committed _ s t d hs hd hdone =>
    have ht := Store.failsAs_signal (s := { d.store with depth := c.store.depth }) (hrun hs hd).1
      (.commit c.store.depth) Store.commitText
    rw [hdone] at ht
    exact ⟨ht.1, trivial⟩

end Action.FailsAs

end PgSchema
