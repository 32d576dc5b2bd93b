import PgSchema.Proofs.Course.Blame

/-!
What work puts back.

Work may take connections from the pool, open contexts and begin transactions.  An action that
restores its course has given all connections back, closed its contexts and ended its transactions
(`Restored`), however it ends.

Which connections are out is read off the events of a store and the answers of its script
(`Script.lend`): a connection is lent where a checkout is not refused, and what is given back is the
one that was lent last.
-/

namespace PgSchema

namespace Store

/-- The connections that are out, the one that was lent last in front.  A connection goes by the
number of those that were lent before it. -/
structure Lending where
  lent : Nat
  out : List Nat

/-- One more event, which was refused or not. -/
def Lending.after (l : Lending) (refused : Bool) : Event → Lending
  | .checkout => if refused then l else ⟨l.lent + 1, l.lent :: l.out⟩
  | .checkin _ => { l with out := l.out.tail }
  | _ => l

/-- **The connections that are out behind events**, oldest first. -/
def Script.lend (script : Script) (l : Lending) : List Event → Lending
  | [] => l
  | e :: rest =>
    (script.replay [e]).2.lend (l.after (!(script.replay [e]).1.isEmpty) e) rest

lemma Script.lend_append (before after : List Event) : ∀ (script : Script) (l : Lending),
    script.lend l (before ++ after) = (script.replay before).2.lend (script.lend l before) after := by
  induction before with
  | nil => exact fun _ _ => rfl
  | cons e before ih =>
    intro script l
    have hreplay := script.replay_append [e] before
    rw [List.singleton_append] at hreplay
    change (script.replay [e]).2.lend _ (before ++ after) = _
    rw [ih, hreplay]
    rfl

/-- An event that is no use of the pool. -/
lemma Script.lend_of_stays {e : Event} (he : ∀ (l : Lending) refused, l.after refused e = l)
    (script : Script) (l : Lending) : script.lend l [e] = l := he l _

/-- **From one store to a later one, evenly**: the connections that are out are those that were, and
the transactions that are open, too. -/
structure Evens (s t : Store) (trace : List Event) : Prop where
  events : t.events = trace.reverse ++ s.events
  script : t.script = (s.script.replay trace).2
  out : ∀ l, (s.script.lend l trace).out = l.out
  depth : t.depth = s.depth

namespace Evens

variable {s t u : Store} {before after : List Event}

lemma refl (s : Store) : Evens s s [] := ⟨rfl, rfl, fun _ => rfl, rfl⟩

lemma trans (h : Evens s t before) (h' : Evens t u after) : Evens s u (before ++ after) where
  events := by rw [h'.events, h.events, List.reverse_append, List.append_assoc]
  script := by
    rw [Script.replay_append, ← h.script]
    exact h'.script
  out l := by
    rw [Script.lend_append, ← h.script, h'.out, h.out]
  depth := h'.depth.trans h.depth

/-- An event that the script was asked about, and that is no use of the pool. -/
lemma of_asked {α : Type} {R : Failure → Failure → Prop} {r : Except Failure α} {e : Event}
    (h : Asked R s r t [e]) (he : ∀ (l : Lending) refused, l.after refused e = l)
    (hdepth : t.depth = s.depth) : Evens s t [e] :=
  ⟨h.events, h.script, fun l => by rw [Script.lend_of_stays he], hdepth⟩

end Evens

variable (s : Store)

/-- What the script refuses of an event is what the event fails with. -/
lemma refused_signal {e : Event} {text : String} (he : e.question? = some text) :
    (s.script.replay [e]).1 =
      match (s.signal e text).1 with
      | .ok _ => []
      | .error f => [f] := by
  have hreplay : (s.script.replay [e]).1 =
      ((s.script.consult text).1.bind Rule.failure).toList := by
    rw [Script.replay, he]
    simp [Script.replay]
  rw [hreplay]
  unfold signal ask record
  dsimp only
  rcases s.script.consult text with ⟨_ | rule, script⟩
  · rfl
  · cases hfailure : rule.failure with
    | none => simp [hfailure]
    | some f => simp [hfailure]

/-- **A checkout that is not refused lends a connection.** -/
lemma lend_checkout (l : Lending) : s.script.lend l [.checkout] =
    match (s.signal .checkout checkoutText).1 with
    | .ok _ => ⟨l.lent + 1, l.lent :: l.out⟩
    | .error _ => l := by
  have hrefused := s.refused_signal (e := .checkout) rfl
  rw [Script.lend, hrefused]
  rcases (s.signal .checkout checkoutText).1 with f | u
  · rfl
  · rfl

/-! ### Depths -/

lemma depth_ask (text : String) : (s.ask text).2.depth = s.depth := by
  unfold ask
  rcases Script.consult text s.script with ⟨_ | rule, script⟩
  · rfl
  · dsimp only
    split <;> rfl

lemma depth_signal (e : Event) (text : String) : (s.signal e text).2.depth = s.depth := by
  have h := depth_ask (s.record e) text
  unfold signal
  revert h
  rcases (s.record e).ask text with ⟨f | found, t⟩ <;> exact fun h => h

/-- A signal that is no use of the pool. -/
lemma evens_signal {e : Event} {text : String} (he : e.question? = some text)
    (hstays : ∀ (l : Lending) refused, l.after refused e = l) :
    Evens s (s.signal e text).2 [e] :=
  .of_asked (s.asked_signal he) hstays (s.depth_signal e text)

lemma depth_answer (statement : Statement) : (s.answer statement).2.depth = s.depth := by
  unfold answer
  split
  · rfl
  · cases statement with
    | plain text => rfl
    | composed text =>
      dsimp only
      split <;> rfl

lemma depth_run (e : Event) (statement : Statement) : (s.run e statement).2.depth = s.depth := by
  have h := depth_ask (s.record e) statement.text
  unfold run
  revert h
  rcases (s.record e).ask statement.text with ⟨f | _ | rule, t⟩
  · exact fun h => h
  · intro h
    have hanswer := t.depth_answer statement
    dsimp only
    revert hanswer
    rcases t.answer statement with ⟨f | reply, u⟩ <;> exact fun hanswer => hanswer.trans h
  · exact fun h => h

lemma evens_run {e : Event} {statement : Statement} (he : e.question? = some statement.text)
    (hstays : ∀ (l : Lending) refused, l.after refused e = l) :
    Evens s (s.run e statement).2 [e] :=
  .of_asked (s.asked_run he) hstays (s.depth_run e statement)

lemma depth_insertRows (statement : String) (rows : List Json) :
    (s.insertRows statement rows).2.depth = s.depth := by
  have h := depth_ask (s.record (.executeMany statement rows)) statement
  unfold insertRows
  revert h
  dsimp only
  rcases (s.record (.executeMany statement rows)).ask statement with ⟨f | found, t⟩ <;>
    exact fun h => h

end Store

open Store (Event Evens Lending)

/-- **A course that is restored**: the work is in a transaction if it was before, in the contexts
that were open before, and with the connections that were out before. -/
structure Course.Restored {σ : Type} (c d : Course σ) : Prop where
  joined : d.joined = c.joined
  contexts : d.contexts = c.contexts
  store : ∃ trace, Evens c.store d.store trace

namespace Course.Restored

variable {σ : Type} {c d e : Course σ}

lemma refl (c : Course σ) : Restored c c := ⟨rfl, rfl, [], .refl _⟩

lemma trans (h : Restored c d) (h' : Restored d e) : Restored c e := by
  obtain ⟨before, hbefore⟩ := h.store
  obtain ⟨after, hafter⟩ := h'.store
  exact ⟨h'.joined.trans h.joined, h'.contexts.trans h.contexts, _, hbefore.trans hafter⟩

end Course.Restored

namespace Action

open PgSchema.Course (Restored)

variable {σ α β : Type}

/-- **An action restores its course**, however it ends, if the course is in a transaction or if it
is not. -/
def Restores (inside : Bool) (x : Action σ α) : Prop :=
  ∀ c, c.joined = inside → Restored c (x c).2

namespace Restores

variable {inside : Bool}

/-- An action that touches nothing that would have to be put back. -/
lemma of_eq {x : Action σ α}
    (h : ∀ c, (x c).2.joined = c.joined ∧ (x c).2.contexts = c.contexts ∧ (x c).2.store = c.store) :
    x.Restores inside := by
  intro c _
  obtain ⟨hjoined, hcontexts, hstore⟩ := h c
  exact ⟨hjoined, hcontexts, [], hstore ▸ .refl _⟩

lemma fail (e : Failure) : (Action.fail e : Action σ α).Restores inside :=
  of_eq fun _ => ⟨rfl, rfl, rfl⟩

lemma check (x : Except Fault α) : (Action.check x : Action σ α).Restores inside :=
  of_eq fun _ => by cases x <;> exact ⟨rfl, rfl, rfl⟩

lemma ofOutcome (r : Except Failure α) : (Action.ofOutcome r : Action σ α).Restores inside :=
  of_eq fun _ => by cases r <;> exact ⟨rfl, rfl, rfl⟩

lemma change {f : Course σ → Course σ}
    (h : ∀ c, (f c).joined = c.joined ∧ (f c).contexts = c.contexts ∧ (f c).store = c.store) :
    (Action.change f).Restores inside := of_eq h

lemma bind {x : Action σ α} {f : α → Action σ β} (hx : x.Restores inside)
    (hf : ∀ a, (f a).Restores inside) : (x >>= f).Restores inside := by
  intro c hj
  have hc := hx c hj
  rcases h : x c with ⟨e | a, d⟩
  · rw [bind_apply_error h]
    rwa [h] at hc
  · rw [bind_apply_ok h]
    rw [h] at hc
    exact hc.trans (hf a d (hc.joined.trans hj))

lemma outcome {x : Action σ α} (h : x.Restores inside) : (Action.outcome x).Restores inside := h

lemma within {body : Action σ α} (coordinate : Log.Coordinate) (value : String)
    (h : body.Restores inside) : (Action.within coordinate value body).Restores inside := by
  intro c hj
  have hbody := h { c with
    contexts := c.contexts.current.withCoordinate coordinate value :: c.contexts } hj
  exact ⟨hbody.joined, congrArg Log.Stack.pop hbody.contexts, hbody.store⟩

lemma through : Through fun _ (x : Action σ _) => x.Restores inside where
  pure _ := of_eq fun _ => ⟨rfl, rfl, rfl⟩
  bind := bind
  check := check
  log _ _ _ := of_eq fun _ => ⟨rfl, rfl, rfl⟩
  within := within

/-! ### Statements -/

lemma run (statement : Store.Statement) (params : Json) :
    (Action.run statement params : Action σ Store.Reply).Restores inside :=
  fun c _ => ⟨rfl, rfl, _, c.store.evens_run rfl fun _ _ => rfl⟩

lemma query (statement : String) (params : Json) :
    (Action.query statement params : Action σ (List Json)).Restores inside :=
  bind (fun c _ => ⟨rfl, rfl, _, c.store.evens_run rfl fun _ _ => rfl⟩) fun _ => through.pure _

lemma insertRows (statement : String) (rows : List Json) :
    (Action.onStore (fun s => s.insertRows statement rows) : Action σ Unit).Restores inside :=
  fun c _ => ⟨rfl, rfl, _, .of_asked (c.store.asked_insertRows statement rows) (fun _ _ => rfl)
    (c.store.depth_insertRows _ _)⟩

/-! ### Blocks -/

variable {body : Action σ α}

lemma locked (mode : Lock.Mode) (h : body.Restores inside) :
    (Action.locked mode body).Restores inside := by
  intro c hj
  have hbody := h { c with counts := (c.counts.arrive mode).enter mode } hj
  exact ⟨hbody.joined, hbody.contexts, hbody.store⟩

/-- A report on a failure leaves lines of the log behind, and nothing else. -/
lemma guarding (owner operation : String) (table : Option String) (h : body.Restores inside) :
    (Action.guarding owner operation table body).Restores inside := by
  intro c hj
  have hbody := h c hj
  unfold Action.guarding
  rcases hrun : body c with ⟨e | a, d⟩
  · rw [hrun] at hbody
    dsimp only
    split
    · exact hbody
    · exact ⟨hbody.joined, hbody.contexts, hbody.store⟩
  · rwa [hrun] at hbody

/-- **A connection of the pool is given back**, if there was one. -/
lemma pooled (h : body.Restores inside) : (Action.pooled body).Restores inside := by
  intro c hj
  have hasked := c.store.asked_signal (e := .checkout) rfl
  have hdepth := c.store.depth_signal .checkout Store.checkoutText
  have hlend := c.store.lend_checkout
  rcases hpooled : Action.pooled body c with ⟨r, d⟩
  cases lends hpooled with
  | @refused e s hcheckout =>
    rw [hcheckout] at hasked hdepth hlend
    exact ⟨rfl, rfl, _, hasked.events, hasked.script, fun l => by rw [hlend], hdepth⟩
  | @lent _ s d failure hcheckout hbody =>
    rw [hcheckout] at hasked hdepth hlend
    obtain ⟨hjoined, hcontexts, trace, htrace⟩ := h { c with store := s } hj
    rw [hbody] at hjoined hcontexts htrace
    refine ⟨hjoined, hcontexts, [.checkout] ++ (trace ++ [.checkin failure]), ?_, ?_, fun l => ?_,
      htrace.depth.trans hdepth⟩
    · change Event.checkin failure :: d.store.events = _
      rw [htrace.events, hasked.events]
      simp
    · change d.store.script = _
      rw [Store.Script.replay_append, Store.Script.replay_append, ← hasked.script,
        ← htrace.script, Store.Script.replay_of_none (e := .checkin failure) rfl]
    · -- what is given back is the connection that was lent, since the body has kept none
      rw [Store.Script.lend_append, ← hasked.script, Store.Script.lend_append, ← htrace.script]
      change List.tail _ = _
      rw [htrace.out, hlend]
      rfl

/-- A transaction ends at the depth at which it began. -/
lemma transaction (h : body.Restores inside) : (Action.transaction body).Restores inside := by
  intro c hj
  have hbegan := c.store.evens_signal (e := .begin c.store.depth) rfl fun _ _ => rfl
  have hended := fun d : Course σ => { d.store with depth := c.store.depth }.evens_signal
    (e := .commit c.store.depth) rfl fun _ _ => rfl
  -- the beginning, and the body that has run behind it
  have hrun : ∀ {s : Store} {r : Except Failure α} {d : Course σ},
      c.store.signal (.begin c.store.depth) Store.beginText = (.ok (), s) →
      body (begun c s) = (r, d) → d.joined = c.joined ∧ d.contexts = c.contexts ∧
        ∃ trace, Evens c.store { d.store with depth := c.store.depth } trace := by
    intro s r d hs hd
    obtain ⟨hjoined, hcontexts, trace, htrace⟩ := h (begun c s) hj
    rw [hs] at hbegan
    rw [hd] at hjoined hcontexts htrace
    exact ⟨hjoined, hcontexts, _,
      hbegan.trans ⟨htrace.events, htrace.script, htrace.out, hbegan.depth.symm⟩⟩
  rcases htransaction : Action.transaction body c with ⟨r, d⟩
  cases ends htransaction with
  | refused hs =>
    rw [hs] at hbegan
    exact ⟨rfl, rfl, _, hbegan⟩
  | @failed e s d hs hd =>
    obtain ⟨hjoined, hcontexts, trace, htrace⟩ := hrun hs hd
    have hback : Evens { d.store with depth := c.store.depth }
        (takenBack c d s e).store [.rollback c.store.depth e] :=
      ⟨rfl, (congrArg Prod.snd (Store.Script.replay_of_none rfl _)).symm, fun _ => rfl, rfl⟩
    exact ⟨hjoined, hcontexts, _, htrace.trans hback⟩
  | @uncommitted _ e s t d hs hd hdone =>
    obtain ⟨hjoined, hcontexts, trace, htrace⟩ := hrun hs hd
    have hlast := hended d
    rw [hdone] at hlast
    exact ⟨hjoined, hcontexts, _,
      htrace.trans (u := t.restore s) ⟨hlast.events, hlast.script, hlast.out, hlast.depth⟩⟩
  | @committed _ s t d hs hd hdone =>
    obtain ⟨hjoined, hcontexts, trace, htrace⟩ := hrun hs hd
    have hlast := hended d
    rw [hdone] at hlast
    exact ⟨hjoined, hcontexts, _, htrace.trans hlast⟩

/-- A block whose statements join its transaction is left for work that is in none. -/
lemma joining (h : body.Restores true) : (Action.joining body).Restores false := by
  intro c hj
  have hbody := h { c with joined := true } rfl
  exact ⟨hj.symm, hbody.contexts, hbody.store⟩

/-- A block that runs aside finds its own thread as it was, and so does the work that waits. -/
lemma aside (h : body.Restores false) : (Action.aside body).Restores inside :=
  fun c _ => ⟨rfl, rfl, (h { c with contexts := [], joined := false } rfl).store⟩

end Restores

end Action

/-- A migration restores its course. -/
lemma Migration.Migrator.restores_migrate {σ : Type} {inside : Bool} (m : Migrator) :
    (m.migrate : Action σ Result).Restores inside := by
  refine Through.migrate Action.Restores.through m (fun _ => .run _ _) (fun _ => .run _ _)
    (fun _ => .run _ _) (fun _ => .run _ _) (fun _ _ => .insertRows _ _) (fun p => ?_)
    fun h => h.transaction
  exact Through.migrateTables Action.Restores.through (fun _ _ _ _ _ _ => .run _ _)
    fun _ _ e _ => .fail e

end PgSchema
