import PgSchema.Proofs.Course.Traces
import PgSchema.Proofs.Migration.Parts

/-!
Which refusal of the store makes an action fail.

What a script refused can be read off the events that it was asked about, one after the other
(`Script.replay`).  An action that does not go on behind a refusal fails with it, or with what was
made of it (`Heeds`).
-/

namespace PgSchema

namespace Store

/-! ### Refusals -/

/-- What a script is asked about an event, if it is asked. -/
def Event.question? : Event → Option String
  | .checkout => some checkoutText
  | .begin _ => some beginText
  | .commit _ => some commitText
  | e => e.text?

/-- **What a script refuses** of events, oldest first, and the script behind them. -/
def Script.replay (script : Script) : List Event → List Failure × Script
  | [] => ([], script)
  | e :: rest =>
    match e.question? with
    | none => replay script rest
    | some text =>
      let (found, script) := script.consult text
      let (refused, script) := replay script rest
      ((found.bind Rule.failure).toList ++ refused, script)

lemma Script.replay_append (before after : List Event) : ∀ script : Script,
    script.replay (before ++ after) =
      ((script.replay before).1 ++ ((script.replay before).2.replay after).1,
        ((script.replay before).2.replay after).2) := by
  induction before with
  | nil => exact fun _ => rfl
  | cons e before ih =>
    intro script
    rw [List.cons_append, replay, replay]
    cases e.question? with
    | none => exact ih script
    | some text =>
      dsimp only
      rw [ih, List.append_assoc]

/-- An event that the script is not asked about. -/
lemma Script.replay_of_none {e : Event} (he : e.question? = none) (script : Script) :
    script.replay [e] = ([], script) := by
  rw [replay, he]
  rfl

end Store

/-- A result that is to blame on a refusal, if there was one: then it is a failure that stands in a
relation to it. -/
def Blames {α : Type} (R : Failure → Failure → Prop) (refused : List Failure)
    (r : Except Failure α) : Prop :=
  refused = [] ∨ ∃ f e, refused = [f] ∧ r = .error e ∧ R f e

namespace Blames

variable {α β : Type} {R R' : Failure → Failure → Prop} {refused : List Failure}

lemma mono {r : Except Failure α} (h : Blames R refused r) (hR : ∀ f e, R f e → R' f e) :
    Blames R' refused r :=
  h.imp_right fun ⟨f, e, hrefused, hr, hfe⟩ => ⟨f, e, hrefused, hr, hR f e hfe⟩

/-- Something is made of the failure. -/
lemma error {e e' : Failure} (h : Blames R refused (.error e : Except Failure α))
    (he : ∀ f, R f e → R' f e') : Blames R' refused (.error e' : Except Failure β) := by
  rcases h with hnone | ⟨f, _, hrefused, ⟨⟩, hfe⟩
  · exact .inl hnone
  · exact .inr ⟨f, e', hrefused, rfl, he f hfe⟩

/-- Nothing was refused if the result is no failure. -/
lemma of_ok {a : α} (h : Blames R refused (.ok a : Except Failure α)) : refused = [] := by
  rcases h with hnone | ⟨_, _, _, ⟨⟩, _⟩
  exact hnone

end Blames

namespace Store

/-- From one store to a later one, with a result: between them the script was asked, and the result
is to blame on what it refused. -/
structure Asked {α : Type} (R : Failure → Failure → Prop) (s : Store) (r : Except Failure α)
    (t : Store) (trace : List Event) : Prop where
  events : t.events = trace.reverse ++ s.events
  script : t.script = (s.script.replay trace).2
  blames : Blames R (s.script.replay trace).1 r

namespace Asked

variable {α β : Type} {R R' : Failure → Failure → Prop} {s t u : Store}
  {before after : List Event}

lemma nil (hevents : t.events = s.events) (hscript : t.script = s.script)
    (r : Except Failure α) : Asked R s r t [] :=
  ⟨hevents, hscript, .inl rfl⟩

/-- The events and the script are all there is to it. -/
lemma congr {r : Except Failure α} (h : Asked R s r t before) (hevents : u.events = t.events)
    (hscript : u.script = t.script) : Asked R s r u before :=
  ⟨hevents.trans h.events, hscript.trans h.script, h.blames⟩

/-- One thing after the other, if the first goes well. -/
lemma trans {a : α} {r : Except Failure β} (h : Asked R s (.ok a : Except Failure α) t before)
    (h' : Asked R' t r u after) : Asked R' s r u (before ++ after) := by
  refine ⟨?_, ?_, ?_⟩
  · rw [h'.events, h.events, List.reverse_append, List.append_assoc]
  · rw [Script.replay_append, ← h.script]
    exact h'.script
  · rw [Script.replay_append, h.blames.of_ok, ← h.script]
    exact h'.blames

/-- An event behind it all that the script is not asked about. -/
lemma behind {r : Except Failure α} {e : Event} (h : Asked R s r t before)
    (he : e.question? = none) : Asked R s r (t.record e) (before ++ [e]) := by
  refine ⟨?_, ?_, ?_⟩
  · rw [List.reverse_append, List.append_assoc, ← h.events]
    rfl
  · rw [Script.replay_append, Script.replay_of_none he]
    exact h.script
  · rw [Script.replay_append, Script.replay_of_none he, List.append_nil]
    exact h.blames

lemma mono {r : Except Failure α} (h : Asked R s r t before) (hR : ∀ f e, R f e → R' f e) :
    Asked R' s r t before :=
  ⟨h.events, h.script, h.blames.mono hR⟩

/-- Something is made of the failure. -/
lemma error {e e' : Failure} (h : Asked R s (.error e : Except Failure α) t before)
    (he : ∀ f, R f e → R' f e') : Asked R' s (.error e' : Except Failure β) t before :=
  ⟨h.events, h.script, h.blames.error he⟩

/-- Nothing was refused if all went well. -/
lemma ok {a : α} {b : β} (h : Asked R s (.ok a : Except Failure α) t before) :
    Asked R' s (.ok b : Except Failure β) t before :=
  ⟨h.events, h.script, .inl h.blames.of_ok⟩

/-- A failure that is what was refused, where such a failure is taken as it is. -/
lemma as_is {e : Failure} (h : Asked Eq s (.error e : Except Failure α) t before)
    (hrefl : ∀ f, R f f) : Asked R s (.error e : Except Failure β) t before :=
  h.error fun f hf => hf ▸ hrefl f

end Asked

/-! ### Uses of the store -/

variable (s : Store) {e : Event}

lemma asked_ask {text : String} (he : e.question? = some text) :
    Asked Eq s ((s.record e).ask text).1 ((s.record e).ask text).2 [e] := by
  have hreplay : s.script.replay [e] =
      (((s.script.consult text).1.bind Rule.failure).toList, (s.script.consult text).2) := by
    rw [Script.replay, he]
    simp [Script.replay]
  unfold ask record
  dsimp only
  rcases hconsult : s.script.consult text with ⟨_ | rule, script⟩
  · rw [hconsult] at hreplay
    exact ⟨rfl, congrArg Prod.snd hreplay.symm, .inl (congrArg Prod.fst hreplay)⟩
  · rw [hconsult] at hreplay
    dsimp only [Option.bind_some] at hreplay ⊢
    cases hfailure : rule.failure with
    | none =>
      rw [hfailure] at hreplay
      exact ⟨rfl, congrArg Prod.snd hreplay.symm, .inl (congrArg Prod.fst hreplay)⟩
    | some f =>
      rw [hfailure] at hreplay
      exact ⟨rfl, congrArg Prod.snd hreplay.symm,
        .inr ⟨f, f, congrArg Prod.fst hreplay, rfl, rfl⟩⟩

lemma asked_signal {text : String} (he : e.question? = some text) :
    Asked Eq s (s.signal e text).1 (s.signal e text).2 [e] := by
  have hask := s.asked_ask he
  unfold signal
  rcases h : (s.record e).ask text with ⟨f | found, t⟩
  · rw [h] at hask
    exact hask.as_is fun _ => rfl
  · rw [h] at hask
    exact hask.ok

lemma asked_insertRows (statement : String) (rows : List Json) :
    Asked Eq s (s.insertRows statement rows).1 (s.insertRows statement rows).2
      [.executeMany statement rows] := by
  have hask := s.asked_ask (e := .executeMany statement rows) rfl
  unfold insertRows
  dsimp only
  rcases h : (s.record (.executeMany statement rows)).ask statement with ⟨f | found, t⟩
  · rw [h] at hask
    exact hask.as_is fun _ => rfl
  · rw [h] at hask
    exact hask.ok.congr rfl rfl

lemma asked_run {statement : Statement} (he : e.question? = some statement.text) :
    Asked Eq s (s.run e statement).1 (s.run e statement).2 [e] := by
  have hask := s.asked_ask he
  unfold run
  rcases h : (s.record e).ask statement.text with ⟨f | _ | rule, t⟩
  · rw [h] at hask
    exact hask.as_is fun _ => rfl
  · rw [h] at hask
    -- the script has no answer, and the store's own one asks nothing
    have hevents := events_answer t statement
    have hscript := (failsAs_answer (P := fun _ => True) (fun _ => trivial) t statement).1
    dsimp only
    rcases hanswer : t.answer statement with ⟨f | reply, u⟩
    · rw [hanswer] at hevents hscript
      exact ⟨hevents.trans hask.events, hscript.trans hask.script, .inl hask.blames.of_ok⟩
    · rw [hanswer] at hevents hscript
      exact hask.ok.congr hevents hscript
  · rw [h] at hask
    exact hask.ok.congr rfl rfl

end Store

namespace Action

open Store (Asked)

variable {σ α β : Type} {R R' : Failure → Failure → Prop}

/-- **An action heeds what the store refuses**: it does not go on behind a refusal, but fails with
it, or with what is made of it. -/
def Heeds (R : Failure → Failure → Prop) (x : Action σ α) : Prop :=
  ∀ c, ∃ trace, Asked R c.store (x c).1 (x c).2.store trace

namespace Heeds

lemma mono {x : Action σ α} (h : x.Heeds R) (hR : ∀ f e, R f e → R' f e) : x.Heeds R' :=
  fun c => (h c).imp fun _ h => h.mono hR

lemma of_store {x : Action σ α} (h : ∀ c, (x c).2.store = c.store) : x.Heeds R :=
  fun c => ⟨[], .nil (by rw [h c]) (by rw [h c]) _⟩

lemma fail (e : Failure) : (Action.fail e : Action σ α).Heeds R := of_store fun _ => rfl

lemma check (x : Except Fault α) : (Action.check x : Action σ α).Heeds R :=
  of_store fun _ => by cases x <;> rfl

lemma ofOutcome (r : Except Failure α) : (Action.ofOutcome r : Action σ α).Heeds R :=
  of_store fun _ => by cases r <;> rfl

lemma bind {x : Action σ α} {f : α → Action σ β} (hx : x.Heeds R) (hf : ∀ a, (f a).Heeds R) :
    (x >>= f).Heeds R := by
  intro c
  obtain ⟨before, hbefore⟩ := hx c
  rcases h : x c with ⟨e | a, d⟩
  · rw [bind_apply_error h]
    rw [h] at hbefore
    exact ⟨before, hbefore.error fun _ he => he⟩
  · rw [bind_apply_ok h]
    rw [h] at hbefore
    obtain ⟨after, hafter⟩ := hf a d
    exact ⟨before ++ after, hbefore.trans hafter⟩

lemma within {body : Action σ α} (coordinate : Log.Coordinate) (value : String)
    (h : body.Heeds R) : (Action.within coordinate value body).Heeds R :=
  fun c => h { c with
    contexts := c.contexts.current.withCoordinate coordinate value :: c.contexts }

lemma through : Through fun _ (x : Action σ _) => x.Heeds R where
  pure _ := of_store fun _ => rfl
  bind := bind
  check := check
  log _ _ _ := of_store fun _ => rfl
  within := within

/-! ### Statements -/

lemma run (statement : Store.Statement) (params : Json) :
    (Action.run statement params : Action σ Store.Reply).Heeds Eq :=
  fun c => ⟨_, c.store.asked_run rfl⟩

lemma query (statement : String) (params : Json) :
    (Action.query statement params : Action σ (List Json)).Heeds Eq :=
  bind (fun c => ⟨_, c.store.asked_run rfl⟩) fun _ => of_store fun _ => rfl

lemma insertRows (statement : String) (rows : List Json) :
    (Action.onStore (fun s => s.insertRows statement rows) : Action σ Unit).Heeds Eq :=
  fun c => ⟨_, c.store.asked_insertRows statement rows⟩

/-! ### Blocks -/

variable {body : Action σ α}

lemma locked (mode : Lock.Mode) (h : body.Heeds R) : (Action.locked mode body).Heeds R :=
  fun c => h { c with counts := (c.counts.arrive mode).enter mode }

lemma joining (h : body.Heeds R) : (Action.joining body).Heeds R :=
  fun c => h { c with joined := true }

lemma guarding (owner operation : String) (table : Option String) (h : body.Heeds R)
    (hR : ∀ f e, R f e → R' f (if e.isTyped then e else .repository operation table e)) :
    (Action.guarding owner operation table body).Heeds R' := by
  intro c
  obtain ⟨trace, htrace⟩ := h c
  unfold Action.guarding
  rcases hbody : body c with ⟨e | a, d⟩
  · rw [hbody] at htrace
    refine ⟨trace, ?_⟩
    dsimp only
    split
    · rename_i htyped
      exact htrace.error fun f he => by simpa [htyped] using hR f e he
    · rename_i htyped
      exact htrace.error fun f he => by simpa [htyped] using hR f e he
  · rw [hbody] at htrace
    exact ⟨trace, htrace.ok⟩

lemma pooled (hrefl : ∀ f, R f f) (h : body.Heeds R) : (Action.pooled body).Heeds R := by
  intro c
  have hasked := c.store.asked_signal (e := .checkout) rfl
  rcases hpooled : Action.pooled body c with ⟨r, d⟩
  cases lends hpooled with
  | refused hcheckout =>
    rw [hcheckout] at hasked
    exact ⟨_, hasked.as_is hrefl⟩
  | @lent _ s _ failure hcheckout hbody =>
    obtain ⟨trace, htrace⟩ := h { c with store := s }
    rw [hcheckout] at hasked
    rw [hbody] at htrace
    exact ⟨_, (hasked.trans htrace).behind (e := .checkin failure) rfl⟩

lemma transaction (hrefl : ∀ f, R f f) (h : body.Heeds R) :
    (Action.transaction body).Heeds R := by
  intro c
  have hbegan := c.store.asked_signal (e := .begin c.store.depth) rfl
  -- at what depth it is does not matter to what is asked
  have hended : ∀ {d : Course σ} {r : Except Failure Unit} {t : Store},
      { d.store with depth := c.store.depth }.signal (.commit c.store.depth) Store.commitText =
        (r, t) → Asked Eq d.store r t [.commit c.store.depth] := by
    intro d r t hdone
    have hend := { d.store with depth := c.store.depth }.asked_signal
      (e := .commit c.store.depth) rfl
    rw [hdone] at hend
    exact ⟨hend.events, hend.script, hend.blames⟩
  -- the body that has run
  have hrun : ∀ {s : Store} {r : Except Failure α} {d : Course σ},
      c.store.signal (.begin c.store.depth) Store.beginText = (.ok (), s) →
      body (begun c s) = (r, d) → ∃ trace, Asked R c.store r d.store trace := by
    intro s r d hs hd
    obtain ⟨trace, htrace⟩ := h (begun c s)
    rw [hs] at hbegan
    rw [hd] at htrace
    exact ⟨_, hbegan.trans (u := d.store) ⟨htrace.events, htrace.script, htrace.blames⟩⟩
  rcases htransaction : Action.transaction body c with ⟨r, d⟩
  cases ends htransaction with
  | refused hs =>
    rw [hs] at hbegan
    exact ⟨_, hbegan.as_is hrefl⟩
  | @failed e _ _ hs hd =>
    obtain ⟨trace, htrace⟩ := hrun hs hd
    exact ⟨_, (htrace.behind (e := .rollback c.store.depth e) rfl).congr rfl rfl⟩
  | @uncommitted _ e _ t d hs hd hdone =>
    obtain ⟨trace, htrace⟩ := hrun hs hd
    have hback : Asked R d.store (.error e : Except Failure α) t _ := (hended hdone).as_is hrefl
    exact ⟨_, (htrace.trans hback).congr rfl rfl⟩
  | committed hs hd hdone =>
    obtain ⟨trace, htrace⟩ := hrun hs hd
    exact ⟨_, (htrace.trans (hended hdone)).ok⟩

end Heeds

end Action

/-- A migration fails with what is refused. -/
lemma Migration.Migrator.heeds_migrate {σ : Type} (m : Migrator) :
    (m.migrate : Action σ Result).Heeds Eq := by
  refine Through.migrate Action.Heeds.through m (fun _ => .run _ _) (fun _ => .run _ _)
    (fun _ => .run _ _) (fun _ => .run _ _) (fun _ _ => .insertRows _ _) (fun p => ?_)
    fun h => h.transaction fun _ => rfl
  exact Through.migrateTables Action.Heeds.through (fun _ _ _ _ _ _ => .run _ _)
    fun _ _ e _ => .fail e

end PgSchema
