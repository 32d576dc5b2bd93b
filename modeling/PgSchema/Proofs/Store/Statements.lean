import Mathlib.Tactic.Lemma
import PgSchema.Store.Basic

/-!
What statements do to a store.

Whatever the script says, a statement leaves one event behind (`events_run`), and one that is a text
is in effect exactly if it succeeds (`held_run_plain`).  If the script only
ever lets statements fail, those that succeed come into effect one after the other, and the metadata
are what the statements make of them (`Leads`).
-/

namespace PgSchema.Store

/-! ### Scripts -/

namespace Script

lemma consult_forall {P : Rule → Prop} (hused : ∀ r, P r → P r.used)
    (hpassed : ∀ r, P r → P r.passed) (text : String) {script : Script} (h : ∀ r ∈ script, P r) :
    (∀ r, (script.consult text).1 = some r → P r) ∧ ∀ r ∈ (script.consult text).2, P r := by
  induction script with
  | nil => exact ⟨fun r hr => by simp [consult] at hr, fun r hr => by simp [consult] at hr⟩
  | cons rule rest ih =>
    obtain ⟨hrule, hrest⟩ := List.forall_mem_cons.1 h
    obtain ⟨hfound, hleft⟩ := ih hrest
    unfold consult
    split
    · split
      · exact ⟨fun r hr => Option.some.inj hr ▸ hrule,
          List.forall_mem_cons.2 ⟨hused _ hrule, hrest⟩⟩
      · exact ⟨hfound, List.forall_mem_cons.2 ⟨hpassed _ hrule, hleft⟩⟩
    · exact ⟨hfound, List.forall_mem_cons.2 ⟨hrule, hleft⟩⟩

/-- The rule that is used for a text is for it. -/
lemma covers_of_consult {text : String} {script : Script} {r : Rule}
    (h : (script.consult text).1 = some r) : r.covers text = true := by
  induction script with
  | nil => simp [consult] at h
  | cons rule rest ih =>
    unfold consult at h
    split at h
    · rename_i hcovers
      split at h
      · cases h
        exact hcovers
      · exact ih h
    · exact ih h

/-- A script that lets statements fail, and answers none. -/
def OnlyFails (script : Script) : Prop := ∀ r ∈ script, r.failure ≠ none

end Script

variable {s t u : Store} {event : Event} {statement : Statement} {reply : Reply} {text : String}

/-! ### Events -/

lemma events_settle {α : Type} (r : Except Failure α × Store) :
    (settle event r).2.events = r.2.events := by
  rcases r with ⟨_ | a, s⟩ <;> rfl

lemma events_ask (s : Store) (text : String) : (s.ask text).2.events = s.events := by
  unfold ask
  rcases Script.consult text s.script with ⟨_ | rule, script⟩
  · rfl
  · dsimp only
    split <;> rfl

lemma events_answer (s : Store) (statement : Statement) :
    (s.answer statement).2.events = s.events := by
  unfold answer
  split
  · rfl
  · cases statement with
    | plain text => rfl
    | composed text =>
      dsimp only
      split <;> rfl

/-- **A statement is one event**, however it ends. -/
theorem events_run (s : Store) (event : Event) (statement : Statement) :
    (s.run event statement).2.events = event :: s.events := by
  have h := events_ask (s.record event) statement.text
  unfold run
  rw [events_settle]
  revert h
  rcases (s.record event).ask statement.text with ⟨_ | _ | rule, t⟩
  · exact id
  · exact (events_answer t statement).trans
  · exact id

lemma events_insertRows (s : Store) (statement : String) (rows : List Json) :
    (s.insertRows statement rows).2.events = .executeMany statement rows :: s.events := by
  have h := events_ask (s.record (.executeMany statement rows)) statement
  unfold insertRows
  rw [events_settle]
  revert h
  rcases (s.record (.executeMany statement rows)).ask statement with ⟨_ | a, t⟩
  · exact id
  · exact id

lemma events_signal (s : Store) (event : Event) (text : String) :
    (s.signal event text).2.events = event :: s.events := by
  have h := events_ask (s.record event) text
  unfold signal
  revert h
  rcases (s.record event).ask text with ⟨_ | a, t⟩
  · exact id
  · exact id

lemma events_of_signal {s t : Store} {event : Event} {text : String} {r : Except Failure Unit}
    (h : s.signal event text = (r, t)) : t.events = event :: s.events := by
  rw [← events_signal s event text, h]

lemma suffix_of_signal {s t : Store} {event : Event} {text : String} {r : Except Failure Unit}
    (h : s.signal event text = (r, t)) : s.events <:+ t.events := by
  rw [events_of_signal h]
  exact List.suffix_cons _ _

lemma held_ask (s : Store) (text : String) :
    (s.ask text).2.metadata = s.metadata ∧ (s.ask text).2.applied = s.applied := by
  unfold ask
  rcases Script.consult text s.script with ⟨_ | rule, script⟩
  · exact ⟨rfl, rfl⟩
  · dsimp only
    split <;> exact ⟨rfl, rfl⟩

/-- The beginning or the end of a transaction changes nothing that is held. -/
lemma held_signal (s : Store) (event : Event) (text : String) :
    (s.signal event text).2.metadata = s.metadata ∧
      (s.signal event text).2.applied = s.applied := by
  have h := held_ask (s.record event) text
  unfold signal
  revert h
  rcases (s.record event).ask text with ⟨_ | a, t⟩
  · exact id
  · exact id

lemma held_of_signal {s t : Store} {event : Event} {text : String} {r : Except Failure Unit}
    (h : s.signal event text = (r, t)) :
    t.metadata = s.metadata ∧ t.applied = s.applied := by
  have hheld := held_signal s event text
  rwa [h] at hheld

/-- **A statement that is a text** leaves the metadata alone, and is in effect if it succeeds. -/
theorem held_run_plain {r : Except Failure Reply} (h : s.run event (.plain text) = (r, t)) :
    t.metadata = s.metadata ∧ t.applied = if r.isOk then event :: s.applied else s.applied := by
  have hanswer : ∀ u : Store, (u.answer (.plain text)).2 = u := by
    intro u
    unfold answer
    split <;> rfl
  have hheld := held_ask (s.record event) text
  unfold run at h
  rw [Statement.text] at h
  rcases hask : (s.record event).ask text with ⟨_ | _ | rule, u⟩
  · rw [hask] at h hheld
    cases h
    exact hheld
  · rw [hask] at h hheld
    have hu := hanswer u
    dsimp only at h
    rcases hreply : u.answer (.plain text) with ⟨_ | reply, v⟩
    · rw [hreply] at h hu
      cases h
      cases hu
      exact hheld
    · rw [hreply] at h hu
      cases h
      cases hu
      exact hheld.imp_right (congrArg (event :: ·))
  · rw [hask] at h hheld
    cases h
    exact hheld.imp_right (congrArg (event :: ·))

/-! ### Statements that succeed -/

/-- A script that answers nothing lets a text pass, and nothing else changes. -/
lemma ask_eq_ok (hs : s.script.OnlyFails) {found : Option Rule}
    (h : s.ask text = (.ok found, t)) :
    found = none ∧ t.script.OnlyFails ∧ t = { s with script := t.script } := by
  obtain ⟨hfound, hleft⟩ := Script.consult_forall (P := fun r => r.failure ≠ none) (fun r hr => hr)
    (fun r hr => hr) text hs
  unfold ask at h
  rcases hc : Script.consult text s.script with ⟨_ | rule, script⟩
  · rw [hc] at h hleft
    cases h
    exact ⟨rfl, hleft, rfl⟩
  · rw [hc] at h hfound
    dsimp only at h
    split at h
    · cases h
    · rename_i hnone
      exact absurd hnone (hfound rule rfl)

/-- **From one store to a later one** statements have come into effect, oldest first, and there are
rows of metadata then. -/
structure Leads (s t : Store) (done : List Event) (rows : List Json) : Prop where
  script : t.script.OnlyFails
  applied : t.applied = done.reverse ++ s.applied
  events : t.events = done.reverse ++ s.events
  metadata : t.metadata = rows

namespace Leads

lemma refl (hs : s.script.OnlyFails) : Leads s s [] s.metadata := ⟨hs, rfl, rfl, rfl⟩

lemma trans {done done' : List Event} {rows rows' : List Json} (h : Leads s t done rows)
    (h' : Leads t u done' rows') : Leads s u (done ++ done') rows' where
  script := h'.script
  applied := by rw [h'.applied, h.applied, List.reverse_append, List.append_assoc]
  events := by rw [h'.events, h.events, List.reverse_append, List.append_assoc]
  metadata := h'.metadata

end Leads

/-- The rows of metadata that a statement leaves. -/
def Statement.rowsAfter (statement : Statement) (rows : List Json) : List Json :=
  match statement with
  | composed text =>
    if Text.begins emptying text && !Text.begins metadataQuery text then [] else rows
  | plain _ => rows

lemma answer_eq_ok (h : s.answer statement = (.ok reply, t)) :
    t = { s with metadata := statement.rowsAfter s.metadata } ∧
      (Text.begins metadataQuery statement.text = true → s.sortedMetadata = .ok reply.fetched) := by
  unfold answer at h
  split at h
  · rename_i hq
    rcases hrows : s.sortedMetadata with fault | rows
    · simp [hrows] at h
    · rw [hrows] at h
      cases h
      refine ⟨?_, fun _ => rfl⟩
      cases statement with
      | plain text => rfl
      | composed text => simp_all [Statement.rowsAfter, Statement.text]
  · rename_i hq
    refine ⟨?_, fun hq' => absurd hq' hq⟩
    cases statement with
    | plain text =>
      cases h
      rfl
    | composed text =>
      have hq' : Text.begins metadataQuery text = false := Bool.eq_false_iff.2 hq
      simp only [Statement.rowsAfter, hq', Bool.not_false, Bool.and_true]
      dsimp only at h
      split at h
      · rename_i he
        cases h
        simp [he]
      · rename_i he
        cases h
        simp [he]

/-- **A statement that succeeds is in effect**, and one that reads the metadata returns them in
order. -/
theorem run_eq_ok (hs : s.script.OnlyFails) (h : s.run event statement = (.ok reply, t)) :
    Leads s t [event] (statement.rowsAfter s.metadata) ∧
      (Text.begins metadataQuery statement.text = true → s.sortedMetadata = .ok reply.fetched) := by
  unfold run at h
  rcases hask : (s.record event).ask statement.text with ⟨failure | found, u⟩
  · simp [hask, settle] at h
  · obtain ⟨rfl, hu, hsame⟩ := ask_eq_ok (s := s.record _) hs hask
    rw [hask] at h
    dsimp only at h
    rcases hanswer : u.answer statement with ⟨failure | r, v⟩
    · simp [hanswer, settle] at h
    · obtain ⟨hv, hread⟩ := answer_eq_ok hanswer
      rw [hanswer] at h
      cases h
      rw [hsame] at hv hread
      exact ⟨⟨hv ▸ hu, hv ▸ rfl, hv ▸ rfl, hv ▸ rfl⟩, hread⟩

theorem insertRows_eq_ok (hs : s.script.OnlyFails) {rows : List Json} {a : Unit}
    (h : s.insertRows text rows = (.ok a, t)) :
    Leads s t [.executeMany text rows] (s.metadata ++ rows) := by
  unfold insertRows at h
  dsimp only at h
  rcases hask : (s.record (.executeMany text rows)).ask text with ⟨failure | found, u⟩
  · simp [hask, settle] at h
  · obtain ⟨rfl, hu, hsame⟩ := ask_eq_ok (s := s.record _) hs hask
    rw [hask] at h
    cases h
    exact ⟨hu, hsame ▸ rfl, hsame ▸ rfl, hsame ▸ rfl⟩

lemma signal_eq_ok (hs : s.script.OnlyFails) {a : Unit} (h : s.signal event text = (.ok a, t)) :
    t.script.OnlyFails ∧ t = { s with script := t.script, events := event :: s.events } := by
  unfold signal at h
  rcases hask : (s.record event).ask text with ⟨failure | found, u⟩
  · simp [hask] at h
  · obtain ⟨rfl, hu, hsame⟩ := ask_eq_ok (s := s.record _) hs hask
    rw [hask] at h
    cases h
    exact ⟨hu, hsame⟩

end PgSchema.Store
