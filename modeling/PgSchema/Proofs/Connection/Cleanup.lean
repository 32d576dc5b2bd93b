import PgSchema.Proofs.Connection.Exclusion
import PgSchema.Proofs.Course.Restores

/-!
What a client leaves behind.

Each call puts back what it took, however it ends, and so does all that a client does in any number
of calls and tasks (`Client.restores_attended`).  Behind it, nobody is at the lock but those who
have come by themselves, and the lock counts them only (`cleans_up`).
-/

namespace PgSchema

open Action (Restores)
open Course (Onward Restored)
open Lock (Counted)

namespace Connection

variable {σ α S : Type} (k : Connection) {inside : Bool}

/-! ### Calls that are no transactions -/

lemma restores_visit : (k.visit (σ := σ)).Restores inside :=
  .locked _ <| .pooled <| .bind (.bind (.check _) fun m => m.restores_migrate) fun _ =>
    .bind (.change fun _ => ⟨rfl, rfl, rfl⟩) fun _ => Restores.through.pure _

lemma restores_ensureMigrated : (k.ensureMigrated (σ := σ)).Restores inside := by
  intro c hj
  cases hm : c.migrated with
  | some result =>
    rw [ensureMigrated_of_migrated hm]
    exact .refl c
  | none =>
    rw [k.ensureMigrated_of_none hm]
    exact k.restores_visit.guarding owner "migrate" none c hj

lemma restores_onConnection (exclusive : Bool) {body : Action σ α} (h : body.Restores inside) :
    (k.onConnection exclusive body).Restores inside := by
  refine .bind (.of_eq fun _ => ⟨rfl, rfl, rfl⟩) fun a => ?_
  split
  · exact h
  · exact .bind k.restores_ensureMigrated fun _ => .locked _ (.pooled h)

lemma restores_fetchAll (text : String) (params : Json) :
    (k.fetchAll (σ := σ) text params).Restores inside :=
  .guarding _ _ _ <| k.restores_onConnection _ (.query _ _)

lemma Request.restores (r : Request) : (r.run (σ := σ) k).Restores inside := by
  cases r with
  | execute text params =>
    exact .guarding _ _ _ <| k.restores_onConnection _ <|
      .bind (.run _ _) fun _ => Restores.through.pure _
  | insert text params =>
    exact .guarding _ _ _ <| k.restores_onConnection _ <| .bind (.run _ _) fun _ => .check _
  | fetchAll text params =>
    exact .bind (k.restores_fetchAll text params) fun _ => Restores.through.pure _
  | fetchOne text params =>
    exact .guarding _ _ _ <| k.restores_onConnection _ <|
      .bind (.query _ _) fun _ => Restores.through.pure _

lemma restores_modelClass (t : Table) : (k.modelClass (σ := σ) t).Restores inside := by
  refine .bind (.of_eq fun _ => ⟨rfl, rfl, rfl⟩) fun a => ?_
  cases a.models.get? t.name with
  | some name => exact Restores.through.pure _
  | none =>
    dsimp only
    split
    · exact .fail _
    · refine .bind (.check _) fun classes => ?_
      split
      · exact .bind (.change fun _ => ⟨rfl, rfl, rfl⟩) fun _ => Restores.through.pure _
      · exact .fail _

lemma restores_first (s : Query.Selector Json) :
    (s.first (k.backend (σ := σ))).Restores inside := by
  have hmodel : ∀ row : Json, (k.newModel (σ := σ)
      (fun name => Action.check (row.cell? name)) s.table).Restores inside :=
    fun row => .bind (.bind (Restores.through.each fun c _ => .bind (.check _) fun _ =>
      Restores.through.pure _) fun _ => Restores.through.pure _) fun _ =>
        .bind (k.restores_modelClass s.table) fun _ => Restores.through.pure _
  exact .bind (.bind (k.restores_fetchAll _ _) fun rows =>
    Restores.through.each fun row _ => hmodel row) fun _ => Restores.through.pure _

lemma restores_create (t : Table) (made : Except Failure Json)
    (cell : String → Except Fault Json) : (k.create (σ := σ) t made cell).Restores inside := by
  unfold create createModel
  refine .bind (.ofOutcome made) fun made => .bind (.check _) fun inserter =>
    .bind (.bind (Restores.through.each fun _ _ => .check _) fun values =>
      Request.restores k (.insert _ _)) fun value => ?_
  split
  · exact Restores.through.pure _
  · exact Restores.through.pure _
  · refine .bind (k.restores_first _) fun found => ?_
    cases found <;> exact Restores.through.pure _

/-! ### Transactions -/

section Transactions

variable {exclusive : Bool} {task : Action σ α}

lemma restores_reporting {body : Action σ α} (h : body.Restores inside) :
    (reporting exclusive body).Restores inside := by
  intro c hj
  have hc := h c hj
  rcases hbody : body c with ⟨e | a, d⟩
  · obtain ⟨lines, hreport⟩ := reporting_error exclusive hbody
    rw [hbody] at hc
    rw [hreport]
    exact ⟨hc.joined, hc.contexts, hc.store⟩
  · rw [reporting_ok hbody]
    rwa [hbody] at hc

lemma restores_opened (h : task.Restores true) : (opened exclusive task).Restores true := by
  have hrest : (Action.log .debug .connection
      ("Transaction started (" ++ modeName exclusive ++ ")") >>= fun _ => task).Restores true :=
    .bind (Restores.through.log _ _ _) fun _ => h
  cases exclusive with
  | false => exact hrest
  | true => exact .bind (.run _ _) fun _ => hrest

/-- A transaction that no other surrounds ends the one that its task was in. -/
lemma restores_apart (h : task.Restores true) : (apart exclusive task).Restores false :=
  .within _ _ <| .locked _ <| .pooled <| restores_reporting <| .joining <|
    inTransaction_eq task ▸ (restores_opened h).transaction

/-- **A call for a transaction restores its course**, inside another transaction or not. -/
lemma restores_transaction (h : task.Restores true) :
    (k.transaction exclusive task).Restores inside := by
  intro c hj
  cases inside with
  | true =>
    rw [transaction_joined hj]
    exact h.transaction c hj
  | false =>
    rw [transaction_unjoined hj]
    exact Restores.bind k.restores_ensureMigrated (fun _ => restores_apart h) c hj

lemma restores_awaited (aside : Bool) (h : task.Restores true) :
    (k.awaited aside exclusive task).Restores inside := by
  cases aside with
  | false => exact k.restores_transaction h
  | true =>
    intro c hj
    rw [awaited_aside]
    split
    · exact .refl c
    · exact (k.restores_transaction h).aside c hj

end Transactions

/-! ### Clients -/

variable {name : Nat → String}

/-- What is written down of a run is nothing that would have to be put back. -/
lemma restored_report {exclusive nested : Bool} {call : Except Failure Json}
    {c d : Course (Ledger S)} (h : Restored c d) : Restored c (d.report exclusive nested call) :=
  ⟨h.joined, h.contexts, h.store⟩

lemma restores_framed {exclusive outermost : Bool} {thread : String}
    {task : Frame → Action (Ledger S) Json} (h : ∀ f, (task f).Restores inside) :
    (framed exclusive outermost thread task).Restores inside := by
  intro c hj
  let f : Frame := ⟨thread, exclusive, outermost, c.store⟩
  have hheld : Restored c (c.hold f) := by
    obtain ⟨workers, hhold⟩ := c.hold_eq f
    rw [hhold]
    exact ⟨rfl, rfl, [], .refl _⟩
  have htask := hheld.trans (h f (c.hold f) (hheld.joined.trans hj))
  exact ⟨htask.joined, htask.contexts, htask.store⟩

lemma restores_transactAttended (frames : List Frame) (aside exclusive : Bool)
    {task : Frame → Action (Ledger S) Json} (h : ∀ f, (task f).Restores true) :
    (k.transactAttended name frames aside exclusive task).Restores inside := by
  intro c hj
  let c' := c.approach (if aside || frames.isEmpty then [.of exclusive] else [])
    (if aside || frames.isEmpty then some (threadOf name aside frames) else none)
  have hcall : Restored c' (k.awaited aside exclusive (framed exclusive (aside || frames.isEmpty)
      (threadOf name aside frames) task) c').2 :=
    k.restores_awaited aside (restores_framed h) c' hj
  exact restored_report ⟨hcall.joined, hcall.contexts, hcall.store⟩

/-- **A client restores its course**, whatever its calls and its tasks come to. -/
theorem Client.restores_attended (client : Client S) : ∀ frames : List Frame,
    (client.attended k name frames).Restores (!frames.isEmpty) := by
  have hattend : ∀ frames {inside}, (Action.change (Course.attend (S := S) frames)).Restores inside :=
    fun _ _ => .change fun _ => ⟨rfl, rfl, rfl⟩
  have happroach : ∀ sides {inside},
      (Action.change (Course.approach (S := S) sides none)).Restores inside :=
    fun _ _ => .change fun _ => ⟨rfl, rfl, rfl⟩
  induction client with
  | done outcome => exact fun frames => .bind (hattend _) fun _ => .ofOutcome outcome
  | consult next ih =>
    exact fun frames => .bind (hattend _) fun _ => .bind (.of_eq fun _ => ⟨rfl, rfl, rfl⟩) fun _ =>
      ih _ frames
  | remember memory next ih =>
    exact fun frames => .bind (hattend _) fun _ => .bind (.change fun _ => ⟨rfl, rfl, rfl⟩)
      fun _ => ih frames
  | migrate next ih =>
    exact fun frames => .bind (hattend _) fun _ => .bind (happroach _) fun _ =>
      .bind k.restores_ensureMigrated.outcome fun _ => ih _ frames
  | request r next ih =>
    exact fun frames => .bind (hattend _) fun _ => .bind (happroach _) fun _ =>
      .bind (Request.restores k r).outcome fun _ => ih _ frames
  | create t made cell next ih =>
    exact fun frames => .bind (hattend _) fun _ => .bind (happroach _) fun _ =>
      .bind (k.restores_create t made cell).outcome fun _ => ih _ frames
  | transact aside exclusive task next ihtask ih =>
    exact fun frames => .bind (hattend _) fun _ =>
      .bind (k.restores_transactAttended frames aside exclusive fun f => ihtask (f :: frames))
        fun _ => ih _ frames

/-! ### Visitors -/

/-- Who comes to the lock by a move. -/
def Move.newcomer? : Move → Option String
  | .arrive who _ => some who
  | _ => none

/-- **The visitors of a run**: those who are at the lock, and those who come there by themselves. -/
def Ledger.visitors (l : Ledger S) : List String :=
  l.workers.keys ++ l.others.flatten.filterMap Move.newcomer?

end Connection

open Connection (Frame Ledger Move)

namespace Lock

variable {l : Lock} {own : List String} {who : String}

lemma mem_keys_look {name : String} {mode : Mode} (h : who ∈ (l.look name mode).workers.keys) :
    who ∈ l.workers.keys ∨ who = name := by
  unfold look at h
  split at h
  · exact Entries.mem_keys_put h
  · exact Entries.mem_keys_put h

lemma mem_keys_notify (h : who ∈ l.notify.workers.keys) : who ∈ l.workers.keys := by
  rwa [workers_notify, Entries.keys_mapValues] at h

/-- Nobody is at the lock behind a move who was not there before and has not come by it. -/
lemma mem_keys_move {m : Move} (h : who ∈ (l.move own m).workers.keys) :
    who ∈ l.workers.keys ∨ m.newcomer? = some who := by
  cases m with
  | arrive name mode =>
    unfold move at h
    dsimp only at h
    split at h
    · exact .inl h
    · exact (mem_keys_look h).imp_right fun heq => congrArg some heq.symm
  | recheck name =>
    unfold move recheck at h
    dsimp only at h
    split at h
    · rename_i mode hname
      exact .inl <| (mem_keys_look h).elim (fun hbefore => hbefore) fun heq =>
        heq ▸ Entries.mem_keys (Entries.mem_of_get? hname)
    · exact .inl h
  | release name =>
    refine .inl ?_
    unfold move at h
    dsimp only at h
    split at h
    · exact h
    · cases hleft : l.release? name with
      | none => rwa [hleft] at h
      | some l' =>
        rw [hleft] at h
        obtain ⟨mode, -, rfl⟩ := release?_eq_some hleft
        have hkept : who ∈ (l.workers.erase name).keys := by
          change who ∈ (Lock.workers (if _ then _ else _)).keys at h
          split at h
          · exact mem_keys_notify h
          · exact h
        exact (List.filter_sublist.map Prod.fst).subset hkept
  | notify => exact .inl (mem_keys_notify h)

lemma mem_keys_moves {moves : List Move} (h : who ∈ (moves.foldl (move own) l).workers.keys) :
    who ∈ l.workers.keys ∨ who ∈ moves.filterMap Move.newcomer? := by
  induction moves generalizing l with
  | nil => exact .inl h
  | cons m moves ih =>
    rcases ih h with hmoved | hlater
    · rcases mem_keys_move hmoved with hbefore | hcame
      · exact .inl hbefore
      · exact .inr (List.mem_filterMap.2 ⟨m, List.mem_cons_self, hcame⟩)
    · obtain ⟨m', hm', hcame⟩ := List.mem_filterMap.1 hlater
      exact .inr (List.mem_filterMap.2 ⟨m', List.mem_cons_of_mem _ hm', hcame⟩)

end Lock

namespace Connection

/-- **Who is at the lock while tasks run**: visitors, and the threads of those tasks that are in no
other on the same thread. -/
structure Settled (visitors : List String) (frames : List Frame) (c : Course (Ledger S)) :
    Prop where
  there : ∀ who ∈ c.work.workers.keys,
    who ∈ visitors ∨ ∃ f ∈ frames, f.outermost = true ∧ f.thread = who
  coming : ∀ who ∈ c.work.others.flatten.filterMap Move.newcomer?, who ∈ visitors

namespace Settled

variable {visitors : List String} {frames : List Frame} {c d : Course (Ledger S)}

lemma start (c : Course (Ledger S)) : Settled c.work.visitors [] c where
  there _ hwho := .inl (List.mem_append_left _ hwho)
  coming _ hwho := List.mem_append_right _ hwho

lemma attend (h : Settled visitors frames c) : Settled visitors frames (c.attend frames) := by
  have hcoming : ∀ who, who ∈ (c.work.others.headD []).filterMap Move.newcomer? ∨
      who ∈ c.work.others.tail.flatten.filterMap Move.newcomer? → who ∈ visitors := by
    intro who hwho
    refine h.coming who ?_
    cases hothers : c.work.others with
    | nil => simp [hothers] at hwho
    | cons moves others =>
      rw [hothers] at hwho
      rw [List.flatten_cons, List.filterMap_append]
      exact List.mem_append.2 hwho
  refine ⟨fun who hwho => ?_, fun who hwho => hcoming who (.inr hwho)⟩
  rcases Lock.mem_keys_moves hwho with hbefore | hcame
  · exact h.there who hbefore
  · exact .inl (hcoming who (.inl hcame))

/-- What is kept in the ledger stays there. -/
lemma of_work (h : Settled visitors frames c) (hworkers : d.work.workers = c.work.workers)
    (hothers : d.work.others = c.work.others) : Settled visitors frames d :=
  ⟨hworkers ▸ h.there, hothers ▸ h.coming⟩

lemma onward (h : Settled visitors frames c) {sides : List Lock.Mode} {newcomer : Option String}
    (hd : Onward sides (c.approach sides newcomer) d) : Settled visitors frames d :=
  h.of_work (by rw [hd.work]; rfl) (by rw [hd.work]; rfl)

lemma hold (h : Settled visitors frames c) (f : Frame) :
    Settled visitors (f :: frames) (c.hold f) := by
  have hbelow : ∀ who, who ∈ visitors ∨ (∃ g ∈ frames, g.outermost = true ∧ g.thread = who) →
      who ∈ visitors ∨ ∃ g ∈ f :: frames, g.outermost = true ∧ g.thread = who :=
    fun who => Or.imp_right fun ⟨g, hg, hwho⟩ => ⟨g, List.mem_cons_of_mem _ hg, hwho⟩
  unfold Course.hold
  split
  · rename_i houtermost
    refine ⟨fun who hwho => ?_, h.coming⟩
    rcases Entries.mem_keys_put hwho with hbefore | rfl
    · exact hbelow who (h.there who hbefore)
    · exact .inr ⟨f, List.mem_cons_self, houtermost, rfl⟩
  · exact ⟨fun who hwho => hbelow who (h.there who hwho), h.coming⟩

lemma letGo {f : Frame} (h : Settled visitors (f :: frames) c) (outcome : Except Failure Json) :
    Settled visitors frames (c.letGo f outcome) := by
  refine ⟨fun who hwho => ?_, h.coming⟩
  change who ∈ Entries.keys (if f.outermost then c.work.workers.erase f.thread else c.work.workers)
    at hwho
  -- whoever is left there is not on the thread of the task
  have hleft : who ∈ c.work.workers.keys ∧ (f.outermost = true → f.thread ≠ who) := by
    split at hwho
    · obtain ⟨e, he, rfl⟩ := List.mem_map.1 hwho
      obtain ⟨he, hne⟩ := List.mem_filter.1 he
      exact ⟨Entries.mem_keys he, fun _ => Ne.symm (bne_iff_ne.1 hne)⟩
    · rename_i hnested
      exact ⟨hwho, fun houtermost => absurd houtermost hnested⟩
  refine (h.there who hleft.1).imp_right fun ⟨g, hg, houtermost, hthread⟩ => ?_
  rcases List.mem_cons.1 hg with rfl | hg
  · exact absurd hthread (hleft.2 houtermost)
  · exact ⟨g, hg, houtermost, hthread⟩

lemma kept : Kept (S := S) name (Settled visitors) where
  attend h := h.attend
  remember _ h := ⟨h.there, h.coming⟩
  call h hd := h.onward hd
  barred h hd := (h.onward hd).of_work rfl rfl
  entered h _ _ hb := hold (h.of_work (by rw [hb.work]; rfl) (by rw [hb.work]; rfl)) _
  left hd' hd _ := (letGo hd' _).of_work (by rw [← hd.work]; rfl) (by rw [← hd.work]; rfl)

end Settled

/-! ### Clients that are done -/

/-- **Everything cleans up after itself**, however it ends.

A client that is in no transaction is in none behind its run, its contexts are those that were open
before, and its connections are given back.  At the lock there are only those who have come by
themselves, and as long as the lock has admitted the client, it counts just them.

A call for a transaction does the same wherever it is made.  If it is made inside another one, each
statement behind it is one more on the connection of that one. -/
theorem cleans_up (k : Connection) (name : Nat → String) (client : Client S) :
    (∀ c : Course (Ledger S), c.joined = false → Counted ⟨c.counts, c.work.workers⟩ →
      c.work.moments = [] →
        let d := (client.attended k name [] c).2
        Restored c d ∧ d.work.workers.keys ⊆ c.work.visitors ∧
          (d.work.live = true → Counted ⟨d.counts, d.work.workers⟩)) ∧
    ∀ (frames : List Frame) (exclusive outermost : Bool) (thread : String)
      (c : Course (Ledger S)),
        let d := (k.transaction exclusive (framed exclusive outermost thread fun f =>
          client.attended k name (f :: frames)) c).2
        Restored c d ∧ (c.joined = true → ∀ r : Request, (r.run k d).2.toSite =
          { d.toSite with store := (d.store.run r.event (.plain r.text)).2 }) := by
  refine ⟨fun c hj hlock hmoments => ?_, fun frames exclusive outermost thread c => ?_⟩
  · have hstart : Tidy [] c := ⟨by rw [hmoments]; nofun, fun _ => ⟨hlock, .nil⟩⟩
    have hsettled : Settled c.work.visitors [] (client.attended k name [] c).2 :=
      (Settled.kept.attended client hj (.start c)).2
    refine ⟨client.restores_attended k [] c hj, fun who hwho => ?_,
      fun hlive => ((Tidy.kept.attended client hj hstart).2.live hlive).counted⟩
    exact (hsettled.there who hwho).resolve_right nofun
  · have hrestored : Restored c (k.transaction exclusive (framed exclusive outermost thread fun f =>
        client.attended k name (f :: frames)) c).2 :=
      k.restores_transaction (restores_framed fun f => client.restores_attended k (f :: frames)) c
        rfl
    exact ⟨hrestored, fun hj r => (r.run_joined k (hrestored.joined.trans hj)).1⟩

/-- A task that has another one run in a transaction, goes on where that one has failed, and fails
itself. -/
def forgetful : Client Unit :=
  .transact false true (.transact false false
    (.request (adding "1") fun _ => .done (.error (.abort "not this one"))) fun _ =>
      .request (adding "2") fun _ => .done (.error (.fault .closedExecutor))) .done

/-- The task fails at both depths, and a visitor has come to the lock by then. -/
theorem cleans_up_forgetful :
    let d := (forgetful.attended bare toString [] visited).2
    Restored visited d ∧ d.work.workers.keys ⊆ ["visitor"] ∧ Counted ⟨d.counts, d.work.workers⟩ ∧
      d.work.reports.length = 2 := by
  have hlive : (forgetful.attended bare toString [] visited).2.work.live = true := by decide +kernel
  have hreports : (forgetful.attended bare toString [] visited).2.work.reports.length = 2 := by
    decide +kernel
  obtain ⟨hrestored, hvisitors, hcounted⟩ := (cleans_up bare toString forgetful).1 visited rfl
    Lock.Reachable.start.counted rfl
  exact ⟨hrestored, hvisitors, hcounted hlive, hreports⟩

end Connection

end PgSchema
