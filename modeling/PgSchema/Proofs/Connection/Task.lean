import PgSchema.Connection.Basic
import PgSchema.Proofs.Course.Traces

/-!
Tasks inside a transaction.

A `Task` is a tree of requests and of transactions inside the one that it runs in.  It goes on by
what comes of each of them, so that it may catch a failure or let it through, and by a memory of its
own, which no rollback reaches.  While it runs it keeps a diary, and the diary accounts for all that
happens on the connection (`accounts_run`).
-/

namespace PgSchema

open Store (Event)

namespace Store

/-- A use of the pool of connections, and not of one connection. -/
def Event.ofPool : Event → Bool
  | .opened .. | .closed | .checkout | .checkin _ => true
  | _ => false

/-- A statement, with or without rows that are fetched: it has a text. -/
def Event.hasText (e : Event) : Bool := e.text?.isSome

end Store

namespace Connection

variable {σ S : Type}

/-! ### Requests -/

/-- A statement that is asked of a connection. -/
inductive Request where
  | execute (text : String) (params : Json)
  | insert (text : String) (params : Json)
  | fetchAll (text : String) (params : Json)
  | fetchOne (text : String) (params : Json)

namespace Request

/-- The text of the statement. -/
def text : Request → String
  | execute text _ | insert text _ | fetchAll text _ | fetchOne text _ => text

/-- The statement as a use of the store. -/
def event : Request → Event
  | execute text params | insert text params => .execute text params
  | fetchAll text params | fetchOne text params => .fetch text params

/-- The request is made. -/
def run (k : Connection) : Request → Action σ Json
  | execute text params => k.execute text params
  | insert text params => k.insert text params
  | fetchAll text params => do return .list (← k.fetchAll text params)
  | fetchOne text params => k.fetchOne text params

/-- The store takes the statement. -/
def accepted (r : Request) (s : Store) : Bool := (s.run r.event (.plain r.text)).1.isOk

end Request

/-! ### Diaries -/

/-- What a task has done: its requests, with whether the store took the statement, and the
transactions inside, with what was done there and whether they returned. -/
inductive Diary where
  | blank
  | request (before : Diary) (r : Request) (accepted : Bool)
  | nested (before inner : Diary) (returned : Bool)

namespace Diary

/-- **The statements that are kept**, newest first: those that the store took, but for all that was
done in a transaction inside that failed. -/
def kept : Diary → List Event
  | blank => []
  | request before r accepted => if accepted then r.event :: before.kept else before.kept
  | nested before inner returned => if returned then inner.kept ++ before.kept else before.kept

/-- All statements, newest first. -/
def issued : Diary → List Event
  | blank => []
  | request before r _ => r.event :: before.issued
  | nested before inner _ => inner.issued ++ before.issued

end Diary

/-! ### Tasks -/

/-- A task with a memory. -/
inductive Task (S : Type) where
  /-- The task returns or fails. -/
  | done (outcome : Except Failure Json)
  /-- The task goes on by what it remembers. -/
  | consult (next : S → Task S)
  /-- The task remembers something else. -/
  | remember (memory : S) (next : Task S)
  /-- The task makes a request, and goes on by what comes of it. -/
  | request (r : Request) (next : Except Failure Json → Task S)
  /-- The task runs another one in a transaction, and goes on by what comes of it. -/
  | nested (exclusive : Bool) (task : Task S) (next : Except Failure Json → Task S)

/-- What a task has at hand: its memory and its diary. -/
structure Notes (S : Type) where
  memory : S
  diary : Diary := .blank

/-- A request that is written down. -/
def Request.noted (k : Connection) (r : Request) : Action (Notes S) (Except Failure Json) := do
  let accepted := r.accepted (← Action.course).store
  let outcome ← Action.outcome (r.run k)
  Action.changeWork fun n => { n with diary := n.diary.request r accepted }
  return outcome

/-- A task in a transaction, with a diary of its own that becomes a part of the one at hand. -/
def nestedNoted (k : Connection) (exclusive : Bool) (task : Action (Notes S) Json) :
    Action (Notes S) (Except Failure Json) := do
  let before := (← Action.work).diary
  Action.changeWork fun n => { n with diary := .blank }
  let outcome ← Action.outcome (k.transaction exclusive task)
  Action.changeWork fun n => { n with diary := before.nested n.diary outcome.isOk }
  return outcome

/-- A task is run. -/
def Task.run (k : Connection) : Task S → Action (Notes S) Json
  | done outcome => Action.ofOutcome outcome
  | consult next => do (next (← Action.work).memory).run k
  | remember memory next => do
    Action.changeWork fun n => { n with memory }
    next.run k
  | request r next => do (next (← r.noted k)).run k
  | nested exclusive task next => do (next (← nestedNoted k exclusive (task.run k))).run k

/-! ### Requests inside a transaction -/

section Requests

variable {α : Type} {c : Course σ}

/-- Reporting a failure touches nothing but the log. -/
lemma site_guarding (owner operation : String) (table : Option String) (body : Action σ α)
    (c : Course σ) : (Action.guarding owner operation table body c).2.toSite = (body c).2.toSite ∧
      (Action.guarding owner operation table body c).2.work = (body c).2.work := by
  unfold Action.guarding
  rcases body c with ⟨e | a, d⟩
  · dsimp only
    split <;> exact ⟨rfl, rfl⟩
  · exact ⟨rfl, rfl⟩

lemma onConnection_joined {k : Connection} {exclusive : Bool} {body : Action σ α}
    (hj : c.joined = true) : k.onConnection exclusive body c = body c :=
  congrFun (if_pos hj) c

lemma transaction_joined {k : Connection} {exclusive : Bool} {task : Action σ α}
    (hj : c.joined = true) : k.transaction exclusive task c = Action.transaction task c :=
  congrFun (if_pos hj) c

/-- What follows a statement leaves the course as it is. -/
lemma course_bind {β : Type} {x : Action σ α} {f : α → Action σ β} (hf : ∀ a d, (f a d).2 = d) :
    ((x >>= f) c).2 = (x c).2 := by
  rcases hx : x c with ⟨e | a, d⟩
  · rw [Action.bind_apply_error hx]
  · rw [Action.bind_apply_ok hx, hf]

/-- **A request inside a transaction is one statement on its connection.** -/
lemma Request.run_joined (k : Connection) (r : Request) (hj : c.joined = true) :
    (r.run k c).2.toSite =
        { c.toSite with store := (c.store.run r.event (.plain r.text)).2 } ∧
      (r.run k c).2.work = c.work := by
  have hguarded : ∀ {α : Type} {operation : String} {exclusive : Bool} {body : Action σ α},
      (body c).2 = { c with store := (c.store.run r.event (.plain r.text)).2 } →
      (guarded operation (k.onConnection exclusive body) c).2.toSite =
          { c.toSite with store := (c.store.run r.event (.plain r.text)).2 } ∧
        (guarded operation (k.onConnection exclusive body) c).2.work = c.work := by
    intro α operation exclusive body hbody
    obtain ⟨hsite, hwork⟩ := site_guarding owner operation none (k.onConnection exclusive body) c
    rw [onConnection_joined hj, hbody] at hsite hwork
    exact ⟨hsite, hwork⟩
  cases r with
  | execute text params => exact hguarded (course_bind fun _ _ => rfl)
  | insert text params =>
    refine hguarded (course_bind fun reply d => ?_)
    cases firstCell reply <;> rfl
  | fetchAll text params =>
    have hrows := course_bind (c := c) (x := k.fetchAll text params)
      (f := fun rows => pure (Json.list rows)) fun _ _ => rfl
    change ((k.fetchAll text params >>= fun rows => pure (Json.list rows)) c).2.toSite = _ ∧
      ((k.fetchAll text params >>= fun rows => pure (Json.list rows)) c).2.work = _
    rw [hrows]
    exact hguarded (course_bind fun _ _ => rfl)
  | fetchOne text params =>
    exact hguarded ((course_bind fun _ _ => rfl).trans (course_bind fun _ _ => rfl))

end Requests

/-! ### Transactions -/

/-- **What has been done since a blank diary**: first some statements that are not the task's, and
then what stands in the diary.  All of it is held, if the outcome is no failure. -/
structure Enacts (first : List Event) (c : Course (Notes S)) (r : Except Failure Json)
    (d : Course (Notes S)) : Prop where
  joined : d.joined = true
  metadata : d.store.metadata = c.store.metadata
  applied : ∀ a, r = .ok a → d.store.applied = d.work.diary.kept ++ first ++ c.store.applied
  events : ∃ new issued, d.store.events = new ++ c.store.events ∧ (∀ e ∈ new, e.ofPool = false) ∧
    new.filter Event.hasText = d.work.diary.issued ++ issued ∧ issued.Sublist first

/-- A transaction does what its body does. -/
lemma Enacts.transaction {body : Action (Notes S) Json} {first : List Event}
    {c d : Course (Notes S)} {r : Except Failure Json} (hj : c.joined = true)
    (hdiary : c.work.diary = .blank) (hbody : ∀ b, b.joined = true → b.work.diary = .blank →
      Enacts first b (body b).1 (body b).2) (h : Action.transaction body c = (r, d)) :
    Enacts first c r d := by
  cases Action.encloses h with
  | @refused e s hheld hevents =>
    refine ⟨hj, hheld.1, nofun, [.begin c.store.depth], [], hevents, ?_, ?_, List.nil_sublist _⟩
    · exact List.forall_mem_singleton.2 rfl
    · rw [hdiary]
      rfl
  | @ran _ r' s _ d' last hran hheld hevents hwork hjoined hlast hend herror hok =>
    have hdone := hbody (Action.begun c s) hj hdiary
    rw [hran] at hdone
    obtain ⟨new, issued, hnew, hpool, hissued, hfirst⟩ := hdone.events
    have hlast : last.ofPool = false ∧ last.hasText = false := by
      rcases hlast with rfl | ⟨e, rfl⟩ <;> exact ⟨rfl, rfl⟩
    have hbegun : d'.store.events = new ++ .begin c.store.depth :: c.store.events :=
      hnew.trans (congrArg (new ++ ·) hevents)
    refine ⟨hjoined.trans hdone.joined, ?_, fun a ha => ?_,
      last :: (new ++ [.begin c.store.depth]), issued, ?_, ?_, ?_, hfirst⟩
    · cases r with
      | error e => exact (herror e rfl).1
      | ok a => exact (hok a rfl).2.2.1.trans (hdone.metadata.trans hheld.1)
    · have happlied : d'.store.applied = d'.work.diary.kept ++ first ++ s.applied :=
        hdone.applied a (hok a ha).1
      rw [(hok a ha).2.2.2, happlied, hheld.2, hwork]
    · rw [hend, hbegun, List.cons_append, List.append_assoc, List.singleton_append]
    · refine List.forall_mem_cons.2 ⟨hlast.1, fun e he => ?_⟩
      rcases List.mem_append.1 he with he | he
      · exact hpool e he
      · rw [List.mem_singleton.1 he]
        rfl
    · rw [List.filter_cons_of_neg (by simp [hlast.2]), List.filter_append, hissued, hwork,
        List.filter_cons_of_neg Bool.false_ne_true, List.filter_nil, List.append_nil]

/-! ### Diaries that account for all -/

/-- **A diary accounts for a course** of work in a transaction: for all that is held since a store
was as it is given, and for all that has happened since on the one connection. -/
structure Accounts (base : Store) (c : Course (Notes S)) : Prop where
  joined : c.joined = true
  metadata : c.store.metadata = base.metadata
  applied : c.store.applied = c.work.diary.kept ++ base.applied
  events : ∃ new, c.store.events = new ++ base.events ∧ (∀ e ∈ new, e.ofPool = false) ∧
    new.filter Event.hasText = c.work.diary.issued

namespace Accounts

variable {k : Connection} {base : Store} {c d : Course (Notes S)}

lemma start (hj : c.joined = true) (hdiary : c.work.diary = .blank) : Accounts c.store c where
  joined := hj
  metadata := rfl
  applied := by rw [hdiary]; rfl
  events := ⟨[], rfl, nofun, by rw [hdiary]; rfl⟩

/-- What has been done, if an account begins behind other statements. -/
lemma enacts (h : Accounts base d) {first : List Event}
    (hmetadata : base.metadata = c.store.metadata)
    (happlied : base.applied = first ++ c.store.applied)
    (hevents : base.events = first ++ c.store.events)
    (hfirst : ∀ e ∈ first, e.ofPool = false ∧ e.hasText = true) (r : Except Failure Json) :
    Enacts first c r d where
  joined := h.joined
  metadata := h.metadata.trans hmetadata
  applied _ _ := by rw [h.applied, happlied, List.append_assoc]
  events := by
    obtain ⟨new, hnew, hpool, hissued⟩ := h.events
    refine ⟨new ++ first, first, by rw [hnew, hevents, List.append_assoc], fun e he => ?_, ?_,
      List.Sublist.refl _⟩
    · rcases List.mem_append.1 he with he | he
      · exact hpool e he
      · exact (hfirst e he).1
    · rw [List.filter_append, hissued, List.filter_eq_self.2 fun e he => (hfirst e he).2]

/-- A request stays in the account. -/
lemma request (h : Accounts base c) (r : Request) : Accounts base (r.noted k c).2 := by
  obtain ⟨hsite, hwork⟩ := r.run_joined k h.joined
  rcases hrun : c.store.run r.event (.plain r.text) with ⟨reply, t⟩
  have hstore : (r.run k c).2.store = t := (congrArg Site.store hsite).trans (by rw [hrun])
  have haccepted : r.accepted c.store = reply.isOk := by rw [Request.accepted, hrun]
  obtain ⟨hmetadata, happlied⟩ := Store.held_run_plain hrun
  have hevents := Store.events_run c.store r.event (.plain r.text)
  rw [hrun] at hevents
  obtain ⟨new, hnew, hpool, hissued⟩ := h.events
  refine ⟨(congrArg Site.joined hsite).trans h.joined, ?_, ?_, r.event :: new, ?_, ?_, ?_⟩
  · exact (congrArg Store.metadata hstore).trans (hmetadata.trans h.metadata)
  · change (r.run k c).2.store.applied =
      Diary.kept (.request (r.run k c).2.work.diary r (r.accepted c.store)) ++ base.applied
    rw [hstore, hwork, happlied, h.applied, Diary.kept, haccepted]
    cases reply.isOk <;> rfl
  · change (r.run k c).2.store.events = r.event :: new ++ base.events
    rw [hstore, hevents, hnew, List.cons_append]
  · exact List.forall_mem_cons.2 ⟨by cases r <;> rfl, hpool⟩
  · change _ = Diary.issued (.request (r.run k c).2.work.diary r (r.accepted c.store))
    rw [hwork, Diary.issued, List.filter_cons_of_pos (by cases r <;> rfl), hissued]

/-- A transaction inside stays in the account, however it ends. -/
lemma nested (h : Accounts base c) (exclusive : Bool) {task : Action (Notes S) Json}
    (htask : ∀ b, b.joined = true → b.work.diary = .blank → Accounts b.store (task b).2) :
    Accounts base (nestedNoted k exclusive task c).2 := by
  let c' : Course (Notes S) := { c with work := { c.work with diary := .blank } }
  rcases ht : k.transaction exclusive task c' with ⟨r, d⟩
  have hnoted : (nestedNoted k exclusive task c).2 =
      { d with work := { d.work with diary := c.work.diary.nested d.work.diary r.isOk } } := by
    change _ = { (r, d).2 with work :=
      { (r, d).2.work with diary := c.work.diary.nested (r, d).2.work.diary (r, d).1.isOk } }
    rw [← ht]
    rfl
  have hinside : Action.transaction task c' = (r, d) :=
    (transaction_joined (c := c') h.joined).symm.trans ht
  have hdone : Enacts [] c' r d :=
    Enacts.transaction h.joined rfl (fun b hj hdiary => (htask b hj hdiary).enacts rfl rfl rfl
      (fun _ he => absurd he List.not_mem_nil) _) hinside
  obtain ⟨new, issued, hnew, hpool, hissued, hfirst⟩ := hdone.events
  obtain ⟨before, hbefore, hbeforePool, hbeforeIssued⟩ := h.events
  rw [hnoted]
  refine ⟨hdone.joined, hdone.metadata.trans h.metadata, ?_, new ++ before, ?_, ?_, ?_⟩
  · cases r with
    | error e =>
      exact (Action.transaction_eq_error hinside).2.trans h.applied
    | ok a =>
      change d.store.applied = d.work.diary.kept ++ c.work.diary.kept ++ base.applied
      rw [hdone.applied a rfl, List.append_nil, List.append_assoc, ← h.applied]
  · exact hnew.trans (by rw [List.append_assoc, ← hbefore])
  · intro e he
    rcases List.mem_append.1 he with he | he
    · exact hpool e he
    · exact hbeforePool e he
  · rw [List.filter_append, hissued, List.sublist_nil.1 hfirst, List.append_nil, hbeforeIssued]
    rfl

end Accounts

/-- **The diary of a task accounts for what it does.** -/
theorem accounts_run (k : Connection) (task : Task S) : ∀ {base : Store} {c : Course (Notes S)},
    Accounts base c → Accounts base (task.run k c).2 := by
  induction task with
  | done outcome =>
    intro base c h
    cases outcome <;> exact h
  | consult next ih => exact fun h => ih _ h
  | remember memory next ih => exact fun h => ih ⟨h.joined, h.metadata, h.applied, h.events⟩
  | request r next ih => exact fun h => ih _ (h.request r)
  | nested exclusive task next ihtask ih =>
    intro base c h
    exact ih _ (h.nested exclusive fun b hj hdiary => ihtask (.start hj hdiary))

end Connection

end PgSchema
