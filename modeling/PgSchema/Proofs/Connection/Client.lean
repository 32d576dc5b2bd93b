import PgSchema.Proofs.Connection.Stages
import PgSchema.Proofs.Lock.Safety

/-!
Clients of a connection.

A `Client` is all that an application does with a connection on one thread, a tree of calls and of
the tasks that it has run in transactions.  It goes on by what comes of each call.

A run of a client may be attended (`Client.attended`).  Other threads come and go at the lock
meanwhile, and a ledger is kept: of each moment at which the client itself is at work, and of what
comes of each transaction.  What holds at the beginning and is kept by each part of a call holds
throughout (`Kept.attended`).
-/

namespace PgSchema

open Course (Onward)

namespace Connection

/-- **A client**: what an application does with a connection, with a memory of its own. -/
inductive Client (S : Type) where
  /-- The client returns or fails. -/
  | done (outcome : Except Failure Json)
  /-- The client goes on by what it remembers. -/
  | consult (next : S → Client S)
  /-- The client remembers something else. -/
  | remember (memory : S) (next : Client S)
  /-- The client has the schema brought in line, for the result or for the connection. -/
  | migrate (next : Except Failure Migration.Result → Client S)
  /-- The client makes a request. -/
  | request (r : Request) (next : Except Failure Json → Client S)
  /-- The client creates a model.  What its factory asks of the connection is asked before. -/
  | create (t : Table) (made : Except Failure Json) (cell : String → Except Fault Json)
      (next : Except Failure Json → Client S)
  /-- The client has a task run in a transaction, by itself or by one of the workers, and waits for
  what comes of it. -/
  | transact (aside exclusive : Bool) (task : Client S) (next : Except Failure Json → Client S)

variable {S : Type}

/-- A client is run. -/
def Client.run (k : Connection) : Client S → Action S Json
  | done outcome => Action.ofOutcome outcome
  | consult next => do (next (← Action.work)).run k
  | remember memory next => do
    Action.changeWork fun _ => memory
    next.run k
  | migrate next => do (next (← Action.outcome k.ensureMigrated)).run k
  | request r next => do (next (← Action.outcome (r.run k))).run k
  | create t made cell next => do (next (← Action.outcome (k.create t made cell))).run k
  | transact aside exclusive task next => do
    (next (← Action.outcome (k.awaited aside exclusive (task.run k)))).run k

/-! ### Ledgers -/

/-- A task that runs: on which thread, in which kind of transaction, whether there is none around
it, and the store when it began. -/
structure Frame where
  thread : String
  exclusive : Bool
  outermost : Bool
  start : Store

/-- A moment at which a client is at work: the tasks that run, innermost first, the lock with all
its workers, and the store. -/
structure Moment where
  frames : List Frame
  lock : Lock
  store : Store

/-- What came of a call for a transaction: its kind, whether it was in another one, what came of the
task if it ran, and what came of the call. -/
structure Report where
  exclusive : Bool
  nested : Bool
  task : Option (Except Failure Json)
  call : Except Failure Json

/-- What a worker other than those of the client does at the lock. -/
inductive Move where
  | arrive (name : String) (mode : Lock.Mode)
  | recheck (name : String)
  | release (name : String)
  /-- Sleepers are notified, if only because the client has left. -/
  | notify

/-- What is kept about a run: the memory of the client, the workers at the lock, what the others
will do there before each step of the client, whether the lock has admitted the client so far, and
all that is told of the run. -/
structure Ledger (S : Type) where
  memory : S
  workers : Entries Lock.Phase := []
  others : List (List Move) := []
  live : Bool := true
  /-- What came of the last task, if it ran. -/
  came : Option (Except Failure Json) := none
  /-- The moments at which the client was at work, newest first. -/
  moments : List Moment := []
  /-- The reports on transactions, newest first. -/
  reports : List Report := []

end Connection

open Connection (Frame Move Ledger)

variable {S : Type}

/-- A worker that is none of the client's makes a move.  Nobody comes by a name that is taken. -/
def Lock.move (own : List String) (l : Lock) : Move → Lock
  | .arrive name mode => if name ∈ l.workers.keys then l else l.arrive name mode
  | .recheck name => l.recheck name
  | .release name => if name ∈ own then l else (l.release? name).getD l
  | .notify => l.notify

namespace Course

/-- The others make their moves, and the moment is written down. -/
def attend (frames : List Frame) (c : Course (Ledger S)) : Course (Ledger S) :=
  let l := (c.work.others.headD []).foldl (Lock.move (frames.map Frame.thread))
    ⟨c.counts, c.work.workers⟩
  { c with
    counts := l.counts
    work := { c.work with
      workers := l.workers
      others := c.work.others.tail
      moments := if c.work.live then ⟨frames, l, c.store⟩ :: c.work.moments else c.work.moments } }

/-- The client comes to the lock, by a new name if it is another thread.  A client that is not
admitted waits, and what it does once it is admitted is another run, in which others move first. -/
def approach (sides : List Lock.Mode) (newcomer : Option String) (c : Course (Ledger S)) :
    Course (Ledger S) :=
  { c with work := { c.work with
      live := c.work.live && c.admits sides && newcomer.all (· ∉ c.work.workers.keys)
      came := none } }

/-- The client holds the lock for a task, if the task is that of an outermost transaction. -/
def hold (f : Frame) (c : Course (Ledger S)) : Course (Ledger S) :=
  if f.outermost then
    { c with work := { c.work with
        workers := c.work.workers.put f.thread (.holding (.of f.exclusive)) } }
  else c

/-- Holding the lock changes nothing else. -/
lemma hold_eq (f : Frame) (c : Course (Ledger S)) : ∃ workers,
    c.hold f = { c with work := { c.work with workers } } := by
  unfold hold
  split
  · exact ⟨_, rfl⟩
  · exact ⟨_, rfl⟩

/-- The client has done its task. -/
def letGo (f : Frame) (outcome : Except Failure Json) (c : Course (Ledger S)) :
    Course (Ledger S) :=
  { c with work := { c.work with
      workers := if f.outermost then c.work.workers.erase f.thread else c.work.workers
      came := some outcome } }

/-- What came of a call is written down. -/
def report (exclusive nested : Bool) (call : Except Failure Json) (c : Course (Ledger S)) :
    Course (Ledger S) :=
  { c with work := { c.work with
      reports := ⟨exclusive, nested, c.work.came, call⟩ :: c.work.reports } }

end Course

namespace Connection

/-! ### Attended runs -/

/-- The task of a transaction, in a frame of its own. -/
def framed (exclusive outermost : Bool) (thread : String)
    (task : Frame → Action (Ledger S) Json) : Action (Ledger S) Json := fun c =>
  let f : Frame := ⟨thread, exclusive, outermost, c.store⟩
  let (r, d) := task f (c.hold f)
  (r, d.letGo f r)

/-- The thread of a task that is run inside others: a new one if it is run by one of the workers. -/
def threadOf (name : Nat → String) (aside : Bool) (frames : List Frame) : String :=
  if aside then name (frames.length + 1)
  else match frames with
    | [] => name 0
    | f :: _ => f.thread

/-- A call for a transaction, with a report on it. -/
def transactAttended (k : Connection) (name : Nat → String) (frames : List Frame)
    (aside exclusive : Bool) (task : Frame → Action (Ledger S) Json) :
    Action (Ledger S) (Except Failure Json) := fun c =>
  let outermost := aside || frames.isEmpty
  let thread := threadOf name aside frames
  let sides := if outermost then [.of exclusive] else []
  let newcomer := if outermost then some thread else none
  let (r, d) := k.awaited aside exclusive (framed exclusive outermost thread task)
    (c.approach sides newcomer)
  (.ok r, d.report exclusive (!outermost) r)

/-- **A client is run and attended**, inside the tasks that are given, on threads by their names. -/
def Client.attended (k : Connection) (name : Nat → String) :
    Client S → List Frame → Action (Ledger S) Json
  | done outcome, frames => do
    Action.change (Course.attend frames)
    Action.ofOutcome outcome
  | consult next, frames => do
    Action.change (Course.attend frames)
    (next (← Action.work).memory).attended k name frames
  | remember memory next, frames => do
    Action.change (Course.attend frames)
    Action.changeWork fun n => { n with memory }
    next.attended k name frames
  | migrate next, frames => do
    Action.change (Course.attend frames)
    Action.change (Course.approach [] none)
    (next (← Action.outcome k.ensureMigrated)).attended k name frames
  | request r next, frames => do
    Action.change (Course.attend frames)
    Action.change (Course.approach (if frames.isEmpty then [r.mode] else []) none)
    (next (← Action.outcome (r.run k))).attended k name frames
  | create t made cell next, frames => do
    Action.change (Course.attend frames)
    Action.change (Course.approach (if frames.isEmpty then [.write, .read] else []) none)
    (next (← Action.outcome (k.create t made cell))).attended k name frames
  | transact aside exclusive task next, frames => do
    Action.change (Course.attend frames)
    let r ← k.transactAttended name frames aside exclusive
      fun f => task.attended k name (f :: frames)
    (next r).attended k name frames

/-! ### Induction over attended runs -/

/-- **What each part of a call keeps.** -/
structure Kept (name : Nat → String) (P : List Frame → Course (Ledger S) → Prop) : Prop where
  attend : ∀ {frames c}, P frames c → P frames (c.attend frames)
  remember : ∀ {frames c} (memory : S), P frames c →
    P frames { c with work := { c.work with memory } }
  /-- A call that is no transaction. -/
  call : ∀ {frames sides c d}, P frames c → Onward sides (c.approach sides none) d → P frames d
  /-- A transaction whose task does not begin. -/
  barred : ∀ {frames sides newcomer exclusive nested e c d}, P frames c →
    Onward sides (c.approach sides newcomer) d → P frames (d.report exclusive nested (.error e))
  /-- The task of a transaction begins. -/
  entered : ∀ {frames aside exclusive outermost thread c b}, P frames c →
    outermost = (aside || frames.isEmpty) → thread = threadOf name aside frames →
    Entered outermost exclusive (c.approach (if outermost then [.of exclusive] else [])
      (if outermost then some thread else none)) b →
    P (⟨thread, exclusive, outermost, b.store⟩ :: frames)
      (b.hold ⟨thread, exclusive, outermost, b.store⟩)
  /-- The task of a transaction has ended. -/
  left : ∀ {frames f c' d d' r r'}, P (f :: frames) d' →
    Left f.outermost f.exclusive c' (d'.letGo f r') d →
    (∀ e, r' = .error e → r = .error (if f.outermost then reported f.exclusive e else e)) →
    P frames (d.report f.exclusive (!f.outermost) r)

namespace Kept

variable {k : Connection} {name : Nat → String} {P : List Frame → Course (Ledger S) → Prop}
  {frames : List Frame} {c : Course (Ledger S)}

/-- A call for a transaction. -/
lemma transact (h : Kept name P) (k : Connection) (aside exclusive : Bool)
    {task : Frame → Action (Ledger S) Json} (htask : ∀ f b, b.joined = true → P (f :: frames) b →
      (task f b).2.joined = true ∧ P (f :: frames) (task f b).2)
    (hjoined : c.joined = !frames.isEmpty) (hc : P frames c) :
    (k.transactAttended name frames aside exclusive task c).2.joined = !frames.isEmpty ∧
      P frames (k.transactAttended name frames aside exclusive task c).2 := by
  let outermost := aside || frames.isEmpty
  let thread := threadOf name aside frames
  let c' := c.approach (if outermost then [.of exclusive] else [])
    (if outermost then some thread else none)
  rcases hcall : k.awaited aside exclusive (framed exclusive outermost thread task) c' with ⟨r, d⟩
  have hresult : k.transactAttended name frames aside exclusive task c =
      (.ok r, d.report exclusive (!outermost) r) := by
    unfold transactAttended
    dsimp only
    rw [show k.awaited aside exclusive (framed exclusive (aside || frames.isEmpty)
      (threadOf name aside frames) task) _ = (r, d) from hcall]
  have houter : (aside || !c'.joined) = outermost := by
    rw [show c'.joined = !frames.isEmpty from hjoined, Bool.not_not]
  have hstage := stage_awaited hcall
  rw [houter] at hstage
  rw [hresult]
  cases hstage with
  | barred hd => exact ⟨hd.joined.trans hjoined, h.barred hc hd⟩
  | @ran b d' _ _ r' hentered hrun hleft herror =>
    let f : Frame := ⟨thread, exclusive, outermost, b.store⟩
    obtain ⟨rfl, rfl⟩ : (task f (b.hold f)).1 = r' ∧ (task f (b.hold f)).2.letGo f
        (task f (b.hold f)).1 = d' := Prod.mk.inj hrun
    have hinside : (b.hold f).joined = true := by
      obtain ⟨workers, hhold⟩ := b.hold_eq f
      rw [hhold]
      exact hentered.joined
    obtain ⟨hjoined', hd'⟩ := htask f _ hinside (h.entered hc rfl rfl hentered)
    refine ⟨hleft.joined.trans ?_, h.left (f := f) hd' hleft herror⟩
    cases hframes : outermost with
    | true => exact hjoined
    | false =>
      obtain ⟨-, hempty⟩ := Bool.or_eq_false_iff.1 hframes
      rw [hempty]
      exact hjoined'

/-- **What each part of a call keeps, is kept by a whole run.** -/
theorem attended (h : Kept name P) (client : Client S) : ∀ {frames : List Frame}
    {c : Course (Ledger S)}, c.joined = !frames.isEmpty → P frames c →
      (client.attended k name frames c).2.joined = !frames.isEmpty ∧
        P frames (client.attended k name frames c).2 := by
  -- a call that goes on to a later course, behind which the client goes on
  have hcall : ∀ {α : Type} {x : Action (Ledger S) α} {sides : List Lock.Mode}
      {frames : List Frame} {c : Course (Ledger S)}, x.Onwards (!frames.isEmpty) sides →
      c.joined = !frames.isEmpty → P frames c →
      ((x ((c.attend frames).approach sides none)).2.joined = !frames.isEmpty ∧
        P frames (x ((c.attend frames).approach sides none)).2) := by
    intro α x sides frames c hx hjoined hc
    have hd := hx ((c.attend frames).approach sides none) hjoined
    exact ⟨hd.joined.trans hjoined, h.call (h.attend hc) hd⟩
  induction client with
  | done outcome =>
    intro frames c hjoined hc
    cases outcome <;> exact ⟨hjoined, h.attend hc⟩
  | consult next ih => exact fun hjoined hc => ih _ hjoined (h.attend hc)
  | remember memory next ih => exact fun hjoined hc => ih hjoined (h.remember memory (h.attend hc))
  | migrate next ih =>
    intro frames c hjoined hc
    obtain ⟨hjoined', hd⟩ := hcall k.onwards_ensureMigrated hjoined hc
    exact ih _ hjoined' hd
  | request r next ih =>
    intro frames c hjoined hc
    have hmode : (!frames.isEmpty) = true ∨
        r.mode ∈ if frames.isEmpty then [r.mode] else ([] : List Lock.Mode) := by
      cases frames with
      | nil => exact .inr (List.mem_singleton.2 rfl)
      | cons f frames => exact .inl rfl
    obtain ⟨hjoined', hd⟩ := hcall (Request.onwards k r hmode) hjoined hc
    exact ih _ hjoined' hd
  | create t made cell next ih =>
    intro frames c hjoined hc
    have hmodes : (!frames.isEmpty) = true ∨
        .write ∈ (if frames.isEmpty then [.write, .read] else ([] : List Lock.Mode)) ∧
        .read ∈ if frames.isEmpty then [.write, .read] else ([] : List Lock.Mode) := by
      cases frames with
      | nil => exact .inr (by decide)
      | cons f frames => exact .inl rfl
    obtain ⟨hjoined', hd⟩ := hcall (k.onwards_create t made cell hmodes) hjoined hc
    exact ih _ hjoined' hd
  | transact aside exclusive task next ihtask ih =>
    intro frames c hjoined hc
    obtain ⟨hjoined', hd⟩ := h.transact k aside exclusive (c := c.attend frames)
      (fun _ _ hb => ihtask hb) hjoined (h.attend hc)
    exact ih _ hjoined' hd

end Kept

end Connection

end PgSchema
