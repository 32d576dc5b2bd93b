import PgSchema.Proofs.Connection.Client

/-!
Which tasks run alone.

A task runs on a thread that holds a side of the lock as long as a task of that thread runs, and in
a transaction whose isolation was set before all else in it (`Held`).  Both were chosen by the
outermost call on the thread.  A call inside of it gets what the outermost one chose, whichever kind
of transaction it asks for (`runs_alone_iff`).
-/

namespace PgSchema

open Store (Event)
open Course (Onward)

/-! ### Moves at the lock -/

namespace Lock

variable {l : Lock} {own : List String} {name other : String} {mode side : Mode}

/-- A worker that is admitted enters as it arrives. -/
lemma Counted.enter (h : Counted l) (hnew : name ∉ l.workers.keys)
    (hadmits : l.counts.admits mode = true) :
    Counted ⟨(l.counts.arrive mode).enter mode, l.workers.put name (.holding mode)⟩ := by
  have hadmitted : (l.counts.arrive mode).admits mode = true := by
    cases mode <;> exact hadmits
  have hlook := (h.arrive hnew mode).counted
  rwa [look, if_pos hadmitted] at hlook

/-- Another worker that looks lets the holders be. -/
lemma holding_look (hname : (name, .holding mode) ∈ l.workers) (hne : name ≠ other) :
    (name, .holding mode) ∈ (l.look other side).workers := by
  unfold look
  split
  · exact Entries.mem_put_of_ne hname hne
  · exact Entries.mem_put_of_ne hname hne

lemma holding_notify (hname : (name, .holding mode) ∈ l.workers) :
    (name, .holding mode) ∈ l.notify.workers := by
  rw [workers_notify]
  exact List.mem_map.2 ⟨_, hname, rfl⟩

/-- **A move of a worker that is none of one's own** keeps the counts right, and lets one's own
holders be. -/
lemma Counted.move (h : Counted l) (m : Connection.Move) : Counted (l.move own m) ∧
    ∀ name mode, name ∈ own → (name, .holding mode) ∈ l.workers →
      (name, .holding mode) ∈ (l.move own m).workers := by
  cases m with
  | arrive other side =>
    unfold Lock.move
    dsimp only
    split
    · exact ⟨h, fun _ _ _ hname => hname⟩
    · rename_i hnew
      refine ⟨h.step (.arrive hnew), fun name mode _ hname => holding_look hname ?_⟩
      rintro rfl
      exact hnew (Entries.mem_keys hname)
  | recheck other =>
    unfold Lock.move Lock.recheck
    dsimp only
    split
    · rename_i side hother
      refine ⟨(h.recheck (Entries.mem_of_get? hother)).counted, fun name mode _ hname =>
        holding_look hname ?_⟩
      rintro rfl
      rw [(Entries.get?_eq_some_iff h.nodup).2 hname] at hother
      cases hother
    · exact ⟨h, fun _ _ _ hname => hname⟩
  | release other =>
    unfold Lock.move
    dsimp only
    split
    · exact ⟨h, fun _ _ _ hname => hname⟩
    · rename_i hother
      cases hleft : l.release? other with
      | none => exact ⟨h, fun _ _ _ hname => hname⟩
      | some l' =>
        refine ⟨h.step (.release hleft), fun name mode hown hname => ?_⟩
        have hkept : (name, .holding mode) ∈ l.workers.erase other :=
          List.mem_filter.2 ⟨hname, bne_iff_ne.2 fun heq => hother (heq ▸ hown)⟩
        obtain ⟨_, -, rfl⟩ := release?_eq_some hleft
        change (name, .holding mode) ∈ Lock.workers (if _ then _ else _)
        split
        · exact holding_notify hkept
        · exact hkept
  | notify => exact ⟨h.notify, fun _ _ _ hname => holding_notify hname⟩

end Lock

namespace Connection

variable {S : Type}

open Lock (Counted Phase)

/-! ### Tasks inside tasks -/

/-- The outermost task on the thread of the innermost one. -/
def governor : List Frame → Option Frame
  | [] => none
  | f :: below => if f.outermost then some f else governor below

/-- A task began right behind the beginning of a transaction and the statements that set the
isolation of a kind of transaction: that is in effect, and nothing else has happened in the
transaction. -/
structure Frame.Isolated (f : Frame) (exclusive : Bool) : Prop where
  events : ∃ depth before, f.start.events = isolation exclusive ++ .begin depth :: before
  applied : isolation exclusive <+: f.start.applied

lemma Frame.Isolated.serializable_iff {f : Frame} {exclusive : Bool} (h : f.Isolated exclusive) :
    f.Isolated true ↔ exclusive = true := by
  refine ⟨fun htrue => ?_, fun he => he ▸ h⟩
  obtain ⟨depth, before, hevents⟩ := h.events
  obtain ⟨depth', before', hevents'⟩ := htrue.events
  cases exclusive with
  | true => rfl
  | false =>
    -- the last event cannot be the beginning and the statement that sets the isolation
    rw [hevents] at hevents'
    cases hevents'

/-- **Tasks that run inside each other.**  An outermost one is on a thread of its own, which holds
the side of the lock for its kind of transaction, and began right behind the isolation for it.  A
nested one is on the same thread as the one around it. -/
inductive Held (workers : Entries Phase) (events : List Event) : List Frame → Prop
  | nil : Held workers events []
  | outermost {f : Frame} {below : List Frame} (h : Held workers events below)
      (houtermost : f.outermost = true) (hnew : f.thread ∉ below.map Frame.thread)
      (hholds : (f.thread, .holding (.of f.exclusive)) ∈ workers)
      (hisolated : f.Isolated f.exclusive) (hevents : f.start.events <:+ events) :
      Held workers events (f :: below)
  | nested {f around : Frame} {below : List Frame} (h : Held workers events (around :: below))
      (houtermost : f.outermost = false) (hthread : f.thread = around.thread) :
      Held workers events (f :: around :: below)

namespace Held

variable {workers workers' : Entries Phase} {events events' : List Event} {frames : List Frame}

/-- The holders stay, and there are more events. -/
lemma mono (h : Held workers events frames)
    (hworkers : ∀ name mode, name ∈ frames.map Frame.thread →
      (name, .holding mode) ∈ workers → (name, .holding mode) ∈ workers')
    (hevents : events <:+ events') : Held workers' events' frames := by
  induction h with
  | nil => exact .nil
  | outermost _ houtermost hnew hholds hisolated hbefore ih =>
    exact .outermost (ih fun name mode hname => hworkers name mode (List.mem_cons_of_mem _ hname))
      houtermost hnew (hworkers _ _ List.mem_cons_self hholds) hisolated
      (hbefore.trans hevents)
  | nested _ houtermost hthread ih =>
    exact .nested (ih fun name mode hname => hworkers name mode (List.mem_cons_of_mem _ hname))
      houtermost hthread

/-- The threads of tasks are at the lock. -/
lemma mem_keys (h : Held workers events frames) :
    ∀ name ∈ frames.map Frame.thread, name ∈ workers.keys := by
  induction h with
  | nil => nofun
  | outermost _ _ _ hholds _ _ ih => exact List.forall_mem_cons.2 ⟨Entries.mem_keys hholds, ih⟩
  | nested _ _ hthread ih =>
    exact List.forall_mem_cons.2 ⟨hthread ▸ ih _ List.mem_cons_self, ih⟩

lemma of_suffix (h : Held workers events frames) {below : List Frame}
    (hbelow : below <:+ frames) : Held workers events below := by
  induction h with
  | nil => rw [List.suffix_nil.1 hbelow]; exact .nil
  | outermost h houtermost hnew hholds hisolated hbefore ih =>
    rcases List.suffix_cons_iff.1 hbelow with rfl | hbelow
    · exact .outermost h houtermost hnew hholds hisolated hbefore
    · exact ih hbelow
  | nested h houtermost hthread ih =>
    rcases List.suffix_cons_iff.1 hbelow with rfl | hbelow
    · exact .nested h houtermost hthread
    · exact ih hbelow

/-- A task has a governor, and its thread holds the side of the lock that this one took. -/
lemma governor_eq {f : Frame} {below : List Frame} (h : Held workers events (f :: below)) :
    ∃ g, governor (f :: below) = some g ∧ g.thread = f.thread ∧
      (f.thread, .holding (.of g.exclusive)) ∈ workers ∧ g.Isolated g.exclusive ∧
      g.start.events <:+ events := by
  induction below generalizing f with
  | nil =>
    cases h with
    | outermost _ houtermost _ hholds hisolated hbefore =>
      exact ⟨f, if_pos houtermost, rfl, hholds, hisolated, hbefore⟩
  | cons around below ih =>
    cases h with
    | outermost _ houtermost _ hholds hisolated hbefore =>
      exact ⟨f, if_pos houtermost, rfl, hholds, hisolated, hbefore⟩
    | nested h houtermost hthread =>
      obtain ⟨g, hgovernor, hg⟩ := ih h
      rw [governor, if_neg (by simp [houtermost]), hthread]
      exact ⟨g, hgovernor, hg⟩

end Held

/-! ### Orderly runs -/

/-- A lock and a store while tasks run. -/
structure Orderly (lock : Lock) (store : Store) (frames : List Frame) : Prop where
  counted : Counted lock
  held : Held lock.workers store.events frames

namespace Orderly

variable {lock : Lock} {store store' : Store} {frames : List Frame}

lemma later (h : Orderly lock store frames) (hevents : store.events <:+ store'.events) :
    Orderly lock store' frames :=
  ⟨h.counted, h.held.mono (fun _ _ _ hname => hname) hevents⟩

lemma move (h : Orderly lock store frames) (m : Move) :
    Orderly (lock.move (frames.map Frame.thread) m) store frames := by
  obtain ⟨hcounted, hholding⟩ := h.counted.move m
  exact ⟨hcounted, h.held.mono hholding (List.suffix_refl _)⟩

lemma moves (h : Orderly lock store frames) (moves : List Move) :
    Orderly (moves.foldl (Lock.move (frames.map Frame.thread)) lock) store frames := by
  induction moves generalizing lock with
  | nil => exact h
  | cons m moves ih => exact ih (h.move m)

/-- An outermost task begins. -/
lemma enter {f : Frame} (h : Orderly lock store frames) (houtermost : f.outermost = true)
    (hnew : f.thread ∉ lock.workers.keys)
    (hadmits : lock.counts.admits (.of f.exclusive) = true) (hisolated : f.Isolated f.exclusive)
    (hevents : store.events <:+ f.start.events) :
    Orderly ⟨(lock.counts.arrive (.of f.exclusive)).enter (.of f.exclusive),
      lock.workers.put f.thread (.holding (.of f.exclusive))⟩ f.start (f :: frames) := by
  have hothers : f.thread ∉ frames.map Frame.thread := fun hmem => hnew (h.held.mem_keys _ hmem)
  refine ⟨h.counted.enter hnew hadmits, .outermost (h.held.mono (fun name mode hname hholds => ?_)
    hevents) houtermost hothers (Entries.mem_put_self _ _ _) hisolated (List.suffix_refl _)⟩
  exact Entries.mem_put_of_ne hholds fun heq => hothers (heq ▸ hname)

/-- An outermost task has ended. -/
lemma leave {f : Frame} (h : Orderly lock store (f :: frames)) (houtermost : f.outermost = true) :
    Orderly ⟨lock.counts.leave (.of f.exclusive), lock.workers.erase f.thread⟩ store frames := by
  cases h.held with
  | outermost hheld _ hnew hholds _ _ =>
    refine ⟨h.counted.leave hholds, hheld.mono (fun name mode hname hholds => ?_)
      (List.suffix_refl _)⟩
    exact List.mem_filter.2 ⟨hholds, bne_iff_ne.2 fun heq => hnew (heq ▸ hname)⟩
  | nested _ hnested _ =>
    rw [houtermost] at hnested
    cases hnested

end Orderly

/-- **What holds throughout an attended run**: each moment was orderly, and so is the course unless
the lock has kept the client out. -/
structure Tidy (frames : List Frame) (c : Course (Ledger S)) : Prop where
  moments : ∀ m ∈ c.work.moments, Orderly m.lock m.store m.frames
  live : c.work.live = true → Orderly ⟨c.counts, c.work.workers⟩ c.store frames

namespace Tidy

variable {name : Nat → String} {frames : List Frame} {c : Course (Ledger S)}

/-- A client that is still admitted was admitted before. -/
lemma of_approach (h : Tidy frames c) {sides : List Lock.Mode} {newcomer : Option String}
    (hlive : (c.approach sides newcomer).work.live = true) :
    Orderly ⟨c.counts, c.work.workers⟩ c.store frames ∧ c.admits sides = true ∧
      ∀ thread ∈ newcomer, thread ∉ c.work.workers.keys := by
  obtain ⟨hbefore, hnew⟩ := Bool.and_eq_true_iff.1 hlive
  obtain ⟨hbefore, hadmits⟩ := Bool.and_eq_true_iff.1 hbefore
  exact ⟨h.live hbefore, hadmits, fun thread hthread =>
    of_decide_eq_true ((Option.all_eq_true _ _).1 hnew thread hthread)⟩

/-- A call that starts no task. -/
lemma onward (h : Tidy frames c) {sides : List Lock.Mode} {newcomer : Option String}
    {d : Course (Ledger S)} (hd : Onward sides (c.approach sides newcomer) d) : Tidy frames d where
  moments := by
    rw [hd.work]
    exact h.moments
  live hlive := by
    rw [hd.work] at hlive ⊢
    obtain ⟨hlive, hadmits, -⟩ := h.of_approach hlive
    rw [hd.counts hadmits]
    exact hlive.later hd.events

lemma attend (h : Tidy frames c) : Tidy frames (c.attend frames) := by
  have hmoved := fun hlive => (h.live hlive).moves (c.work.others.headD [])
  refine ⟨?_, hmoved⟩
  unfold Course.attend
  dsimp only
  split
  · rename_i hlive
    exact List.forall_mem_cons.2 ⟨hmoved hlive, h.moments⟩
  · exact h.moments

/-- The task of a transaction begins. -/
lemma entered (h : Tidy frames c) {aside exclusive outermost : Bool} {thread : String}
    {b : Course (Ledger S)} (houtermost : outermost = (aside || frames.isEmpty))
    (hthread : thread = threadOf name aside frames)
    (hb : Entered outermost exclusive (c.approach (if outermost then [.of exclusive] else [])
      (if outermost then some thread else none)) b) :
    Tidy (⟨thread, exclusive, outermost, b.store⟩ :: frames)
      (b.hold ⟨thread, exclusive, outermost, b.store⟩) := by
  obtain ⟨depth, before, hbefore, hevents⟩ := hb.events
  have hlater : c.store.events <:+ b.store.events := by
    rw [hevents]
    exact (hbefore.trans (List.suffix_cons _ _)).trans (List.suffix_append _ _)
  let f : Frame := ⟨thread, exclusive, outermost, b.store⟩
  obtain ⟨workers, hhold⟩ := b.hold_eq f
  refine ⟨?_, fun hlive => ?_⟩
  · rw [hhold]
    change ∀ m ∈ b.work.moments, _
    rw [hb.work]
    exact h.moments
  · have hadmitted : (c.approach (if outermost then [.of exclusive] else [])
        (if outermost then some thread else none)).work.live = true := by
      rw [hhold] at hlive
      rwa [← hb.work]
    obtain ⟨horderly, hadmits, hnew⟩ := h.of_approach hadmitted
    cases outermost with
    | true =>
      obtain ⟨hmodes, -⟩ := Bool.and_eq_true_iff.1 hadmits
      change Orderly ⟨b.counts, b.work.workers.put thread (.holding (.of exclusive))⟩ _ _
      rw [hb.work, hb.counts hadmits]
      exact horderly.enter (f := f) rfl (hnew _ rfl)
        (List.all_eq_true.1 hmodes _ (List.mem_singleton.2 rfl)) ⟨⟨_, _, hevents⟩, hb.applied⟩
        hlater
    | false =>
      -- there is a task around this one, on the same thread
      obtain ⟨rfl, hinside⟩ := Bool.or_eq_false_iff.1 houtermost.symm
      cases frames with
      | nil => cases hinside
      | cons around below =>
        change Orderly ⟨b.counts, b.work.workers⟩ _ _
        rw [hb.work, hb.counts hadmits]
        exact ⟨horderly.counted, .nested (horderly.later hlater).held rfl hthread⟩

/-- The task of a transaction has ended. -/
lemma left {f : Frame} {c' d d' : Course (Ledger S)} {r : Except Failure Json}
    (hd' : Tidy (f :: frames) d') (hd : Left f.outermost f.exclusive c' (d'.letGo f r) d) :
    Tidy frames d := by
  refine ⟨by rw [hd.work]; exact hd'.moments, fun hlive => ?_⟩
  rw [hd.work] at hlive ⊢
  rw [hd.counts]
  have hinner := hd'.live hlive
  change Orderly ⟨_, if _ then _ else _⟩ _ _
  cases houter : f.outermost with
  | true => exact (hinner.leave houter).later hd.events
  | false =>
    have hheld := hinner.held.of_suffix (List.suffix_cons _ _)
    exact (Orderly.mk hinner.counted hheld).later hd.events

lemma report (h : Tidy frames c) (exclusive nested : Bool) (call : Except Failure Json) :
    Tidy frames (c.report exclusive nested call) := ⟨h.moments, h.live⟩

lemma kept : Kept (S := S) name Tidy where
  attend h := h.attend
  remember _ h := ⟨h.moments, h.live⟩
  call h hd := h.onward hd
  barred h hd := (h.onward hd).report _ _ _
  entered h houtermost hthread hb := h.entered houtermost hthread hb
  left hd' hd _ := (left hd' hd).report _ _ _

end Tidy

/-- **A task runs alone**, with others below it that wait for it: its thread holds the side of the
writer, nobody else holds the lock, and the transaction that the task runs in was made serializable
before all else that was done there. -/
structure Moment.RunsAlone (m : Moment) (f : Frame) (below : List Frame) : Prop where
  writes : (f.thread, .holding .write) ∈ m.lock.workers
  only : ∀ other mode, (other, .holding mode) ∈ m.lock.workers → other = f.thread
  serializable : ∃ g, governor (f :: below) = some g ∧ g.Isolated true ∧
    g.start.events <:+ m.store.events

/-- **A task runs alone exactly if the outermost transaction on its thread is exclusive.**  That is
so at each moment of each run of a client, whatever others do at the lock, and for each task that
runs then, at whatever depth.  The kind of transaction that was asked for with a nested task does
not matter. -/
theorem runs_alone_iff (k : Connection) (name : Nat → String) (client : Client S)
    {c : Course (Ledger S)} (hj : c.joined = false) (hlock : Counted ⟨c.counts, c.work.workers⟩)
    (hmoments : c.work.moments = []) {m : Moment}
    (hm : m ∈ (client.attended k name [] c).2.work.moments) {f : Frame} {below : List Frame}
    (hf : f :: below <:+ m.frames) : ∃ g, governor (f :: below) = some g ∧ g.thread = f.thread ∧
      (f.thread, .holding (.of g.exclusive)) ∈ m.lock.workers ∧
      (m.RunsAlone f below ↔ g.exclusive = true) := by
  have hstart : Tidy [] c := ⟨by rw [hmoments]; nofun, fun _ => ⟨hlock, .nil⟩⟩
  obtain ⟨hcounted, hheld⟩ := (Tidy.kept.attended client hj hstart).2.moments m hm
  obtain ⟨g, hgovernor, hthread, hholds, hisolated, hevents⟩ := (hheld.of_suffix hf).governor_eq
  refine ⟨g, hgovernor, hthread, hholds, fun halone => ?_, fun hexclusive => ?_⟩
  · obtain ⟨g', hg', hserializable, -⟩ := halone.serializable
    obtain rfl : g = g' := Option.some.inj (hgovernor.symm.trans hg')
    exact hisolated.serializable_iff.1 hserializable
  · rw [hexclusive] at hholds hisolated
    exact ⟨hholds, fun _ _ hother => (hcounted.eq_of_holding hholds hother).1,
      g, hgovernor, hisolated, hevents⟩

/-- A task in an exclusive transaction, inside a task in one that is not. -/
def lenient : Client Unit :=
  .transact false false (.transact false true (.done (.ok .null)) .done) .done

/-- A course that has seen a migration, with a reader that comes while the inner task runs. -/
def visited : Course (Ledger Unit) where
  migrated := some ⟨.null, .null, "", []⟩
  work := { memory := (), others := [[], [], [.arrive "visitor" .read]] }

/-- The inner task is to be exclusive, and another reader is at work as well. -/
theorem runs_alone_iff_lenient : ∃ m ∈ (lenient.attended bare toString [] visited).2.work.moments,
    ∃ f below, f :: below <:+ m.frames ∧ f.exclusive = true ∧
      ("visitor", .holding .read) ∈ m.lock.workers ∧ ¬ m.RunsAlone f below := by
  have hmoments : ((lenient.attended bare toString [] visited).2.work.moments.map fun m =>
      (m.frames.map fun f => (f.exclusive, f.outermost), m.lock.workers)) =
        [([], [("visitor", .holding .read)]),
         ([(false, true)], [("0", .holding .read), ("visitor", .holding .read)]),
         ([(true, false), (false, true)], [("0", .holding .read), ("visitor", .holding .read)]),
         ([(false, true)], [("0", .holding .read)]),
         ([], [])] := by decide +kernel
  have hmem : ([(true, false), (false, true)],
      [("0", Phase.holding .read), ("visitor", .holding .read)]) ∈
      (lenient.attended bare toString [] visited).2.work.moments.map fun m =>
        (m.frames.map fun f => (f.exclusive, f.outermost), m.lock.workers) := by
    rw [hmoments]
    decide
  obtain ⟨m, hm, hview⟩ := List.mem_map.1 hmem
  obtain ⟨hframes, hworkers⟩ := Prod.mk.inj hview
  obtain ⟨f, below, hnow, hinner, hbelow⟩ := List.map_eq_cons_iff.1 hframes
  obtain ⟨g, below, rfl, houter, -⟩ := List.map_eq_cons_iff.1 hbelow
  have htasks : f :: g :: below <:+ m.frames := hnow ▸ List.suffix_refl _
  obtain ⟨hf, hnested⟩ := Prod.mk.inj hinner
  obtain ⟨hg, houtermost⟩ := Prod.mk.inj houter
  obtain ⟨g', hgovernor, -, -, halone⟩ :=
    runs_alone_iff bare toString lenient (c := visited) rfl Lock.Reachable.start.counted rfl hm
      htasks
  obtain rfl : g = g' := by
    rw [governor, if_neg (by simp [hnested]), governor, if_pos houtermost] at hgovernor
    exact Option.some.inj hgovernor
  refine ⟨m, hm, f, _, htasks, hf, ?_, fun h => ?_⟩
  · rw [hworkers]
    decide
  · rw [halone.1 h] at hg
    cases hg

end Connection

end PgSchema
