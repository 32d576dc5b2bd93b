import PgSchema.Proofs.Lock.Safety

/-!
No worker sleeps for ever in front of a free lock.

A worker that sleeps would not be let in if it looked (`Justified`).  Every step keeps this up,
though only the last reader and a writer that leaves wake anybody: no other step makes the lock
admit a side that it did not admit before.
-/

namespace PgSchema.Lock

variable {l l' : Lock} {c : Counts} {name other : String} {mode side : Mode}

/-! ### Sides that are not admitted -/

namespace Counts

/-- An arrival lets nobody in. -/
lemma admits_arrive (h : c.admits side = false) (mode : Mode) :
    (c.arrive mode).admits side = false := by
  cases mode with
  | read => exact h
  | write =>
    cases side with
    | read => exact admits_eq_false.2 (.inr (Nat.succ_pos _))
    | write => exact h

/-- Nor does the entry of a worker. -/
lemma admits_enter (h : c.admits side = false) (mode : Mode) :
    (c.enter mode).admits side = false := by
  cases mode with
  | read =>
    cases side with
    | read => exact h
    | write => exact admits_eq_false.2 (.inr (Nat.succ_pos _))
  | write => exact admits_eq_false.2 (.inl rfl)

/-- Nor the departure of a worker that wakes nobody, which leaves another reader behind. -/
lemma admits_leave (h : c.admits side = false) (hwakes : c.wakes mode = false) :
    (c.leave mode).admits side = false := by
  cases mode with
  | read =>
    cases side with
    | read => exact h
    | write => exact admits_eq_false.2 (.inr (Nat.pos_of_ne_zero (ne_of_beq_false hwakes)))
  | write => cases hwakes

end Counts

/-! ### Sleepers -/

/-- **Whoever sleeps would not be let in.** -/
def Justified (l : Lock) : Prop :=
  ∀ name side, (name, .asleep side) ∈ l.workers → l.counts.admits side = false

lemma Justified.look (h : Justified l) (name : String) (mode : Mode) :
    Justified (l.look name mode) := by
  unfold Lock.look
  split
  · intro other side hother
    rcases Entries.mem_put hother with hother | he
    · exact Counts.admits_enter (h other side hother) mode
    · cases he
  · rename_i hadmits
    intro other side hother
    rcases Entries.mem_put hother with hother | he
    · exact h other side hother
    · cases he
      exact Bool.eq_false_iff.2 hadmits

/-- Nobody sleeps who was notified. -/
lemma Justified.notify (l : Lock) : Justified l.notify := by
  intro name side hname
  obtain ⟨⟨n, p⟩, -, he⟩ := List.mem_map.1 (workers_notify l ▸ hname)
  cases p <;> cases he

lemma Justified.step (h : Justified l) (hstep : Step l l') : Justified l' := by
  cases hstep with
  | @arrive name mode hnew =>
    refine Justified.look (fun other side hother => ?_) name mode
    exact Counts.admits_arrive (h other side hother) mode
  | @recheck name mode hname =>
    rw [recheck_eq hname]
    exact h.look name mode
  | release hleft =>
    obtain ⟨mode, -, rfl⟩ := release?_eq_some hleft
    split
    · exact Justified.notify _
    · rename_i hwakes
      intro other side hother
      exact Counts.admits_leave (h other side (List.mem_filter.1 hother).1)
        (Bool.eq_false_iff.2 hwakes)

/-- **Sleepers are justified after any steps.** -/
theorem Reachable.justified (h : Reachable l) : Justified l := by
  induction h with
  | start => exact nofun
  | step _ hstep ih => exact ih.step hstep

/-! ### Nobody waits for nobody -/

/-- No worker was notified that has not looked again. -/
def Quiet (l : Lock) : Prop := ∀ e ∈ l.workers, e.2.isNotified = false

instance (l : Lock) : Decidable (Quiet l) :=
  inferInstanceAs (Decidable (∀ e ∈ l.workers, e.2.isNotified = false))

section Quiet

variable (h : Counted l)
include h

lemma Counted.exists_writer (hwriter : l.counts.writer = true) :
    ∃ name, (name, .holding .write) ∈ l.workers := by
  have hpos : 0 < l.workers.number (Phase.holds .write) := by
    rw [← h.writer, hwriter]
    exact Nat.one_pos
  obtain ⟨⟨name, p⟩, he, hp⟩ := Entries.number_pos hpos
  exact ⟨name, Phase.eq_of_holds hp ▸ he⟩

/-- A writer that sleeps waits for a holder. -/
lemma Counted.exists_holder (hj : Justified l) (hname : (name, .asleep .write) ∈ l.workers) :
    ∃ other mode, (other, .holding mode) ∈ l.workers := by
  rcases Counts.admits_eq_false.1 (hj name .write hname) with hwriter | hreaders
  · obtain ⟨other, hother⟩ := h.exists_writer hwriter
    exact ⟨other, .write, hother⟩
  · obtain ⟨⟨other, p⟩, he, hp⟩ := Entries.number_pos (h.readers ▸ hreaders)
    exact ⟨other, .read, Phase.eq_of_holds hp ▸ he⟩

/-- A reader that sleeps waits for a writer that holds the lock or sleeps as well. -/
lemma Counted.exists_before (hj : Justified l) (hquiet : Quiet l)
    (hname : (name, .asleep .read) ∈ l.workers) : ∃ other,
      (other, .holding .write) ∈ l.workers ∨ (other, .asleep .write) ∈ l.workers := by
  rcases Counts.admits_eq_false.1 (hj name .read hname) with hwriter | hwaiting
  · obtain ⟨other, hother⟩ := h.exists_writer hwriter
    exact ⟨other, .inl hother⟩
  · obtain ⟨⟨other, p⟩, he, hp⟩ := Entries.number_pos (h.waiting ▸ hwaiting)
    refine ⟨other, .inr ?_⟩
    cases p with
    | asleep mode =>
      cases mode with
      | read => cases hp
      | write => exact he
    | notified mode => cases hquiet _ he
    | holding mode => cases hp

/-- **Whoever waits, waits for a holder.** -/
lemma Counted.holders_of_waiters (hj : Justified l) (hquiet : Quiet l) (hwaiters : l.waiters ≠ []) :
    l.holders ≠ [] := by
  obtain ⟨other, mode, hother⟩ : ∃ other mode, (other, .holding mode) ∈ l.workers := by
    obtain ⟨name, hname⟩ := List.exists_mem_of_ne_nil _ hwaiters
    obtain ⟨⟨_, p⟩, he, rfl⟩ := List.mem_map.1 hname
    obtain ⟨he, hp⟩ := List.mem_filter.1 he
    cases p with
    | asleep side =>
      cases side with
      | write => exact h.exists_holder hj he
      | read =>
        obtain ⟨other, hother | hother⟩ := h.exists_before hj hquiet he
        · exact ⟨other, .write, hother⟩
        · exact h.exists_holder hj hother
    | notified side => cases hquiet _ he
    | holding side => cases hp
  exact List.ne_nil_of_mem (List.mem_map.2 ⟨_, List.mem_filter.2 ⟨hother, rfl⟩, rfl⟩)

end Quiet

/-! ### Workers that were notified look again -/

lemma Reachable.recheck (h : Reachable l) (name : String) : Reachable (l.recheck name) := by
  cases hname : l.workers.get? name with
  | none => simpa [Lock.recheck, hname] using h
  | some p =>
    cases p with
    | notified mode => exact h.step (.recheck hname)
    | asleep mode => simpa [Lock.recheck, hname] using h
    | holding mode => simpa [Lock.recheck, hname] using h

/-- Once a worker has looked again, the workers that were notified are the others. -/
lemma notified_of_recheck (h : (l.recheck name).workers.get? other = some (.notified mode)) :
    l.workers.get? other = some (.notified mode) ∧ other ≠ name := by
  by_cases hname : ∃ side, l.workers.get? name = some (.notified side)
  · obtain ⟨side, hname⟩ := hname
    obtain ⟨phase, hphase, hlook⟩ : ∃ phase : Phase, phase.isNotified = false ∧
        (l.look name side).workers = l.workers.put name phase := by
      unfold look
      split
      · exact ⟨.holding side, rfl, rfl⟩
      · exact ⟨.asleep side, rfl, rfl⟩
    rw [recheck_eq hname, hlook] at h
    have hne : other ≠ name := by
      rintro rfl
      rw [Entries.get?_put_self] at h
      cases h
      cases hphase
    rw [Entries.get?_put_of_ne hne] at h
    exact ⟨h, hne⟩
  · have hsame : l.recheck name = l := by
      unfold Lock.recheck
      split
      · rename_i side hside
        exact absurd ⟨side, hside⟩ hname
      · rfl
    rw [hsame] at h
    refine ⟨h, ?_⟩
    rintro rfl
    exact hname ⟨mode, h⟩

lemma notified_of_foldl {names : List String}
    (h : (names.foldl recheck l).workers.get? other = some (.notified mode)) :
    l.workers.get? other = some (.notified mode) ∧ other ∉ names := by
  induction names generalizing l with
  | nil => exact ⟨h, List.not_mem_nil⟩
  | cons name names ih =>
    obtain ⟨hrest, hnames⟩ := ih h
    obtain ⟨hbefore, hne⟩ := notified_of_recheck hrest
    exact ⟨hbefore, fun hmem => (List.mem_cons.1 hmem).elim hne hnames⟩

lemma Reachable.settle (h : Reachable l) : Reachable l.settle := by
  suffices hfold : ∀ names : List String, ∀ {l}, Reachable l →
      Reachable (names.foldl Lock.recheck l) from hfold _ h
  intro names
  induction names with
  | nil => exact fun h => h
  | cons name names ih => exact fun h => ih (h.recheck name)

lemma quiet_settle (h : Reachable l) : Quiet l.settle := by
  rintro ⟨name, p⟩ he
  cases p with
  | asleep mode => rfl
  | holding mode => rfl
  | notified mode =>
    obtain ⟨hbefore, hnames⟩ :=
      notified_of_foldl ((Entries.get?_eq_some_iff h.settle.counted.nodup).2 he)
    exact absurd (Entries.mem_keys (Entries.mem_of_get? hbefore)) hnames

/-- **No wake-up is lost.**  After any steps of any workers, once every worker that was notified has
looked again, a writer that sleeps waits for a holder, a reader that sleeps waits for a writer that
holds the lock or sleeps itself, and if anybody waits then somebody holds the lock.  In particular,
if all that were notified look again and nobody holds the lock then, nobody waits. -/
theorem Reachable.no_lost_wakeup (h : Reachable l) :
    (Quiet l →
      (∀ name, (name, .asleep .write) ∈ l.workers →
        ∃ other mode, (other, .holding mode) ∈ l.workers) ∧
      (∀ name, (name, .asleep .read) ∈ l.workers → ∃ other,
        (other, .holding .write) ∈ l.workers ∨ (other, .asleep .write) ∈ l.workers) ∧
      (l.waiters ≠ [] → l.holders ≠ [])) ∧
    Reachable l.settle ∧ Quiet l.settle ∧ (l.settle.holders = [] → l.settle.waiters = []) := by
  refine ⟨fun hquiet => ⟨fun _ => h.counted.exists_holder h.justified,
    fun _ => h.counted.exists_before h.justified hquiet,
    h.counted.holders_of_waiters h.justified hquiet⟩, h.settle, quiet_settle h, fun hfree => ?_⟩
  refine Decidable.byContradiction fun hwaiters => ?_
  exact h.settle.counted.holders_of_waiters h.settle.justified (quiet_settle h) hwaiters hfree

/-- The contended lock, once the reader that held it has left. -/
def departed : Lock := (contended.release? "first").getD {}

/-- Nobody holds the lock that the reader has left, and two wait.  When they have looked again, one
of them holds the lock. -/
theorem no_lost_wakeup_contended : Quiet contended ∧ contended.waiters = ["writer", "second"] ∧
    contended.holders ≠ [] ∧ Reachable departed ∧ departed.holders = [] ∧
    departed.waiters = ["writer", "second"] ∧ departed.settle.holders ≠ [] := by
  have hdeparted : Reachable departed := by
    have hleft : contended.release? "first" = some departed := by decide
    exact reachable_contended.step (.release hleft)
  have hquiet : Quiet contended := by decide
  obtain ⟨-, -, hheld⟩ := reachable_contended.no_lost_wakeup.1 hquiet
  refine ⟨hquiet, by decide, hheld (by decide), hdeparted, by decide, by decide, fun hfree => ?_⟩
  obtain ⟨-, -, -, hnone⟩ := hdeparted.no_lost_wakeup
  exact absurd (hnone hfree) (by decide)

end PgSchema.Lock
