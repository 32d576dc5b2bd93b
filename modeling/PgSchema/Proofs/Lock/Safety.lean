import PgSchema.Proofs.Lock.Workers

/-!
A lock keeps its workers apart.

The counts say who holds the lock and which writers wait (`Reachable.counted`), a writer is alone,
and no reader enters past a writer that waits (`enters_past`).
-/

namespace PgSchema.Lock

variable {l l' : Lock} {name other : String} {mode : Mode}

/-! ### Writers are alone -/

lemma Counted.writer_of_mem (h : Counted l) (hname : (name, .holding .write) ∈ l.workers) :
    l.counts.writer = true := by
  have hpos := Entries.number_pos_of_mem (p := Phase.holds .write) hname rfl
  rw [← h.writer] at hpos
  cases hwriter : l.counts.writer with
  | true => rfl
  | false => simp [hwriter] at hpos

/-- **A writer that holds the lock is its only holder.** -/
lemma Counted.eq_of_holding (h : Counted l) (hname : (name, .holding .write) ∈ l.workers)
    (hother : (other, .holding mode) ∈ l.workers) : other = name ∧ mode = .write := by
  have hwriter := h.writer_of_mem hname
  cases mode with
  | read =>
    have hpos := Entries.number_pos_of_mem (p := Phase.holds .read) hother rfl
    rw [← h.readers, h.alone hwriter] at hpos
    cases hpos
  | write =>
    refine ⟨Decidable.byContradiction fun hne => ?_, rfl⟩
    have hrest : (other, .holding .write) ∈ l.workers.erase name :=
      List.mem_filter.2 ⟨hother, bne_iff_ne.2 hne⟩
    have hpos := Entries.number_pos_of_mem (p := Phase.holds .write) hrest rfl
    have hone := h.writer.trans (Entries.number_erase h.nodup hname)
    rw [hwriter] at hone
    exact absurd (Nat.succ.inj hone) (Nat.ne_of_lt hpos)

/-! ### Readers wait for writers -/

/-- A worker that holds the side of the readers once another has looked held it before, or is that
other, which was let in. -/
lemma mem_look (h : (other, .holding .read) ∈ (l.look name mode).workers) :
    (other, .holding .read) ∈ l.workers ∨ mode = .read ∧ l.counts.admits .read = true := by
  unfold look at h
  split at h
  · rename_i hadmits
    refine (Entries.mem_put h).imp_right fun he => ?_
    cases he
    exact ⟨rfl, hadmits⟩
  · refine (Entries.mem_put h).imp_right fun he => ?_
    cases he

/-- **No reader enters past a writer that waits.** -/
lemma enters_past (h : Counted l) (hstep : Step l l') {waiting : String × Phase}
    (hmem : waiting ∈ l.workers) (hwaits : waiting.2.waitsToWrite = true)
    (hreads : (other, .holding .read) ∈ l'.workers) : (other, .holding .read) ∈ l.workers := by
  have hpos : 0 < l.counts.waitingWriters := by
    rw [h.waiting]
    exact Entries.number_pos_of_mem hmem hwaits
  have hclosed : l.counts.admits .read = false := Counts.admits_eq_false.2 (.inr hpos)
  cases hstep with
  | arrive hnew =>
    refine (mem_look hreads).resolve_right ?_
    -- the arrival of a reader changes no counts
    rintro ⟨rfl, hadmits⟩
    exact absurd hadmits (Bool.eq_false_iff.1 hclosed)
  | recheck hname =>
    rw [recheck_eq hname] at hreads
    refine (mem_look hreads).resolve_right ?_
    rintro ⟨-, hadmits⟩
    exact absurd hadmits (Bool.eq_false_iff.1 hclosed)
  | @release _ name hleft =>
    obtain ⟨mode, -, rfl⟩ := release?_eq_some hleft
    have herase : (other, .holding .read) ∈ l.workers.erase name := by
      split at hreads
      · exact holding_of_mem_notify hreads
      · exact hreads
    exact (List.mem_filter.1 herase).1

/-! ### Safety -/

/-- **The lock is safe, and prefers writers.**  After any steps of any workers the count of readers
is the number of workers that hold the side of the readers, the mark of a writer is set exactly if
one worker holds the side of the writer, and the count of waiting writers is the number of writers
between arrival and entry.  A worker that holds the side of the writer is the only holder.  No step
lets a worker in on the side of the readers as long as a writer waits. -/
theorem Reachable.safe (h : Reachable l) :
    l.workers.keys.Nodup ∧
    l.counts.readers = l.workers.number (Phase.holds .read) ∧
    (l.counts.writer = true ↔ l.workers.number (Phase.holds .write) = 1) ∧
    l.counts.waitingWriters = l.workers.number Phase.waitsToWrite ∧
    (∀ name other mode, (name, .holding .write) ∈ l.workers → (other, .holding mode) ∈ l.workers →
      other = name ∧ mode = .write) ∧
    ∀ l', Step l l' → (∃ e ∈ l.workers, e.2.waitsToWrite = true) →
      ∀ name, (name, .holding .read) ∈ l'.workers → (name, .holding .read) ∈ l.workers := by
  have hcounted := h.counted
  refine ⟨hcounted.nodup, hcounted.readers, ?_, hcounted.waiting,
    fun _ _ _ => hcounted.eq_of_holding, fun l' hstep hwaits name => ?_⟩
  · rw [← hcounted.writer]
    cases l.counts.writer <;> decide
  · obtain ⟨_, hmem, hwaits⟩ := hwaits
    exact enters_past hcounted hstep hmem hwaits

/-- A reader holds the lock, a writer waits for it, and a second reader for the writer. -/
def contended : Lock :=
  ((({} : Lock).arrive "first" .read).arrive "writer" .write).arrive "second" .read

lemma reachable_contended : Reachable contended :=
  .step (.step (.step .start (.arrive (by decide))) (.arrive (by decide))) (.arrive (by decide))

/-- One reader holds the lock, one writer waits, and whatever the next step is, no other reader
holds the lock then. -/
theorem safe_contended : Reachable contended ∧ contended.counts = ⟨1, false, 1⟩ ∧
    contended.workers.number (Phase.holds .read) = 1 ∧
    contended.workers.number Phase.waitsToWrite = 1 ∧
    ∀ l', Step contended l' → ∀ name, (name, .holding .read) ∈ l'.workers → name = "first" := by
  obtain ⟨-, hreaders, -, hwaiting, -, hpast⟩ := reachable_contended.safe
  refine ⟨reachable_contended, by decide, hreaders.symm, hwaiting.symm, ?_⟩
  intro l' hstep name hname
  have hbefore := hpast l' hstep ⟨("writer", .asleep .write), by decide, rfl⟩ name hname
  have hholder : ∀ e ∈ contended.workers, e.2 = .holding .read → e.1 = "first" := by decide
  exact hholder _ hbefore rfl

end PgSchema.Lock
