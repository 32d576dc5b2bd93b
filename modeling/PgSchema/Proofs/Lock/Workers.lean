import PgSchema.Lock.ReadersWriter
import PgSchema.Proofs.Entries

/-!
The workers of a lock, step by step.

A step is what one worker does while it has the lock's counts for itself: it arrives, it looks again
once it was notified, or it leaves (`Step`).  Steps of all workers may follow each other in any
order.  After any number of them the counts are the numbers of workers that they stand for
(`Reachable.counted`).
-/

namespace PgSchema.Lock

/-! ### Steps -/

/-- A worker that waits for the side of the writer. -/
def Phase.waitsToWrite : Phase → Bool
  | asleep .write | notified .write => true
  | _ => false

/-- A worker that was notified, and has not looked again. -/
def Phase.isNotified : Phase → Bool
  | notified _ => true
  | _ => false

/-- A worker that holds a side. -/
def Phase.holds (mode : Mode) : Phase → Bool
  | holding m => m = mode
  | _ => false

lemma Phase.eq_of_holds {mode : Mode} {p : Phase} (h : p.holds mode = true) : p = holding mode := by
  cases p with
  | holding m => rw [of_decide_eq_true h]
  | _ => cases h

/-- Notification of a worker. -/
def Phase.woken : Phase → Phase
  | asleep mode => notified mode
  | p => p

/-- **What one worker does.**  There may be any number of workers. -/
inductive Step : Lock → Lock → Prop
  /-- A worker arrives for a side, and enters or falls asleep.  Work that is to run alone arrives
  for the side of the writer, and all other work for that of the readers (`Mode.of`). -/
  | arrive {l : Lock} {name : String} {mode : Mode} (hnew : name ∉ l.workers.keys) :
      Step l (l.arrive name mode)
  /-- A worker that was notified looks again. -/
  | recheck {l : Lock} {name : String} {mode : Mode}
      (hname : l.workers.get? name = some (.notified mode)) : Step l (l.recheck name)
  /-- A worker that holds the lock leaves, however its work ended. -/
  | release {l l' : Lock} {name : String} (hleft : l.release? name = some l') : Step l l'

/-- A lock after any steps of its workers. -/
inductive Reachable : Lock → Prop
  | start : Reachable {}
  | step {l l' : Lock} (h : Reachable l) (hstep : Step l l') : Reachable l'

/-- A worker that leaves held a side, and is gone. -/
lemma release?_eq_some {l l' : Lock} {name : String} (h : l.release? name = some l') :
    ∃ mode, (name, .holding mode) ∈ l.workers ∧
      l' = if l.counts.wakes mode then notify ⟨l.counts.leave mode, l.workers.erase name⟩
        else ⟨l.counts.leave mode, l.workers.erase name⟩ := by
  unfold release? at h
  split at h
  · rename_i mode hget
    exact ⟨mode, Entries.mem_of_get? hget, (Option.some.inj h).symm⟩
  · cases h

lemma recheck_eq {l : Lock} {name : String} {mode : Mode}
    (h : l.workers.get? name = some (.notified mode)) : l.recheck name = l.look name mode := by
  rw [recheck, h]

lemma workers_notify (l : Lock) : l.notify.workers = l.workers.mapValues Phase.woken := rfl

variable {l l' : Lock} {name : String} {mode : Mode}

/-- Nobody holds the lock for having been notified. -/
lemma holding_of_mem_notify (h : (name, .holding mode) ∈ l.notify.workers) :
    (name, .holding mode) ∈ l.workers := by
  obtain ⟨⟨n, p⟩, he, heq⟩ := List.mem_map.1 (workers_notify l ▸ h)
  cases p with
  | asleep m => cases heq
  | notified m => cases heq
  | holding m =>
    cases heq
    exact he

/-! ### Counts -/

/-- Who is kept out, is kept out by a holder, or, on the side of the readers, by a writer that
waits. -/
lemma Counts.admits_eq_false {c : Counts} {side : Mode} : c.admits side = false ↔
    c.writer = true ∨ 0 < (match side with | .read => c.waitingWriters | .write => c.readers) := by
  cases side <;> cases hwriter : c.writer <;> simp [admits, hwriter, Nat.pos_iff_ne_zero]

/-- **The counts are the numbers of workers that they stand for.** -/
structure Counted (l : Lock) : Prop where
  nodup : l.workers.keys.Nodup
  readers : l.counts.readers = l.workers.number (Phase.holds .read)
  writer : l.counts.writer.toNat = l.workers.number (Phase.holds .write)
  waiting : l.counts.waitingWriters = l.workers.number Phase.waitsToWrite
  /-- A writer is alone. -/
  alone : l.counts.writer = true → l.counts.readers = 0

/-- The counts when a worker is about to look: those of all other workers, and one more writer that
waits if it is one. -/
structure Looking (l : Lock) (name : String) (mode : Mode) : Prop where
  nodup : l.workers.keys.Nodup
  readers : l.counts.readers = Entries.number (Phase.holds .read) (l.workers.erase name)
  writer : l.counts.writer.toNat = Entries.number (Phase.holds .write) (l.workers.erase name)
  waiting : l.counts.waitingWriters =
    Entries.number Phase.waitsToWrite (l.workers.erase name) + (decide (mode = .write)).toNat
  alone : l.counts.writer = true → l.counts.readers = 0

lemma Looking.counted (h : Looking l name mode) : Counted (l.look name mode) := by
  have hnumber := fun (p : Phase → Bool) phase => Entries.number_put (p := p) h.nodup name phase
  unfold look
  cases hadmits : l.counts.admits mode with
  | false =>
    rw [if_neg Bool.false_ne_true]
    refine ⟨Entries.nodup_put h.nodup _ _, ?_, ?_, ?_, h.alone⟩
    · exact h.readers.trans (hnumber (Phase.holds .read) (.asleep mode)).symm
    · exact h.writer.trans (hnumber (Phase.holds .write) (.asleep mode)).symm
    · refine h.waiting.trans ((hnumber Phase.waitsToWrite (.asleep mode)).trans ?_).symm
      cases mode <;> rfl
  | true =>
    rw [if_pos rfl]
    cases mode with
    | read =>
      obtain ⟨hwriter, -⟩ := Bool.and_eq_true_iff.1 hadmits
      refine ⟨Entries.nodup_put h.nodup _ _, ?_, ?_, ?_, fun hw => ?_⟩
      · exact (congrArg (· + 1) h.readers).trans
          (hnumber (Phase.holds .read) (.holding .read)).symm
      · exact h.writer.trans (hnumber (Phase.holds .write) (.holding .read)).symm
      · exact h.waiting.trans (hnumber Phase.waitsToWrite (.holding .read)).symm
      · rw [show l.counts.writer = true from hw] at hwriter
        cases hwriter
    | write =>
      obtain ⟨hwriter, hreaders⟩ := Bool.and_eq_true_iff.1 hadmits
      refine ⟨Entries.nodup_put h.nodup _ _, ?_, ?_, ?_, fun _ => eq_of_beq hreaders⟩
      · exact h.readers.trans (hnumber (Phase.holds .read) (.holding .write)).symm
      · have hnone := h.writer
        rw [show l.counts.writer = false by simpa using hwriter] at hnone
        exact (congrArg (· + 1) hnone).trans
          (hnumber (Phase.holds .write) (.holding .write)).symm
      · exact (congrArg (· - 1) h.waiting).trans
          (hnumber Phase.waitsToWrite (.holding .write)).symm

/-- A worker that arrives is about to look. -/
lemma Counted.arrive (h : Counted l) (hnew : name ∉ l.workers.keys) (mode : Mode) :
    Looking { l with counts := l.counts.arrive mode } name mode := by
  have hsame := fun p : Phase → Bool =>
    congrArg (Entries.number p) (Entries.erase_of_notMem hnew).symm
  cases mode with
  | read =>
    exact ⟨h.nodup, h.readers.trans (hsame _), h.writer.trans (hsame _),
      h.waiting.trans (hsame _), h.alone⟩
  | write =>
    exact ⟨h.nodup, h.readers.trans (hsame _), h.writer.trans (hsame _),
      congrArg (· + 1) (h.waiting.trans (hsame _)), h.alone⟩

/-- A worker that was notified is about to look. -/
lemma Counted.recheck (h : Counted l) (hname : (name, .notified mode) ∈ l.workers) :
    Looking l name mode := by
  have hnumber := fun p : Phase → Bool => Entries.number_erase (p := p) h.nodup hname
  refine ⟨h.nodup, ?_, ?_, ?_, h.alone⟩
  · exact h.readers.trans (hnumber (Phase.holds .read))
  · exact h.writer.trans (hnumber (Phase.holds .write))
  · refine h.waiting.trans ((hnumber Phase.waitsToWrite).trans ?_)
    cases mode <;> rfl

/-- Sleepers that are notified still wait. -/
lemma Counted.notify (h : Counted l) : Counted l.notify := by
  -- a number that is the same for sleepers and for those who were notified
  have hsame : ∀ p : Phase → Bool, (∀ mode, p (.asleep mode) = p (.notified mode)) →
      l.notify.workers.number p = l.workers.number p := by
    intro p hp
    rw [workers_notify, Entries.number_mapValues]
    refine congrArg (Entries.number · l.workers) (funext fun phase => ?_)
    cases phase with
    | asleep mode => exact (hp mode).symm
    | notified mode => rfl
    | holding mode => rfl
  refine ⟨?_, ?_, ?_, ?_, h.alone⟩
  · rw [workers_notify, Entries.keys_mapValues]
    exact h.nodup
  · exact h.readers.trans (hsame _ fun _ => rfl).symm
  · exact h.writer.trans (hsame _ fun _ => rfl).symm
  · exact h.waiting.trans (hsame _ fun mode => by cases mode <;> rfl).symm

/-- A worker that leaves is one holder less. -/
lemma Counted.leave (h : Counted l) (hname : (name, .holding mode) ∈ l.workers) :
    Counted ⟨l.counts.leave mode, l.workers.erase name⟩ := by
  have hreaders := h.readers.trans (Entries.number_erase h.nodup hname)
  have hwriter := h.writer.trans (Entries.number_erase h.nodup hname)
  have hwaiting := h.waiting.trans (Entries.number_erase h.nodup hname)
  cases mode with
  | read =>
    exact ⟨Entries.nodup_erase h.nodup _, congrArg (· - 1) hreaders, hwriter, hwaiting,
      fun hw => congrArg (· - 1) (h.alone hw)⟩
  | write =>
    refine ⟨Entries.nodup_erase h.nodup _, hreaders, ?_, hwaiting, nofun⟩
    have hone : l.counts.writer.toNat ≤ 1 := Bool.toNat_le _
    rw [hwriter] at hone
    exact (Nat.le_zero.1 (Nat.le_of_succ_le_succ hone)).symm

/-- **A step keeps the counts right.** -/
lemma Counted.step (h : Counted l) (hstep : Step l l') : Counted l' := by
  cases hstep with
  | arrive hnew => exact (h.arrive hnew _).counted
  | recheck hname =>
    rw [recheck_eq hname]
    exact (h.recheck (Entries.mem_of_get? hname)).counted
  | release hleft =>
    obtain ⟨mode, hname, rfl⟩ := release?_eq_some hleft
    split
    · exact (h.leave hname).notify
    · exact h.leave hname

/-- **The counts are right after any steps.** -/
theorem Reachable.counted (h : Reachable l) : Counted l := by
  induction h with
  | start => exact ⟨List.nodup_nil, rfl, rfl, rfl, fun _ => rfl⟩
  | step _ hstep ih => exact ih.step hstep

end PgSchema.Lock
