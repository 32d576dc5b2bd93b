import PgSchema.Entries

/-!
A lock for many readers or one writer.

Readers share the lock; a writer has it alone.  A writer that waits keeps new readers out, so that
it is not passed over for ever.

`Counts` is what the lock itself knows.  `Lock` has the workers too, each with its phase: a worker
that is not let in falls asleep, and whenever the lock may have become free all sleepers are
notified and look again, one by one.
-/

namespace PgSchema.Lock

/-- The two sides of the lock. -/
inductive Mode where
  | read
  | write
  deriving DecidableEq, Repr

/-- The side for work that is to run alone, and the side for work that is not. -/
def Mode.of (exclusive : Bool) : Mode := if exclusive then write else read

/-! ### What the lock knows -/

/-- The holders of the lock, and the writers between arrival and entry. -/
structure Counts where
  readers : Nat := 0
  writer : Bool := false
  waitingWriters : Nat := 0
  deriving DecidableEq, Repr

namespace Counts

/-- A worker on a side may enter. -/
def admits (c : Counts) : Mode → Bool
  | .read => !c.writer && c.waitingWriters == 0
  | .write => !c.writer && c.readers == 0

/-- A worker arrives. -/
def arrive (c : Counts) : Mode → Counts
  | .read => c
  | .write => { c with waitingWriters := c.waitingWriters + 1 }

/-- A worker that has arrived enters. -/
def enter (c : Counts) : Mode → Counts
  | .read => { c with readers := c.readers + 1 }
  | .write => { c with writer := true, waitingWriters := c.waitingWriters - 1 }

/-- A worker leaves. -/
def leave (c : Counts) : Mode → Counts
  | .read => { c with readers := c.readers - 1 }
  | .write => { c with writer := false }

/-- The departure of a worker wakes the sleepers: that of a writer, and that of the last reader. -/
def wakes (c : Counts) : Mode → Bool
  | .read => (c.leave .read).readers == 0
  | .write => true

end Counts

/-! ### Workers -/

/-- Where a worker is on its way through the lock. -/
inductive Phase where
  | asleep (mode : Mode)
  | notified (mode : Mode)
  | holding (mode : Mode)
  deriving DecidableEq, Repr

end PgSchema.Lock

namespace PgSchema

/-- A lock and its workers by name. -/
structure Lock where
  counts : Lock.Counts := {}
  workers : Entries Lock.Phase := []
  deriving DecidableEq, Repr

namespace Lock

/-- The workers that hold the lock. -/
def holders (l : Lock) : List String :=
  Entries.keys (l.workers.filter fun (_, p) => match p with
    | .holding _ => true
    | _ => false)

/-- The workers that wait. -/
def waiters (l : Lock) : List String :=
  Entries.keys (l.workers.filter fun (_, p) => match p with
    | .holding _ => false
    | _ => true)

/-- A worker looks whether it may enter, and falls asleep if not. -/
def look (l : Lock) (name : String) (mode : Mode) : Lock :=
  if l.counts.admits mode then ⟨l.counts.enter mode, l.workers.put name (.holding mode)⟩
  else { l with workers := l.workers.put name (.asleep mode) }

/-- A worker arrives, and looks at once. -/
def arrive (l : Lock) (name : String) (mode : Mode) : Lock :=
  look { l with counts := l.counts.arrive mode } name mode

/-- All sleepers are notified. -/
def notify (l : Lock) : Lock :=
  { l with workers := l.workers.mapValues fun p => match p with
      | .asleep mode => .notified mode
      | p => p }

/-- A worker that was notified looks again. -/
def recheck (l : Lock) (name : String) : Lock :=
  match l.workers.get? name with
  | some (.notified mode) => l.look name mode
  | _ => l

/-- A worker leaves; none if it does not hold the lock. -/
def release? (l : Lock) (name : String) : Option Lock :=
  match l.workers.get? name with
  | some (.holding mode) =>
    let left : Lock := ⟨l.counts.leave mode, l.workers.erase name⟩
    some (if l.counts.wakes mode then left.notify else left)
  | _ => none

/-- All workers that were notified look again. -/
def settle (l : Lock) : Lock := l.workers.keys.foldl recheck l

end Lock

end PgSchema
