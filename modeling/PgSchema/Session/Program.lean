import PgSchema.Failure
import PgSchema.Lock.ReadersWriter
import PgSchema.Log.Line
import PgSchema.Store.Basic

/-!
Programs of a session: steps that make objects, ask for their attributes and call their methods; and
the answers to their steps.

The arguments of a step can be data, objects that are held in a register, models, and tasks.  A task
is a program of its own, which runs when it is called.
-/

namespace PgSchema.Session

mutual

/-- An argument. -/
inductive Arg where
  | data (value : Json)
  | table (name : Json)
  | model (attributes : Entries Json)
  | models (attributes : List (Entries Json))
  /-- A function without arguments that gives a model. -/
  | factory (attributes : Entries Json)
  | register (name : String)
  | task (task : Task)

/-- A task: its steps, and how it ends. -/
inductive Task where
  | make (steps : List Step) (failure : Option Failure) (result : Json)

/-- A step: what it does, the register for its result, and whether its failure is caught. -/
inductive Step where
  | make (deed : Deed) (target : Option String) (caught : Bool)

/-- What a step does.  Named arguments come with their names, in the same order. -/
inductive Deed where
  | create (className : String) (table : Json) (args named : List Arg) (names : List String)
  | get (register name : String)
  | call (register method : String) (args named : List Arg) (names : List String)

end

instance : Inhabited Arg := ⟨.data .null⟩

instance : Inhabited Task := ⟨.make [] none .null⟩

instance : Inhabited Step := ⟨.make (.get "" "") none false⟩

/-- A program. -/
abbrev Program := List Step

/-- The answer to a step: how it ended, whether it was handed to the workers, the answers to the
steps of its tasks, the events on the store, the lines of the log, and the holders of the lock. -/
inductive Answer where
  | make (outcome : Except Failure Json) (deferred : Bool) (inner : List Answer)
      (events : List Store.Event) (lines : List Log.Line) (counts : Lock.Counts)

end PgSchema.Session
