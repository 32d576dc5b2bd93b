import PgSchema.Object.Execution
import PgSchema.Session.Steps

/-!
Calls: how values act on each other in a session, up to a depth.

A call of a function of the library runs what the library has for it, a call of a function of a
module runs its body, and a call of a class makes an instance.  What a function needs of other
values it asks of the machine that is one level deeper, so that every chain of calls ends.
-/

namespace PgSchema.Session

open Object

/-- A function of the library or of the language is called, with its receiver in front. -/
def callKnown (m : Machine) (owner name : String) (given : List Value) (named : Entries Value) :
    Run Value :=
  match (features owner).get? name, given with
  | some (.method f), _ | some (.ofClass f), _ => do
    let a ← Action.check (f.signature.accept given named)
    f.run m a
  | some (.builtin arity run), self :: rest => do
    if self.classOf.isKind owner then
      let g ← Action.check (arity.accept self.sortName name ⟨rest, named⟩)
      run m self g
    else refuse (.wrongReceiver owner name self.sortName)
  | some (.builtin ..), [] => refuse (.noReceiver (owner ++ "." ++ name))
  | _, _ => unsupported name

/-- A function without parameters is called. -/
def withoutParameters (callee : String) (given : List Value) (named : Entries Value) :
    Run Unit := do
  let _ ← Action.check (({ callee } : Signature).accept given named)
  return ()

/-- A function is called. -/
def callFunction (m : Machine) (f : Function) (given : List Value) (named : Entries Value) :
    Run Value := do
  let h ← heap
  match f with
  | .known owner name => callKnown m owner name given named
  | .defined id =>
    match h.definition? id with
    | some d => d.run m given named
    | none => unsupported "definition"
  | .task t => do
    withoutParameters (f.callee h) given named
    runTask m t
  | .factory attributes => do
    withoutParameters (f.callee h) given named
    plainModel attributes
  | .noting method => do
    let a ← Action.check ((Recorder.signature h method).accept given named)
    Recorder.note method a.rest

/-- A value is called. -/
def callValue (m : Machine) (v : Value) (given : List Value) (named : Entries Value) : Run Value :=
  match v with
  | .function f => callFunction m f given named
  | .method self f => callFunction m f (self :: given) named
  | .cls c => construct m c given named
  | v => refuse (.notCallable v.sortName)

/-- The machine for calls that are at most so deep. -/
def machine : Nat → Machine
  | 0 => ⟨fun _ _ _ => refuse .tooDeep, fun _ _ => refuse .tooDeep⟩
  | n + 1 =>
    ⟨fun v given named => callValue (machine n) v given named,
     fun v name => memberOf (machine n) v name⟩

/-- How deep calls go. -/
def callDepth : Nat := 900

/-- The steps of a program are run, each of them answered, and none of them ends the program. -/
def runProgram (p : Program) : Run (List Answer) := do
  let outcomes ← Action.each (answered (machine callDepth)) p
  return outcomes.map (·.2)

end PgSchema.Session
