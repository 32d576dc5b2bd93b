import PgSchema.Object.Machine
import PgSchema.Object.Text

/-!
Recorders: connections that do nothing but write down how they are used.

A recorder takes the calls that builders and handles make, writes them down with their arguments,
and returns what was laid out for it.
-/

namespace PgSchema.Object

namespace Recorder

/-- The class of recorders. -/
def cls : Class := .known "Recorder"

/-- The methods of a recorder. -/
def methods : List String :=
  ["new_model_from_row", "create_model", "insert", "fetch_all", "fetch_one", "execute", "migrate",
   "close", "transaction_sync", "transaction_async", "transaction_non_exclusive_sync",
   "transaction_non_exclusive_async"]

/-- What a method returns if nothing was laid out for it. -/
def fallback (method : String) (arguments : List Value) : Run Value :=
  if method = "new_model_from_row" then return arguments.getD 1 .null
  else if method = "fetch_all" then newList []
  else return .null

/-- A call is written down.  The outcome is the next value that was laid out for the method. -/
def note (method : String) (arguments : List Value) : Run Value := do
  let shown ← showValues arguments
  Action.change fun c => { c with store := c.store.record (.noted method shown) }
  let s ← Action.work
  match s.returns.get? method with
  | some (next :: rest) =>
    Action.changeWork fun s => { s with returns := s.returns.put method rest }
    ofJson next
  | _ => fallback method arguments

/-- The signature of every method. -/
def signature (h : Heap) (method : String) : Signature :=
  { callee := (Function.noting method).callee h, rest := true }

/-- A method of a recorder. -/
def member (name : String) : Run Value :=
  if name ∈ methods then return .function (.noting name) else refuse (.noBareAttribute name)

end Recorder

end PgSchema.Object
