import PgSchema.Fault

/-!
How a call on the store can fail.

A failure of the driver carries the state that the database reported.  It reaches the caller inside
a repository failure, which names the operation and the table, or inside an aborted transaction.
The failures of the repository's own kind are never wrapped again.
-/

namespace PgSchema

/-- A failure. -/
inductive Failure where
  /-- A faulty request. -/
  | fault (fault : Fault)
  /-- An error of the application's own code, by the name of its kind, with what it was made of. -/
  | raised (kind : String) (argument : Json)
  /-- An error of the driver, with the state of the database if there is one. -/
  | driver (state : Option String) (message : String)
  /-- A failed operation of the repository, on a table or not, and what made it fail. -/
  | repository (operation : String) (table : Option String) (cause : Failure)
  /-- A schema in the database that cannot be brought in line. -/
  | violation (message : String) (table : Option String) (expected persisted : Json)
  /-- A transaction given up by its task. -/
  | abort (message : String)
  /-- A transaction given up because its task failed. -/
  | transaction (operation : String) (cause : Failure)
  deriving Inhabited

namespace Failure

/-- The kind of errors whose text is shown as a literal. -/
def lookupKind : String := "KeyError"

/-- The name of the kind of errors of a wrong call. -/
def sortKind : String := "TypeError"

/-- Other names of kinds. -/
def otherNames : List (String × String) :=
  [("IOError", "OSError"), ("EnvironmentError", "OSError")]

/-- The complaints of the kinds of errors that are made of more than one value. -/
def widerKinds : List (String × String) :=
  [("UnicodeDecodeError", "function takes exactly 5 arguments (1 given)"),
   ("UnicodeEncodeError", "function takes exactly 5 arguments (1 given)"),
   ("UnicodeTranslateError", "function takes exactly 4 arguments (1 given)"),
   ("BaseExceptionGroup", "BaseExceptionGroup.__new__() takes exactly 2 arguments (1 given)"),
   ("ExceptionGroup", "BaseExceptionGroup.__new__() takes exactly 2 arguments (1 given)")]

/-- An error of a kind, made of a value.  A kind has one proper name, and some kinds cannot be made
of a single value. -/
def ofKind (kind : String) (argument : Json) : Except Failure Failure :=
  match widerKinds.lookup kind with
  | some complaint => .error (.raised sortKind (.text complaint))
  | none => .ok (.raised ((otherNames.lookup kind).getD kind) argument)

/-- What is raised where an error of a kind is to be raised. -/
def raising (kind : String) (argument : Json) : Failure :=
  match ofKind kind argument with
  | .ok e | .error e => e

/-- The message of a transaction given up without a reason. -/
def defaultAbort : String := "Transaction aborted"

/-- The table of an operation, in words. -/
def onTable : Option String → String
  | some "" | none => ""
  | some table => " on " ++ table

/-- A failure in words. -/
def text : Failure → String
  | fault f => f.text
  | raised kind argument => if kind = lookupKind then argument.display else argument.plain
  | driver _ message => message
  | repository operation table cause =>
    operation ++ onTable table ++ " failed" ++
      (match cause with
        | driver state _ =>
          let shown := match state with
            | none | some "" => "no sqlstate"
            | some code => code
          " [" ++ shown ++ "]"
        | _ => "") ++
      ": " ++ text cause
  | violation message _ _ _ => message
  | abort message => message
  | transaction _ cause => "Transaction task failed: " ++ text cause

/-- A failure that is the repository's own, and passes through unchanged. -/
def isTyped : Failure → Bool
  | repository .. | violation .. | abort .. | transaction .. => true
  | fault .. | raised .. | driver .. => false

/-- A failure that gives up a transaction. -/
def isAbort : Failure → Bool
  | abort .. | transaction .. => true
  | _ => false

/-- The operation that a failure names. -/
def operation? : Failure → Option String
  | repository operation _ _ => some operation
  | violation .. => some "migrate"
  | abort _ => some "transaction"
  | transaction operation _ => some operation
  | _ => none

/-- The table that a failure names. -/
def table? : Failure → Option String
  | repository _ table _ => table
  | violation _ table _ _ => table
  | _ => none

/-- The state of the database that a failure carries. -/
def state? : Failure → Option String
  | driver state _ => state
  | repository _ _ (driver state _) => state
  | _ => none

/-- What a failure was caused by. -/
def cause? : Failure → Option Failure
  | repository _ _ cause => some cause
  | transaction _ cause => some cause
  | _ => none

end Failure

end PgSchema
