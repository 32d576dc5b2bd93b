/-!
Tokens: the words of a module's text, and what can be wrong with it.

A token knows the line that it begins on and how many brackets are open behind it.  The depth of
lines is told by tokens of its own, which stand where a line is deeper or less deep than the one
before.
-/

namespace PgSchema.Source

/-! ### Flaws -/

/-- The sorts of flaws. -/
inductive FlawSort where
  | form
  | indentation
  | tabs
  deriving DecidableEq, Repr, Inhabited

/-- A flaw in the text of a module. -/
structure Flaw where
  sort : FlawSort := .form
  message : String
  line : Nat
  deriving DecidableEq, Repr, Inhabited

namespace Flaw

/-- The name by which messages call the module. -/
def moduleName : String := "<generated>"

/-- A flaw in words. -/
def text (f : Flaw) : String :=
  f.message ++ " (" ++ moduleName ++ ", line " ++ toString f.line ++ ")"

end Flaw

/-! ### Tokens -/

/-- The sorts of tokens. -/
inductive TokenSort where
  | name
  | number
  | text
  | newline
  | indent
  | dedent
  /-- A keyword, a bracket, an operator or a separator. -/
  | mark
  | finish
  /-- The place where the text cannot be read on. -/
  | broken
  deriving DecidableEq, Repr, Inhabited

/-- A token. -/
structure Token where
  sort : TokenSort
  text : String := ""
  line : Nat
  /-- The number of brackets that are open behind the token. -/
  level : Nat := 0
  deriving DecidableEq, Repr, Inhabited

/-- The words that cannot be names. -/
def keywords : List String :=
  ["False", "None", "True", "and", "as", "assert", "async", "await", "break", "class", "continue",
   "def", "del", "elif", "else", "except", "finally", "for", "from", "global", "if", "import", "in",
   "is", "lambda", "nonlocal", "not", "or", "pass", "raise", "return", "try", "while", "with",
   "yield"]

/-- Why there are no more tokens behind the last one. -/
structure Ending where
  /-- The flaw, unless the end of the text was reached. -/
  flaw : Option Flaw := none
  /-- The flaw is one of the token itself, and not of its place. -/
  isOwn : Bool := false
  /-- The innermost bracket that is open, with its line. -/
  bracket : Option (Char × Nat) := none
  deriving Inhabited

/-- A text as tokens. -/
structure Tokens where
  all : Array Token
  ending : Ending

end PgSchema.Source
