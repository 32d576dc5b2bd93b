import PgSchema.Json.Basic
import PgSchema.Text.Normal.Form

/-!
The syntax of generated modules: names, expressions and statements.

Names count in their normal form, and private names of a class behind the name of the class.  Only
what a generated module can be made of has a form of its own.  What the language has besides is
kept as `other`, by what it is called.
-/

namespace PgSchema.Source

open Number (Double)

/-! ### Names -/

/-- A name inside a class: one that begins with two low lines, and does not end with two, belongs to
that class alone. -/
def privateName (owner : String) (name : String) : String :=
  let line := "__".toList
  let stem := owner.toList.dropWhile (· = '_')
  if line.isPrefixOf name.toList ∧ ¬ line.isSuffixOf name.toList ∧ ¬ name.toList.contains '.' ∧
      ¬ stem.isEmpty then
    "_" ++ String.ofList stem ++ name
  else name

/-- A name of the text, inside a class or not. -/
def countedName (owner : String) (name : String) : String :=
  privateName owner (Text.Normal.form name)

/-! ### Expressions and statements -/

/-- A constant. -/
inductive Constant where
  | null
  | truth (b : Bool)
  | ellipsis
  | int (n : Int)
  | double (x : Double)
  | imaginary (x : Double)
  | text (s : String)
  | bytes (s : String)
  deriving Inhabited

mutual

/-- An expression. -/
inductive Expr where
  | constant (c : Constant)
  | name (id : String)
  | member (e : Expr) (id : String)
  | subscript (e index : Expr)
  | call (callee : Expr) (arguments : List Argument)
  | tuple (items : List Expr)
  | list (items : List Expr)
  | dict (entries : List (Expr × Expr))
  /-- An item that stands for all of its own items. -/
  | spread (e : Expr)
  /-- An operator between operands, or before one. -/
  | operation (symbol : String) (operands : List Expr)
  | other (what : String)

/-- An argument of a call, by its place or by its name. -/
inductive Argument where
  | plain (e : Expr)
  | named (id : String) (e : Expr)
  /-- The entries of a mapping, as arguments by their names. -/
  | entries (e : Expr)

end

instance : Inhabited Expr := ⟨.constant .null⟩

instance : Inhabited Argument := ⟨.plain default⟩

/-- A parameter of a function. -/
structure Parameter where
  name : String
  type : Option Expr := none
  default : Option Expr := none
  deriving Inhabited

/-- The parameters of a function. -/
structure Parameters where
  /-- How many of the plain parameters only have a place. -/
  placed : Nat := 0
  plain : List Parameter := []
  /-- The parameter for all further arguments by place. -/
  rest : Option Parameter := none
  /-- The parameters that only have a name. -/
  named : List Parameter := []
  /-- The parameter for all further arguments by name. -/
  more : Option Parameter := none
  deriving Inhabited

/-- All parameters, in the order in which they are written. -/
def Parameters.all (ps : Parameters) : List Parameter :=
  ps.plain ++ ps.rest.toList ++ ps.named ++ ps.more.toList

/-- A statement. -/
inductive Stmt where
  | expr (e : Expr)
  | assign (targets : List Expr) (value : Expr)
  | annotated (target type : Expr) (value : Option Expr)
  | give (value : Option Expr)
  | pass
  | imports (modules : List (String × Option String))
  /-- Names of a module, which is as many packages further out as there are dots before it.  Without
  a list of names all of them are meant. -/
  | importFrom (level : Nat) (module : String) (names : Option (List (String × Option String)))
  /-- A class, which is called by its name and kept under another one if that is private. -/
  | cls (decorators : List Expr) (name kept : String) (arguments : List Argument)
      (body : List Stmt)
  | function (decorators : List Expr) (name kept : String) (parameters : Parameters)
      (returns : Option Expr) (body : List Stmt)
  | other (what : String)
  deriving Inhabited

end PgSchema.Source
