import PgSchema.Fault
import PgSchema.Source.Check
import PgSchema.Source.Literal
import PgSchema.Source.Parser
import PgSchema.Source.Syntax

/-!
The statements and expressions of a tree, and modules read: from a text to its statements, or to
what is wrong with it.

A name counts in its normal form, and a private name of a class counts behind the name of the class;
only the keywords of calls stay as they are.  Brackets around an expression leave no trace.
-/

namespace PgSchema.Source

open Number (Double)

/-! ### Constants -/

/-- The number of a numeral in ten digits, with a point or an exponent. -/
def decimalOf (cs : List Char) : Double :=
  let front := cs.takeWhile (· ≠ 'e')
  let power := (cs.dropWhile (· ≠ 'e')).drop 1
  let whole := front.takeWhile (· ≠ '.')
  let fraction := (front.dropWhile (· ≠ '.')).drop 1
  let size : Int := Literal.valueOf 10 (power.filter Char.isDigit)
  Double.ofDecimal false (Literal.valueOf 10 (whole ++ fraction))
    ((if power.head? = some '-' then -size else size) - fraction.length)

/-- The number of a numeral. -/
def numberOf (numeral : String) : Constant :=
  match (numeral.toList.filter (· ≠ '_')).map Char.toLower with
  | '0' :: 'x' :: cs => .int (Literal.valueOf 16 cs)
  | '0' :: 'o' :: cs => .int (Literal.valueOf 8 cs)
  | '0' :: 'b' :: cs => .int (Literal.valueOf 2 cs)
  | cs =>
    if cs.getLast? = some 'j' then .imaginary (decimalOf cs.dropLast)
    else if '.' ∈ cs ∨ 'e' ∈ cs then .double (decimalOf cs)
    else .int (Literal.valueOf 10 cs)

/-- The constants that are keywords or marks. -/
def wordConstants : List (String × Constant) :=
  [("None", .null), ("True", .truth true), ("False", .truth false), ("...", .ellipsis)]

namespace Tree

/-- A single token as an expression. -/
def ofToken (owner : String) (t : Token) : Expr :=
  match t.sort with
  | .name => .name (countedName owner t.text)
  | .number => .constant (numberOf t.text)
  | _ =>
    match wordConstants.lookup t.text with
    | some c => .constant c
    | none => .other t.text

/-- Literals that stand next to each other.  A text with fields is no constant, even if it has
none. -/
def ofLiterals (literals : List Tree) : Expr :=
  let tokens := literals.filterMap fun
    | token t => some t
    | _ => none
  match Literal.pieces none tokens with
  | .ok (.text s) => .constant (.text s)
  | .ok (.bytes s) => .constant (.bytes s)
  | .ok (.fields s) => .operation "fields" [.constant (.text s)]
  | .error _ => .other "literal"

/-! ### Expressions -/

/-- The arguments in the brackets of a call, as trees of their own. -/
def argumentTrees : Nat → Tree → List Tree
  | 0, _ => []
  | n + 1, t =>
    match t with
    | node rule _ parts =>
      if rule ∈ ["arguments", "args", "kwargs", ""] then parts.flatMap (argumentTrees n) else [t]
    | many items => items.flatMap (argumentTrees n)
    | token w => if w.text = "," then [] else [t]
    | absent => []

section Parts

variable (inner : Tree → Expr)

/-- An argument of a call. -/
def argument : Tree → Argument
  | node "kwarg_or_starred" _ [name, _, e] | node "kwarg_or_double_starred" _ [name, _, e] =>
    .named (Text.Normal.form name.word) (inner e)
  | node "kwarg_or_double_starred" _ [_, e] => .entries (inner e)
  | t => .plain (inner t)

/-- The arguments of a call or of a class. -/
def argumentList (t : Tree) : List Argument := (argumentTrees mostDepth t).map (argument inner)

/-- An expression with a trailer: a member, an element, or a call. -/
def trailed (owner : String) (e : Expr) : Tree → Expr
  | node _ _ [_, name] => .member e (countedName owner name.word)
  | node _ _ [opening, x, _] =>
    if opening.word = "[" then .subscript e (inner x) else .call e (argumentList inner x)
  | _ => .other "generator"

/-- Operators between operands, the left ones first. -/
def chain (first : Tree) (more : List Tree) : Expr :=
  more.foldl (fun e t =>
    match t with
    | node _ _ [sign, x] => .operation sign.word [e, inner x]
    | _ => e) (inner first)

/-- The words of a mark between two operands. -/
def markText : Tree → String
  | node _ _ words => " ".intercalate (words.map Tree.word)
  | t => t.word

/-- The entries of a dictionary.  Those of another one are not told apart. -/
def dictEntries (t : Tree) : Option (List (Expr × Expr)) :=
  match t with
  | node "double_starred_kvpairs" _ [all, _] => all.items.mapM fun
    | node "kvpair" _ [key, _, value] => some (inner key, inner value)
    | _ => none
  | _ => some []

/-- An expression made of parts. -/
def ofNode (owner : String) : String → List Tree → Expr
  | "group", [_, x, _] => inner x
  | "strings", [all] => ofLiterals all.items
  | "primary", [atom, trailers] | "t_primary", [atom, trailers] =>
    trailers.items.foldl (trailed inner owner) (inner atom)
  | "target_with_star_atom", [e, _, name] | "single_subscript_attribute_target", [e, _, name] =>
    .member (inner e) (countedName owner name.word)
  | "target_with_star_atom", [e, _, x, _] | "single_subscript_attribute_target", [e, _, x, _] =>
    .subscript (inner e) (inner x)
  | "star_expression", [_, x] | "star_named_expression", [_, x] | "starred_expression", [_, x]
  | "star_target", [_, x] => .spread (inner x)
  | "star_expressions", first :: more | "star_targets", first :: more
  | "star_targets_tuple_seq", first :: more =>
    .tuple ((first :: (match more with
      | many items :: _ => (many items).behindSeparators
      | _ => [])).map inner)
  | "star_targets_list_seq", all :: _ => .list (all.items.map inner)
  | "star_atom", [opening, x, _] =>
    match x with
    | absent => if opening.word = "[" then .list [] else .tuple []
    | x => inner x
  | "list", [_, x, _] => .list (x.listed.map inner)
  | "tuple", [_, x, _] =>
    match x with
    | node _ _ [first, _, rest] => .tuple ((first :: rest.listed).map inner)
    | _ => .tuple []
  | "slices", [all, _] => .tuple (all.items.map inner)
  | "dict", [_, x, _] =>
    match dictEntries inner x with
    | some entries => .dict entries
    | none => .other "entries"
  | "comparison", [left, more] =>
    match more.items with
    | [node _ _ [sign, right]] => .operation (markText sign) [inner left, inner right]
    | _ => .other "comparison"
  | "inversion", [sign, x] | "factor", [sign, x] => .operation sign.word [inner x]
  | "power", [x, sign, y] => .operation sign.word [inner x, inner y]
  | "expression", [x, _, condition, _, y] =>
    .operation "if" [inner condition, inner x, inner y]
  | rule, [first, more] =>
    if rule ∈ operationRules then chain inner first more.items else .other rule
  | rule, _ => .other rule

end Parts

/-- An expression, looked into so deep. -/
def expression (owner : String) : Nat → Tree → Expr
  | 0, _ => .other "expression"
  | n + 1, t =>
    match t with
    | token w => ofToken owner w
    | node rule _ parts => ofNode (expression owner n) owner rule parts
    | _ => .other "expression"

/-- An expression inside a class or not. -/
def toExpr (owner : String) (t : Tree) : Expr := expression owner mostDepth t

/-! ### Parameters -/

/-- The parameter of a tree. -/
def parameter (owner : String) : Tree → Parameter
  | node _ _ (node "param" _ parts :: default :: _) =>
    parameterOf parts (match default with
      | node "default" _ [_, e] => some (toExpr owner e)
      | _ => none)
  | node "param" _ parts | node _ _ (node "param_star_type" _ parts :: _)
  | node "param_star_type" _ parts => parameterOf parts none
  | _ => default
where
  /-- The parameter of a name and its type. -/
  parameterOf (parts : List Tree) (default : Option Expr) : Parameter :=
    match parts with
    | name :: type :: _ =>
      { name := countedName owner name.word, default
        type := match type with
          | node _ _ [_, e] => some (toExpr owner e)
          | _ => none }
    | _ => { name := "", default }

/-- Parameters behind the star. -/
def starred (owner : String) : Tree → Parameters
  | node "star_etc" _ (_ :: second :: more :: rest) =>
    let named := more.items.map (parameter owner)
    let kwds := (rest.map (starred owner)).head?.getD {}
    match second with
    | token _ => { kwds with named }
    | p => { kwds with named, rest := some (parameter owner p) }
  | node "kwds" _ [_, p] => { more := some (parameter owner p) }
  | _ => {}

/-- The parameters of a function. -/
def parameters (owner : String) (t : Tree) : Parameters :=
  match t with
  | node "parameters" _ parts => parts.foldl (fun ps part =>
      match part with
      | node "slash_no_default" _ (all :: _) =>
        let plain := all.items.map (parameter owner)
        { ps with plain, placed := plain.length }
      | node "slash_with_default" _ (first :: all :: _) =>
        let plain := (first.items ++ all.items).map (parameter owner)
        { ps with plain, placed := plain.length }
      | many items => { ps with plain := ps.plain ++ items.map (parameter owner) }
      | absent => ps
      | star =>
        let more := starred owner star
        { ps with rest := more.rest, named := more.named, more := more.more }) {}
  | t => starred owner t

/-! ### Statements -/

/-- The name of a module with its dots. -/
def dottedName : Tree → String
  | node _ _ [first, rest] =>
    ".".intercalate ((first :: rest.behindSeparators).map fun t => Text.Normal.form t.word)
  | t => Text.Normal.form t.word

/-- A name that is imported, with the name that it is kept under. -/
def importedName (owner : String) (nameOf : Tree → String) : Tree → String × Option String
  | node _ _ [name, node _ _ [_, other]] =>
    (nameOf name, some (countedName owner other.word))
  | node "import_from_as_name" _ [name, _] | node "dotted_as_name" _ [name, _] =>
    (nameOf name, none)
  | t => (nameOf t, none)

/-- The names that are imported, none for all of them. -/
def importedNames (owner : String) : Tree → Option (List (String × Option String))
  | node "import_from_targets" _ [_, names, _, _] => importedNames owner names
  | node "import_from_as_names" _ [all] =>
    some (all.items.map (importedName owner (fun t => Text.Normal.form t.word)))
  | _ => none

/-- How many packages further out a module is. -/
def dots (t : Tree) : Nat := t.items.foldl (fun n d => n + d.word.length) 0

/-- The value behind a sign, if it is there. -/
def behindSign (owner : String) : Tree → Option Expr
  | node _ _ [_, e] => some (toExpr owner e)
  | _ => none

/-- A statement that has no statements inside. -/
def simpleStatement (owner : String) : Tree → Stmt
  | token w => if w.text = "pass" then .pass
    else if w.text = "return" then .give none
    else .expr (toExpr owner (token w))
  | node "return_stmt" _ [_, absent] => .give none
  | node "return_stmt" _ [_, e] => .give (some (toExpr owner e))
  | node "assignment" _ [target, token _, type, value] =>
    let target := match target with
      | node "" _ [_, x, _] => x
      | x => x
    .annotated (toExpr owner target) (toExpr owner type) (behindSign owner value)
  | node "assignment" _ [targets, value] =>
    .assign (targets.items.map fun
      | node _ _ [target, _] => toExpr owner target
      | t => toExpr owner t) (toExpr owner value)
  | node "import_name" _ [_, node _ _ [all]] =>
    .imports (all.items.map (importedName owner dottedName))
  | node "import_from" _ [_, before, module, _, names] =>
    .importFrom (dots before) (dottedName module) (importedNames owner names)
  | node "import_from" _ [_, before, _, names] =>
    .importFrom (dots before) "" (importedNames owner names)
  | node rule alternative parts =>
    if rule ∈ ["assignment", "raise_stmt", "global_stmt", "nonlocal_stmt", "del_stmt",
        "assert_stmt", "yield_expr"] then .other rule
    else .expr (toExpr owner (node rule alternative parts))
  | _ => .other "statement"

/-- The expressions of decorators. -/
def decorators (owner : String) : Tree → List Expr
  | node "decorators" _ [all] => all.items.map fun
    | node _ _ (_ :: e :: _) => toExpr owner e
    | _ => .other "decorator"
  | _ => []

/-- Statements, looked into so deep. -/
def statements (owner : String) : Nat → Tree → List Stmt
  | 0, _ => [.other "statement"]
  | n + 1, t =>
    match t with
    | node "file" _ (all :: _) => statements owner n all
    | node "statements" _ [all] => all.items.flatMap (statements owner n)
    | node "block" _ [_, _, all, _] => statements owner n all
    | node "simple_stmts" _ (all :: _) => all.items.map (simpleStatement owner)
    | node "class_def" _ [above, raw] => definition owner n (decorators owner above) raw
    | node "function_def" _ [above, raw] => definition owner n (decorators owner above) raw
    | node "class_def_raw" .. | node "function_def_raw" .. => definition owner n [] t
    | node rule .. => [.other rule]
    | _ => []
where
  /-- A class or a function below its decorators. -/
  definition (owner : String) (n : Nat) (above : List Expr) : Tree → List Stmt
    | node "class_def_raw" _ [_, name, arguments, _, body] =>
      let title := Text.Normal.form name.word
      [.cls above title (privateName owner title)
        (match arguments with
          | node _ _ [_, all, _] => argumentList (toExpr owner) all
          | _ => [])
        (statements title n body)]
    | node "function_def_raw" _ [absent, _, name, _, all, _, returns, _, body] =>
      let title := Text.Normal.form name.word
      [.function above title (privateName owner title) (parameters owner all)
        (behindSign owner returns) (statements owner n body)]
    | _ => [.other "definition"]

/-- The statements of a module. -/
def toStatements (t : Tree) : List Stmt := statements "" mostDepth t

end Tree

/-! ### Modules -/

/-- The statements of a module's text. -/
def readModule (text : String) : Except Fault (List Stmt) :=
  if '\x00' ∈ text.toList then
    .error (.badArgument "source code string cannot contain null bytes")
  else
    match treeOf grammar (tokensOf text) with
    | .error flaw => .error (.malformed flaw)
    | .ok t =>
      match checkFlaw? t with
      | some flaw => .error (.malformed flaw)
      | none => .ok t.toStatements

end PgSchema.Source
