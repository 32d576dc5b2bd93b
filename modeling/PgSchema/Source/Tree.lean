import PgSchema.Source.Token

/-!
Trees: how the tokens of a text belong together.

A node is named after its rule and knows which alternative was read.  A rule that reads a single part
adds no node of its own, so that the trees of expressions have a node for every operation only.
-/

namespace PgSchema.Source

/-- A tree. -/
inductive Tree where
  | token (t : Token)
  | node (rule : String) (alternative : Nat) (children : List Tree)
  | many (items : List Tree)
  | absent
  deriving Inhabited

namespace Tree

/-- A repetition that reads nothing. -/
def isEmptyMany : Tree → Bool
  | many [] => true
  | _ => false

/-- The tree of an alternative with its parts. -/
def ofParts (rule : String) (alternative : Nat) (parts : List Tree) : Tree :=
  match parts with
  | [token t] => token t
  | [node r i children] => node r i children
  | [first, rest] =>
    if rest.isEmptyMany then
      match first with
      | many _ | absent => node rule alternative parts
      | first => first
    else node rule alternative parts
  | parts => node rule alternative parts

/-- The first line of trees, looked for so deep. -/
def lineOf? : Nat → List Tree → Option Nat
  | 0, _ | _, [] => none
  | n + 1, t :: rest =>
    match t with
    | token t => some t.line
    | node _ _ children => (lineOf? n children).or (lineOf? n rest)
    | many items => (lineOf? n items).or (lineOf? n rest)
    | absent => lineOf? n rest

/-- How deep trees are looked into. -/
def mostDepth : Nat := 10000

/-- The line that a tree begins on. -/
def line (t : Tree) : Nat := (lineOf? mostDepth [t]).getD 0

/-- The text of a tree that is a single token. -/
def word : Tree → String
  | token t => t.text
  | _ => ""

/-- The items of a repetition, or of a part that is there or not. -/
def items : Tree → List Tree
  | many items => items
  | absent => []
  | t => [t]

/-- The literals among the items. -/
def literals (t : Tree) : List Token :=
  t.items.filterMap fun
    | token t => if t.sort = .text then some t else none
    | _ => none

/-- The items with separators between them: those behind the first one come with their separator. -/
def behindSeparators (t : Tree) : List Tree :=
  t.items.map fun
    | node _ _ [_, item] => item
    | other => other

/-- The items of a part that lists named expressions. -/
def listed : Tree → List Tree
  | node "star_named_expressions" _ [all, _] => all.items
  | absent => []
  | t => [t]

/-! ### Sorts of expressions -/

/-- The letters before a text. -/
def textLetters (s : String) : List Char :=
  (s.toList.takeWhile fun c => c ≠ '\x27' && c ≠ '\x22').map Char.toLower

/-- The rules of operations. -/
def operationRules : List String :=
  ["factor", "power", "term", "sum", "shift_expr", "bitwise_and", "bitwise_xor", "bitwise_or",
   "inversion", "conjunction", "disjunction"]

/-- The names of expressions by their rules. -/
def ruleKinds : List (String × String) :=
  operationRules.map (·, "expression") ++
  [("comparison", "comparison"), ("expression", "conditional expression"), ("lambdef", "lambda"),
   ("await_primary", "await expression"), ("yield_expr", "yield expression"),
   ("star_expression", "starred"), ("star_named_expression", "starred"),
   ("starred_expression", "starred"), ("star_expressions", "tuple"),
   ("assignment_expression", "named expression"), ("list", "list"), ("tuple", "tuple"),
   ("genexp", "generator expression"), ("listcomp", "list comprehension"),
   ("setcomp", "set comprehension"), ("dictcomp", "dict comprehension"), ("dict", "dict literal"),
   ("set", "set display")]

/-- The name of what the last trailer makes of an expression. -/
def trailerKind : Tree → String
  | node "trailer" 0 _ | node "t_trailer" 0 _ => "attribute"
  | node "trailer" 3 _ | node "t_trailer" 1 _ => "subscript"
  | _ => "function call"

/-- The name of an expression in messages. -/
def kind : Nat → Tree → String
  | 0, _ => ""
  | n + 1, t =>
    match t with
    | token t =>
      match t.sort with
      | .name => "name"
      | .mark => if t.text = "..." then "ellipsis" else t.text
      | _ => "literal"
    | node "group" _ [_, inner, _] => kind n inner
    | node "strings" _ [all] =>
      if all.items.any fun t => 'f' ∈ textLetters t.word then "f-string expression" else "literal"
    | node "primary" _ [_, trailers] | node "t_primary" _ [_, trailers] =>
      trailerKind (trailers.items.getLastD absent)
    | node rule _ _ => (ruleKinds.lookup rule).getD "expression"
    | _ => ""

/-! ### Targets -/

/-- What stands for a target. -/
inductive TargetUse where
  | assign
  | delete
  | loop
  deriving DecidableEq, Repr

mutual

/-- The part of an expression that is no target. -/
def badTarget? (use : TargetUse) : Nat → Tree → Option Tree
  | 0, _ => none
  | n + 1, t =>
    match t with
    | node "group" _ [_, inner, _] => badTarget? use n inner
    | node "list" _ [_, inner, _] => firstBad? use n inner.listed
    | node "tuple" _ [_, inner, _] =>
      match inner with
      | node _ _ [first, _, rest] => firstBad? use n (first :: rest.listed)
      | _ => none
    | node "star_expressions" _ (first :: rest :: _) =>
      firstBad? use n (first :: (match rest with
        | many _ => rest.behindSeparators
        | _ => []))
    | node rule _ [_, inner] =>
      if rule ∈ ["star_expression", "star_named_expression", "starred_expression"] then
        if use = .delete then some t else badTarget? use n inner
      else if rule = "comparison" ∧ use = .loop then
        match t with
        | node _ _ [left, rest] =>
          match rest.items.head? with
          | some (node _ _ [sign, _]) => if sign.word = "in" then badTarget? use n left else none
          | _ => none
        | _ => none
      else if t.kind 2 = "attribute" ∨ t.kind 2 = "subscript" then none
      else some t
    | token w => if w.sort = .name then none else some t
    | t => some t

/-- The first part among several that is no target. -/
def firstBad? (use : TargetUse) : Nat → List Tree → Option Tree
  | 0, _ | _, [] => none
  | n + 1, t :: rest => (badTarget? use n t).or (firstBad? use n rest)

end

end Tree

end PgSchema.Source
