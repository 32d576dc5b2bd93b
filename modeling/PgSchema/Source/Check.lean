import PgSchema.Source.Syntax
import PgSchema.Source.Tree

/-!
Flaws of text that follows the rules: names that are given twice, and statements and expressions
that stand where they mean nothing.

Parameters are checked first, in the whole text, and everything else from top to bottom after that.
-/

namespace PgSchema.Source.Check

open Source.Tree (node token many)

/-- The name of a single token. -/
def name (owner : String) (t : Tree) : String := countedName owner t.word

/-- The name that nothing can be called. -/
def reserved : String := "__debug__"

/-- Names are compared in their normal forms. -/
def isReserved (name : String) : Bool := Text.Normal.form name = reserved

/-- The flaw of the reserved name. -/
def reservedFlaw (line : Nat) : Option Flaw :=
  some { message := "cannot assign to " ++ reserved, line }

/-- The first flaw of trees in a row. -/
def firstOf (check : Tree → Option Flaw) (ts : List Tree) : Option Flaw := ts.findSome? check

/-! ### Parameters -/

/-- The names of parameters, as trees of single tokens. -/
def parameterNames : Nat → Tree → List Tree
  | 0, _ => []
  | n + 1, t =>
    match t with
    | node "param" _ (first :: _) | node "param_star_type" _ (first :: _) => [first]
    | node "lambda_param" _ parts => parts.filter fun p => match p with
      | token t => t.sort = .name
      | _ => false
    | node "default" .. => []
    | node _ _ children => children.flatMap (parameterNames n)
    | many items => items.flatMap (parameterNames n)
    | token t => if t.sort = .name then [token t] else []
    | _ => []

/-- The first parameter whose name is taken. -/
def twice? (owner : String) (known : List String) : List Tree → Option Flaw
  | [] => none
  | t :: rest =>
    let name := name owner t
    if name ∈ known then
      let message := "duplicate argument '" ++ name ++ "' in function definition"
      some { message, line := t.line }
    else twice? owner (name :: known) rest

/-- The name behind a keyword among the parts of a definition. -/
def nameBehind (keyword : String) : List Tree → Tree
  | a :: b :: rest => if a.word = keyword then b else nameBehind keyword (b :: rest)
  | _ => .absent

/-- The parts of a definition that are parameters. -/
def isParameters : Tree → Bool
  | node rule .. =>
    rule ∈ ["parameters", "star_etc", "kwds", "param", "param_with_default", "param_no_default",
      "lambda_params"]
  | _ => false

/-- Parameters that are named twice. -/
def parameterFlaw? (owner : String) : Nat → Tree → Option Flaw
  | 0, _ => none
  | n + 1, t =>
    let inside (owner : String) (ts : List Tree) := firstOf (parameterFlaw? owner n) ts
    match t with
    | node "class_def_raw" _ parts => inside (nameBehind "class" parts).word parts
    | node rule _ parts =>
      if rule = "function_def_raw" ∨ rule = "lambdef" then
        let names := (parts.filter isParameters).flatMap (parameterNames Tree.mostDepth)
        (twice? owner [] names).or (inside owner parts)
      else inside owner parts
    | many items => inside owner items
    | _ => none

/-! ### Statements and expressions -/

/-- Where a part of the text stands. -/
structure Place where
  isFunction : Bool := false
  isLoop : Bool := false
  /-- The line of the statement. -/
  line : Nat := 0

/-- The keywords of arguments. -/
def argumentNames : Nat → Tree → List Tree
  | 0, _ => []
  | n + 1, t =>
    match t with
    | node rule _ parts =>
      if rule = "kwarg_or_starred" ∨ rule = "kwarg_or_double_starred" then
        match parts with
        | [first, _, _] => [first]
        | _ => []
      else if rule ∈ ["args", "kwargs", ""] then parts.flatMap (argumentNames n)
      else []
    | many items => items.flatMap (argumentNames n)
    | _ => []

/-- A keyword that is given twice, or is reserved. -/
def keywordFlaw? (line : Nat) (known : List String) : List Tree → Option Flaw
  | [] => none
  | t :: rest =>
    let name := Text.Normal.form t.word
    if name = reserved then reservedFlaw line
    else if name ∈ known then
      some { message := "keyword argument repeated: " ++ name, line := t.line }
    else keywordFlaw? line (name :: known) rest

/-- A starred item is no value of its own. -/
def starFlaw (line : Nat) : Option Flaw :=
  some { message := "can't use starred expression here", line }

/-- The flaw of targets. -/
def targetFlaw? (line : Nat) : Nat → Tree → Option Flaw
  | 0, _ => none
  | n + 1, t =>
    match t with
    | token w => if isReserved w.text then reservedFlaw w.line else none
    | node "target_with_star_atom" 0 [_, _, last]
    | node "single_subscript_attribute_target" 0 [_, _, last] =>
      if isReserved last.word then reservedFlaw line else none
    | node "star_targets" _ parts | node "star_atom" _ parts | node "star_targets_tuple_seq" _ parts
    | node "star_targets_list_seq" _ parts | node "" _ parts | many parts =>
      firstOf (targetFlaw? line n) parts
    | node "star_target" 0 [_, inner] => targetFlaw? line n inner
    | _ => none

/-- A target that is starred by itself. -/
def loneStar? : Tree → Option Flaw
  | node "star_target" 0 parts =>
    some { message := "starred assignment target must be in a list or tuple"
           line := (node "star_target" 0 parts).line }
  | _ => none

/-- The module that is no module, but tells how the text is to be read. -/
def isReadingOption (t : Tree) : Bool := Text.Normal.form t.word = "__future__"

/-- The flaws of names that are imported. -/
def importFlaw? (line : Nat) : Nat → Tree → Option Flaw
  | 0, _ => none
  | n + 1, t =>
    match t with
    | token w => if isReserved w.text then reservedFlaw line else none
    | node "import_from_as_name" _ [name, other] | node "dotted_as_name" _ [name, other] =>
      match other with
      | node _ _ [_, other] => importFlaw? line n other
      | _ => importFlaw? line n name
    | node "dotted_name" _ (first :: _) => importFlaw? line n first
    | node _ _ parts | many parts => firstOf (importFlaw? line n) parts
    | _ => none

/-- The first flaw of a tree in a place. -/
def flaw? (p : Place) : Nat → Tree → Option Flaw
  | 0, _ => none
  | n + 1, t =>
    let inside (p : Place) (ts : List Tree) := firstOf (flaw? p n) ts
    let here := { p with line := t.line }
    match t with
    | node "statements" _ [many all] => firstOf (fun s => flaw? { p with line := s.line } n s) all
    | node "simple_stmts" _ parts =>
      firstOf (fun s => flaw? { p with line := s.line } n s) (parts.flatMap Tree.items)
    | node "function_def_raw" _ parts =>
      let parameters := parts.filter isParameters
      let names := parameters.flatMap (parameterNames Tree.mostDepth)
      let body := parts.getLastD .absent
      (if names.any (isReserved ·.word) then reservedFlaw t.line else none).or <|
        (inside here parts.dropLast).or <|
          (flaw? { isFunction := true, line := body.line } n body).or <|
            if isReserved (nameBehind "def" parts).word then reservedFlaw t.line else none
    | node "class_def_raw" _ parts =>
      let body := parts.getLastD .absent
      (flaw? { line := body.line } n body).or <|
        (inside here parts.dropLast).or <|
          if isReserved (nameBehind "class" parts).word then reservedFlaw t.line else none
    | node "lambdef" _ parts => inside { p with isFunction := true } parts
    | node "while_stmt" _ parts | node "for_stmt" _ parts => inside { p with isLoop := true } parts
    | node "return_stmt" _ parts =>
      if p.isFunction then inside p parts
      else some { message := "'return' outside function", line := t.line }
    | node "yield_expr" _ parts =>
      if p.isFunction then inside p parts
      else some { message := "'yield' outside function", line := t.line }
    | node "await_primary" 0 parts =>
      if p.isFunction then inside p parts
      else some { message := "'await' outside function", line := t.line }
    | token w =>
      if w.sort = .mark ∧ ¬ p.isLoop then
        match w.text with
        | "break" => some { message := "'break' outside loop", line := w.line }
        | "continue" => some { message := "'continue' not properly in loop", line := w.line }
        | "yield" =>
          if p.isFunction then none
          else some { message := "'yield' outside function", line := w.line }
        | "return" =>
          if p.isFunction then none
          else some { message := "'return' outside function", line := w.line }
        | _ => none
      else none
    | node "assignment" 2 [targets, value] =>
      (flaw? p n value).or <| firstOf (fun
        | node _ _ [target, _] => (loneStar? target).or (targetFlaw? p.line n target)
        | _ => none) targets.items
    | node "assignment" 0 (first :: rest) | node "assignment" 1 (first :: rest) =>
      (inside p rest).or (targetFlaw? p.line n first)
    | node "assignment_expression" _ [first, _, value] =>
      (flaw? p n value).or (targetFlaw? p.line n first)
    | node "star_expression" 0 _ => starFlaw t.line
    | node "star_expressions" _ parts =>
      inside p ((parts.flatMap Tree.items).map fun
        | node "star_expression" 0 [_, inner]
        | node "" _ [_, node "star_expression" 0 [_, inner]] =>
          inner
        | other => other)
    | node "args" _ parts | node "kwargs" _ parts =>
      (inside p parts).or (keywordFlaw? p.line [] (argumentNames n t))
    | node "import_from" _ parts =>
      if parts.any isReadingOption then
        some { message := "from __future__ imports must occur at the beginning of the file"
               line := t.line }
      else importFlaw? p.line n (parts.getLastD .absent)
    | node "import_name" _ parts => importFlaw? p.line n (parts.getLastD .absent)
    | node _ _ parts | many parts => inside p parts
    | .absent => none

end PgSchema.Source.Check

namespace PgSchema.Source

/-- The first flaw of a text that follows the rules. -/
def checkFlaw? (t : Tree) : Option Flaw :=
  (Check.parameterFlaw? "" Tree.mostDepth t).or (Check.flaw? {} Tree.mostDepth t)

end PgSchema.Source
