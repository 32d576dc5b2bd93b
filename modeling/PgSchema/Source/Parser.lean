import PgSchema.Source.Grammar
import PgSchema.Source.Lexer
import PgSchema.Source.Literal
import PgSchema.Source.Tree
import Std.Data.TreeMap

/-!
Trees of a text by the rules of a grammar.

The alternatives of a rule are tried in order, and the first one that reads something is taken.  A
text that follows no rule is read once more with the rules that only read what is wrong, so that the
flaw can be told.  If none of them reads it either, the flaw is where the first reading came to its
last token.

A complaint is made only if its condition holds.  Its message can name the sort of the expression
that is to blame, its text, and its line.
-/

/-! ### Complaints -/

namespace PgSchema.Source.Complaint

/-- Statements of former times, which are functions now. -/
def oldStatements : List String := ["print", "exec"]

/-- A name of a statement of former times. -/
def isOld (t : Tree) : Bool :=
  match t with
  | .token w => w.sort = .name && w.text ∈ oldStatements
  | _ => false

/-- The positional arguments of a call. -/
def byPlace : Tree → List Tree
  | .node "args" 0 (all :: _) =>
    all.items.flatMap fun
      | .node "args" 0 [.many more, _] => more
      | t => [t]
  | _ => []

/-- The arguments by name of a call. -/
def byName : Tree → List Tree
  | .node "args" 0 [_, .node _ _ [_, .node "kwargs" _ parts]] => parts.flatMap Tree.items
  | .node "kwargs" _ parts => parts.flatMap Tree.items
  | _ => []

/-- The argument hands on a mapping. -/
def isMapping : Tree → Bool
  | .node "kwarg_or_double_starred" _ [mark, _] => mark.word = "**"
  | _ => false

/-- The message with what it names about the part that is to blame. -/
def fill (message : String) (blamed : Tree) : String :=
  ((message.replace "%e" (blamed.kind Tree.mostDepth)).replace "%n" blamed.word).replace "%l"
    (toString blamed.line)

/-- The flaw that a complaint tells, of the parts that were read, with the last token that was
looked at and the number of brackets that are open behind the parts. -/
def flaw? (c : Complaint) (parts : List Tree) (last : Nat) (level : Nat) : Option Flaw :=
  let blamed := parts.getD (c.item - 1) .absent
  let told (t : Tree) (message : String) : Option Flaw :=
    some { message := fill message t, line := t.line }
  let target (use : Tree.TargetUse) : Option Flaw :=
    (blamed.badTarget? use Tree.mostDepth).bind fun t => told t c.message
  match c.condition with
  | "assign" => target .assign
  | "delete" => target .delete
  | "loop" => target .loop
  | "indented" => some { sort := .indentation, message := fill c.message blamed, line := last }
  | "old-statement" => if isOld blamed then told blamed c.message else none
  | "comma" => if isOld blamed || level = 0 then none else told blamed c.message
  | "bare-generator" =>
    if (byPlace blamed).length ≤ 1 then none
    else told ((byPlace blamed).getLastD blamed) c.message
  | "order" =>
    some { message := c.message ++ (if (byName blamed).any isMapping then " unpacking" else "")
           line := last }
  | _ => if c.item = 0 then some { message := c.message, line := last } else told blamed c.message

end PgSchema.Source.Complaint

/-! ### Readings -/

namespace PgSchema.Source

/-- What a part of the text is read as. -/
inductive Outcome where
  | found (t : Tree) (behind : Nat)
  | failed
  /-- No other alternative of the rule is tried. -/
  | stopped
  | flawed (f : Flaw)
  deriving Inhabited

/-- What is read, and with which rules. -/
structure Reading where
  grammar : Grammar
  tokens : Tokens
  /-- The rules are tried that only read what is wrong. -/
  complains : Bool

/-- What is known after a part of a reading: how many tokens were looked at, and the outcomes that
are kept, by rule and place. -/
structure Progress where
  seen : Nat := 0
  kept : Std.TreeMap Nat Outcome := ∅

/-- A part of a reading. -/
abbrev Parser := StateM Progress Outcome

namespace Reading

variable (r : Reading)

/-- The token in a place. -/
def tokenAt (place : Nat) : Token := r.tokens.all.getD place { sort := .finish, line := 0 }

/-- The last token that was looked at. -/
def lastToken (p : Progress) : Token := r.tokenAt (p.seen - 1)

/-- A token that is looked at and read if it fits. -/
def readToken (place : Nat) (fits : Token → Bool) : Parser := do
  modify fun p => { p with seen := max p.seen (place + 1) }
  let t := r.tokenAt place
  match t.sort, r.tokens.ending.flaw with
  | .broken, some flaw => return .flawed flaw
  | _, _ => return if fits t then .found (.token t) (place + 1) else .failed

/-- The names that are keywords in some places. -/
def softWords : List String := ["_", "case", "match"]

/-- An alternative that only can complain is left out of a reading without complaints. -/
def isLeftOut (parts : List Gram) : Bool :=
  match parts with
  | [.rule id] => !r.complains && (r.grammar.getD id default).isComplaint
  | _ => false

/-- The parts of an alternative make a tree, or a complaint. -/
def conclude (rule : String) (index : Nat) (complaint : Option Complaint) (parts : List Tree)
    (behind : Nat) : Parser := do
  match complaint with
  | none => return .found (.ofParts rule index parts) behind
  | some c =>
    let p ← get
    match c.flaw? parts (r.lastToken p).line (r.tokenAt (behind - 1)).level with
    | some flaw => return .flawed flaw
    | none => return .stopped

/-- What is wrong with the literals that a rule has read, the last token being on a line. -/
def literalFlaw? (rule : String) (o : Outcome) (last : Nat) : Option Flaw :=
  match o with
  | .found (.node "strings" _ [all]) _ =>
    if rule = "strings" then Literal.flaw? all.literals last else none
  | _ => none

/-- What is wrong with literals is told as soon as they are read. -/
def checkLiterals (rule : String) (o : Outcome) : Parser := do
  let p ← get
  match literalFlaw? rule o (r.lastToken p).line with
  | some flaw => return .flawed flaw
  | none => return o

/-- The outcome of a rule is kept, unless it is a flaw. -/
def keep (isKept : Bool) (key : Nat) (o : Outcome) : Parser := do
  match o with
  | .flawed _ => return o
  | _ =>
    if isKept then modify fun p => { p with kept := p.kept.insert key o }
    return o

end Reading

mutual

/-- A part of an alternative is read. -/
def readGram (r : Reading) : Nat → Gram → Nat → Parser
  | 0, _, _ => return .failed
  | n + 1, g, place => do
    match g with
    | .sort s => r.readToken place (·.sort = s)
    | .soft => r.readToken place fun t => t.sort = .name && t.text ∈ Reading.softWords
    | .word text => r.readToken place fun t => t.sort = .mark && t.text = text
    | .forced text =>
      match ← r.readToken place fun t => t.sort = .mark && t.text = text with
      | .failed =>
        return .flawed { message := "expected '" ++ text ++ "'", line := (r.tokenAt place).line }
      | o => return o
    | .rule id => readRule r n id place
    | .group alternatives => readGroup r n 0 alternatives place
    | .optional g =>
      match ← readGram r n g place with
      | .failed => return .found .absent place
      | o => return o
    | .many g => readMany r n g [] place
    | .several g =>
      match ← readGram r n g place with
      | .found t behind => readMany r n g [t] behind
      | o => return o
    | .separated mark g =>
      match ← readGram r n g place with
      | .found t behind => readSeparated r n mark g [t] behind
      | o => return o
    | .ahead g =>
      match ← readGram r n g place with
      | .found .. => return .found .absent place
      | o => return o
    | .notAhead g =>
      match ← readGram r n g place with
      | .found .. => return .failed
      | .failed => return .found .absent place
      | o => return o
    | .cut => return .found .absent place
termination_by structural n => n

/-- Items are read as long as there are some; those read already come last first. -/
def readMany (r : Reading) : Nat → Gram → List Tree → Nat → Parser
  | 0, _, found, place => return .found (.many found.reverse) place
  | n + 1, g, found, place => do
    match ← readGram r n g place with
    | .found t behind => readMany r n g (t :: found) behind
    | .flawed f => return .flawed f
    | _ => return .found (.many found.reverse) place
termination_by structural n => n

/-- Items behind separators are read as long as there are some. -/
def readSeparated (r : Reading) : Nat → String → Gram → List Tree → Nat → Parser
  | 0, _, _, found, place => return .found (.many found.reverse) place
  | n + 1, mark, g, found, place => do
    match ← r.readToken place fun t => t.sort = .mark && t.text = mark with
    | .found _ inner =>
      match ← readGram r n g inner with
      | .found t behind => readSeparated r n mark g (t :: found) behind
      | .flawed f => return .flawed f
      | _ => return .found (.many found.reverse) place
    | .flawed f => return .flawed f
    | _ => return .found (.many found.reverse) place
termination_by structural n => n

/-- Parts are read, one after the other; `isCut` tells that no other alternative is tried. -/
def readParts (r : Reading) : Nat → List Gram → Bool → List Tree → Nat → Parser
  | 0, _, _, _, _ => return .failed
  | _, [], _, found, place => return .found (.many found.reverse) place
  | n + 1, g :: rest, isCut, found, place => do
    match ← readGram r n g place with
    | .found t behind =>
      match g with
      | .ahead _ | .notAhead _ => readParts r n rest isCut found place
      | .cut => readParts r n rest true found place
      | _ => readParts r n rest isCut (t :: found) behind
    | .failed => return if isCut then .stopped else .failed
    | o => return o
termination_by structural n => n

/-- The alternatives inside a rule are tried. -/
def readGroup (r : Reading) : Nat → Nat → List (List Gram) → Nat → Parser
  | 0, _, _, _ => return .failed
  | _, _, [], _ => return .failed
  | n + 1, index, parts :: rest, place => do
    if r.isLeftOut parts then readGroup r n (index + 1) rest place
    else
      match ← readParts r n parts false [] place with
      | .found t behind => r.conclude "" index none t.items behind
      | .failed => readGroup r n (index + 1) rest place
      | .stopped => return .failed
      | .flawed f => return .flawed f
termination_by structural n => n

/-- The alternatives of a rule are tried. -/
def readRuleAlternatives (r : Reading) : Nat → String → Nat → List Alternative → Nat → Parser
  | 0, _, _, _, _ => return .failed
  | _, _, _, [], _ => return .failed
  | n + 1, rule, index, a :: rest, place => do
    if r.isLeftOut a.parts then readRuleAlternatives r n rule (index + 1) rest place
    else
      match ← readParts r n a.parts false [] place with
      | .found t behind =>
        match ← r.conclude rule index a.complaint t.items behind with
        | .stopped => return .failed
        | o => return o
      | .failed => readRuleAlternatives r n rule (index + 1) rest place
      | .stopped => return .failed
      | .flawed f => return .flawed f
termination_by structural n => n

/-- A rule is read, unless its outcome is kept. -/
def readRule (r : Reading) : Nat → Nat → Nat → Parser
  | 0, _, _ => return .failed
  | n + 1, id, place => do
    let rule := r.grammar.getD id default
    let key := place * r.grammar.size + id
    let p ← get
    match if rule.isKept then p.kept.get? key else none with
    | some o => return o
    | none =>
      let inner := if rule.isQuiet then { r with complains := false } else r
      let o ← readRuleAlternatives inner n rule.name 0 rule.alternatives place
      let o ← r.checkLiterals rule.name o
      Reading.keep rule.isKept key o
termination_by structural n => n

end

/-- How deep the rules for a number of tokens are inside each other at most. -/
def mostReadings (count : Nat) : Nat := 100 * count + 1000

/-- Tokens read by a grammar, from the first rule on. -/
def readAll (g : Grammar) (tokens : Tokens) (complains : Bool) (p : Progress) : Outcome × Progress :=
  let r : Reading := { grammar := g, tokens, complains }
  (readRule r (mostReadings tokens.all.size) 0 0).run { p with kept := ∅ }

/-- A flaw of the tokens behind those that were looked at comes before the flaw of what was read:
a token that cannot be read, or a bracket on a line before that is never closed. -/
def laterFlaw? (tokens : Tokens) (seen : Nat) : Option Flaw :=
  let line := ((tokens.all[seen - 1]?).map (·.line)).getD 0
  match tokens.ending.flaw, tokens.ending.isOwn, tokens.ending.bracket with
  | some flaw, true, _ => some flaw
  | some _, false, some (c, opened) =>
    if line > opened then
      some { message := "'" ++ String.singleton c ++ "' was never closed", line := opened }
    else none
  | _, _, _ => none

/-- A flaw that was found, unless the tokens behind have one that comes before it. -/
def withLater (tokens : Tokens) (seen : Nat) (flaw : Flaw) : Flaw :=
  if ((tokens.all[seen - 1]?).map (·.sort)) = some .broken then flaw
  else (laterFlaw? tokens seen).getD flaw

/-- The flaw of a text that follows no rule, by the last token that was looked at. -/
def plainFlaw (t : Token) : Flaw :=
  match t.sort with
  | .indent => { sort := .indentation, message := "unexpected indent", line := t.line }
  | .dedent => { sort := .indentation, message := "unexpected unindent", line := t.line }
  | _ => { message := "invalid syntax", line := t.line }

/-- The tree of a text. -/
def treeOf (g : Grammar) (tokens : Tokens) : Except Flaw Tree :=
  let (o, p) := readAll g tokens false {}
  match o with
  | .found t _ => .ok t
  | .flawed flaw => .error (withLater tokens p.seen flaw)
  | _ =>
    let last := tokens.all.getD (p.seen - 1) { sort := .finish, line := 0 }
    let (o, p) := readAll g tokens true p
    match o with
    | .flawed flaw => .error (withLater tokens p.seen flaw)
    | _ =>
      match last.sort with
      | .indent | .dedent => .error (plainFlaw last)
      | _ => .error (withLater tokens p.seen (plainFlaw last))

end PgSchema.Source
