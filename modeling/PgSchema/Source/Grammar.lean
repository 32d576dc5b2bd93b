import PgSchema.Source.Rules
import PgSchema.Source.Token
import PgSchema.Text.Literal
import PgSchema.Text.Words

/-!
The rules of a language as data, read from the form in which they are written.
-/

namespace PgSchema.Source

/-- A part of an alternative. -/
inductive Gram where
  | sort (s : TokenSort)
  /-- A name that is a keyword in some places. -/
  | soft
  | word (text : String)
  | rule (id : Nat)
  | group (alternatives : List (List Gram))
  | optional (g : Gram)
  | many (g : Gram)
  | several (g : Gram)
  | separated (mark : String) (g : Gram)
  | ahead (g : Gram)
  | notAhead (g : Gram)
  | forced (text : String)
  | cut
  deriving Inhabited

/-- What is told about an alternative that reads what is wrong: a condition or the way to find what
is to blame, the part that is to blame, and the message. -/
structure Complaint where
  condition : String := ""
  item : Nat
  message : String

/-- An alternative of a rule. -/
structure Alternative where
  parts : List Gram
  complaint : Option Complaint := none

/-- A rule. -/
structure Rule where
  name : String
  alternatives : List Alternative
  /-- The outcome at a place is kept. -/
  isKept : Bool := false
  /-- No complaints are made inside. -/
  isQuiet : Bool := false
  /-- The rule only reads what is wrong. -/
  isComplaint : Bool := false
  deriving Inhabited

/-- The rules of a language. -/
abbrev Grammar := Array Rule

/-! ### Reading of rules -/

/-- The characters of a rule as it is written: all of them are single bytes. -/
def ruleChars (s : String) : List Char :=
  s.toByteArray.data.toList.map fun b => Char.ofNat b.toNat

/-- A word of a written rule. -/
inductive RuleWord where
  | name (letters : List Char)
  | quoted (text : String)
  | sign (c : Char)
  deriving DecidableEq, Repr

/-- The words of a written rule. -/
def ruleWords : Nat → List Char → List RuleWord
  | 0, _ | _, [] => []
  | n + 1, c :: cs =>
    if c = ' ' then ruleWords n cs
    else if c = Text.singleMark then
      .quoted (String.ofList (cs.takeWhile (· ≠ Text.singleMark))) ::
        ruleWords n ((cs.dropWhile (· ≠ Text.singleMark)).drop 1)
    else if c.isAlpha then
      let isPart (d : Char) : Bool := d.isAlpha || d = '_'
      .name ((c :: cs).takeWhile isPart) :: ruleWords n (cs.dropWhile isPart)
    else .sign c :: ruleWords n cs

/-- The sorts of tokens by their names in rules. -/
def sortNames : List (String × TokenSort) :=
  [("NAME", .name), ("NUMBER", .number), ("TEXT", .text), ("NEWLINE", .newline),
   ("INDENT", .indent), ("DEDENT", .dedent), ("FINISH", .finish)]

/-- A name in a rule, by the names of all rules. -/
def namedGram (ids : List (List Char)) (name : List Char) : Gram :=
  match sortNames.find? fun known => ruleChars known.1 = name with
  | some (_, s) => .sort s
  | none => if name = ruleChars "SOFT" then .soft else .rule (ids.idxOf name)

/-- A part with the sign behind it. -/
def repeated (g : Gram) : List RuleWord → Gram × List RuleWord
  | .sign '*' :: rest => (.many g, rest)
  | .sign '+' :: rest => (.several g, rest)
  | rest => (g, rest)

mutual

/-- Alternatives between bars. -/
def alternativesOf (ids : List (List Char)) : Nat → List RuleWord → List (List Gram) × List RuleWord
  | 0, ws => ([], ws)
  | n + 1, ws =>
    let (parts, rest) := partsOf ids n ws
    match rest with
    | .sign '|' :: rest =>
      let (others, rest) := alternativesOf ids n rest
      (parts :: others, rest)
    | rest => ([parts], rest)

/-- The parts of an alternative. -/
def partsOf (ids : List (List Char)) : Nat → List RuleWord → List Gram × List RuleWord
  | 0, ws => ([], ws)
  | n + 1, ws =>
    match partOf ids n ws with
    | some (g, rest) =>
      let (others, rest) := partsOf ids n rest
      (g :: others, rest)
    | none => ([], ws)

/-- A part of an alternative, if one begins here. -/
def partOf (ids : List (List Char)) : Nat → List RuleWord → Option (Gram × List RuleWord)
  | 0, _ => none
  | n + 1, ws =>
    match ws with
    | .sign '&' :: .sign '&' :: .quoted text :: rest => some (.forced text, rest)
    | .sign '&' :: rest => (partOf ids n rest).map fun (g, rest) => (.ahead g, rest)
    | .sign '!' :: rest => (partOf ids n rest).map fun (g, rest) => (.notAhead g, rest)
    | .sign '~' :: rest => some (.cut, rest)
    | .sign '(' :: rest =>
      let (alternatives, rest) := alternativesOf ids n rest
      some (repeated (.group alternatives) (rest.drop 1))
    | .sign '[' :: rest =>
      let (alternatives, rest) := alternativesOf ids n rest
      some (repeated (.optional (.group alternatives)) (rest.drop 1))
    | .quoted mark :: .sign '.' :: rest =>
      (partOf ids n rest).map fun
        | (.several g, rest) => (.separated mark g, rest)
        | other => other
    | .quoted text :: rest => some (repeated (.word text) rest)
    | .name name :: rest => some (repeated (namedGram ids name) rest)
    | _ => none

end

/-- A complaint as it is written: words in front of the number are its condition. -/
def Complaint.ofText (s : String) : Complaint :=
  let words := (s.splitOn " ").filter (· ≠ "")
  let condition := words.takeWhile fun w => w.toNat?.isNone
  let behind := words.drop condition.length
  { condition := " ".intercalate condition, item := ((behind.headD "").toNat?).getD 0
    message := " ".intercalate (behind.drop 1) }

/-- The mark between an alternative and its complaint. -/
def complaintMark : List Char := [' ', '#', ' ']

/-- An alternative as it is written. -/
def Alternative.ofText (ids : List (List Char)) (s : String) : Alternative :=
  let read (cs : List Char) : List Gram :=
    let words := ruleWords cs.length cs
    (partsOf ids (2 * words.length + 2) words).1
  match Text.cutAt complaintMark (ruleChars s) with
  | some (parts, complaint) =>
    { parts := read parts, complaint := some (.ofText (String.ofList complaint)) }
  | none => { parts := read (ruleChars s) }

/-- Rules as they are written. -/
def Grammar.ofTexts (texts : List RuleText) : Grammar :=
  let ids := texts.map fun (name, _) => ruleChars name
  (texts.map fun (name, alternatives) =>
    { name, alternatives := alternatives.map (.ofText ids), isKept := name ∈ keptRules
      isQuiet := name ∈ quietRules, isComplaint := (ruleChars "invalid_").isPrefixOf (ruleChars name)
      : Rule }).toArray

/-- The grammar of modules. -/
def grammar : Grammar := .ofTexts allRules

end PgSchema.Source
