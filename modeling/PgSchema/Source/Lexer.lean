import PgSchema.Source.Numeral
import PgSchema.Source.Token
import PgSchema.Text.IdentifierChar
import PgSchema.Text.Literal

/-!
Tokens of a text.

The depth of a line is counted twice, with tabs that fill up to the next eighth place and with tabs
that count as one: lines whose depths compare differently in the two counts are refused.  Inside
brackets the depth does not count, and lines do not end.
-/

namespace PgSchema.Source

/-! ### Names and texts -/

/-- A character that may stand in a name, before it is known whether it may. -/
def isNameChar (c : Char) : Bool := c.isAlphanum || c = '_' || c.toNat ≥ 0x80

/-- A code point as messages tell it, with four digits at least. -/
def codeText (c : Char) : String :=
  let width := if c.toNat < 0x10000 then 4 else if c.toNat < 0x100000 then 5 else 6
  "U+" ++ String.ofList ((Text.hexDigits width c.toNat).map Char.toUpper)

/-- The flaw of a character that does not belong in a text. -/
def strayCharacter (c : Char) : String :=
  if Text.isPrintable c then
    "invalid character '" ++ String.singleton c ++ "' (" ++ codeText c ++ ")"
  else "invalid non-printable character " ++ codeText c

/-- The first character that does not belong in a name. -/
def strayIn? : List Char → Option Char
  | [] => none
  | c :: cs =>
    if !Text.isIdentifierStart c then some c else cs.find? fun d => !Text.isIdentifierChar d

/-- The letters that can stand before the mark of a text. -/
def textLetters : List String := ["", "b", "r", "u", "f", "br", "rb", "fr", "rf"]

/-- The letters before a text, if a text begins here. -/
def textStart? (cs : List Char) : Option (List Char) :=
  (List.range 3).findSome? fun n =>
    let letters := cs.take n
    match cs.drop n with
    | c :: _ =>
      if (c = Text.singleMark ∨ c = Text.doubleMark) ∧
          String.ofList (letters.map Char.toLower) ∈ textLetters then some letters
      else none
    | [] => none

/-- A text up to its closing mark: what is inside with the mark, and what stands behind it.  Without
a closing mark, the outcome is what was read instead.  What was read already comes last first. -/
def closeText (mark : Char) (tripled : Bool) (read : List Char) :
    List Char → Except (List Char) (List Char × List Char)
  | [] => .error read.reverse
  | '\\' :: c :: cs => closeText mark tripled (c :: '\\' :: read) cs
  | c :: cs =>
    if tripled && [mark, mark, mark].isPrefixOf (c :: cs) then
      .ok ((mark :: mark :: mark :: read).reverse, cs.drop 2)
    else if !tripled && c = mark then .ok ((mark :: read).reverse, cs)
    else if !tripled && c = '\n' then .error (c :: read).reverse
    else closeText mark tripled (c :: read) cs

/-- The number of line ends. -/
def lineEnds (cs : List Char) : Nat := cs.count '\n'

/-! ### Marks -/

/-- The marks of several characters, the longer ones first. -/
def longMarks : List String :=
  ["**=", "//=", "<<=", ">>=", "...", "!=", "%=", "&=", "**", "*=", "+=", "-=", "->", "//", "/=",
   ":=", "<<", "<=", "<>", "==", ">=", ">>", "@=", "^=", "|="]

/-- The brackets that open, with those that close them. -/
def brackets : List (Char × Char) := [('(', ')'), ('[', ']'), ('\x7b', '\x7d')]

/-- The most brackets inside each other. -/
def mostBrackets : Nat := 200

/-! ### The lexer -/

/-- The depth of a line, in both counts. -/
abbrev Depth := Nat × Nat

/-- What is left of a text, and what is open there. -/
structure Lexer where
  rest : List Char
  /-- The line of the next character. -/
  line : Nat := 1
  /-- The next character begins a line. -/
  isLineStart : Bool := true
  /-- The depths of the lines around, the innermost one first. -/
  depths : List Depth := []
  /-- The brackets that are open, the innermost one first. -/
  opened : List (Char × Nat) := []

/-- What the lexer does next. -/
inductive Lexeme where
  | tokens (ts : List Token) (behind : Lexer)
  | ended (e : Ending)

namespace Lexer

variable (l : Lexer)

/-- The end of the tokens with a flaw. -/
def fail (message : String) (line : Nat) (isOwn : Bool := true) (sort : FlawSort := .form) :
    Lexeme :=
  .ended ⟨some ⟨sort, message, line⟩, isOwn, l.opened.head?⟩

/-- The line that counts at the end of the text: the last one. -/
def lineHere : Nat := if l.rest.isEmpty then l.line - 1 else l.line

/-- A token that begins here. -/
def token (sort : TokenSort) (text : String) : Token :=
  { sort, text, line := l.lineHere, level := l.opened.length }

/-- A token, with what stands behind it. -/
def emit (sort : TokenSort) (text rest : List Char) : Lexeme :=
  .tokens [l.token sort (String.ofList text)]
    { l with rest, line := l.line + lineEnds text, isLineStart := false }

/-! #### The depth of lines -/

/-- A depth behind one more character, and whether it belongs to the depth. -/
def deeper? (d : Depth) (c : Char) : Option Depth :=
  if c = ' ' then some (d.1 + 1, d.2 + 1)
  else if c = '\t' then some ((d.1 / 8 + 1) * 8, d.2 + 1)
  else if c = '\x0c' then some (0, 0)
  else none

/-- The flaw of a line that is continued, but not by an end of the line. -/
def continuationFlaw : String := "unexpected character after line continuation character"

/-- The flaw of a text that ends where a line is continued. -/
def endFlaw : String := "unexpected EOF while parsing"

/-- A line is continued on the next one. -/
def continued (cs : List Char) : Except Lexeme Lexer :=
  match cs with
  | '\n' :: [] =>
    let here := { l with rest := [], line := l.line + 1 }
    match l.opened with
    | [] => .error (here.fail endFlaw here.lineHere false)
    | (c, line) :: _ =>
      .error (here.fail ("'" ++ String.singleton c ++ "' was never closed") line false)
  | '\n' :: rest => .ok { l with rest, line := l.line + 1 }
  | _ => .error (l.fail continuationFlaw l.line false)

/-- The depth of the line that begins here.  Where a line is continued the depth there holds, if it
is not zero. -/
def measure : Nat → Depth → Nat → Lexer → Except Lexeme (Depth × Lexer)
  | 0, d, _, l => .ok (d, l)
  | n + 1, d, held, l =>
    let found : Depth := if held = 0 then d else (held, held)
    match l.rest with
    | '\\' :: cs => do
      let l ← l.continued cs
      measure n d (if held = 0 then d.1 else held) l
    | c :: cs =>
      match deeper? d c with
      | some d => measure n d held { l with rest := cs }
      | none => .ok (found, l)
    | [] => .ok (found, l)

/-- The flaw of depths that compare differently in the two counts. -/
def tabFlaw : Lexeme :=
  l.fail "inconsistent use of tabs and spaces in indentation" l.lineHere false .tabs

/-- The depths that a line leaves, and those around it. -/
def leave (d : Depth) : List Depth → Nat × List Depth
  | [] => (0, [])
  | e :: es =>
    if d.1 < e.1 then
      let (n, rest) := leave d es
      (n + 1, rest)
    else (0, e :: es)

/-- The most lines that are deeper than each other. -/
def mostDepths : Nat := 100

/-- The tokens for the depth of a line. -/
def atDepth (d : Depth) : Lexeme :=
  let around := l.depths.headD (0, 0)
  let behind := { l with isLineStart := false }
  if d.1 = around.1 then
    if d.2 = around.2 then .tokens [] behind else l.tabFlaw
  else if d.1 > around.1 then
    if l.depths.length + 2 > mostDepths then
      l.fail "too many levels of indentation" l.lineHere false .indentation
    else if d.2 ≤ around.2 then l.tabFlaw
    else .tokens [l.token .indent ""] { behind with depths := d :: l.depths }
  else
    let (n, depths) := leave d l.depths
    let now := depths.headD (0, 0)
    if d.1 ≠ now.1 then
      l.fail "unindent does not match any outer indentation level" l.lineHere false .indentation
    else if d.2 ≠ now.2 then l.tabFlaw
    else .tokens (List.replicate n (l.token .dedent "")) { behind with depths }

/-- A line without anything but blanks and a comment is skipped. -/
def skipLine : Lexeme :=
  .tokens [] { l with rest := (l.rest.dropWhile (· ≠ '\n')).drop 1, line := l.line + 1 }

/-- The characters that the depth of a line can be made of. -/
def depthChars : List Char := [' ', '\t', '\x0c', '\\', '\n']

/-- The beginning of a line. -/
def startLine : Lexeme :=
  match measure ((l.rest.takeWhile (· ∈ depthChars)).length + 1) (0, 0) 0 l with
  | .error e => e
  | .ok (d, l) =>
    match l.rest with
    | '#' :: _ | '\n' :: _ => l.skipLine
    | _ => if l.opened.isEmpty then l.atDepth d else .tokens [] { l with isLineStart := false }

/-! #### Tokens inside a line -/

/-- A text, behind the letters before it. -/
def readText (letters rest : List Char) : Lexeme :=
  match rest with
  | mark :: cs =>
    let tripled := [mark, mark].isPrefixOf cs
    let opening := if tripled then [mark, mark, mark] else [mark]
    match closeText mark tripled [] (cs.drop (opening.length - 1)) with
    | .ok (inside, rest) => l.emit .text (letters ++ opening ++ inside) rest
    | .error read =>
      l.fail ("unterminated " ++ (if tripled then "triple-quoted " else "") ++
        "string literal (detected at line " ++ toString (l.line + lineEnds read - 1) ++ ")") l.line
  | [] => l.fail endFlaw l.line

/-- A name or a keyword. -/
def readName : Lexeme :=
  let word := l.rest.takeWhile isNameChar
  match if word.all (·.toNat < 0x80) then none else strayIn? word with
  | some c => l.fail (strayCharacter c) l.line
  | none =>
    l.emit (if String.ofList word ∈ keywords then .mark else .name) word
      (l.rest.dropWhile isNameChar)

/-- A numeral. -/
def readNumber (taken : Except String Numeral.Taken) : Lexeme :=
  match taken with
  | .ok (digits, rest) => l.emit .number digits rest
  | .error message => l.fail message l.line

/-- The flaw of a bracket that closes another one than was opened. -/
def mismatch (closing : Char) (opening : Char × Nat) : String :=
  "closing parenthesis '" ++ String.singleton closing ++
    "' does not match opening parenthesis '" ++ String.singleton opening.1 ++ "'" ++
    (if opening.2 = l.line then "" else " on line " ++ toString opening.2)

/-- A mark. -/
def readMark (c : Char) (cs : List Char) : Lexeme :=
  match longMarks.find? fun m => m.toList.isPrefixOf (c :: cs) with
  | some m => l.emit .mark m.toList (cs.drop (m.length - 1))
  | none =>
    if (brackets.lookup c).isSome then
      if l.opened.length ≥ mostBrackets then l.fail "too many nested parentheses" l.line
      else { l with opened := (c, l.line) :: l.opened }.emit .mark [c] cs
    else if brackets.any (·.2 = c) then
      match l.opened with
      | [] => l.fail ("unmatched '" ++ String.singleton c ++ "'") l.line
      | opening :: others =>
        if brackets.lookup opening.1 = some c then
          { l with opened := others }.emit .mark [c] cs
        else { l with opened := others }.fail (l.mismatch c opening) l.line
    else if Text.isPrintable c then l.emit .mark [c] cs
    else l.fail (strayCharacter c) l.line

/-- The end of a line. -/
def endLine (rest : List Char) : Lexeme :=
  let behind := { l with rest, line := l.line + 1, isLineStart := true }
  if l.opened.isEmpty then .tokens [l.token .newline ""] behind else .tokens [] behind

/-- The end of the text. -/
def endText : Lexeme :=
  match l.opened with
  | (c, line) :: _ =>
    .ended ⟨some ⟨.form, "'" ++ String.singleton c ++ "' was never closed", line⟩, false,
      some (c, line)⟩
  | [] => .ended {}

/-- The next token, where no line begins. -/
def readToken : Lexeme :=
  match l.rest with
  | [] => l.endText
  | c :: cs =>
    if c = ' ' ∨ c = '\t' ∨ c = '\x0c' then .tokens [] { l with rest := cs }
    else if c = '#' then .tokens [] { l with rest := cs.dropWhile (· ≠ '\n') }
    else if c = '\n' then l.endLine cs
    else if c = '\\' then
      match l.continued cs with
      | .ok l => .tokens [] l
      | .error e => e
    else
      match textStart? l.rest with
      | some letters => l.readText letters (l.rest.drop letters.length)
      | none =>
        if c.isDigit then l.readNumber (Numeral.ofDigits l.rest)
        else if isNameChar c then l.readName
        else if c = '.' ∧ Numeral.startsWithDigit cs then
          l.readNumber ((Numeral.fraction cs).map (·.after ['.']))
        else l.readMark c cs

/-- What comes next. -/
def next : Lexeme := if l.isLineStart then l.startLine else l.readToken

end Lexer

/-- The tokens of what is left of a text, behind those that were found, the last one first. -/
def lex : Nat → Lexer → List Token → List Token × Ending
  | 0, _, found => (found, {})
  | n + 1, l, found =>
    match l.next with
    | .tokens ts behind => lex n behind (ts.reverse ++ found)
    | .ended ending =>
      match ending.flaw with
      | some flaw => ({ sort := .broken, line := flaw.line } :: found, ending)
      | none => ({ l with rest := [] }.token .finish "" :: found, ending)

/-- Line ends in one form. -/
def oneLineEnd : List Char → List Char
  | '\r' :: '\n' :: cs | '\r' :: cs => '\n' :: oneLineEnd cs
  | c :: cs => c :: oneLineEnd cs
  | [] => []

/-- A text with line ends in one form, and one at its end. -/
def plainLines (s : String) : List Char :=
  let plain := oneLineEnd s.toList
  if plain.getLast? = some '\n' then plain else plain ++ ['\n']

/-- The tokens of a text. -/
def tokensOf (s : String) : Tokens :=
  let cs := plainLines s
  let (ts, ending) := lex (2 * cs.length + 2) { rest := cs } []
  ⟨ts.reverse.toArray, ending⟩

end PgSchema.Source
