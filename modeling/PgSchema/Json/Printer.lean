import PgSchema.Json.Basic
import PgSchema.Number.Shortest
import PgSchema.Text.Literal

/-!
JSON values written out.

`Json.compact` writes no blanks and escapes only what has to be escaped.  `Json.ascii` puts a blank
after each comma and colon and keeps to printable ASCII: every other character is escaped by its
sixteen-bit code, in two halves above the sixteen-bit range.  `Json.display` is the text of a value
in messages, with texts as quoted literals.
-/

namespace PgSchema.Json

open Text (hexDigits literal)

/-! ### Characters inside a text -/

/-- The short escape of a character, for those that have one. -/
def shortEscape? (c : Char) : Option Char :=
  if c = '\x22' ∨ c = '\\' then some c
  else if c = '\n' then some 'n'
  else if c = '\r' then some 'r'
  else if c = '\t' then some 't'
  else if c = '\x08' then some 'b'
  else if c = '\x0c' then some 'f'
  else none

/-- The escape of a sixteen-bit code. -/
def codeEscape (code : Nat) : List Char := '\\' :: 'u' :: hexDigits 4 code

/-- A character of a text, escaped only if it is a control character, a mark or a backslash. -/
def compactChar (c : Char) : List Char :=
  match shortEscape? c with
  | some e => ['\\', e]
  | none => if c.toNat < 0x20 then codeEscape c.toNat else [c]

/-- A character of a text, escaped unless it is printable ASCII. -/
def asciiChar (c : Char) : List Char :=
  match shortEscape? c with
  | some e => ['\\', e]
  | none =>
    if 0x20 ≤ c.toNat ∧ c.toNat ≤ 0x7e then [c]
    else if c.toNat < 0x10000 then codeEscape c.toNat
    else
      let rest := c.toNat - 0x10000
      codeEscape (0xd800 + rest / 0x400) ++ codeEscape (0xdc00 + rest % 0x400)

/-- A text between its marks. -/
def quoted (char : Char → List Char) (s : String) : String :=
  String.ofList ('\x22' :: s.toList.flatMap char ++ ['\x22'])

/-! ### Values -/

/-- What tells the ways of writing apart. -/
structure Style where
  comma : String
  colon : String
  text : String → String
  nullText : String
  trueText : String
  falseText : String
  undefinedText : String
  infiniteText : String

mutual

/-- A value in a style. -/
def render (style : Style) : Json → String
  | null => style.nullText
  | bool b => if b then style.trueText else style.falseText
  | int n => toString n
  | double x => x.text style.undefinedText style.infiniteText
  | text s => style.text s
  | list [] => "[]"
  | list (x :: xs) => "[" ++ render style x ++ renderItems style xs ++ "]"
  | object [] => "\x7b\x7d"
  | object ((key, x) :: fs) =>
    "\x7b" ++ style.text key ++ style.colon ++ render style x ++ renderFields style fs ++ "\x7d"

/-- The items behind the first. -/
def renderItems (style : Style) : List Json → String
  | [] => ""
  | x :: xs => style.comma ++ render style x ++ renderItems style xs

/-- The fields behind the first. -/
def renderFields (style : Style) : List (String × Json) → String
  | [] => ""
  | (key, x) :: fs =>
    style.comma ++ style.text key ++ style.colon ++ render style x ++ renderFields style fs

end

/-- No blanks, no escapes without need. -/
def compactStyle : Style :=
  ⟨",", ":", quoted compactChar, "null", "true", "false", "NaN", "Infinity"⟩

/-- Blanks after the separators, printable ASCII only. -/
def asciiStyle : Style :=
  ⟨", ", ": ", quoted asciiChar, "null", "true", "false", "NaN", "Infinity"⟩

/-- The values of messages. -/
def displayStyle : Style := ⟨", ", ": ", literal, "None", "True", "False", "nan", "inf"⟩

/-- A value without blanks. -/
def compact : Json → String := render compactStyle

/-- A value in printable ASCII. -/
def ascii : Json → String := render asciiStyle

/-- A value as messages show it inside other text. -/
def display : Json → String := render displayStyle

/-- A value as messages show it by itself: a text without marks. -/
def plain : Json → String
  | text s => s
  | value => value.display

end PgSchema.Json
