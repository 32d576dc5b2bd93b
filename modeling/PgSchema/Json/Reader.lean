import PgSchema.Json.Basic
import PgSchema.Text.Literal
import PgSchema.Text.Utf8

/-!
JSON texts read.

The reader goes through the text once, with the number of bytes that it has left behind, so that an
error names the line and the column of the byte where the text went wrong.  Values may be nested up
to a given depth.  Beside the numbers of the standard it knows `NaN` and the two infinities.  Where
an object has a field twice, the later value stands.
-/

namespace PgSchema.Json

open Number (Double)
open Text (utf8Size)

/-! ### What can be wrong with a text -/

/-- What can be wrong with a text. -/
inductive Malformation where
  | openList
  | openObject
  | openText
  | openValue
  | expectedColon
  | expectedListEnd
  | expectedObjectEnd
  | expectedWord
  | expectedValue
  | badEscape
  | badNumber
  | numberTooLong
  | keyNotText
  | loneSurrogate
  | cutEscape
  | trailingComma
  | trailingText
  | controlCharacter
  | tooDeep
  deriving DecidableEq, Repr

/-- What is wrong, in words. -/
def Malformation.message : Malformation → String
  | openList => "EOF while parsing a list"
  | openObject => "EOF while parsing an object"
  | openText => "EOF while parsing a string"
  | openValue => "EOF while parsing a value"
  | expectedColon => "expected `:`"
  | expectedListEnd => "expected `,` or `]`"
  | expectedObjectEnd => "expected `,` or `\x7d`"
  | expectedWord => "expected ident"
  | expectedValue => "expected value"
  | badEscape => "invalid escape"
  | badNumber => "invalid number"
  | numberTooLong => "number out of range"
  | keyNotText => "key must be a string"
  | loneSurrogate => "lone leading surrogate in hex escape"
  | cutEscape => "unexpected end of hex escape"
  | trailingComma => "trailing comma"
  | trailingText => "trailing characters"
  | controlCharacter => "control character (\\u0000-\\u001F) found while parsing a string"
  | tooDeep => "recursion limit exceeded"

/-- What is wrong with a text, and the byte that shows it. -/
structure ReadError where
  kind : Malformation
  offset : Nat
  deriving DecidableEq, Repr

/-- The line and the column of a byte.  A byte is a column, and a line break is the first byte
of the line behind it.  A place behind the text is the end of the last line. -/
def position (offset : Nat) : List Char → (line start index : Nat) → Nat × Nat
  | [], line, start, index => (line, index - start)
  | c :: rest, line, start, index =>
    let (line, start) := if c = '\n' then (line + 1, index + 1) else (line, start)
    if offset < index + c.utf8Size then (line, offset + 1 - start)
    else position offset rest line start (index + c.utf8Size)

/-- The error in words. -/
def ReadError.message (e : ReadError) (source : String) : String :=
  let (line, column) := position e.offset source.toList 1 0 0
  e.kind.message ++ " at line " ++ toString line ++ " column " ++ toString column

/-! ### Pieces of a text -/

/-- The characters that are left, and the bytes before them. -/
structure Cursor where
  rest : List Char
  offset : Nat

/-- The outcome of reading a piece. -/
abbrev Read (α : Type) := Except ReadError (α × Cursor)

/-- Blanks between the pieces. -/
def isSpace (c : Char) : Bool := c = ' ' || c = '\n' || c = '\t' || c = '\r'

/-- The text behind the blanks. -/
def skipSpaces : List Char → Nat → Cursor
  | [], offset => ⟨[], offset⟩
  | c :: rest, offset => if isSpace c then skipSpaces rest (offset + 1) else ⟨c :: rest, offset⟩

/-- The rest of a known word. -/
def word (value : Json) : List Char → List Char → Nat → Read Json
  | [], rest, offset => .ok (value, ⟨rest, offset⟩)
  | _ :: _, [], offset => .error ⟨.openValue, offset⟩
  | e :: es, c :: rest, offset =>
    if c = e then word value es rest (offset + 1) else .error ⟨.expectedWord, offset⟩

/-- The value of hexadecimal digits. -/
def hexNumber : List Char → Nat → Nat → Except ReadError Nat
  | [], _, n => .ok n
  | c :: rest, offset, n =>
    match Text.hexValue? c with
    | some d => hexNumber rest (offset + 1) (16 * n + d)
    | none => .error ⟨.badEscape, offset⟩

/-- What is wrong with an escape that the end of the text cuts off. -/
def cutCode (rest : List Char) (offset : Nat) : ReadError :=
  if utf8Size rest < 4 then ⟨.openText, offset + utf8Size rest⟩
  else match hexNumber rest offset 0 with
    | .error e => e
    | .ok _ => ⟨.openText, offset + utf8Size rest⟩

/-- What is wrong behind the first half of a pair of sixteen-bit codes. -/
def cutPair (rest : List Char) (offset : Nat) : ReadError :=
  match rest with
  | [] => ⟨.openText, offset⟩
  | '\\' :: [] => ⟨.openText, offset + 1⟩
  | '\\' :: _ => ⟨.cutEscape, offset + 1⟩
  | _ :: _ => ⟨.cutEscape, offset⟩

/-- The character of an escape of one letter. -/
def unescape? (c : Char) : Option Char :=
  if c = '\x22' ∨ c = '\\' ∨ c = '/' then some c
  else if c = 'b' then some '\x08'
  else if c = 'f' then some '\x0c'
  else if c = 'n' then some '\n'
  else if c = 'r' then some '\r'
  else if c = 't' then some '\t'
  else none

/-- The rest of a text, behind its opening mark; the characters so far are held newest first. -/
def textFrom (done : List Char) : List Char → Nat → Read String
  | [], offset => .error ⟨.openText, offset⟩
  | '\x22' :: rest, offset => .ok (String.ofList done.reverse, ⟨rest, offset + 1⟩)
  | '\\' :: 'u' :: a :: b :: c :: d :: rest, offset =>
    match hexNumber [a, b, c, d] (offset + 2) 0 with
    | .error e => .error e
    | .ok high =>
      if 0xdc00 ≤ high ∧ high ≤ 0xdfff then .error ⟨.loneSurrogate, offset + 5⟩
      else if 0xd800 ≤ high ∧ high ≤ 0xdbff then
        match rest with
        | '\\' :: 'u' :: e :: f :: g :: h :: rest =>
          match hexNumber [e, f, g, h] (offset + 8) 0 with
          | .error e => .error e
          | .ok low =>
            if 0xdc00 ≤ low ∧ low ≤ 0xdfff then
              let code := 0x10000 + (high - 0xd800) * 0x400 + (low - 0xdc00)
              textFrom (Char.ofNat code :: done) rest (offset + 12)
            else .error ⟨.loneSurrogate, offset + 11⟩
        | '\\' :: 'u' :: rest => .error (cutCode rest (offset + 8))
        | rest => .error (cutPair rest (offset + 6))
      else textFrom (Char.ofNat high :: done) rest (offset + 6)
  | '\\' :: 'u' :: rest, offset => .error (cutCode rest (offset + 2))
  | '\\' :: c :: rest, offset =>
    match unescape? c with
    | some e => textFrom (e :: done) rest (offset + 2)
    | none => .error ⟨.badEscape, offset + 1⟩
  | c :: rest, offset =>
    if c = '\\' then .error ⟨.openText, offset + 1⟩
    else if c.toNat < 0x20 then .error ⟨.controlCharacter, offset⟩
    else textFrom (c :: done) rest (offset + c.utf8Size)

/-! ### Numbers -/

/-- The digits at the front, and what is behind them. -/
def digitsOf (cs : List Char) (offset : Nat) : List Char × Cursor :=
  let ds := cs.takeWhile Char.isDigit
  (ds, ⟨cs.drop ds.length, offset + ds.length⟩)

/-- The value of decimal digits. -/
def decimalValue (ds : List Char) : Nat := ds.foldl (fun n d => 10 * n + (d.toNat - 0x30)) 0

/-- At least one digit. -/
def someDigits (cs : List Char) (offset : Nat) : Read (List Char) :=
  match cs with
  | [] => .error ⟨.openValue, offset⟩
  | c :: _ => if c.isDigit then .ok (digitsOf cs offset) else .error ⟨.badNumber, offset⟩

/-- The exponent, behind its letter. -/
def exponentFrom (cs : List Char) (offset : Nat) : Read Int :=
  let read (sign : Int) (cs : List Char) (offset : Nat) : Read Int :=
    (someDigits cs offset).map fun (ds, cursor) => (sign * decimalValue ds, cursor)
  match cs with
  | '+' :: rest => read 1 rest (offset + 1)
  | '-' :: rest => read (-1) rest (offset + 1)
  | cs => read 1 cs offset

/-- The rest of a number, behind the digits of its whole part. -/
def numberAfter (negative : Bool) (whole : List Char) (cursor : Cursor) : Read Json :=
  let make (fraction : List Char) (exponent : Int) : Json :=
    .double (Double.ofDecimal negative (decimalValue (whole ++ fraction))
      (exponent - fraction.length))
  let scaled (fraction rest : List Char) (offset : Nat) : Read Json :=
    (exponentFrom rest offset).map fun (e, cursor) => (make fraction e, cursor)
  match cursor.rest with
  | '.' :: rest =>
    match someDigits rest (cursor.offset + 1) with
    | .error e => .error e
    | .ok (fraction, cursor) =>
      match cursor.rest with
      | 'e' :: rest => scaled fraction rest (cursor.offset + 1)
      | 'E' :: rest => scaled fraction rest (cursor.offset + 1)
      | _ => .ok (make fraction 0, cursor)
  | 'e' :: rest => scaled [] rest (cursor.offset + 1)
  | 'E' :: rest => scaled [] rest (cursor.offset + 1)
  | _ =>
    let n : Int := decimalValue whole
    .ok (.int (if negative then -n else n), cursor)

/-- A number behind its sign.  Its whole part has at most so many digits. -/
def unsigned (digits : Nat) (negative : Bool) (cs : List Char) (offset : Nat) : Read Json :=
  match cs with
  | [] => .error ⟨.openValue, offset⟩
  | 'I' :: rest =>
    word (.double (Double.infinite negative)) "nfinity".toList rest (offset + 1)
  | '0' :: c :: rest =>
    if c.isDigit then .error ⟨.badNumber, offset + 1⟩
    else numberAfter negative ['0'] ⟨c :: rest, offset + 1⟩
  | c :: rest =>
    if c.isDigit then
      let (ds, cursor) := digitsOf (c :: rest) offset
      if digits < ds.length then .error ⟨.numberTooLong, offset + digits + 1⟩
      else numberAfter negative ds cursor
    else .error ⟨.badNumber, offset⟩

/-! ### Values -/

/-- A field read: its value stands in the place where the field came first. -/
def putField (fields : Entries Json) (key : String) (value : Json) : Entries Json :=
  fields.put key value

mutual

/-- A value that begins with the character `c`.  The second argument bounds the number of pieces and
is never used up: each piece takes a character at least. -/
def valueAt (digits : Nat) : Nat → (depth : Nat) → (c : Char) → List Char → Nat → Read Json
  | 0, _, _, _, offset => .error ⟨.tooDeep, offset⟩
  | fuel + 1, depth, c, rest, offset =>
    if c = '\x22' then (textFrom [] rest (offset + 1)).map fun (s, cursor) => (.text s, cursor)
    else if c = '[' then
      match skipSpaces rest (offset + 1) with
      | ⟨[], offset⟩ => .error ⟨.openList, offset⟩
      | ⟨']' :: rest, offset⟩ => .ok (.list [], ⟨rest, offset + 1⟩)
      | ⟨c :: rest, offset⟩ => itemsFrom digits fuel depth [] c rest offset
    else if c = '{' then
      match skipSpaces rest (offset + 1) with
      | ⟨[], offset⟩ => .error ⟨.openObject, offset⟩
      | ⟨'}' :: rest, offset⟩ => .ok (.object [], ⟨rest, offset + 1⟩)
      | ⟨'\x22' :: rest, offset⟩ => fieldsFrom digits fuel depth [] rest offset
      | ⟨_ :: _, offset⟩ => .error ⟨.keyNotText, offset⟩
    else if c = 'n' then word .null "ull".toList rest (offset + 1)
    else if c = 't' then word (.bool true) "rue".toList rest (offset + 1)
    else if c = 'f' then word (.bool false) "alse".toList rest (offset + 1)
    else if c = 'N' then word (.double Double.undefined) "aN".toList rest (offset + 1)
    else if c = '-' then unsigned digits true rest (offset + 1)
    else if c = 'I' ∨ c.isDigit then unsigned digits false (c :: rest) offset
    else .error ⟨.expectedValue, offset⟩

/-- The items of a list from the one that begins with the character `c`; those before it are held
newest first. -/
def itemsFrom (digits : Nat) :
    Nat → (depth : Nat) → List Json → (c : Char) → List Char → Nat → Read Json
  | 0, _, _, _, _, offset => .error ⟨.tooDeep, offset⟩
  | _ + 1, 0, _, _, _, offset => .error ⟨.tooDeep, offset⟩
  | fuel + 1, depth + 1, done, c, rest, offset =>
    match valueAt digits fuel depth c rest offset with
    | .error e => .error e
    | .ok (x, cursor) =>
      match skipSpaces cursor.rest cursor.offset with
      | ⟨[], offset⟩ => .error ⟨.openList, offset⟩
      | ⟨']' :: rest, offset⟩ => .ok (.list (x :: done).reverse, ⟨rest, offset + 1⟩)
      | ⟨',' :: rest, offset⟩ =>
        match skipSpaces rest (offset + 1) with
        | ⟨[], offset⟩ => .error ⟨.openValue, offset⟩
        | ⟨']' :: _, offset⟩ => .error ⟨.trailingComma, offset⟩
        | ⟨c :: rest, offset⟩ => itemsFrom digits fuel (depth + 1) (x :: done) c rest offset
      | ⟨_ :: _, offset⟩ => .error ⟨.expectedListEnd, offset⟩

/-- The fields of an object, from behind the opening mark of a key. -/
def fieldsFrom (digits : Nat) : Nat → (depth : Nat) → Entries Json → List Char → Nat → Read Json
  | 0, _, _, _, offset => .error ⟨.tooDeep, offset⟩
  | fuel + 1, depth, done, rest, offset =>
    match textFrom [] rest (offset + 1) with
    | .error e => .error e
    | .ok (key, cursor) =>
      match skipSpaces cursor.rest cursor.offset with
      | ⟨[], offset⟩ => .error ⟨.openObject, offset⟩
      | ⟨':' :: rest, offset⟩ =>
        match skipSpaces rest (offset + 1), depth with
        | ⟨[], offset⟩, _ => .error ⟨.openValue, offset⟩
        | ⟨_ :: _, offset⟩, 0 => .error ⟨.tooDeep, offset⟩
        | ⟨c :: rest, offset⟩, depth + 1 =>
          match valueAt digits fuel depth c rest offset with
          | .error e => .error e
          | .ok (x, cursor) =>
            let done := putField done key x
            match skipSpaces cursor.rest cursor.offset with
            | ⟨[], offset⟩ => .error ⟨.openObject, offset⟩
            | ⟨'}' :: rest, offset⟩ => .ok (.object done, ⟨rest, offset + 1⟩)
            | ⟨',' :: rest, offset⟩ =>
              match skipSpaces rest (offset + 1) with
              | ⟨[], offset⟩ => .error ⟨.openValue, offset⟩
              | ⟨'}' :: _, offset⟩ => .error ⟨.trailingComma, offset⟩
              | ⟨'\x22' :: rest, offset⟩ => fieldsFrom digits fuel (depth + 1) done rest offset
              | ⟨_ :: _, offset⟩ => .error ⟨.keyNotText, offset⟩
            | ⟨_ :: _, offset⟩ => .error ⟨.expectedObjectEnd, offset⟩
      | ⟨_ :: _, offset⟩ => .error ⟨.expectedColon, offset⟩

end

/-- The value of a text whose lists and objects hold each other at most `depth` deep, and whose
numbers have at most so many digits in their whole parts. -/
def readWithin (digits depth : Nat) (source : String) : Except ReadError Json :=
  let cs := source.toList
  match skipSpaces cs 0 with
  | ⟨[], offset⟩ => .error ⟨.openValue, offset⟩
  | ⟨c :: rest, offset⟩ =>
    match valueAt digits (cs.length + 2) depth c rest offset with
    | .error e => .error e
    | .ok (value, cursor) =>
      match skipSpaces cursor.rest cursor.offset with
      | ⟨[], _⟩ => .ok value
      | ⟨_ :: _, offset⟩ => .error ⟨.trailingText, offset⟩

/-- The most digits that the whole part of a number usually has. -/
def maxDigits : Nat := 4300

/-- The value of a text whose lists and objects hold each other at most `depth` deep. -/
def read (depth : Nat) (source : String) : Except ReadError Json := readWithin maxDigits depth source

end PgSchema.Json
