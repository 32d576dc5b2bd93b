import PgSchema.Text.Literal
import PgSchema.Text.Normal.Pair
import PgSchema.Text.Normal.Spelling
import Std.Data.HashMap

/-!
The normal form of names: two names that are told apart only by the style, the width or the
composition of their letters have the same normal form.

A name is spelled out, the marks behind each letter are put in order, and letters are composed with
their marks again as far as there is a character for that.  The tables for this are written as lines
of rows: a row is a list of hexadecimal numbers with points between them, and blanks stand between
rows.
-/

namespace PgSchema.Text.Normal

/-! ### Rows of numbers -/

/-- The rows behind the digits read so far, of a row begun and a number begun. -/
def rowsFrom (row : List Nat) (n : Nat) : List Char → List (List Nat)
  | [] => [(n :: row).reverse]
  | c :: cs =>
    if c = ' ' then (n :: row).reverse :: rowsFrom [] 0 cs
    else if c = '.' then rowsFrom (n :: row) 0 cs
    else rowsFrom row (16 * n + (hexValue? c).getD 0) cs

/-- The rows of a table. -/
def rows (lines : List String) : List (List Nat) :=
  lines.flatMap fun line => rowsFrom [] 0 line.toList

/-! ### Tables -/

/-- What characters stand for. -/
def spellings : Std.HashMap Nat (List Nat) :=
  let shifted := (rows shiftedRows).flatMap fun
    | [first, last, target] =>
      (List.range (last + 1 - first)).map fun i => (first + i, [target + i])
    | _ => []
  let spelled := (rows spelledRows).map fun row => (row.headD 0, row.drop 1)
  Std.HashMap.ofList (shifted ++ spelled)

/-- The places of marks. -/
def weights : Std.HashMap Nat Nat :=
  Std.HashMap.ofList ((rows weightRows).flatMap fun
    | [first, last, weight] => (List.range (last + 1 - first)).map fun i => (first + i, weight)
    | _ => [])

/-- Composed characters by the two that they are composed of. -/
def pairs : Std.HashMap (Nat × Nat) Nat :=
  Std.HashMap.ofList ((rows pairRows).filterMap fun
    | [whole, left, right] => some ((left, right), whole)
    | _ => none)

/-- The first mark.  No character before it has a place among the marks of a letter, and none is
composed with one before it. -/
def firstMark : Nat := 0x300

/-- The place of a mark among the marks of a letter, zero for a letter. -/
def weight (code : Nat) : Nat := if code < firstMark then 0 else weights.getD code 0

/-! ### Syllables that are composed by rule -/

/-- The first composed syllable, and the first of the letters at each of its three places. -/
def syllableBase : Nat := 0xAC00
def leadBase : Nat := 0x1100
def vowelBase : Nat := 0x1161
def tailBase : Nat := 0x11A7

/-- The numbers of letters at the three places of a syllable, none at the last one included. -/
def leadCount : Nat := 19
def vowelCount : Nat := 21
def tailCount : Nat := 28

/-- A syllable that is composed by rule, spelled out. -/
def syllable? (code : Nat) : Option (List Nat) :=
  let index := code - syllableBase
  if syllableBase ≤ code ∧ index < leadCount * vowelCount * tailCount then
    let lead := leadBase + index / (vowelCount * tailCount)
    let vowel := vowelBase + index % (vowelCount * tailCount) / tailCount
    let tail := index % tailCount
    some (if tail = 0 then [lead, vowel] else [lead, vowel, tailBase + tail])
  else none

/-- The syllable that two characters compose by rule. -/
def composedSyllable? (left right : Nat) : Option Nat :=
  let lead := left - leadBase
  let vowel := right - vowelBase
  let index := left - syllableBase
  let tail := right - tailBase
  if leadBase ≤ left ∧ lead < leadCount ∧ vowelBase ≤ right ∧ vowel < vowelCount then
    some (syllableBase + (lead * vowelCount + vowel) * tailCount)
  else if syllableBase ≤ left ∧ index < leadCount * vowelCount * tailCount ∧
      index % tailCount = 0 ∧ tailBase < right ∧ tail < tailCount then
    some (left + tail)
  else none

/-! ### The form -/

/-- The number of basic characters, which stand for themselves. -/
def basicCount : Nat := 0x80

/-- A character spelled out. -/
def spelled (code : Nat) : List Nat :=
  if code < basicCount then [code]
  else
    match syllable? code with
    | some codes => codes
    | none => spellings.getD code [code]

/-- A mark put in its place: before those behind the last letter that come after it. -/
def place (code : Nat) : List Nat → List Nat
  | [] => [code]
  | c :: cs =>
    if weight code ≠ 0 ∧ weight code < weight c then c :: place code cs else code :: c :: cs

/-- The marks behind each letter in order.  The list is kept with the last character first. -/
def ordered (codes : List Nat) : List Nat := (codes.foldl (fun done c => place c done) []).reverse

/-- The character that two compose. -/
def composed? (left right : Nat) : Option Nat :=
  if right < firstMark then none
  else (composedSyllable? left right).or (pairs.get? (left, right))

/-- Characters composed: `letter` is the last letter, `marks` are the marks behind it that stayed,
the last one first. -/
def compose (letter : Nat) (marks : List Nat) : List Nat → List Nat
  | [] => letter :: marks.reverse
  | c :: cs =>
    let blocked := match marks with
      | [] => false
      | m :: _ => weight m = 0 || weight m ≥ weight c
    match if blocked then none else composed? letter c with
    | some whole => compose whole marks cs
    | none =>
      if weight c = 0 then letter :: marks.reverse ++ compose c [] cs
      else compose letter (c :: marks) cs

/-- The normal form of a text. -/
def form (s : String) : String :=
  if s.toList.all fun c => c.toNat < basicCount then s
  else
    match ordered (s.toList.flatMap fun c => spelled c.toNat) with
    | [] => ""
    | c :: cs => String.ofList ((compose c [] cs).map Char.ofNat)

end PgSchema.Text.Normal
