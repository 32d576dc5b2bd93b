/-!
Texts inside texts, texts made wider, and parts of texts: where they stand, between two bounds, and
how often.  Texts in pieces: at a separator, at blanks, or at the ends of lines.

A bound counts from the end if it is negative, and one beyond an end is at that end.
-/

namespace PgSchema.Text

/-! ### Texts inside texts -/

/-- The first characters of a text. -/
def front (n : Nat) (s : String) : String := String.ofList (s.toList.take n)

/-- A row of characters occurs in another. -/
def occursIn (part : List Char) : List Char → Bool
  | [] => part.isEmpty
  | c :: rest => part.isPrefixOf (c :: rest) || occursIn part rest

/-- A text occurs in another. -/
def occurs (part whole : String) : Bool := occursIn part.toList whole.toList

/-- A text begins with another. -/
def begins (start whole : String) : Bool := start.toList.isPrefixOf whole.toList

/-! ### Wider texts -/

/-- So many characters of a sort. -/
def fill (count : Nat) (c : Char) : String := String.ofList (List.replicate count c)

/-- A text between fill characters, so many before it and behind it. -/
def padded (left right : Nat) (c : Char) (s : String) : String := fill left c ++ s ++ fill right c

/-- How many characters a text lacks for a width. -/
def lack (width : Int) (s : String) : Nat := (width - s.length).toNat

/-- A text in the middle of a width.  Of an odd number of fill characters the one in excess stands
before the text if the width is odd. -/
def centered (width : Int) (c : Char) (s : String) : String :=
  let missing := lack width s
  let left := missing / 2 + (if missing % 2 = 1 ∧ width % 2 = 1 then 1 else 0)
  padded left (missing - left) c s

/-- A text with zeros before it, behind its sign. -/
def zeroFilled (width : Int) (s : String) : String :=
  match s.toList with
  | c :: cs =>
    if c = '+' ∨ c = '-' then String.singleton c ++ fill (lack width s) '0' ++ String.ofList cs
    else fill (lack width s) '0' ++ s
  | [] => fill (lack width s) '0'

/-- A text with blanks in the place of tabs, up to the next multiple of a size. -/
def untabbed (size : Nat) (column : Nat) : List Char → List Char
  | [] => []
  | '\t' :: cs =>
    let width := if size = 0 then 0 else size - column % size
    List.replicate width ' ' ++ untabbed size (column + width) cs
  | c :: cs => c :: untabbed size (if c = '\n' ∨ c = '\r' then 0 else column + 1) cs

/-! ### Parts between bounds -/

/-- The bounds of a part of a text, as they are given: none for the ends. -/
structure Bounds where
  first : Option Int := none
  last : Option Int := none

namespace Bounds

/-- A place that counts from the end if it is negative. -/
def place (count : Nat) (n : Int) : Int := if n < 0 then max (n + count) 0 else n

/-- The first place and the place behind the last one, in a row of so many. -/
def places (b : Bounds) (count : Nat) : Int × Int :=
  (place count (b.first.getD 0), min (place count (b.last.getD count)) count)

end Bounds

/-- The places where a part stands between bounds. -/
def occurrences (b : Bounds) (part whole : List Char) : List Nat :=
  let (first, last) := b.places whole.length
  if last - first < part.length then []
  else
    (List.range (last - first - part.length + 1).toNat).filterMap fun i =>
      let at_ := first.toNat + i
      if part.isPrefixOf (whole.drop at_) then some at_ else none

/-- The number of places that are so far apart from each other, the first ones first. -/
def countApart (width next : Nat) : List Nat → Nat
  | [] => 0
  | p :: ps => if p < next then countApart width next ps else 1 + countApart width (p + width) ps

/-- How often a part stands between bounds.  Places do not overlap. -/
def countIn (b : Bounds) (part whole : List Char) : Nat :=
  countApart (max part.length 1) 0 (occurrences b part whole)

/-- A part stands at the beginning or at the end of what is between bounds. -/
def standsAtEdge (atEnd : Bool) (b : Bounds) (part whole : List Char) : Bool :=
  let (first, last) := b.places whole.length
  let rest := last - part.length
  if rest < first then false
  else part.isEmpty || part.isPrefixOf (whole.drop (if atEnd then rest else first).toNat)

/-! ### Blanks -/

/-- White space of every script, and the four separators of the control characters. -/
def isBlank (c : Char) : Bool :=
  let n := c.toNat
  (9 ≤ n && n ≤ 13) || (28 ≤ n && n ≤ 32) || n == 0x85 || n == 0xa0 || n == 0x1680 ||
    (0x2000 ≤ n && n ≤ 0x200a) || n == 0x2028 || n == 0x2029 || n == 0x202f || n == 0x205f ||
    n == 0x3000

/-- The text without the characters of a class at its two ends. -/
def trimBy (drop : Char → Bool) (cs : List Char) : List Char :=
  ((cs.dropWhile drop).reverse.dropWhile drop).reverse

/-- The text without the blanks at its two ends. -/
def trim (cs : List Char) : List Char := trimBy isBlank cs

/-! ### Pieces -/

/-- The characters before a separator and those behind it. -/
def cutAt (mark : List Char) : List Char → Option (List Char × List Char)
  | [] => if mark.isEmpty then some ([], []) else none
  | c :: cs =>
    if mark.isPrefixOf (c :: cs) then some ([], (c :: cs).drop mark.length)
    else (cutAt mark cs).map fun (front, back) => (c :: front, back)

/-- The pieces between separators, with so many separators at most. -/
def splitAt (mark : List Char) : Nat → List Char → List (List Char)
  | 0, cs => [cs]
  | n + 1, cs =>
    match cutAt mark cs with
    | some (front, back) => front :: splitAt mark n back
    | none => [cs]

/-- The pieces between runs of blanks, with so many cuts at most. -/
def splitBlanks : Nat → List Char → List (List Char)
  | n, cs =>
    match n, cs.dropWhile isBlank with
    | _, [] => []
    | 0, rest => [rest]
    | n + 1, rest =>
      rest.takeWhile (!isBlank ·) :: splitBlanks n (rest.dropWhile (!isBlank ·))

/-- Pieces cut from the end. -/
def fromEnd (cut : List Char → List (List Char)) (cs : List Char) : List (List Char) :=
  ((cut cs.reverse).map List.reverse).reverse

/-- The number of cuts that is given: as many as there are for a negative one. -/
def mostCuts (given : Int) (cs : List Char) : Nat := if given < 0 then cs.length else given.toNat

/-! ### Lines -/

/-- The characters that end lines. -/
def isLineEnd (c : Char) : Bool :=
  let n := c.toNat
  (0x0a ≤ n && n ≤ 0x0d) || (0x1c ≤ n && n ≤ 0x1e) || n == 0x85 || n == 0x2028 || n == 0x2029

/-- The lines of a text, with their ends or without them; what was read of a line comes last first.
-/
def linesFrom (keep : Bool) (line : List Char) : List Char → List (List Char)
  | [] => if line.isEmpty then [] else [line.reverse]
  | '\r' :: '\n' :: cs =>
    ((if keep then '\n' :: '\r' :: line else line).reverse) :: linesFrom keep [] cs
  | c :: cs =>
    if isLineEnd c then ((if keep then c :: line else line).reverse) :: linesFrom keep [] cs
    else linesFrom keep (c :: line) cs

end PgSchema.Text
