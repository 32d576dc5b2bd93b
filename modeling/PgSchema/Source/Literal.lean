import PgSchema.Source.Tree
import PgSchema.Text.Literal
import PgSchema.Text.Named

/-!
The texts that literals stand for.

Literals that stand next to each other are one text.  A literal with the letter b is made of bytes,
and in one with the letter r a backslash is only a backslash.
-/

namespace PgSchema.Source.Literal

/-- What literals stand for.  A text with fields in it is not known before it is evaluated. -/
inductive Piece where
  | text (s : String)
  | bytes (s : String)
  | fields (s : String)
  deriving Inhabited

/-- What is wrong with literals: of the literal itself, or of all of them. -/
inductive LiteralFlaw where
  | own (message : String)
  | whole (message : String)

/-! ### Escapes -/

/-- How many places a character takes among the places that messages count. -/
def places (c : Char) : Nat := if c.toNat < 0x80 then 1 else 10

/-- How many places characters take.  A backslash in front of a wide character is spelled out. -/
def placesOf : List Char → Nat
  | '\\' :: c :: cs => (if c.toNat < 0x80 then 1 else 6) + placesOf (c :: cs)
  | c :: cs => places c + placesOf cs
  | [] => 0

/-- The complaint about an escape at a place that takes up so many places. -/
def badEscape (at_ width : Nat) (what : String) : String :=
  "'unicodeescape' codec can't decode bytes in position " ++ toString at_ ++ "-" ++
    toString (at_ + width - 1) ++ ": " ++ what

/-- The complaint about an escape that is cut off. -/
def cutOff : Nat → String
  | 2 => "truncated \\xXX escape"
  | 4 => "truncated \\uXXXX escape"
  | _ => "truncated \\UXXXXXXXX escape"

/-- The character with a code; what is none is shown as a replacement. -/
def character (code : Nat) : Char :=
  if (Char.ofNat code).toNat = code then Char.ofNat code else '\ufffd'

/-- The character that a letter behind a backslash stands for. -/
def letterEscapes : List (Char × List Char) :=
  [('\n', []), ('\\', ['\\']), ('\x27', ['\x27']), ('\x22', ['\x22']), ('a', ['\x07']),
   ('b', ['\x08']), ('f', ['\x0c']), ('n', ['\n']), ('r', ['\r']), ('t', ['\t']), ('v', ['\x0b'])]

/-- The number of digits behind a letter for a code. -/
def codeWidths : List (Char × Nat) := [('x', 2), ('u', 4), ('U', 8)]

/-- The value of digits in a base. -/
def valueOf (base : Nat) (cs : List Char) : Nat :=
  cs.foldl (fun n c => base * n + (Text.hexValue? c).getD 0) 0

/-- An octal digit. -/
def isOctal (c : Char) : Bool := '0' ≤ c && c ≤ '7'

/-- The last code point. -/
def lastCode : Nat := 0x10FFFF

/-- What an escape stands for, and how many characters behind the backslash it takes. -/
def escape (at_ : Nat) (cs : List Char) : Except String (List Char × Nat) :=
  match cs with
  | [] => .ok (['\\'], 0)
  | c :: rest =>
    match letterEscapes.lookup c, codeWidths.lookup c with
    | some value, _ => .ok (value, 1)
    | none, some width =>
      let digits := (rest.take width).takeWhile fun d => (Text.hexValue? d).isSome
      if digits.length < width then .error (badEscape at_ (digits.length + 2) (cutOff width))
      else
        let code := valueOf 16 digits
        if code > lastCode then .error (badEscape at_ (width + 2) "illegal Unicode character")
        else .ok ([character code], width + 1)
    | none, none =>
      if isOctal c then
        let digits := (cs.take 3).takeWhile isOctal
        .ok ([character (valueOf 8 digits)], digits.length)
      else if c = 'N' then
        let malformed (width : Nat) : Except String (List Char × Nat) :=
          .error (badEscape at_ width "malformed \\N character escape")
        match rest with
        | '\x7b' :: behind =>
          let name := behind.takeWhile (· ≠ '\x7d')
          if name.length = behind.length then malformed (3 + placesOf behind)
          else if name.isEmpty then malformed 3
          else
            match Text.named? (String.ofList name) with
            | some found => .ok ([found], name.length + 3)
            | none =>
              .error (badEscape at_ (4 + placesOf name) "unknown Unicode character name")
        | _ => malformed 2
      else .ok (['\\', c], 1)

/-- A text with its escapes replaced, behind what was read already, the last character first.  The
first `skip` characters are used up. -/
def unescape (at_ : Nat) (done : List Char) : Nat → List Char → Except String (List Char)
  | _, [] => .ok done.reverse
  | skip + 1, c :: cs => unescape (at_ + placesOf [c]) done skip cs
  | 0, '\\' :: cs => do
    let (value, used) ← escape at_ cs
    let next := at_ + placesOf ('\\' :: cs.take 1) - placesOf (cs.take 1)
    unescape next (value.reverse ++ done) used cs
  | 0, c :: cs => unescape (at_ + places c) (c :: done) 0 cs

/-- Bytes with their escapes replaced. -/
def unescapeBytes (at_ : Nat) (done : List Char) : Nat → List Char → Except String (List Char)
  | _, [] => .ok done.reverse
  | skip + 1, _ :: cs => unescapeBytes (at_ + 1) done skip cs
  | 0, '\\' :: cs =>
    match cs with
    | 'x' :: rest =>
      let digits := (rest.take 2).takeWhile fun d => (Text.hexValue? d).isSome
      if digits.length < 2 then .error ("invalid \\x escape at position " ++ toString at_)
      else unescapeBytes (at_ + 1) (character (valueOf 16 digits) :: done) 3 cs
    | c :: _ =>
      if isOctal c then
        let digits := (cs.take 3).takeWhile isOctal
        unescapeBytes (at_ + 1) (character (valueOf 8 digits % 256) :: done) digits.length cs
      else
        match letterEscapes.lookup c with
        | some value => unescapeBytes (at_ + 1) (value.reverse ++ done) 1 cs
        | none => unescapeBytes (at_ + 1) (c :: '\\' :: done) 1 cs
    | [] => .ok ('\\' :: done).reverse
  | 0, c :: cs => unescapeBytes (at_ + 1) (c :: done) 0 cs

/-! ### Literals -/

/-- What stands between the marks of a literal. -/
def inside (cs : List Char) : List Char :=
  match cs with
  | mark :: rest =>
    if [mark, mark].isPrefixOf rest ∧ rest.length ≥ 5 then (rest.drop 2).take (rest.length - 5)
    else rest.take (rest.length - 1)
  | [] => []

/-- What a literal stands for. -/
def piece (literal : String) : Except LiteralFlaw Piece :=
  let letters := Tree.textLetters literal
  let body := inside (literal.toList.drop letters.length)
  let isRaw := 'r' ∈ letters ∨ '\\' ∉ body
  if 'b' ∈ letters then
    if body.any fun c => c.toNat ≥ 0x80 then
      .error (.own "bytes can only contain ASCII literal characters")
    else if isRaw then .ok (.bytes (String.ofList body))
    else
      match unescapeBytes 0 [] 0 body with
      | .ok cs => .ok (.bytes (String.ofList cs))
      | .error what => .error (.whole ("(value error) " ++ what))
  else if 'f' ∈ letters then .ok (.fields (String.ofList body))
  else if isRaw then .ok (.text (String.ofList body))
  else
    match unescape 0 [] 0 body with
    | .ok cs => .ok (.text (String.ofList cs))
    | .error what => .error (.whole ("(unicode error) " ++ what))

/-- One text of two. -/
def join : Piece → Piece → Piece
  | .bytes a, .bytes b => .bytes (a ++ b)
  | .text a, .text b => .text (a ++ b)
  | .text a, .fields b | .fields a, .text b | .fields a, .fields b => .fields (a ++ b)
  | a, _ => a

/-- The piece is made of bytes. -/
def Piece.isBytes : Piece → Bool
  | .bytes _ => true
  | _ => false

/-- What literals next to each other stand for, behind those before them. -/
def pieces (done : Option Piece) : List Token → Except (LiteralFlaw × Nat) Piece
  | [] => .ok (done.getD (.text ""))
  | t :: rest =>
    match piece t.text with
    | .error flaw => .error (flaw, t.line)
    | .ok p =>
      match done with
      | none => pieces (some p) rest
      | some d =>
        if d.isBytes = p.isBytes then pieces (some (join d p)) rest
        else .error (.whole "cannot mix bytes and nonbytes literals", t.line)

/-- What is wrong with literals next to each other, the last token being on a line. -/
def flaw? (literals : List Token) (last : Nat) : Option Flaw :=
  match pieces none literals with
  | .ok _ => none
  | .error (.own message, line) => some { message, line }
  | .error (.whole message, _) => some { message, line := last }

end PgSchema.Source.Literal
