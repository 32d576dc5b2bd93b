import PgSchema.Number.Double
import PgSchema.Text.Literal

/-!
Numbers of double precision to base sixteen: a sign, `0x`, digits with a point among them, and the
power of two behind a `p`.
-/

namespace PgSchema.Number.Double

/-- A finite number to base sixteen. -/
def hexText (x : Double) : String :=
  let sign := if x.isNegative then "-" else ""
  if x.isZero then sign ++ "0x0.0p+0"
  else
    let isFull := twoTo 52 ≤ x.significand
    let digits := String.ofList (Text.hexDigits 13 (x.significand % twoTo 52))
    let exponent : Int := (x.scale : Int) - 1022
    sign ++ (if isFull then "0x1." else "0x0.") ++ digits ++ "p" ++
      (if exponent < 0 then "-" else "+") ++ toString exponent.natAbs

/-- The value of a digit to base sixteen. -/
def hexValue? (c : Char) : Option Nat :=
  if c.isDigit then some (c.toNat - '0'.toNat)
  else if 'a' ≤ c.toLower ∧ c.toLower ≤ 'f' then some (c.toLower.toNat - 'a'.toNat + 10)
  else none

/-- A row of digits to base sixteen. -/
def ofHexDigits (cs : List Char) : Nat :=
  cs.foldl (fun n c => 16 * n + (hexValue? c).getD 0) 0

/-- Blanks that may stand around a number. -/
def isHexBlank (c : Char) : Bool := c = ' ' || (9 ≤ c.toNat && c.toNat ≤ 13)

/-- The sign in front, and what stands behind it. -/
def signOf : List Char → Bool × List Char
  | '-' :: cs => (true, cs)
  | '+' :: cs => (false, cs)
  | cs => (false, cs)

/-- The power of two behind the digits, and what stands behind that. -/
def exponentOf : List Char → Option (Int × List Char)
  | c :: cs =>
    if c.toLower = 'p' then
      let (negative, cs) := signOf cs
      let digits := cs.takeWhile Char.isDigit
      if digits.isEmpty then none
      else
        let n : Int := ((String.ofList digits).toNat?.getD 0 : Nat)
        some (if negative then -n else n, cs.drop digits.length)
    else some (0, c :: cs)
  | [] => some (0, [])

/-- A row of digits times a power of two.  Far beyond both ends of the range it is not computed. -/
def ofBinary (negative : Bool) (digits : Nat) (exponent : Int) : Double :=
  let width : Int := digits.log2 + exponent
  if digits = 0 ∨ width < -1100 then make negative 0
  else if 1100 < width then infinite negative
  else if 0 ≤ exponent then ofFraction negative (digits * twoTo exponent.toNat) 1
  else ofFraction negative digits (twoTo exponent.natAbs)

/-- The number that the digits behind a sign stand for. -/
def ofHexBody? (negative : Bool) (cs : List Char) : Option (Double × List Char) :=
  let cs := match cs with
    | '0' :: x :: rest => if x.toLower = 'x' then rest else cs
    | cs => cs
  let isHex (c : Char) : Bool := (hexValue? c).isSome
  let whole := cs.takeWhile isHex
  let behind := cs.drop whole.length
  let (part, behind) := match behind with
    | '.' :: rest => (rest.takeWhile isHex, rest.dropWhile isHex)
    | behind => ([], behind)
  if whole.isEmpty ∧ part.isEmpty then none
  else (exponentOf behind).map fun (exponent, rest) =>
    (ofBinary negative (ofHexDigits (whole ++ part)) (exponent - 4 * part.length), rest)

/-- The names of numbers that are not finite. -/
def unboundedNames : List (String × Double) :=
  [("infinity", infinite false), ("inf", infinite false), ("nan", undefined)]

/-- The number that a text to base sixteen stands for. -/
def ofHexText? (s : String) : Option Double := do
  let (negative, cs) := signOf (s.toList.dropWhile isHexBlank)
  let small := cs.map Char.toLower
  let named := unboundedNames.find? fun e => e.1.toList.isPrefixOf small
  let (x, rest) ← match named with
    | some (name, x) => some (make negative x.magnitude, cs.drop name.length)
    | none => ofHexBody? negative cs
  if rest.all isHexBlank then some x else none

end PgSchema.Number.Double
