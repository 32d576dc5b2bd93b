import PgSchema.Number.Double

/-!
Decimal texts of a number of double precision.

`Double.shortest` takes the fewest digits that read back as the number: for one digit, two digits
and so on it looks at the two neighbours of the number on the grid of that many digits, and stops at
the first grid where one of them rounds to the number.  Of two, the nearer is taken.
-/

namespace PgSchema.Number

/-- A decimal number, `digits * 10 ^ exponent`. -/
structure Decimal where
  digits : Nat
  exponent : Int
  deriving DecidableEq, Repr, Inhabited

namespace Decimal

/-- The number without the zeros at its end. -/
def strip : Nat → Decimal → Decimal
  | 0, d => d
  | fuel + 1, d =>
    if d.digits ≠ 0 ∧ d.digits % 10 = 0 then strip fuel ⟨d.digits / 10, d.exponent + 1⟩ else d

/-- The comparison of a decimal number with a fraction. -/
def cmp (d : Decimal) (num den : Nat) : Ordering :=
  if 0 ≤ d.exponent then compare (d.digits * tenTo d.exponent.toNat * den) num
  else compare (d.digits * den) (num * tenTo d.exponent.natAbs)

end Decimal

namespace Double

/-- The numerator of a bound of the numbers that round to a finite number, in quarters of units of
`2 ^ (-1074)`.  The lower neighbour of a power of two is nearer than the upper one. -/
def lowerBound (x : Double) : Nat :=
  let quarter := twoTo x.scale
  if x.significand = twoTo 52 ∧ 0 < x.scale then 4 * x.units - quarter
  else 4 * x.units - 2 * quarter

@[inherit_doc lowerBound]
def upperBound (x : Double) : Nat := 4 * x.units + 2 * twoTo x.scale

/-- The denominator of the bounds. -/
def boundUnit : Nat := 4 * twoTo 1074

/-- A decimal number that rounds to the finite, positive number `x`.  The bounds themselves do so if
the significand is even. -/
def covers (x : Double) (d : Decimal) : Bool :=
  let low := d.cmp x.lowerBound boundUnit
  let high := d.cmp x.upperBound boundUnit
  let closed := x.significand % 2 == 0
  (low == .gt || (closed && low == .eq)) && (high == .lt || (closed && high == .eq))

/-- The power of ten that begins the decade of a positive fraction, searched upwards from an
estimate. -/
def decadeFrom : Nat → Int → Nat → Nat → Int
  | 0, k, _, _ => k
  | fuel + 1, k, num, den =>
    if (Decimal.mk 1 (k + 1)).cmp num den == .gt then k else decadeFrom fuel (k + 1) num den

/-- The power of ten that begins the decade of a finite, positive number. -/
def decade (x : Double) : Int :=
  let width : Int := x.units.log2 - 1074
  decadeFrom 4 (width * 30103 / 100000 - 1) x.units (twoTo 1074)

/-- The best neighbour of a number on the grid of `count` digits, if one of the two reads back. -/
def onGrid? (x : Double) (start : Int) (count : Nat) : Option Decimal :=
  let exponent := start - count + 1
  let (num, den) :=
    if 0 ≤ exponent then (x.units, twoTo 1074 * tenTo exponent.toNat)
    else (x.units * tenTo exponent.natAbs, twoTo 1074)
  let below : Decimal := ⟨num / den, exponent⟩
  let above : Decimal := ⟨num / den + 1, exponent⟩
  match x.covers below, x.covers above with
  | true, true => some ⟨roundDiv num den, exponent⟩
  | true, false => some below
  | false, true => some above
  | false, false => none

/-- The shortest decimal number that reads back as a finite, positive number. -/
def shortest (x : Double) : Decimal :=
  let start := x.decade
  let found := (List.range 17).findSome? fun n => x.onGrid? start (n + 1)
  (found.getD ⟨0, 0⟩).strip 20

/-- The places before which a decimal number is written without an exponent: more than four zeros
after the point, or more than sixteen digits before it, call for one. -/
def isPositional (point : Int) : Bool := -4 < point && point ≤ 16

/-- A decimal number in its own text: positional, with a point and a digit after it, or with one
digit before the point and an exponent of two digits or more. -/
def decimalText (d : Decimal) : String :=
  let digits := (toString d.digits).toList
  let point : Int := digits.length + d.exponent
  if isPositional point then
    if point ≤ 0 then
      "0." ++ String.ofList (List.replicate point.natAbs '0' ++ digits)
    else
      let whole := digits.take point.toNat ++ List.replicate (point.toNat - digits.length) '0'
      let rest := digits.drop point.toNat
      String.ofList whole ++ "." ++ (if rest.isEmpty then "0" else String.ofList rest)
  else
    let exponent := point - 1
    let sign := if exponent < 0 then "-" else "+"
    let power := toString exponent.natAbs
    let power := if power.length < 2 then "0" ++ power else power
    let rest := digits.drop 1
    String.ofList (digits.take 1) ++ (if rest.isEmpty then "" else "." ++ String.ofList rest) ++
      "e" ++ sign ++ power

/-- The text of a number: its fewest digits, or the name of what is no finite number. -/
def text (undefinedText infiniteText : String) (x : Double) : String :=
  if x.isUndefined then undefinedText
  else
    let sign := if x.isNegative then "-" else ""
    if !x.isFinite then sign ++ infiniteText
    else if x.isZero then sign ++ "0.0"
    else sign ++ decimalText x.shortest

/-- A number with one digit after the point; a half goes to the even digit. -/
def tenths (x : Double) : String :=
  if x.isUndefined then "nan"
  else
    let sign := if x.isNegative then "-" else ""
    if !x.isFinite then sign ++ "inf"
    else
      let n := roundDiv (x.units * 10) (twoTo 1074)
      sign ++ toString (n / 10) ++ "." ++ toString (n % 10)

end Double

end PgSchema.Number
