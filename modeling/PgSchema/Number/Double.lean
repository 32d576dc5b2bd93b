import PgSchema.Number.Rounding

/-!
Binary floating-point numbers of double precision, given by their 64 bits.

All arithmetic is exact: a finite number is a significand times a power of two, an operation is
carried out on fractions of natural numbers, and `Double.ofFraction` rounds the outcome to the
nearest number, a tie to the even significand.  A remainder has the sign of the divisor, and the
whole quotient that goes with it is rounded down.
-/

namespace PgSchema.Number

/-- A number of double precision: a sign, eleven bits of exponent, fifty-two of significand. -/
structure Double where
  bits : UInt64
  deriving DecidableEq, Repr, Inhabited

namespace Double

/-! ### Parts of a number -/

/-- The sign bit. -/
def isNegative (x : Double) : Bool := twoTo 63 ≤ x.bits.toNat

/-- The bits below the sign. -/
def magnitude (x : Double) : Nat := x.bits.toNat % twoTo 63

/-- The magnitude of the two infinities. -/
def infiniteMagnitude : Nat := 0x7ff * twoTo 52

/-- A number that is neither infinite nor undefined. -/
def isFinite (x : Double) : Bool := x.magnitude < infiniteMagnitude

/-- The outcome of an undefined operation. -/
def isUndefined (x : Double) : Bool := infiniteMagnitude < x.magnitude

/-- A zero of either sign. -/
def isZero (x : Double) : Bool := x.magnitude == 0

/-- The significand of a finite number. -/
def significand (x : Double) : Nat :=
  if x.magnitude < twoTo 52 then x.magnitude else x.magnitude % twoTo 52 + twoTo 52

/-- The power of two that the significand of a finite number counts, raised by 1074. -/
def scale (x : Double) : Nat := x.magnitude / twoTo 52 - 1

/-- The absolute value of a finite number, in units of the smallest one, `2 ^ (-1074)`. -/
def units (x : Double) : Nat := x.significand * twoTo x.scale

/-- A finite number, in units of the smallest one. -/
def signedUnits (x : Double) : Int := if x.isNegative then -x.units else x.units

/-! ### Rounding to the nearest number -/

/-- The number with a sign and a magnitude. -/
def make (negative : Bool) (magnitude : Nat) : Double :=
  ⟨UInt64.ofNat ((if negative then twoTo 63 else 0) + magnitude)⟩

/-- An infinite number. -/
def infinite (negative : Bool) : Double := make negative infiniteMagnitude

/-- The outcome of an operation that has none. -/
def undefined : Double := make false (infiniteMagnitude + twoTo 51)

/-- The number of units of `2 ^ (-1074)` nearest to a fraction, as a magnitude.  Above the smallest
numbers the unit is chosen such that the significand has fifty-three bits; the carry of a rounding
moves the exponent on by itself. -/
def magnitudeOf (num den : Nat) : Nat :=
  let num := num * twoTo 1074
  let width := num.log2 - den.log2
  let width := if num < den * twoTo width then width - 1 else width
  let scale := width - 52
  min infiniteMagnitude (scale * twoTo 52 + roundDiv num (den * twoTo scale))

/-- The number nearest to a fraction. -/
def ofFraction (negative : Bool) (num den : Nat) : Double :=
  if num = 0 then make negative 0 else make negative (magnitudeOf num den)

/-- The number nearest to a whole number. -/
def ofInt (n : Int) : Double := ofFraction (n < 0) n.natAbs 1

/-- The number nearest to `digits * 10 ^ exponent`.  Far beyond both ends of the range the power is
not computed. -/
def ofDecimal (negative : Bool) (digits : Nat) (exponent : Int) : Double :=
  let width : Int := (digits.log2 : Int) * 30103 / 100000 + 1 + exponent
  if digits = 0 then make negative 0
  else if 400 < exponent ∨ 800 < width then infinite negative
  else if width < -400 then make negative 0
  else if 0 ≤ exponent then ofFraction negative (digits * tenTo exponent.toNat) 1
  else ofFraction negative digits (tenTo exponent.natAbs)

/-! ### Arithmetic -/

/-- A number of units of `2 ^ (-1074)`, divided and rounded.  A zero is positive. -/
def ofUnits (n : Int) : Double := ofFraction (n < 0) n.natAbs (twoTo 1074)

/-- The same number with the other sign. -/
def negate (x : Double) : Double := make (!x.isNegative) x.magnitude

/-- The sum. -/
def add (x y : Double) : Double :=
  if x.isUndefined || y.isUndefined then undefined
  else if x.isFinite && y.isFinite then
    if x.isZero && y.isZero then make (x.isNegative && y.isNegative) 0
    else ofUnits (x.signedUnits + y.signedUnits)
  else if !x.isFinite && !y.isFinite && x.isNegative != y.isNegative then undefined
  else if x.isFinite then y else x

/-- The difference. -/
def sub (x y : Double) : Double := x.add y.negate

/-- A whole multiple, by a positive factor. -/
def times (x : Double) (factor : Nat) : Double :=
  if x.isFinite then ofFraction x.isNegative (x.units * factor) (twoTo 1074) else x

/-! ### Comparison -/

/-- The number is below a whole number. -/
def ltInt (x : Double) (n : Int) : Bool :=
  if x.isUndefined then false
  else if x.isFinite then x.signedUnits < n * twoTo 1074
  else x.isNegative

/-- The number is above a whole number. -/
def gtInt (x : Double) (n : Int) : Bool :=
  if x.isUndefined then false
  else if x.isFinite then n * twoTo 1074 < x.signedUnits
  else !x.isNegative

/-- The place of a number in the order of all numbers, infinite ones included. -/
def rank (x : Double) : Int := if x.isNegative then -x.magnitude else x.magnitude

/-- The number is below another. -/
def lt (x y : Double) : Bool := !x.isUndefined && !y.isUndefined && x.rank < y.rank

/-- The whole number that a number is, if it is one. -/
def toInt? (x : Double) : Option Int :=
  if x.isFinite ∧ x.units % twoTo 1074 = 0 then
    let n : Int := (x.units / twoTo 1074 : Nat)
    some (if x.isNegative then -n else n)
  else none

/-! ### Products, quotients and fractions -/

/-- The product. -/
def mul (x y : Double) : Double :=
  let negative := x.isNegative != y.isNegative
  if x.isUndefined || y.isUndefined then undefined
  else if x.isFinite && y.isFinite then
    ofFraction negative (x.units * y.units) (twoTo 1074 * twoTo 1074)
  else if x.isZero || y.isZero then undefined
  else infinite negative

/-- The quotient by a number that is not zero. -/
def div (x y : Double) : Double :=
  let negative := x.isNegative != y.isNegative
  if x.isUndefined || y.isUndefined then undefined
  else if x.isFinite && y.isFinite then ofFraction negative x.units y.units
  else if x.isFinite then make negative 0
  else if y.isFinite then infinite negative
  else undefined

/-- A number without its fraction, as a whole number. -/
def truncated (x : Double) : Int :=
  let n : Int := (x.units / twoTo 1074 : Nat)
  if x.isNegative then -n else n

/-- The whole number that is at most a number. -/
def floor (x : Double) : Int :=
  let n : Int := Int.fdiv x.signedUnits (twoTo 1074)
  n

/-- The whole number that is at least a number. -/
def ceiling (x : Double) : Int := -x.negate.floor

/-- The whole number nearest to a number; a half goes to the even neighbour. -/
def nearest (x : Double) : Int :=
  let n : Int := roundDiv x.units (twoTo 1074)
  if x.isNegative then -n else n

/-- The same number with the sign of another one. -/
def withSign (x : Double) (negative : Bool) : Double := make negative x.magnitude

/-- The remainder of a division by a number that is not zero. -/
def mod (x y : Double) : Double :=
  if x.isUndefined || y.isUndefined || !x.isFinite then undefined
  else
    let rest := if y.isFinite then
        withSign (ofUnits (x.units % y.units : Nat)) x.isNegative
      else x
    if rest.isZero then make y.isNegative 0
    else if rest.isNegative != y.isNegative then rest.add y
    else rest

/-- The whole quotient of a division by a number that is not zero. -/
def wholeQuotient (x y : Double) : Double :=
  let quotient := (x.sub (mod x y)).div y
  if !quotient.isFinite then quotient
  else if quotient.isZero then make (x.isNegative != y.isNegative) 0
  else
    let below := quotient.floor
    let exact := ofInt below
    if (ofFraction false 1 2).lt (quotient.sub exact) then ofInt (below + 1) else exact

/-- A finite number as a fraction in lowest terms. -/
def asFraction (x : Double) : Int × Nat :=
  let shared := Nat.gcd x.units (twoTo 1074)
  let num : Int := (x.units / shared : Nat)
  (if x.isNegative then -num else num, twoTo 1074 / shared)

/-- A finite number rounded to so many places behind the point. -/
def roundedTo (x : Double) (places : Int) : Double :=
  if 323 < places ∨ x.isZero then x
  else if places < -308 then make x.isNegative 0
  else if 0 ≤ places then
    let power := tenTo places.toNat
    ofFraction x.isNegative (roundDiv (x.units * power) (twoTo 1074)) power
  else
    let power := tenTo places.natAbs
    ofFraction x.isNegative (roundDiv x.units (twoTo 1074 * power) * power) 1

end Double

end PgSchema.Number
