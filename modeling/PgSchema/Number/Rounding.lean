

/-!
Powers of the two bases that numbers are written in, rounding of a quotient to a whole number, and
whole numbers as rows of bits.

A negative number has an endless row of ones in front.  Of two numbers only so many bits matter as
both of them have.
-/

namespace PgSchema.Number

/-! ### Powers -/

/-- A power of two. -/
def twoTo (n : Nat) : Nat := Nat.pow 2 n

/-- A power of ten. -/
def tenTo (n : Nat) : Nat := Nat.pow 10 n

/-! ### Rounding -/

/-- The whole number nearest to a quotient; a half goes to the even neighbour. -/
def roundDiv (num den : Nat) : Nat :=
  let q := num / den
  let r := num % den
  if 2 * r < den then q else if den < 2 * r then q + 1 else q + q % 2

/-! ### Rows of bits -/

/-- The number of binary digits. -/
def bitLength (n : Nat) : Nat := if n = 0 then 0 else n.log2 + 1

/-- How many of the binary digits are ones, of so many. -/
def bitCount : Nat → Nat → Nat
  | 0, _ => 0
  | fuel + 1, n => n % 2 + bitCount fuel (n / 2)

/-- A number in so many bits, the first of which is the sign. -/
def toBits (width : Nat) (n : Int) : Nat := (n % twoTo width).toNat

/-- The number of so many bits, the first of which is the sign. -/
def ofBits (width : Nat) (bits : Nat) : Int :=
  if twoTo width ≤ 2 * bits then (bits : Int) - twoTo width else bits

/-- An operator on the bits of two numbers. -/
def onBits (operator : Nat → Nat → Nat) (a b : Int) : Int :=
  let width := max (bitLength a.natAbs) (bitLength b.natAbs) + 1
  ofBits width (operator (toBits width a) (toBits width b))

/-- A number in bytes, the lowest one first. -/
def lowBytes : Nat → Nat → List Nat
  | 0, _ => []
  | count + 1, n => n % 256 :: lowBytes count (n / 256)

/-- The number of bytes, the lowest one first. -/
def ofLowBytes (bytes : List Nat) : Nat := bytes.foldr (fun b n => b + 256 * n) 0

end PgSchema.Number
