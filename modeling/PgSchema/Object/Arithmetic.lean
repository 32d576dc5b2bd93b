import PgSchema.Number.Rounding
import PgSchema.Number.Double
import PgSchema.Object.Machine

/-!
Arithmetic of whole numbers and of numbers with fractions.

Whole numbers have any size.  As soon as one of two numbers has a fraction the other one counts as
such too, if it is not too large for that.
-/

namespace PgSchema.Object

open Number (Double)

/-! ### Bounds -/

/-- A whole number as one with a fraction, if it is not too large. -/
def doubleOf (what : String) (n : Int) : Run Double :=
  let x := Double.ofInt n
  if x.isFinite then return x else refuse (.tooWide what)

/-- A number as one with a fraction. -/
def asDouble : Json → Run Double
  | .double x => return x
  | v => doubleOf "int too large to convert to float" ((v.whole?).getD 0)

/-- The most binary digits that are computed. -/
def mostBits : Nat := Number.twoTo 24

/-- A value of so many binary digits, if there is room for it. -/
def withRoom (bits : Nat) (v : Unit → Value) : Run Value :=
  if bits ≤ mostBits then return v () else Action.fail (.raised "MemoryError" (.text ""))

/-! ### Powers -/

/-- A power of a number with a fraction: exact, and rounded once. -/
def doublePower (x y : Double) : Run Value :=
  match y.toInt? with
  | some n =>
    if 1024 < n.natAbs ∨ !x.isFinite then unsupported "**"
    else if n < 0 ∧ x.isZero then
      refuse (.noQuotient "0.0 cannot be raised to a negative power")
    else
      let (num, den) := x.asFraction
      let top := Nat.pow num.natAbs n.natAbs
      let bottom := Nat.pow den n.natAbs
      let negative := x.isNegative && n % 2 = 1
      let power := if n < 0 then Double.ofFraction negative bottom top
        else Double.ofFraction negative top bottom
      if power.isFinite then return .double power
      else Action.fail (.raised "OverflowError" (.text "(34, 'Numerical result out of range')"))
  | none => unsupported "**"

/-- A power of a whole number. -/
def wholePower (a b : Int) : Run Value :=
  if b < 0 then do
    let x ← doubleOf "int too large to convert to float" a
    let y ← doubleOf "int too large to convert to float" b
    doublePower x y
  else withRoom (if a.natAbs < 2 then 0 else Number.bitLength a.natAbs * b.toNat) fun _ =>
    .int (Int.pow a b.toNat)

/-! ### Operators -/

/-- What is told of a quotient of whole numbers by zero. -/
def zeroQuotient : String → String
  | "//" | "divmod" => "integer division or modulo by zero"
  | "%" => "integer modulo by zero"
  | _ => "division by zero"

/-- What is told of a quotient of numbers with fractions by zero. -/
def zeroDoubleQuotient : String → String
  | "//" => "float floor division by zero"
  | "divmod" => "float divmod()"
  | "%" => "float modulo"
  | _ => "float division by zero"

/-- Numbers are moved by fewer digits than this. -/
def mostShift : Int := Number.twoTo 63

/-- A whole number moved by so many binary digits, upwards or downwards. -/
def shifted (isUp : Bool) (a b : Int) : Run Value :=
  if b < 0 then refuse (.badArgument "negative shift count")
  else if !isUp then
    let size := Number.bitLength a.natAbs
    return .int (Int.fdiv a (Number.twoTo (min b.toNat (size + 1))))
  else if a = 0 then return .int 0
  else if mostShift ≤ b then refuse (.tooWide "too many digits in integer")
  else withRoom (b.toNat + Number.bitLength a.natAbs) fun _ => .int (a * Number.twoTo b.toNat)

/-- An operator between whole numbers, if it is known. -/
def onWhole (symbol : String) (a b : Int) : Option (Run Value) :=
  let overZero (v : Unit → Run Value) : Run Value :=
    if b = 0 then refuse (.noQuotient (zeroQuotient symbol)) else v ()
  let bits (operator : Nat → Nat → Nat) : Option (Run Value) :=
    some (return .int (Number.onBits operator a b))
  match symbol with
  | "+" => some (return .int (a + b))
  | "-" => some (return .int (a - b))
  | "*" => some (return .int (a * b))
  | "/" => some (overZero fun _ =>
      let x := Double.ofFraction (decide (a < 0) != decide (b < 0)) a.natAbs b.natAbs
      if x.isFinite then return .double x
      else refuse (.tooWide "integer division result too large for a float"))
  | "//" => some (overZero fun _ => return .int (Int.fdiv a b))
  | "%" => some (overZero fun _ => return .int (Int.fmod a b))
  | "divmod" => some (overZero fun _ => return .tuple [.int (Int.fdiv a b), .int (Int.fmod a b)])
  | "**" => some (wholePower a b)
  | "&" => bits Nat.land
  | "|" => bits Nat.lor
  | "^" => bits Nat.xor
  | "<<" => some (shifted true a b)
  | ">>" => some (shifted false a b)
  | _ => none

/-- An operator between numbers with fractions, if it is known. -/
def onDoubles (symbol : String) (x y : Double) : Option (Run Value) :=
  let overZero (v : Value) : Run Value :=
    if y.isZero then refuse (.noQuotient (zeroDoubleQuotient symbol)) else return v
  match symbol with
  | "+" => some (return .double (x.add y))
  | "-" => some (return .double (x.sub y))
  | "*" => some (return .double (x.mul y))
  | "/" => some (overZero (.double (x.div y)))
  | "//" => some (overZero (.double (x.wholeQuotient y)))
  | "%" => some (overZero (.double (x.mod y)))
  | "divmod" => some (overZero (.tuple [.double (x.wholeQuotient y), .double (x.mod y)]))
  | "**" => some (doublePower x y)
  | _ => none

/-- The operators that are only there for whole numbers. -/
def bitSymbols : List String := ["&", "|", "^", "<<", ">>"]

/-- An operator between numbers, if it is known. -/
def onNumbers (symbol : String) (a b : Json) : Option (Run Value) :=
  match a, b, a.whole?, b.whole? with
  | .bool p, .bool q, _, _ =>
    match symbol with
    | "&" => some (return .bool (p && q))
    | "|" => some (return .bool (p || q))
    | "^" => some (return .bool (p != q))
    | symbol => onWhole symbol (if p then 1 else 0) (if q then 1 else 0)
  | _, _, some i, some j => onWhole symbol i j
  | _, _, _, _ =>
    if symbol ∈ bitSymbols then none
    else some do
      let x ← asDouble a
      let y ← asDouble b
      (onDoubles symbol x y).getD (unsupported symbol)

end PgSchema.Object
