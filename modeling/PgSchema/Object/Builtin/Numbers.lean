import PgSchema.Number.Hexadecimal
import PgSchema.Object.Arithmetic
import PgSchema.Object.Builtin.Bytes
import PgSchema.Object.Builtin.Format

/-!
What numbers can do by themselves.
-/

namespace PgSchema.Object

open Number (Double)

/-! ### Operators -/

/-- The whole number that a receiver is. -/
def selfWhole (self : Value) : Int := (wholeOf? self).getD 0

/-- The number with a fraction that a receiver is. -/
def selfDouble : Value → Double
  | .double x => x
  | _ => Double.ofInt 0

/-- The functions that stand for operators between numbers, but for their underscores. -/
def operatorNames : List (String × String) :=
  [("add", "+"), ("sub", "-"), ("mul", "*"), ("truediv", "/"), ("floordiv", "//"), ("mod", "%"),
   ("divmod", "divmod"), ("and", "&"), ("or", "|"), ("xor", "^"), ("lshift", "<<"),
   ("rshift", ">>")]

/-- An operator between a number and a value, which has no outcome if that is no number or one that
the operator of the number does not take. -/
def applied (takes : Value → Bool) (symbol : String) (flip : Bool) (self v : Value) : Run Value :=
  match takes v, self.number?, v.number? with
  | true, some a, some b =>
    (if flip then onNumbers symbol b a else onNumbers symbol a b).getD (return noOutcome)
  | _, _, _ => return noOutcome

/-- The functions of the operators between numbers, each of them also with its operands swapped. -/
def operatorFeatures (takes : Value → Bool) (names : List (String × String)) : Entries Feature :=
  names.flatMap fun (name, symbol) =>
    [("__" ++ name ++ "__", .builtin (.slot 1) fun _ self g =>
        applied takes symbol false self (g.nth 0)),
     ("__r" ++ name ++ "__", .builtin (.slot 1) fun _ self g =>
        applied takes symbol true self (g.nth 0))]

/-- A function of a number without arguments. -/
def plainNumber (name : String) (arity : Arity) (run : Value → Run Value) : String × Feature :=
  (name, .builtin arity fun _ self _ => run self)

/-! ### Whole numbers -/

/-- A power of a whole number, perhaps the remainder of one. -/
def wholePowerOf (self : Value) (g : Given) : Run Value :=
  match wholeOf? (g.nth 0), g.nth 1, wholeOf? (g.nth 1) with
  | some n, .null, _ => wholePower (selfWhole self) n
  | some _, _, some 0 => refuse (.badArgument "pow() 3rd argument cannot be 0")
  | some n, _, some modulus =>
    if n < 0 then unsupported "pow"
    else withRoom (n.toNat * Number.bitLength (selfWhole self).natAbs) fun _ =>
      .int (Int.fmod (Int.pow (selfWhole self) n.toNat) modulus)
  | _, _, _ => return noOutcome

/-- A whole number rounded to so many places behind the point, of which it has none. -/
def wholeRounded (self : Value) (g : Given) : Run Value :=
  match g.nth? 0 with
  | none => return .int (selfWhole self)
  | some v =>
    match wholeOf? v with
    | none => refuse (.notIndex v.sortName)
    | some places =>
      let n := selfWhole self
      if 0 ≤ places then return .int n
      else if Number.bitLength n.natAbs + 1 < places.natAbs then return .int 0
      else
        let power := Number.tenTo places.natAbs
        let size : Int := (Number.roundDiv n.natAbs power * power : Nat)
        return .int (if n < 0 then -size else size)

/-- Features of whole numbers. -/
def wholeFeatures : Entries Feature :=
  let part (name : String) (get : Int → Value) : String × Feature :=
    (name, .property fun _ self => return get (selfWhole self))
  let itself (name : String) : String × Feature :=
    plainNumber name (.slot 0) fun self => return .int (selfWhole self)
  [part "real" .int, part "imag" fun _ => .int 0, part "numerator" .int,
   part "denominator" fun _ => .int 1,
   plainNumber "bit_length" .none fun self =>
      return .int (Number.bitLength (selfWhole self).natAbs),
   plainNumber "bit_count" .none fun self =>
      let n := (selfWhole self).natAbs
      return .int (Number.bitCount (Number.bitLength n) n),
   plainNumber "conjugate" .none fun self => return .int (selfWhole self),
   plainNumber "as_integer_ratio" .none fun self =>
      return .tuple [.int (selfWhole self), .int 1],
   ("to_bytes", .builtin (.named 2
        [("length", some (.int 1)), ("byteorder", some (.text "big")),
          ("signed", some (.bool false))])
      fun _ self g => toBytes (selfWhole self) g),
   ("from_bytes", .builtin (.named 2
        [("bytes", none), ("byteorder", some (.text "big")), ("signed", some (.bool false))])
      fun m self g => do
        let n ← fromBytes m g
        match self with
        | .bool _ => return .bool (n ≠ 0)
        | _ => return .int n),
   itself "__pos__", itself "__int__", itself "__index__",
   plainNumber "__trunc__" .none fun self => return .int (selfWhole self),
   plainNumber "__floor__" .none fun self => return .int (selfWhole self),
   plainNumber "__ceil__" .none fun self => return .int (selfWhole self),
   plainNumber "__neg__" (.slot 0) fun self => return .int (-selfWhole self),
   plainNumber "__invert__" (.slot 0) fun self => return .int (-selfWhole self - 1),
   plainNumber "__abs__" (.slot 0) fun self => return .int (selfWhole self).natAbs,
   plainNumber "__bool__" (.slot 0) fun self => return .bool (selfWhole self != 0),
   plainNumber "__float__" (.slot 0) fun self => do
      let x ← doubleOf "int too large to convert to float" (selfWhole self)
      return .double x,
   ("__pow__", .builtin (.slots 1 2) fun _ self g => wholePowerOf self g),
   ("__round__", .builtin (.between 0 1) fun _ self g => wholeRounded self g),
   plainNumber "__getnewargs__" .none fun self => return .tuple [.int (selfWhole self)],
   ("__format__", .builtin .one fun _ self g => do
      let spec ← needTextFor "__format__" "argument" (g.nth 0)
      let text ← formatValue self spec
      return .text text)] ++
  operatorFeatures (wholeOf? · |>.isSome) operatorNames

/-- The names of the functions of whole numbers that only can be named. -/
def wholeNames : List String := ["__rpow__"]

/-! ### Numbers with fractions -/

/-- A finite number is asked for. -/
def needFinite (infinite undefined : Fault) (x : Double) : Run Double :=
  if x.isUndefined then refuse undefined
  else if !x.isFinite then refuse infinite
  else return x

/-- A number with a fraction as a whole one, rounded in some way. -/
def toWhole (round : Double → Int) (self : Value) : Run Value := do
  let x ← needFinite (.tooWide "cannot convert float infinity to integer")
    (.badArgument "cannot convert float NaN to integer") (selfDouble self)
  return .int (round x)

/-- A number with a fraction rounded to so many places behind the point. -/
def doubleRounded (self : Value) (g : Given) : Run Value :=
  match g.nth 0, wholeOf? (g.nth 0) with
  | .null, _ => toWhole Double.nearest self
  | _, some places =>
    let x := selfDouble self
    if !x.isFinite then return self
    else
      let rounded := x.roundedTo places
      if rounded.isFinite then return .double rounded
      else refuse (.tooWide "rounded value too large to represent")
  | v, none => refuse (.notIndex v.sortName)

/-- A power of a number with a fraction. -/
def doublePowerOf (self : Value) (g : Given) : Run Value :=
  match g.nth 1, (g.nth 0).number? with
  | .null, some b => do
    let y ← asDouble b
    doublePower (selfDouble self) y
  | .null, none => return noOutcome
  | _, _ =>
    refuse (.badSort "pow() 3rd argument not allowed unless all arguments are integers")

/-- The number that a text to base sixteen stands for. -/
def fromHex (v : Value) : Run Value :=
  match v.text? with
  | none => refuse (.badSort "bad argument type for built-in operation")
  | some s =>
    match Double.ofHexText? s with
    | none => refuse (.badArgument "invalid hexadecimal floating-point string")
    | some x =>
      if x.isFinite || !s.toList.any Char.isDigit then return .double x
      else refuse (.tooWide "hexadecimal value too large to represent as a float")

/-- Features of floating-point numbers. -/
def doubleFeatures : Entries Feature :=
  let itself (name : String) (arity : Arity) : String × Feature :=
    plainNumber name arity fun self => return self
  [("real", .property fun _ self => return self),
   ("imag", .property fun _ _ => return .double (Double.ofInt 0)),
   plainNumber "is_integer" .none fun self => return .bool (selfDouble self).toInt?.isSome,
   itself "conjugate" .none, itself "__pos__" (.slot 0), itself "__float__" (.slot 0),
   plainNumber "hex" .none fun self =>
      let x := selfDouble self
      return .text (if x.isFinite then x.hexText else (Json.double x).display),
   ("fromhex", .builtin .one fun _ _ g => fromHex (g.nth 0)),
   plainNumber "as_integer_ratio" .none fun self => do
      let x ← needFinite (.tooWide "cannot convert Infinity to integer ratio")
        (.badArgument "cannot convert NaN to integer ratio") (selfDouble self)
      let (num, den) := x.asFraction
      return .tuple [.int num, .int den],
   plainNumber "__int__" (.slot 0) (toWhole Double.truncated),
   plainNumber "__trunc__" .none (toWhole Double.truncated),
   plainNumber "__floor__" .none (toWhole Double.floor),
   plainNumber "__ceil__" .none (toWhole Double.ceiling),
   plainNumber "__neg__" (.slot 0) fun self => return .double (selfDouble self).negate,
   plainNumber "__abs__" (.slot 0) fun self =>
      return .double ((selfDouble self).withSign false),
   plainNumber "__bool__" (.slot 0) fun self => return .bool !(selfDouble self).isZero,
   plainNumber "__getnewargs__" .none fun self => return .tuple [self],
   ("__pow__", .builtin (.slots 1 2) fun _ self g => doublePowerOf self g),
   ("__round__", .builtin (.between 0 1) fun _ self g => doubleRounded self g),
   ("__format__", .builtin .one fun _ self g => do
      let spec ← needTextFor "__format__" "argument" (g.nth 0)
      let text ← formatValue self spec
      return .text text)] ++
  operatorFeatures (fun v => v.number?.isSome)
    (operatorNames.filter fun e => !bitSymbols.contains e.2)

/-- The names of the functions of floating-point numbers that only can be named. -/
def doubleNames : List String := ["__getformat__", "__rpow__"]

/-- Features of null. -/
def nullFeatures : Entries Feature :=
  [plainNumber "__bool__" (.slot 0) fun _ => return .bool false]

end PgSchema.Object
