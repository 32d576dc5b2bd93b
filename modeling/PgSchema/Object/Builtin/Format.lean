import PgSchema.Object.Builtin.Every
import PgSchema.Text.Words

/-!
Values filled into the fields of a text.

A field stands between braces, with a name or a number, a conversion, and a specification of its
form; or it is a percent sign with a letter behind it.
-/

namespace PgSchema.Object

open Text (padded)

/-! ### Forms -/

/-- The form of a field: what fills it up, where the value stands in it, its sign, its width, how
much of the value is shown, and the letter of its sort. -/
structure Form where
  fill : Char := ' '
  align : Option Char := none
  sign : Option Char := none
  isMarked : Bool := false
  width : Nat := 0
  grouping : Option Char := none
  precision : Option Nat := none
  letter : Option Char := none
  deriving Inhabited

namespace Form

/-- The characters of alignment. -/
def alignments : List Char := ['<', '>', '=', '^']

/-- A number at the beginning, and what stands behind it. -/
def number (cs : List Char) : Option Nat × List Char :=
  let digits := cs.takeWhile Char.isDigit
  (if digits.isEmpty then none else (String.ofList digits).toNat?, cs.dropWhile Char.isDigit)

/-- The fill and the alignment. -/
def readAlign : List Char → Form × List Char
  | c :: a :: cs =>
    if a ∈ alignments then ({ fill := c, align := some a }, cs)
    else if c ∈ alignments then ({ align := some c }, a :: cs)
    else ({}, c :: a :: cs)
  | [c] => if c ∈ alignments then ({ align := some c }, []) else ({}, [c])
  | [] => ({}, [])

/-- One of some characters, if it stands at the beginning. -/
def take (choices : List Char) : List Char → Option Char × List Char
  | c :: cs => if c ∈ choices then (some c, cs) else (none, c :: cs)
  | [] => (none, [])

/-- The form that a specification tells, and what is left of the specification. -/
def read (cs : List Char) : Form × List Char :=
  let (f, cs) := readAlign cs
  let (sign, cs) := take ['+', '-', ' '] cs
  let (mark, cs) := take ['#'] cs
  let (zero, cs) := take ['0'] cs
  let (width, cs) := number cs
  let (grouping, cs) := take [',', '_'] cs
  let (precision, cs) := match cs with
    | '.' :: rest => number rest
    | cs => (none, cs)
  let (letter, cs) := match cs with
    | [c] => (some c, [])
    | cs => (none, cs)
  ({ f with
      sign, isMarked := mark.isSome, width := width.getD 0, grouping, precision, letter
      fill := if zero.isSome && f.align.isNone then '0' else f.fill
      align := if zero.isSome && f.align.isNone then some '=' else f.align }, cs)

/-- A text in the width of a form, at its left if nothing else is told. -/
def pad (f : Form) (otherwise : Char) (s : String) : String :=
  let missing := Text.lack f.width s
  match f.align.getD otherwise with
  | '<' => padded 0 missing f.fill s
  | '^' => padded (missing / 2) (missing - missing / 2) f.fill s
  | _ => padded missing 0 f.fill s

end Form

/-- A form that is not known for a sort of values. -/
def unknownForm (letter : Char) (sort : String) : Run Value :=
  refuse (.badArgument ("Unknown format code '" ++ String.singleton letter ++
    "' for object of type '" ++ sort ++ "'"))

/-- A text in a form. -/
def formatText (s spec : String) : Run Value := do
  let (f, rest) := Form.read spec.toList
  if !rest.isEmpty then refuse (.badArgument ("Invalid format specifier '" ++ spec ++
    "' for object of type 'str'"))
  else
    match f.letter with
    | some c =>
      if c ≠ 's' then unknownForm c "str" else shaped f
    | none => shaped f
where
  /-- The text in a form that fits texts. -/
  shaped (f : Form) : Run Value :=
    if f.sign.isSome then
      refuse (.badArgument "Sign not allowed in string format specifier")
    else if f.align = some '=' ∧ f.fill ≠ '0' then
      refuse (.badArgument "'=' alignment not allowed in string format specifier")
    else
      let shown := match f.precision with
        | some n => String.ofList (s.toList.take n)
        | none => s
      let f := if f.align = some '=' then { f with align := some '<' } else f
      return .text (f.pad '<' shown)

/-- The digits of a number to a base. -/
def digitsText (base n : Nat) : String := String.ofList (Nat.toDigits base n)

/-- A whole number in a form. -/
def formatWhole (n : Int) (spec : String) : Run Value := do
  let (f, rest) := Form.read spec.toList
  if !rest.isEmpty then refuse (.badArgument ("Invalid format specifier '" ++ spec ++
    "' for object of type 'int'"))
  else if f.precision.isSome then
    refuse (.badArgument "Precision not allowed in integer format specifier")
  else
    let size := n.natAbs
    let letter := f.letter.getD 'd'
    let digits : Option (String × String) := match letter with
      | 'd' | 'n' => some ("", toString size)
      | 'x' => some ("0x", digitsText 16 size)
      | 'X' => some ("0X", (digitsText 16 size).map Char.toUpper)
      | 'o' => some ("0o", digitsText 8 size)
      | 'b' => some ("0b", digitsText 2 size)
      | _ => none
    match digits with
    | none =>
      if letter ∈ ['e', 'E', 'f', 'F', 'g', 'G', '%', 'c'] then unsupported spec
      else unknownForm letter "int"
    | some (mark, digits) =>
      if f.grouping.isSome then unsupported spec
      else
        let sign := if n < 0 then "-" else match f.sign with
          | some '+' => "+"
          | some ' ' => " "
          | _ => ""
        let front := sign ++ (if f.isMarked then mark else "")
        if f.align = some '=' then
          let missing := f.width - front.length - digits.length
          return .text (front ++ Text.fill missing f.fill ++ digits)
        else return .text (f.pad '>' (front ++ digits))

/-- A value in a form. -/
def formatValue (v : Value) (spec : String) : Run String := do
  let shown ← if spec = "" then do
      let text ← showPlain v
      pure (.text text)
    else
      match v with
      | .text s => formatText s spec
      | .int n => formatWhole n spec
      | .bool b => formatWhole (if b then 1 else 0) spec
      | .double _ => unsupported spec
      | v =>
        if v.text?.isSome then do
          let shown ← showPlain v
          formatText shown spec
        else
          refuse (.badSort ("unsupported format string passed to " ++ v.sortName ++ ".__format__"))
  return (shown.text?).getD ""

/-! ### Fields between braces -/

/-- A part of a text with fields. -/
inductive Segment where
  | plain (s : String)
  /-- A field: its name, its conversion, and its form. -/
  | field (name : List Char) (conversion : Option Char) (spec : List Char)

/-- The inside of a field, split in its name, its conversion, and its form. -/
def fieldOf (cs : List Char) : Except Fault Segment :=
  let name := cs.takeWhile fun c => c ≠ '!' ∧ c ≠ ':'
  match cs.dropWhile fun c => c ≠ '!' ∧ c ≠ ':' with
  | '!' :: c :: ':' :: spec => .ok (.field name (some c) spec)
  | ['!', c] => .ok (.field name (some c) [])
  | ['!'] => .error (.badArgument "end of string while looking for conversion specifier")
  | '!' :: _ => .error (.badArgument "expected ':' after conversion specifier")
  | ':' :: spec => .ok (.field name none spec)
  | _ => .ok (.field name none [])

/-- The parts of a text with fields; what was read of the plain part comes last first. -/
def segments : Nat → List Char → List Char → Except Fault (List Segment)
  | 0, _, _ => .ok []
  | _, plain, [] => .ok [.plain (String.ofList plain.reverse)]
  | n + 1, plain, '\x7b' :: '\x7b' :: cs => segments n ('\x7b' :: plain) cs
  | n + 1, plain, '\x7d' :: '\x7d' :: cs => segments n ('\x7d' :: plain) cs
  | _, _, '\x7d' :: _ => .error (.badArgument "Single '\x7d' encountered in format string")
  | _, _, ['\x7b'] => .error (.badArgument "Single '\x7b' encountered in format string")
  | n + 1, plain, '\x7b' :: cs =>
    let inside := cs.takeWhile (· ≠ '\x7d')
    match cs.dropWhile (· ≠ '\x7d') with
    | [] => .error (.badArgument "expected '\x7d' before end of string")
    | _ :: rest => do
      let field ← fieldOf inside
      let more ← segments n [] rest
      return .plain (String.ofList plain.reverse) :: field :: more
  | n + 1, plain, c :: cs => segments n (c :: plain) cs

/-- How fields without names are counted. -/
inductive Counting where
  | open
  | automatic (next : Nat)
  | manual

/-- What the fields of a text are filled with. -/
structure Filling where
  places : Option (List Value)
  named : String → Run Value

/-- The value in a place. -/
def Filling.inPlace (f : Filling) (index : Nat) : Run Value :=
  match f.places with
  | none => refuse (.badArgument "Format string contains positional fields")
  | some values =>
    match values[index]? with
    | some v => return v
    | none =>
      refuse (.noPlace ("Replacement index " ++ toString index ++
        " out of range for positional args tuple"))

/-- The members and elements that the name of a field goes on with. -/
def followName (m : Machine) : Nat → Value → List Char → Run Value
  | 0, v, _ | _, v, [] => return v
  | n + 1, v, '.' :: cs => do
    let name := cs.takeWhile fun c => c ≠ '.' ∧ c ≠ '['
    if name.isEmpty then refuse (.badArgument "Empty attribute in format string")
    else
      let x ← m.member v (String.ofList name)
      followName m n x (cs.drop name.length)
  | n + 1, v, '[' :: cs => do
    let name := cs.takeWhile (· ≠ ']')
    if name.isEmpty then refuse (.badArgument "Empty attribute in format string")
    else
      let text := String.ofList name
      let key : Value := match text.toNat? with
        | some i => .int i
        | none => .text text
      let x ← m.callMethod v "__getitem__" [key]
      followName m n x (cs.drop (name.length + 1))
  | _, _, _ =>
    refuse (.badArgument "Only '.' or '[' may follow ']' in format field specifier")

/-- The value of a field, and how the fields behind it are counted. -/
def fieldValue (m : Machine) (f : Filling) (counting : Counting) (name : List Char) :
    Run (Value × Counting) := do
  let first := name.takeWhile fun c => c ≠ '.' ∧ c ≠ '['
  let rest := name.drop first.length
  let (v, counting) ← match first, (String.ofList first).toNat?, counting with
    | [], _, .open => do
      let v ← f.inPlace 0
      pure (v, Counting.automatic 1)
    | [], _, .automatic next => do
      let v ← f.inPlace next
      pure (v, .automatic (next + 1))
    | [], _, .manual =>
      refuse (.badArgument
        "cannot switch from manual field specification to automatic field numbering")
    | _, some _, .automatic _ =>
      refuse (.badArgument
        "cannot switch from automatic field numbering to manual field specification")
    | _, some index, _ => do
      let v ← f.inPlace index
      pure (v, .manual)
    | first, none, counting => do
      let v ← f.named (String.ofList first)
      pure (v, counting)
  let v ← followName m name.length v rest
  return (v, counting)

/-- A value converted for a field. -/
def converted (conversion : Option Char) (v : Value) : Run Value := do
  match conversion with
  | none => return v
  | some 'r' | some 'a' => do
    let text ← showLiteral v
    return .text text
  | some 's' => do
    let text ← showPlain v
    return .text text
  | some c =>
    refuse (.badArgument ("Unknown conversion specifier " ++ String.singleton c))

/-- The fields of a text are filled. -/
def fillSegments (m : Machine) (f : Filling) (counting : Counting) : List Segment → Run String
  | [] => return ""
  | .plain s :: rest => do
    let more ← fillSegments m f counting rest
    return s ++ more
  | .field name conversion spec :: rest => do
    let (v, counting) ← fieldValue m f counting name
    let v ← converted conversion v
    let text ← formatValue v (String.ofList spec)
    let more ← fillSegments m f counting rest
    return text ++ more

/-- A text with its fields filled. -/
def fillText (m : Machine) (s : String) (f : Filling) : Run Value := do
  let parts ← Action.check (segments (s.length + 1) [] s.toList)
  let text ← fillSegments m f .open parts
  return .text text

/-- A text with its fields filled by arguments. -/
def fillFields (m : Machine) (s : String) (g : Given) : Run Value :=
  fillText m s
    { places := some g.places
      named := fun name =>
        match g.names.get? name with
        | some v => return v
        | none => refuse (.noKey (.text name)) }

/-- A text with its fields filled from a value, by their names. -/
def fillMapped (m : Machine) (s : String) (v : Value) : Run Value :=
  fillText m s { places := none, named := fun name => m.callMethod v "__getitem__" [.text name] }

/-! ### Fields behind percent signs -/

/-- The values that fields are filled with, one after the other. -/
def rowOf : Value → List Value
  | .tuple values => values
  | v => [v]

/-- One field in a text. -/
def percentText (letter : Char) (place : Nat) (v : Value) : Run String :=
  match letter, wholeOf? v with
  | 's', _ => showPlain v
  | 'r', _ | 'a', _ => showLiteral v
  | 'd', some n | 'i', some n | 'u', some n => return toString n
  | 'x', some n => return (if n < 0 then "-" else "") ++ digitsText 16 n.natAbs
  | 'o', some n => return (if n < 0 then "-" else "") ++ digitsText 8 n.natAbs
  | 'd', none | 'i', none | 'u', none =>
    match v with
    | .double x => return toString ((x.toInt?).getD 0)
    | v =>
      refuse (.badSort ("%" ++ String.singleton letter ++
        " format: a real number is required, not " ++ v.sortName))
  | 'x', none | 'o', none =>
    refuse (.badSort ("%" ++ String.singleton letter ++ " format: an integer is required, not " ++
      v.sortName))
  | c, _ =>
    if c ∈ ['c', 'e', 'E', 'f', 'F', 'g', 'G', 'X'] then
      unsupported (String.singleton c)
    else
      refuse (.badArgument ("unsupported format character '" ++ String.singleton c ++ "' (0x" ++
        digitsText 16 c.toNat ++ ") at index " ++ toString place))

/-- The fields behind percent signs are filled; the outcome also tells what is left over. -/
def fillPercents (whole : Value) : Nat → Nat → List Value → List Char → Run (String × List Value)
  | 0, _, values, _ | _, _, values, [] => return ("", values)
  | _, _, _, ['%'] => refuse (.badArgument "incomplete format")
  | n + 1, place, values, '%' :: '%' :: cs => do
    let (more, rest) ← fillPercents whole n (place + 2) values cs
    return ("%" ++ more, rest)
  | n + 1, place, _, '%' :: '(' :: cs => do
    let key := String.ofList (cs.takeWhile (· ≠ ')'))
    match whole, (cs.dropWhile (· ≠ ')')).drop 1 with
    | .dict _, letter :: rest => do
      let v ← elementAt whole key
      let text ← percentText letter (place + 3 + key.length) v
      let (more, left) ← fillPercents whole n (place + 4 + key.length) [] rest
      return (text ++ more, left)
    | .dict _, [] => refuse (.badArgument "incomplete format key")
    | _, _ => refuse (.badSort "format requires a mapping")
  | n + 1, place, values, '%' :: letter :: cs =>
    if letter ∈ ['-', '+', ' ', '#', '.', '*'] ∨ letter.isDigit then
      unsupported (String.singleton letter)
    else
      match values with
      | [] => refuse (.badSort "not enough arguments for format string")
      | v :: rest => do
        let text ← percentText letter (place + 1) v
        let (more, left) ← fillPercents whole n (place + 2) rest cs
        return (text ++ more, left)
  | n + 1, place, values, c :: cs => do
    let (more, left) ← fillPercents whole n (place + 1) values cs
    return (String.singleton c ++ more, left)

/-- A value can stand for nothing in a text without fields. -/
def canBeLeft : Value → Bool
  | .dict _ | .list _ => true
  | _ => false

/-- A text with the fields behind its percent signs filled. -/
def fillIn (_ : Machine) (s : String) (v : Value) : Run Value := do
  let (text, left) ← fillPercents v (s.length + 1) 0 (rowOf v) s.toList
  if left.isEmpty || canBeLeft v then return .text text else refuse .unusedFormat

end PgSchema.Object
