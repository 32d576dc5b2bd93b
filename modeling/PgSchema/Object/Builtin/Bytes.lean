import PgSchema.Number.Rounding
import PgSchema.Object.Builtin.Every
import PgSchema.Text.Lowercase
import PgSchema.Text.Utf8

/-!
Texts and whole numbers as bytes.

Bytes are only known by how they are written.
-/

namespace PgSchema.Object

open Text (lower)

/-! ### Texts -/

/-- The names of encodings, with the number of characters that each of them has. -/
def encodings : List (String × Nat) :=
  [("utf-8", 0x110000), ("utf8", 0x110000), ("utf_8", 0x110000), ("ascii", 0x80),
   ("us-ascii", 0x80), ("latin-1", 0x100), ("latin1", 0x100), ("latin_1", 0x100),
   ("iso-8859-1", 0x100)]

/-- The proper name of an encoding with so many characters, and of the range of its codes. -/
def encodingName (count : Nat) : String := if count = 0x80 then "ascii" else "latin-1"

/-- The failure of characters that an encoding does not have. -/
def encodingFailure (count : Nat) (cs : List Char) : Failure :=
  let isOut (c : Char) : Bool := count ≤ c.toNat
  let first := (cs.takeWhile (!isOut ·)).length
  let width := ((cs.drop first).takeWhile isOut).length
  let place := if width = 1 then toString first
    else toString first ++ "-" ++ toString (first + width - 1)
  let what := if width = 1 then
      "character " ++ Text.literal (String.ofList ((cs.drop first).take 1)) else "characters"
  .raised "UnicodeEncodeError" (.text (Fault.marked (encodingName count) ++
    " codec can't encode " ++ what ++ " in position " ++ place ++ ": ordinal not in range(" ++
    toString count ++ ")"))

/-- A byte in words. -/
def byteText (mark : Char) (n : Nat) : String :=
  let c := Char.ofNat n
  if c = mark ∨ c = '\\' then "\\" ++ String.singleton c
  else if c = '\n' then "\\n"
  else if c = '\r' then "\\r"
  else if c = '\t' then "\\t"
  else if 0x20 ≤ n ∧ n < 0x7f then String.singleton c
  else "\\x" ++ String.ofList (Text.hexDigits 2 n)

/-- Bytes as a value. -/
def ofBytes (codes : List Nat) : Value :=
  let mark := if codes.contains 0x27 ∧ ¬ codes.contains 0x22 then '\x22' else '\x27'
  let inner := String.join (codes.map (byteText mark))
  .foreign "bytes" ("b" ++ String.singleton mark ++ inner ++ String.singleton mark)

/-- A text as bytes. -/
def encode (s : String) (g : Given) : Run Value := do
  let name ← needTextFor "encode" "argument 'encoding'" (g.nth 0)
  let errors ← needTextFor "encode" "argument 'errors'" (g.nth 1)
  match encodings.lookup (lower name) with
  | none => Action.fail (.raised "LookupError" (.text ("unknown encoding: " ++ name)))
  | some 0x110000 => return ofBytes ((Text.utf8 s).map UInt8.toNat)
  | some count =>
    let cs := s.toList
    if cs.all fun c => c.toNat < count then return ofBytes (cs.map Char.toNat)
    else if errors = "ignore" then
      return ofBytes ((cs.filter fun c => c.toNat < count).map Char.toNat)
    else if errors = "replace" then
      return ofBytes (cs.map fun c => if c.toNat < count then c.toNat else 0x3f)
    else if errors = "strict" then Action.fail (encodingFailure count cs)
    else
      Action.fail (.raised "LookupError" (.text ("unknown error handler name " ++
        Fault.marked errors)))

/-! ### Whole numbers -/

/-- The bytes go from the highest to the lowest one. -/
def isHighFirst (function : String) (v : Value) : Run Bool := do
  let order ← needTextFor function "argument 'byteorder'" v
  if order = "big" then return true
  else if order = "little" then return false
  else refuse (.badArgument "byteorder must be either 'little' or 'big'")

/-- A whole number as bytes. -/
def toBytes (n : Int) (g : Given) : Run Value := do
  let length ← positionOf (g.nth 0)
  let highFirst ← isHighFirst "to_bytes" (g.nth 1)
  let signed ← isTrue (g.nth 2)
  if length < 0 then refuse (.badArgument "length argument must be non-negative")
  else if n < 0 ∧ !signed then refuse (.tooWide "can't convert negative int to unsigned")
  else
    let _ ← withItems length.toNat fun _ => ()
    let size := if n < 0 then (-n - 1).toNat else n.toNat
    let bits := Number.bitLength size + (if signed then 1 else 0)
    if 8 * length.toNat < bits ∧ n ≠ 0 then refuse (.tooWide "int too big to convert")
    else
      let bytes := Number.lowBytes length.toNat (Number.toBits (8 * length.toNat) n)
      return ofBytes (if highFirst then bytes.reverse else bytes)

/-- The byte that a value is. -/
def byteOf (v : Value) : Run Nat :=
  match wholeOf? v with
  | none => refuse (.notIndex v.sortName)
  | some n =>
    if 0 ≤ n ∧ n < 256 then return n.toNat
    else refuse (.badArgument "bytes must be in range(0, 256)")

/-- The whole number that bytes stand for. -/
def fromBytes (m : Machine) (g : Given) : Run Int := do
  let highFirst ← isHighFirst "from_bytes" (g.nth 1)
  let signed ← isTrue (g.nth 2)
  let h ← heap
  let v := g.nth 0
  if v.text?.isSome || !hasItems h v then
    refuse (.badSort ("cannot convert " ++ Fault.marked v.sortName ++ " object to bytes"))
  else
    let items ← m.items v
    let bytes ← Action.each byteOf items
    let n := Number.ofLowBytes (if highFirst then bytes.reverse else bytes)
    return if signed then Number.ofBits (8 * bytes.length) n else n

end PgSchema.Object
