import PgSchema.Text.CharClass
import PgSchema.Text.Words

/-!
Whole numbers in decimal notation: blanks around, a sign, digits of any script, and single
underscores between two digits.  A numeral has 4300 digits at most, zeros in front included.
-/

namespace PgSchema.Number

open PgSchema.Text

/-- What keeps a text from being a numeral. -/
inductive NumeralError where
  | malformed
  | tooLong (digits : Nat)
  deriving DecidableEq, Repr

/-- A blank around a numeral.  The four separators among the control characters are none. -/
def isNumeralBlank (c : Char) : Bool := isBlank c && !(28 ≤ c.toNat && c.toNat ≤ 31)

/-- The values of the digits in front, and what comes behind them.  An underscore stands between two
digits, or else there is no such row. -/
def digitRun? : List Char → Option (List Nat × List Char)
  | [] => some ([], [])
  | c :: rest =>
    if c = '_' then
      match rest with
      | d :: _ => if (digitValue? d).isSome then digitRun? rest else none
      | [] => none
    else
      match digitValue? c with
      | some d => (digitRun? rest).map fun (ds, behind) => (d :: ds, behind)
      | none => some ([], c :: rest)

/-- The number that a row of digits stands for. -/
def ofDigits (digits : List Nat) : Nat := digits.foldl (fun value d => 10 * value + d) 0

/-- The most digits that a numeral has. -/
def maxDigits : Nat := 4300

/-- The value of a row of digits.  The length of a row is looked at before what comes behind it. -/
def digits : List Char → Except NumeralError Nat
  | [] => .error .malformed
  | c :: rest =>
    if c = '_' then .error .malformed
    else
      match digitRun? (c :: rest) with
      | none | some ([], _) => .error .malformed
      | some (ds, behind) =>
        if maxDigits < ds.length then .error (.tooLong ds.length)
        else if behind.isEmpty then .ok (ofDigits ds)
        else .error .malformed

/-- The value of a numeral without blanks around. -/
def signed : List Char → Except NumeralError Int
  | '+' :: rest => (digits rest).map Int.ofNat
  | '-' :: rest => (digits rest).map (-Int.ofNat ·)
  | cs => (digits cs).map Int.ofNat

/-- The value of a numeral. -/
def numeral (s : String) : Except NumeralError Int := signed (trimBy isNumeralBlank s.toList)

end PgSchema.Number
