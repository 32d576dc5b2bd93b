import PgSchema.Text.Literal

/-!
Numerals in the text of a module.

A numeral is decimal, with a fraction, an exponent or the mark of imaginary numbers behind it, or it
is written in another base behind a zero and a letter.  Single low lines can stand between digits.
A numeral must not run into a name, unless that begins with one of a few keywords.
-/

namespace PgSchema.Source.Numeral

/-- Characters taken off, and the rest. -/
abbrev Taken := List Char × List Char

/-- More characters in front of those that were taken. -/
def Taken.after (front : List Char) (t : Taken) : Taken := (front ++ t.1, t.2)

/-- A flaw of a numeral of a kind. -/
def invalid (kind : String) : Except String Taken := .error ("invalid " ++ kind ++ " literal")

/-- The next character is a decimal digit. -/
def startsWithDigit : List Char → Bool
  | c :: _ => c.isDigit
  | [] => false

/-- Decimal digits, with single low lines between them. -/
def digits : List Char → Except String Taken
  | [] => .ok ([], [])
  | '_' :: cs => do
    if startsWithDigit cs then return (← digits cs).after ['_'] else invalid "decimal"
  | c :: cs => do
    if c.isDigit then return (← digits cs).after [c] else return ([], c :: cs)

/-- The keywords that can stand right behind a numeral. -/
def followers : List String := ["and", "else", "for", "or", "not"]

/-- The beginnings of names that can stand right behind a numeral. -/
def openFollowers : List String := ["if", "in", "is"]

/-- A character of the plain names. -/
def isPlainNameChar (c : Char) : Bool := c.isAlphanum || c = '_'

/-- A keyword that can stand behind a numeral begins here. -/
def startsFollower (cs : List Char) : Bool :=
  (openFollowers.any fun word => word.toList.isPrefixOf cs) ||
  followers.any fun word =>
    word.toList.isPrefixOf cs &&
      !(((cs.drop word.length).head?).any fun c => isPlainNameChar c || c.toNat ≥ 0x80)

/-- A numeral of a kind ends in front of these characters. -/
def endOf (kind : String) (cs : List Char) : Except String Taken :=
  if startsFollower cs then .ok ([], cs)
  else
    match cs with
    | c :: _ => if isPlainNameChar c then invalid kind else .ok ([], cs)
    | [] => .ok ([], cs)

/-- The end of a numeral in ten digits: the mark of imaginary numbers or none. -/
def tail (cs : List Char) : Except String Taken := do
  match cs with
  | c :: rest =>
    if c = 'j' ∨ c = 'J' then return (← endOf "imaginary" rest).after [c]
    else endOf "decimal" cs
  | [] => return ([], [])

/-- An exponent, if there is one, and the end. -/
def exponent (cs : List Char) : Except String Taken := do
  match cs with
  | e :: rest =>
    if e = 'e' ∨ e = 'E' then
      match rest with
      | c :: others =>
        if c = '+' ∨ c = '-' then
          if startsWithDigit others then
            let (taken, behind) ← digits others
            return (← tail behind).after (e :: c :: taken)
          else invalid "decimal"
        else if c.isDigit then
          let (taken, behind) ← digits rest
          return (← tail behind).after (e :: taken)
        else endOf "decimal" cs
      | [] => endOf "decimal" cs
    else tail cs
  | [] => return ([], [])

/-- A fraction behind its point, an exponent, and the end. -/
def fraction (cs : List Char) : Except String Taken := do
  if startsWithDigit cs then
    let (taken, rest) ← digits cs
    return (← exponent rest).after taken
  else exponent cs

/-- What stands behind the whole part. -/
def behindWhole (cs : List Char) : Except String Taken := do
  match cs with
  | '.' :: rest => return (← fraction rest).after ['.']
  | _ => exponent cs

/-- Groups of digits in a base, each of them behind a low line but the first. -/
def groups (kind : String) (isDigit : Char → Bool) : Nat → List Char → Except String Taken
  | 0, _ => invalid kind
  | n + 1, cs => do
    let (line, cs) := match cs with
      | '_' :: rest => (['_'], rest)
      | _ => ([], cs)
    match cs with
    | c :: _ =>
      if isDigit c then
        let taken := cs.takeWhile isDigit
        let rest := cs.dropWhile isDigit
        match rest with
        | '_' :: _ => return (← groups kind isDigit n rest).after (line ++ taken)
        | _ => return (line ++ taken, rest)
      else if c.isDigit ∧ kind ≠ "hexadecimal" then
        .error ("invalid digit '" ++ String.singleton c ++ "' in " ++ kind ++ " literal")
      else invalid kind
    | [] => invalid kind

/-- A numeral in a base, behind the zero and its letter. -/
def based (kind : String) (isDigit : Char → Bool) (letter : Char) (cs : List Char) :
    Except String Taken := do
  let (taken, rest) ← groups kind isDigit (cs.length + 1) cs
  match rest with
  | c :: _ =>
    if c.isDigit then
      .error ("invalid digit '" ++ String.singleton c ++ "' in " ++ kind ++ " literal")
    else return (← endOf kind rest).after ('0' :: letter :: taken)
  | [] => return ('0' :: letter :: taken, [])

/-- A flaw of decimal numerals that begin with a zero. -/
def leadingZeros : String :=
  "leading zeros in decimal integer literals are not permitted; " ++
    "use an 0o prefix for octal integers"

/-- A numeral behind a first zero. -/
def behindZero (cs : List Char) : Except String Taken := do
  let (taken, rest) ← digits cs
  let isZero := taken.all fun c => c = '0' || c = '_'
  match rest with
  | c :: _ =>
    if c ∈ ['.', 'e', 'E', 'j', 'J'] then return (← behindWhole rest).after ('0' :: taken)
    else if isZero then return (← endOf "decimal" rest).after ('0' :: taken)
    else .error leadingZeros
  | [] => if isZero then return ('0' :: taken, []) else .error leadingZeros

/-- A numeral that begins with a digit, and what stands behind it. -/
def ofDigits (cs : List Char) : Except String Taken := do
  match cs with
  | '0' :: c :: rest =>
    if c = 'x' ∨ c = 'X' then based "hexadecimal" (fun d => (Text.hexValue? d).isSome) c rest
    else if c = 'o' ∨ c = 'O' then based "octal" (fun d => '0' ≤ d && d ≤ '7') c rest
    else if c = 'b' ∨ c = 'B' then based "binary" (fun d => d = '0' || d = '1') c rest
    else behindZero (c :: rest)
  | ['0'] => return (['0'], [])
  | _ =>
    let (taken, rest) ← digits cs
    return (← behindWhole rest).after taken

end PgSchema.Source.Numeral
