import PgSchema.Object.Builtin.Bytes
import PgSchema.Object.Builtin.Format
import PgSchema.Text.Casing
import PgSchema.Text.Literal
import PgSchema.Text.Words

/-!
What texts can do by themselves.
-/

namespace PgSchema.Object

open Text (Bounds lower upper)

/-! ### Arguments -/

/-- A function of texts. -/
def textMethod (name : String) (arity : Arity) (run : String → Given → Run Value) :
    String × Feature :=
  (name, .builtin arity fun _ self g => run ((self.text?).getD "") g)

/-- A function that changes a text. -/
def changeMethod (name : String) (change : String → String) : String × Feature :=
  textMethod name .none fun s _ => return .text (change s)

/-- A function that tells something of a text. -/
def testMethod (name : String) (test : String → Bool) : String × Feature :=
  textMethod name .none fun s _ => return .bool (test s)

/-! ### Parts -/

/-- The bounds of a search in a text. -/
def givenBounds (g : Given) : Run Bounds := do
  let first ← boundOf (g.nth 1)
  let last ← boundOf (g.nth 2)
  return ⟨first, last⟩

/-- A function that looks for a part of a text. -/
def partMethod (name : String) (run : Bounds → List Char → List Char → Run Value) :
    String × Feature :=
  textMethod name (.within 1 3) fun s g => do
    let b ← givenBounds g
    let part ← needText "must be str, not " (g.nth 0)
    run b part.toList s.toList

/-- The place of a part, or else what stands for none. -/
def partPlace (pick : List Nat → Option Nat) (otherwise : Run Value) (b : Bounds)
    (part whole : List Char) : Run Value :=
  match pick (Text.occurrences b part whole) with
  | some i => return .int i
  | none => otherwise

/-- A text begins or ends with one of some parts. -/
def edgeMethod (name : String) (atEnd : Bool) : String × Feature :=
  textMethod name (.within 1 3) fun s g => do
    let b ← givenBounds g
    let test (part : String) : Bool := Text.standsAtEdge atEnd b part.toList s.toList
    match g.nth 0 with
    | .tuple parts => edges test parts
    | v =>
      match v.text? with
      | some part => return .bool (test part)
      | none => refuse (.badEdge name v.sortName)
where
  /-- One of the parts fits; those behind it do not matter. -/
  edges (test : String → Bool) : List Value → Run Value
    | [] => return .bool false
    | v :: rest =>
      match v.text? with
      | some part => if test part then return .bool true else edges test rest
      | none =>
        refuse (.notText ("tuple for " ++ name ++ " must only contain str, not ") v.sortName)

/-! ### Ends -/

/-- A text without the characters of a set at its ends. -/
def stripped (left right : Bool) (drop : Char → Bool) (s : String) : String :=
  let cs := if left then s.toList.dropWhile drop else s.toList
  let cs := if right then (cs.reverse.dropWhile drop).reverse else cs
  String.ofList cs

/-- A function that takes characters off the ends of a text. -/
def stripMethod (name : String) (left right : Bool) : String × Feature :=
  textMethod name (.between 0 1) fun s g => do
    let drop ← match g.nth 0 with
      | .null => pure Text.isBlank
      | v =>
        match v.text? with
        | some set => pure fun c => set.toList.contains c
        | none => refuse (.badStrip name)
    return .text (stripped left right drop s)

/-- A function that takes a part off an end of a text. -/
def removeMethod (name : String) (atEnd : Bool) : String × Feature :=
  textMethod name .one fun s g => do
    let part ← needTextFor name "argument" (g.nth 0)
    let count := part.length
    return .text (if atEnd then
        if part ≠ "" ∧ part.toList.isSuffixOf s.toList then
          String.ofList (s.toList.take (s.length - count))
        else s
      else if part.toList.isPrefixOf s.toList then String.ofList (s.toList.drop count) else s)

/-! ### Pieces -/

/-- Pieces as a list. -/
def newTexts (pieces : List (List Char)) : Run Value :=
  newList (pieces.map fun cs => .text (String.ofList cs))

/-- A function that splits a text, from its beginning or from its end. -/
def splitMethod (name : String) (atEnd : Bool) : String × Feature :=
  textMethod name (.named 2 [("sep", some .null), ("maxsplit", some (.int (-1)))]) fun s g => do
    let most ← positionOf (g.nth 1)
    let cs := s.toList
    let cuts := Text.mostCuts most cs
    match g.nth 0 with
    | .null =>
      newTexts (if atEnd then Text.fromEnd (Text.splitBlanks cuts) cs else Text.splitBlanks cuts cs)
    | v => do
      let mark ← needText "must be str or None, not " v
      if mark = "" then refuse (.badArgument "empty separator")
      else
        let mark := mark.toList
        newTexts (if atEnd then Text.fromEnd (Text.splitAt mark.reverse cuts) cs
          else Text.splitAt mark cuts cs)

/-- A function that cuts a text at a separator, from its beginning or from its end. -/
def partitionMethod (name : String) (atEnd : Bool) : String × Feature :=
  textMethod name .one fun s g => do
    let mark ← needText "must be str, not " (g.nth 0)
    let text (cs : List Char) : Value := .text (String.ofList cs)
    if mark = "" then refuse (.badArgument "empty separator")
    else if atEnd then
      match Text.cutAt mark.toList.reverse s.toList.reverse with
      | some (back, front) => return .tuple [text front.reverse, .text mark, text back.reverse]
      | none => return .tuple [.text "", .text "", .text s]
    else
      match Text.cutAt mark.toList s.toList with
      | some (front, back) => return .tuple [text front, .text mark, text back]
      | none => return .tuple [.text s, .text "", .text ""]

/-- A text with one part in the place of another, so many times at most. -/
def replaced (old new : String) (most : Nat) (s : String) : String :=
  if old = "" then
    let cs := s.toList
    let front := (cs.take (most - 1)).map fun c => new ++ String.singleton c
    let behind := String.ofList (cs.drop (most - 1))
    if most = 0 then s
    else String.join front ++ (if most - 1 < cs.length + 1 then new else "") ++ behind
  else
    new.intercalate ((Text.splitAt old.toList most s.toList).map String.ofList)

/-! ### Width -/

/-- The character that fills up a text. -/
def fillOf (g : Given) : Run Char :=
  match g.nth? 1 with
  | none => return ' '
  | some v =>
    match v.text? with
    | none => refuse (.notText "The fill character must be a unicode character, not " v.sortName)
    | some s =>
      match s.toList with
      | [c] => return c
      | _ => refuse (.badSort "The fill character must be exactly one character long")

/-- A function that makes a text wider. -/
def padMethod (name : String) (pad : Int → Char → String → String) : String × Feature :=
  textMethod name (.between 1 2) fun s g => do
    let width ← positionOf (g.nth 0)
    let c ← fillOf g
    let padded ← withItems width.toNat fun _ => pad width c s
    return .text padded

/-! ### Tables of characters -/

/-- A character in a table of characters, by its code: itself, if the table has none. -/
def translated (table : Value) (c : Char) : Run String := do
  let h ← heap
  let found : Option Value ← match table with
    | .dict id => pure (lookUp h id (.int c.toNat))
    | .list id => pure ((h.items id)[c.toNat]?)
    | .tuple items => pure (items[c.toNat]?)
    | v =>
      match v.text? with
      | some s => pure ((s.toList[c.toNat]?).map fun c => .text (String.singleton c))
      | none => refuse (.notSubscriptable v.sortName)
  match found with
  | none => return String.singleton c
  | some .null => return ""
  | some v =>
    match v.text?, wholeOf? v with
    | some s, _ => return s
    | none, some n =>
      if 0 ≤ n ∧ n ≤ 0x10ffff then return String.singleton (Char.ofNat n.toNat)
      else refuse (.badArgument "character mapping must be in range(0x110000)")
    | none, none => refuse (.badSort "character mapping must return integer, None or str")

/-- The key of a character in a table of characters. -/
def tableKey (v : Value) : Run Value :=
  match v.text?, wholeOf? v with
  | some s, _ =>
    match s.toList with
    | [c] => return .int c.toNat
    | _ => refuse (.badArgument "string keys in translate table must be of length 1")
  | none, some n => return .int n
  | none, none => refuse (.badSort "keys in translate table must be strings or integers")

/-- A table of characters. -/
def tableOfChars (g : Given) : Run Value := do
  let h ← heap
  let codes (s : String) : List Value := s.toList.map fun c => .int c.toNat
  let table (entries : List (Value × Value)) : Run Value :=
    newDict (entries.foldl (fun es e => putEntry h es e.1 e.2) [])
  match g.places with
  | [.dict id] => do
    let entries ← Action.each (fun e => do
      let key ← tableKey e.1
      return (key, e.2)) (h.entries id)
    table entries
  | [_] => refuse (.badSort "if you give only one argument to maketrans it must be a dict")
  | first :: second :: rest => do
    let images ← needTextFor "maketrans" "argument 2" second
    let gone ← match rest with
      | [] => pure ""
      | v :: _ => needTextFor "maketrans" "argument 3" v
    match first.text? with
    | none =>
      refuse (.badSort "first maketrans argument must be a string if there is a second argument")
    | some s =>
      if s.length ≠ images.length then
        refuse (.badArgument "the first two maketrans arguments must have equal length")
      else table ((codes s).zip (codes images) ++ (codes gone).map (·, .null))
  | [] => return .null

/-! ### Classes of texts -/

/-- All characters of a text that has some are of a class. -/
def allOf (test : Char → Bool) (s : String) : Bool := s ≠ "" && s.toList.all test

/-- A text has cased letters, all of them of one case. -/
def allCased (right wrong : Char → Bool) (s : String) : Bool :=
  s.toList.any right && !s.toList.any fun c => wrong c || Text.isTitle c

/-- Every word of a text begins with a capital and goes on with small letters. -/
def isTitled (inside found : Bool) : List Char → Bool
  | [] => found
  | c :: cs =>
    if Text.isUpper c || Text.isTitle c then !inside && isTitled true true cs
    else if Text.isLower c then inside && isTitled true true cs
    else isTitled false found cs

/-- A text is a name. -/
def isName (s : String) : Bool :=
  match s.toList with
  | [] => false
  | c :: cs => Text.isIdentifierStart c && cs.all Text.isIdentifierChar

/-! ### Features -/

/-- The items of a value joined by a text. -/
def joinText (m : Machine) (self : Value) (v : Value) : Run Value := do
  let h ← heap
  if !hasItems h v then refuse .notJoinedBy
  else
    let items ← m.items v
    let parts ← Action.check (joinable items)
    return .text (((self.text?).getD "").intercalate parts)

/-- Functions that change the case or the width of a text. -/
def textChanges : Entries Feature :=
  [changeMethod "upper" upper, changeMethod "lower" lower, changeMethod "title" Text.title,
   changeMethod "capitalize" Text.capitalize, changeMethod "casefold" Text.foldCase,
   changeMethod "swapcase" Text.swapCase,
   padMethod "center" Text.centered,
   padMethod "ljust" fun w c s => Text.padded 0 (Text.lack w s) c s,
   padMethod "rjust" fun w c s => Text.padded (Text.lack w s) 0 c s,
   textMethod "zfill" .one fun s g => do
      let width ← positionOf (g.nth 0)
      let filled ← withItems width.toNat fun _ => Text.zeroFilled width s
      return .text filled,
   textMethod "expandtabs" (.named 1 [("tabsize", some (.int 8))]) fun s g => do
      let size ← smallOf (g.nth 0)
      return .text (String.ofList (Text.untabbed size.toNat 0 s.toList)),
   stripMethod "strip" true true, stripMethod "lstrip" true false,
   stripMethod "rstrip" false true, removeMethod "removeprefix" false,
   removeMethod "removesuffix" true,
   textMethod "replace" (.between 2 3) fun s g => do
      let old ← needTextFor "replace" "argument 1" (g.nth 0)
      let new ← needTextFor "replace" "argument 2" (g.nth 1)
      let most ← match g.nth? 2 with
        | none => pure (-1)
        | some v => positionOf v
      return .text (replaced old new (if most < 0 then s.length + 1 else most.toNat) s),
   textMethod "translate" .one fun s g => do
      let parts ← Action.each (translated (g.nth 0)) s.toList
      return .text (String.join parts),
   textMethod "maketrans" (.between 1 3) fun _ g => tableOfChars g,
   textMethod "encode" (.named 2
      [("encoding", some (.text "utf-8")), ("errors", some (.text "strict"))]) encode]

/-- Functions that look for parts of a text, or split it. -/
def textParts : Entries Feature :=
  let missing : Run Value := refuse (.badArgument "substring not found")
  [splitMethod "split" false, splitMethod "rsplit" true,
   textMethod "splitlines" (.named 1 [("keepends", some (.bool false))]) fun s g => do
      let keep ← smallOf (g.nth 0)
      newTexts (Text.linesFrom (keep ≠ 0) [] s.toList),
   partitionMethod "partition" false, partitionMethod "rpartition" true,
   ("join", .builtin .one fun m self g => joinText m self (g.nth 0)),
   partMethod "find" (partPlace List.head? (return .int (-1))),
   partMethod "rfind" (partPlace List.getLast? (return .int (-1))),
   partMethod "index" (partPlace List.head? missing),
   partMethod "rindex" (partPlace List.getLast? missing),
   partMethod "count" fun b part whole => return .int (Text.countIn b part whole),
   edgeMethod "startswith" false, edgeMethod "endswith" true]

/-- Functions that tell of what sort the characters of a text are. -/
def textTests : Entries Feature :=
  [testMethod "isalpha" (allOf Text.isLetter), testMethod "isdecimal" (allOf Text.isDecimal),
   testMethod "isdigit" (allOf Text.isDigitForm), testMethod "isnumeric" (allOf Text.isNumber),
   testMethod "isalnum" (allOf fun c => Text.isLetter c || Text.isNumber c),
   testMethod "isspace" (allOf Text.isBlank),
   testMethod "isascii" (·.toList.all (·.toNat < 0x80)),
   testMethod "isprintable" (·.toList.all Text.isPrintable),
   testMethod "islower" (allCased Text.isLower Text.isUpper),
   testMethod "isupper" (allCased Text.isUpper Text.isLower),
   testMethod "istitle" (isTitled false false ·.toList), testMethod "isidentifier" isName]

/-- The operators of texts. -/
def textOperators : Entries Feature :=
  let times (s : String) (g : Given) : Run Value := do
    let count ← timesOf (g.nth 0)
    let all ← repeated count s.toList
    return .text (String.ofList all)
  [lengthFeature fun _ self => ((self.text?).getD "").length,
   textMethod "__contains__" (.slot 1) fun s g => do
      let part ← needText "'in <string>' requires string as left operand, not " (g.nth 0)
      return .bool (Text.occurs part s),
   textMethod "__getitem__" (.slot 1) fun s g => do
      match wholeOf? (g.nth 0) with
      | some _ => itemAt "string" (characters s) (g.nth 0)
      | none => refuse (.badIndex "str" (g.nth 0).sortName),
   textMethod "__add__" (.slot 1) fun s g =>
      match (g.nth 0).text? with
      | some t => return .text (s ++ t)
      | none => refuse (.notSequence "str" (g.nth 0).sortName),
   textMethod "__mul__" (.slots 1 1) times, textMethod "__rmul__" (.slots 1 1) times,
   ("__mod__", .builtin (.slot 1) fun m self g => fillIn m ((self.text?).getD "") (g.nth 0)),
   ("format", .builtin (.free none) fun m self g => fillFields m ((self.text?).getD "") g),
   ("format_map", .builtin .one fun m self g =>
      fillMapped m ((self.text?).getD "") (g.nth 0)),
   ("__format__", .builtin .one fun _ self g => do
      let spec ← needTextFor "__format__" "argument" (g.nth 0)
      let text ← formatValue self spec
      return .text text)]

/-- Features of texts. -/
def textFeatures : Entries Feature := textChanges ++ textParts ++ textTests ++ textOperators

/-- The names of the functions of texts that only can be named. -/
def textNames : List String := ["__getnewargs__", "__iter__", "__rmod__"]

end PgSchema.Object
