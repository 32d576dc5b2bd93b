import PgSchema.Digest.Sha256
import PgSchema.Fault
import PgSchema.Text.Utf8
import PgSchema.Text.Words

/-!
Quoted identifiers, and the indexes that are named by them.

A quoted identifier is a name between two double quotes, each quote of the name written twice.
`Identifier.unquote` takes exactly the texts that `Identifier.quote` makes.

An index name shows the table and the columns as far as they fit, and ends with a short digest of
the exact names, since names of different tables and columns can look the same once they are joined.
`IndexStatement.name?` finds the name in a statement that creates an index.
-/

namespace PgSchema

open Text (trim isBlank doubleMark)

namespace Identifier

/-- The quote of an identifier. -/
def mark : Char := doubleMark

/-- A name with each quote written twice. -/
def double : List Char → List Char
  | [] => []
  | c :: rest => if c = mark then mark :: mark :: double rest else c :: double rest

/-- The name behind its doubled quotes; a quote that stands alone is refused. -/
def undouble? : List Char → Option (List Char)
  | [] => some []
  | c :: rest =>
    if c = mark then
      match rest with
      | d :: rest => if d = mark then (undouble? rest).map (mark :: ·) else none
      | [] => none
    else (undouble? rest).map (c :: ·)

/-- A quoted identifier. -/
def quote (name : String) : String :=
  String.ofList (mark :: double name.toList ++ [mark])

/-- What stands between the quotes at the two ends of a text. -/
def between? : List Char → Option (List Char)
  | c :: rest =>
    if c = mark ∧ rest.getLast? = some mark then some rest.dropLast else none
  | [] => none

/-- The name of a quoted identifier. -/
def unquote (text : String) : Except Fault String :=
  match between? text.toList with
  | none => .error (.notQuoted text)
  | some body =>
    match undouble? body with
    | none => .error (.strayQuote text)
    | some name => .ok (String.ofList name)

end Identifier

namespace Index

open Digest (Sha256)
open Text (hexDigits takeBytes utf8)

/-- The bytes that an identifier of the database may have. -/
def maxBytes : Nat := 63

/-- The digits of the digest. -/
def digestLength : Nat := 8

/-- What the digest is taken of: the table and the columns, with a null character between. -/
def digestInput (table : String) (columns : List String) : String :=
  "\x00".intercalate (table :: columns)

/-- The digest of the exact names. -/
def digest (table : String) (columns : List String) : String :=
  let bytes := (Sha256.empty.absorb (utf8 (digestInput table columns))).digest
  String.ofList ((bytes.flatMap fun b => hexDigits 2 b.toNat).take digestLength)

/-- The part of an index name for the reader. -/
def readable (start table : String) (columns : List String) : String :=
  start ++ "_" ++ table ++ "_" ++ "_".intercalate columns

/-- The name of the index on columns of a table. -/
def name (start table : String) (columns : List String) : String :=
  let digest := digest table columns
  let budget := maxBytes - digest.length - 1
  String.ofList (takeBytes budget (readable start table columns).toList) ++ "_" ++ digest

/-- The start of generated names. -/
def defaultStart : String := "idx"

/-- The statement that creates an ordered index.  Without a name of its own the index gets a
generated one. -/
def create (table : String) (columns : List String) (given : String) : String :=
  let indexName := if given = "" then name defaultStart table columns else given
  "CREATE INDEX IF NOT EXISTS " ++ Identifier.quote indexName ++ " ON " ++
    Identifier.quote table ++ " (" ++ ", ".intercalate (columns.map Identifier.quote) ++ ")"

end Index

/-! ### The name in a statement that creates an index -/

namespace IndexStatement

open Identifier (mark)

/-- The rest of a text behind a word. -/
def afterWord? (word : List Char) (cs : List Char) : Option (List Char) :=
  if word.isPrefixOf cs then some (cs.drop word.length) else none

/-- The rest of a text behind blanks, of which there is one at least. -/
def afterBlanks? : List Char → Option (List Char)
  | c :: rest => if isBlank c then some (rest.dropWhile isBlank) else none
  | [] => none

/-- The rest of a text behind a word and the blanks after it. -/
def afterKeyword? (word : String) (cs : List Char) : Option (List Char) :=
  (afterWord? word.toList cs).bind afterBlanks?

/-- The rest of a text behind words, or the text itself if the words are not there. -/
def skipKeywords (words : List String) (cs : List Char) : List Char :=
  (words.foldlM (fun cs word => afterKeyword? word cs) cs).getD cs

/-- The body of a quoted name, behind its opening quote, and quotes still doubled.  The longest
body is taken: a pair of quotes ends the name only where no later quote can. -/
def quotedBody? : List Char → Option (List Char)
  | [] => none
  | c :: rest =>
    if c = mark then
      match rest with
      | d :: rest' =>
        if d = mark then
          match quotedBody? rest' with
          | some body => some (mark :: mark :: body)
          | none => some []
        else some []
      | [] => some []
    else (quotedBody? rest).map (c :: ·)

/-- The body of the quoted name at the front of a text. -/
def quotedName? : List Char → Option (List Char)
  | c :: rest => if c = mark then quotedBody? rest else none
  | [] => none

/-- The name of the index that a statement creates. -/
def name? (statement : String) : Option String := do
  let cs ← afterKeyword? "CREATE" (trim statement.toList)
  let cs ← afterKeyword? "INDEX" (skipKeywords ["UNIQUE"] cs)
  let body ← quotedName? (skipKeywords ["IF", "NOT", "EXISTS"] cs)
  let name ← Identifier.undouble? body
  return String.ofList name

/-- The name of the index that a statement creates; without one, the front of the statement is
shown. -/
def name (statement : String) : Except Fault String :=
  match name? statement with
  | some name => .ok name
  | none => .error (.noIndexName (String.ofList (statement.toList.take 80)))

end IndexStatement

end PgSchema
