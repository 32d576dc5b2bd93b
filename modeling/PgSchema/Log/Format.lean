import PgSchema.Failure
import PgSchema.Log.Line
import PgSchema.Text.Lowercase
import PgSchema.Text.Uppercase

/-!
Log records written out: one line for readers, or one JSON object for machines.

The line for readers shows the coordinates of the context in brackets and leaves them out of the
data behind the message.  The object shows context and data apart, each only if it is not empty.
The setup of the log says which of the two is written, and from which level on.
-/

namespace PgSchema.Log

/-- An error that a record reports: the name of its kind, what it was made of, and what is told before
it of the way that led to it. -/
structure Problem where
  kind : String
  argument : Json
  history : String := ""

namespace Problem

/-- The kinds of errors that say so when they have no text. -/
def silentKinds : List String := ["SyntaxError", "IndentationError", "TabError"]

/-- An error in words: its kind, and its text if there is one. -/
def text (p : Problem) : String :=
  let shown := (Failure.raised p.kind p.argument).text
  p.history ++ p.kind ++
    (if shown ≠ "" then ": " ++ shown
      else if p.kind ∈ silentKinds then ": <no detail available>"
      else "")

end Problem

/-- A record to be written: the name of its log, its level and place in the source, its message,
data, and the error that it reports. -/
structure Record where
  name : Json
  level : Json
  path : Json
  line : Json
  message : Json
  data : Json
  problem : Option Problem

namespace Record

/-- The place of a record: the name of the file, without its folders, and the line. -/
def source (r : Record) : String :=
  let path := match r.path with
    | .text s => String.ofList (s.toList.reverse.takeWhile (· ≠ '/')).reverse
    | other => other.plain
  path ++ ":" ++ r.line.plain

/-- The data of a record, if they are not empty. -/
def data? (r : Record) : Option Json := if r.data.isTruthy then some r.data else none

/-- A text filled up with blanks. -/
def padded (width : Nat) (s : String) : String :=
  s ++ String.ofList (List.replicate (width - s.length) ' ')

/-- The data that the line for readers shows: all but the coordinates. -/
def shownData (r : Record) : Except Fault (Entries Json) :=
  match r.data? with
  | none => .ok []
  | some (.object fields) =>
    .ok (fields.filter fun (key, _) => key ∉ Coordinate.all.map Coordinate.field)
  | some other => .error (.noAttribute other.sortName "items")

/-- A record for readers. -/
def human (now : Moment) (context : Context) (r : Record) : Except Fault String := do
  let level ← Level.nameOf r.level
  let labels := context.labels
  let place := if labels.isEmpty then "" else " [" ++ ", ".intercalate labels ++ "]"
  let data ← r.shownData
  let suffix := if data.isEmpty then "" else " " ++ (Json.object data).display
  let problem := match r.problem with
    | some problem => "\n" ++ problem.text
    | none => ""
  return now.plain ++ " " ++ padded 8 level.plain ++ " " ++ r.name.plain ++ place ++ ": " ++
    r.message.plain ++ suffix ++ problem

/-- The fields of a record for machines. -/
def payload (now : Moment) (context : Context) (level : Json) (r : Record) : Entries Json :=
  let context := context.toEntries
  [("timestamp", .text now.stamp), ("level", level), ("logger", r.name),
    ("message", .text r.message.plain)] ++
  (if context.isEmpty then [] else [("context", .object context)]) ++
  (match r.data? with
    | some data => [("data", data)]
    | none => []) ++
  (match r.problem with
    | some problem => [("exception", .text problem.text)]
    | none => []) ++
  [("source", .text r.source)]

/-- A record for machines. -/
def structured (now : Moment) (context : Context) (r : Record) : Except Fault String := do
  return (Json.object (r.payload now context (← Level.nameOf r.level))).ascii

end Record

/-! ### The data of a line -/

/-- The text that a key is kept by. -/
def keyText (key : Json) : Except Fault String :=
  match key with
  | .list _ | .object _ => .error (.notHashable key.sortName)
  | .text s => .ok s
  | other => .ok other.compact

/-- A pair out of the elements of a value, at a place in a row. -/
def pairAt (place : Nat) (value : Json) : Except Fault (String × Json) :=
  match value.elements with
  | .ok [key, x] => (keyText key).map (·, x)
  | .ok xs => .error (.notPair place xs.length)
  | .error _ => .error (.notRow place)

/-- Pairs out of the elements of a row. -/
def pairsFrom (place : Nat) : List Json → Except Fault (List (String × Json))
  | [] => .ok []
  | x :: rest => do
    let pair ← pairAt place x
    return pair :: (← pairsFrom (place + 1) rest)

/-- A value as a dictionary: the fields of an object, or a row of pairs.  What does not count as true
is empty. -/
def dictionary (value : Json) : Except Fault (Entries Json) :=
  match value with
  | .object fields => .ok fields
  | other =>
    if other.isTruthy then do
      let pairs ← pairsFrom 0 (← other.elements)
      return Entries.collapse pairs
    else .ok []

/-- The data that a line takes with it: its own, and over them the context. -/
def lineData (context : Context) (extra : Json) : Except Fault (Entries Json) :=
  (dictionary extra).map (Entries.merge · context.toEntries)

/-! ### The setup of the log -/

/-- The formats of the log. -/
inductive Format where
  | human
  | structured
  deriving DecidableEq, Repr

/-- A log that is set up: its level as it was set, the number that this stands for, and the
format. -/
structure Setup where
  level : Json
  threshold : Int
  format : Format

namespace Setup

/-- The names that stand for levels. -/
def levelNames : List (String × Int) :=
  [("DEBUG", 10), ("INFO", 20), ("WARNING", 30), ("WARN", 30), ("ERROR", 40), ("CRITICAL", 50),
   ("FATAL", 50), ("NOTSET", 0)]

/-- The level of a log of which nothing else is said. -/
def usualLevel : Int := 20

/-- A name that stands for the plain layout of lines and not for a level. -/
def layoutName : String := "BASIC_FORMAT"

/-- The plain layout of lines. -/
def layout : String := "%(levelname)s:%(name)s:%(message)s"

/-- A name that stands for the table of layouts and not for a level. -/
def layoutTableName : String := "_STYLES"

/-- The table of layouts. -/
def layoutTable : String :=
  "\x7b'%': (<class 'logging.PercentStyle'>, '%(levelname)s:%(name)s:%(message)s'), " ++
  "'\x7b': (<class 'logging.StrFormatStyle'>, " ++
  "'\x7blevelname\x7d:\x7bname\x7d:\x7bmessage\x7d'), " ++
  "'$': (<class 'logging.StringTemplateStyle'>, " ++
  "'$\x7blevelname\x7d:$\x7bname\x7d:$\x7bmessage\x7d')\x7d"

/-- The level that a value stands for, as it is set.  An unknown name stands for the usual one. -/
def levelOf : Json → Except Fault Json
  | .int n => .ok (.int n)
  | .bool b => .ok (.bool b)
  | .text s =>
    let name := Text.upper s
    if name = layoutName then .error (.unknownLevel layout)
    else if name = layoutTableName then .error (.notLevel layoutTable)
    else .ok (.int ((levelNames.lookup name).getD usualLevel))
  | other => .error (.notLevel other.display)

/-- The log set up.  Either the caller or the environment asks for objects. -/
def configure (level : Json) (structured : Bool) (environment : String) : Except Fault Setup := do
  let level ← levelOf level
  let format := if structured || Text.lower environment = "json" then .structured else .human
  return ⟨level, (level.whole?).getD usualLevel, format⟩

/-- The log of the database driver, whose level is its own. -/
def driverLog : String := "psycopg"

/-- The level of the log of the database driver, and of the logs under it. -/
def driverLevel : Int := 30

/-- The level of the log of a name. -/
def thresholdOf (setup : Setup) (name : String) : Int :=
  if name = driverLog ∨ (driverLog ++ ".").toList.isPrefixOf name.toList then driverLevel
  else setup.threshold

/-- The log of a name takes records of a level.  Levels of zero and below are for no records. -/
def takes (setup : Setup) (name level : Json) : Except Fault Bool := do
  match name with
  | .text name =>
    if ← Json.atMost level (.int 0) then return false
    Json.atMost (.int (setup.thresholdOf name)) level
  | _ => throw .notLogName

/-- What the log writes of a record: nothing if it cannot be written. -/
def written (setup : Setup) (now : Moment) (context : Context) (r : Record) :
    Except Fault String := do
  let _ ← Level.nameOf r.level
  if ← setup.takes r.name r.level then
    let text := match setup.format with
      | .human => r.human now context
      | .structured => r.structured now context
    match text with
    | .ok text => return text ++ "\n"
    | .error _ => return ""
  else return ""

/-- What the log writes of records. -/
def output (setup : Setup) (now : Moment) (context : Context) (records : List Record) :
    Except Fault String :=
  (records.mapM (setup.written now context)).map "".intercalate

end Setup

end PgSchema.Log
