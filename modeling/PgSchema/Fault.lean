import PgSchema.Source.Token
import PgSchema.Validation

/-!
What can be wrong with a request, by its cause.

A cause has a sort, which says what kind of thing was wrong, and a text for the reader.
-/

namespace PgSchema

open Text (literal)

/-- The sorts of faults. -/
inductive FaultSort where
  | argument
  | lookup
  | attribute
  | sort
  | missingModule
  | missingName
  | shutdown
  | range
  | place
  | name
  | depth
  | register
  | quotient
  | form
  | indentation
  | tabs
  | report
  deriving DecidableEq, Repr

/-- The causes of faults. -/
inductive Fault where
  /-- A value is none of the members of an enumeration. -/
  | notMember (shown enumeration : String)
  | notQuoted (text : String)
  | strayQuote (text : String)
  | noIndexName (statement : String)
  | noTable (database : String) (name : Json)
  | noColumn (table shown : String)
  | noSchema (shown : String)
  | noModel (table : String)
  | noKey (key : Json)
  | notNumeral (text : String)
  | longNumeral (digits : Nat)
  | poolSize (min max : Json)
  | noWorkers
  | blankMetadataTable
  | noConnectionSettings
  | unknownLevel (name : String)
  | notLevel (shown : String)
  | notLogName
  | notPair (place width : Nat)
  | notRow (place : Nat)
  | negativeCount (what : String) (count : Json)
  | notComparable (operator left right : String)
  | notOperands (operator left right : String)
  | notHashable (sort : String)
  | tooLarge
  | tooWide (what : String)
  | notIterable (sort : String)
  | notContainer (sort : String)
  | notSubscriptable (sort : String)
  | notMapping (sort : String)
  | wrongWidth (expected given : Nat)
  | notRowValue (sort : String)
  | notGiven (callee sort : String)
  | notNamedMapping (callee sort : String)
  | notSequence (whole part : String)
  | notRepeated (sort : String)
  | notAssignable (sort : String)
  | fewItems (least given : Nat)
  | unusedFormat
  | noQuotient (what : String)
  | notCallable (sort : String)
  | noAssignments (table : String)
  | noConflictTarget (table : String) (declaredOn : Option String)
  | noAttribute (owner name : String)
  | noTypeAttribute (owner name : String)
  | noBareAttribute (name : String)
  | noModuleAttribute (module name : String)
  | noModule (name : String)
  | noSubmodule (name outer : String)
  | noOuterModule (name : String)
  | noName (name module : String)
  | unknownKeyword (callee keyword : String)
  | repeatedArgument (callee name : String)
  | repeatedKeyword (callee name : String)
  | missingArguments (callee : String) (names : List String)
  | missingNamed (callee : String) (names : List String)
  | surplusArguments (callee : String) (fewest most given : Nat)
  | noArguments (callee : String) (given : Nat)
  | oneArgument (callee : String) (given : Nat)
  | argumentCount (callee : String) (fewest most given : Nat)
  | noKeywords (callee : String)
  | boundedCount (callee : String) (atLeast : Bool) (bound : Nat) (what : String) (given : Nat)
  | noPlaces (callee : String)
  | strangeKeyword (callee name : String)
  | namedAndPlaced (callee name : String) (place : Nat)
  | missingRequired (callee name : String) (place : Nat)
  | slotCount (expected given : Nat)
  | noWrapperKeywords (name : String)
  | noParameters (callee : String)
  | noReceiver (callee : String)
  | wrongReceiver (owner name sort : String)
  | typeNotSubscriptable (name : String)
  | notGeneric (shown : String)
  | badIndex (sort index : String)
  | noPlace (what : String)
  | notIndex (sort : String)
  | notText (what sort : String)
  | badStrip (name : String)
  | badEdge (name sort : String)
  | badArgument (what : String)
  | badSort (what : String)
  | notJoinedBy
  | badItem (place : Nat) (sort : String)
  | undefinedName (name : String)
  | tooDeep
  | closedExecutor
  | noRegister (name : String)
  | malformed (flaw : Source.Flaw)
  | invalid (report : Report)

namespace Fault

/-- The sort of a fault. -/
def sort : Fault → FaultSort
  | notMember .. | notQuoted .. | strayQuote .. | noIndexName .. | notNumeral .. | longNumeral ..
  | poolSize .. | noWorkers | blankMetadataTable | noConnectionSettings | unknownLevel ..
  | negativeCount .. | noAssignments .. | noConflictTarget .. | wrongWidth .. | notPair ..
  | badArgument .. | fewItems .. => .argument
  | noTable .. | noColumn .. | noSchema .. | noModel .. | noKey .. => .lookup
  | noAttribute .. | noTypeAttribute .. | noBareAttribute .. | noModuleAttribute .. => .attribute
  | notComparable .. | notIterable .. | notContainer .. | notSubscriptable .. | notMapping ..
  | notCallable .. | unknownKeyword .. | repeatedArgument .. | repeatedKeyword ..
  | missingArguments .. | missingNamed .. | surplusArguments .. | noArguments ..
  | oneArgument .. | argumentCount .. | noKeywords .. | noParameters .. | noReceiver ..
  | wrongReceiver .. | notGeneric .. | typeNotSubscriptable .. | badIndex .. | notIndex ..
  | notText .. | badStrip .. | badEdge .. | notJoinedBy | badItem .. | notLevel .. | notLogName
  | noOuterModule .. | notRow .. | notRowValue .. | notOperands ..
  | notHashable .. | notSequence .. | notNamedMapping .. | notGiven .. | notAssignable ..
  | notRepeated .. | unusedFormat | badSort .. | boundedCount .. | noPlaces .. | strangeKeyword ..
  | namedAndPlaced .. | missingRequired .. | slotCount .. | noWrapperKeywords .. => .sort
  | noModule .. | noSubmodule .. => .missingModule
  | noName .. => .missingName
  | closedExecutor => .shutdown
  | tooLarge | tooWide .. => .range
  | noPlace .. => .place
  | undefinedName .. => .name
  | tooDeep => .depth
  | noQuotient .. => .quotient
  | noRegister .. => .register
  | malformed flaw =>
    match flaw.sort with
    | .form => .form
    | .indentation => .indentation
    | .tabs => .tabs
  | invalid .. => .report

/-- A name between single marks, as it is. -/
def marked (name : String) : String := "'" ++ name ++ "'"

/-- Names in a row: the last one behind an "and". -/
def nameList : List String → String
  | [] => ""
  | [a] => literal a
  | [a, b] => literal a ++ " and " ++ literal b
  | names =>
    ", ".intercalate (names.dropLast.map literal) ++ ", and " ++ literal (names.getLastD "")

/-- A number of things in words. -/
def counted (n : Nat) (thing : String) : String :=
  toString n ++ " " ++ thing ++ (if n = 1 then "" else "s")

/-- A fault in words. -/
def message : Fault → String
  | notMember shown enumeration => shown ++ " is not a valid " ++ enumeration
  | notQuoted text => "Not a quoted identifier: " ++ literal text
  | strayQuote text => "Unescaped quote in identifier: " ++ literal text
  | noIndexName statement => "Cannot find index name in: " ++ literal statement
  | noTable database name => "Database " ++ database ++ " has no table " ++ name.display
  | noColumn table shown => "Table " ++ table ++ " has no column " ++ shown
  | noSchema shown => "No schema for table " ++ shown
  | noModel table => "No model registered for table " ++ literal table
  | noKey key => key.plain
  | notNumeral text =>
    "invalid literal for int() with base 10: " ++ String.ofList ((literal text).toList.take 200)
  | longNumeral digits =>
    "Exceeds the limit (4300 digits) for integer string conversion: value has " ++
      toString digits ++ " digits; use sys.set_int_max_str_digits() to increase the limit"
  | poolSize min max => "invalid pool size: min=" ++ min.plain ++ " max=" ++ max.plain
  | noWorkers => "async_transaction_workers must be at least 1"
  | blankMetadataTable => "metadata_table must not be empty"
  | noConnectionSettings =>
    "Database connection not configured. " ++
      "Set DATABASE_URL, or POSTGRES_HOST and POSTGRES_DB environment variables."
  | unknownLevel name => "Unknown level: " ++ literal name
  | notLevel shown => "Level not an integer or a valid string: " ++ shown
  | notPair place width =>
    "dictionary update sequence element #" ++ toString place ++ " has length " ++
      toString width ++ "; 2 is required"
  | notRow place =>
    "cannot convert dictionary update sequence element #" ++ toString place ++ " to a sequence"
  | notLogName => "A logger name must be a string"
  | negativeCount what count => what ++ " must be >= 0, got " ++ count.plain
  | notComparable operator left right =>
    marked operator ++ " not supported between instances of " ++ marked left ++ " and " ++
      marked right
  | notOperands operator left right =>
    "unsupported operand type(s) for " ++ operator ++ ": " ++ marked left ++ " and " ++ marked right
  | tooWide what => what
  | tooLarge => "int too large to convert to float"
  | notHashable sort => "unhashable type: " ++ marked sort
  | notIterable sort => marked sort ++ " object is not iterable"
  | notContainer sort => "argument of type " ++ marked sort ++ " is not iterable"
  | notSubscriptable sort => marked sort ++ " object is not subscriptable"
  | notMapping sort => marked sort ++ " object is not a mapping"
  | wrongWidth expected given =>
    if given < expected then
      "not enough values to unpack (expected " ++ toString expected ++ ", got " ++
        toString given ++ ")"
    else "too many values to unpack (expected " ++ toString expected ++ ")"
  | notRowValue sort => "cannot unpack non-iterable " ++ sort ++ " object"
  | notGiven callee sort => callee ++ " argument after * must be an iterable, not " ++ sort
  | notNamedMapping callee sort => callee ++ " argument after ** must be a mapping, not " ++ sort
  | notSequence whole part =>
    "can only concatenate " ++ whole ++ " (not \"" ++ part ++ "\") to " ++ whole
  | notRepeated sort => "can't multiply sequence by non-int of type " ++ marked sort
  | notAssignable sort => marked sort ++ " object does not support item assignment"
  | fewItems least given =>
    "not enough values to unpack (expected at least " ++ toString least ++ ", got " ++
      toString given ++ ")"
  | unusedFormat => "not all arguments converted during string formatting"
  | noQuotient what => what
  | notCallable sort => marked sort ++ " object is not callable"
  | noAssignments table => "UPDATE of " ++ table ++ " has no assignments"
  | noConflictTarget table declaredOn =>
    let origin := match declaredOn with
      | some column => " (declared on column " ++ literal column ++ ")"
      | none => ""
    "REPLACE on " ++ table ++ origin ++ " needs a primary key to use as the ON CONFLICT target"
  | noAttribute owner name => marked owner ++ " object has no attribute " ++ marked name
  | noTypeAttribute owner name =>
    "type object " ++ marked owner ++ " has no attribute " ++ marked name
  | noBareAttribute name => name
  | noModuleAttribute module name =>
    "module " ++ marked module ++ " has no attribute " ++ marked name
  | noModule name => "No module named " ++ literal name
  | noSubmodule name outer =>
    "No module named " ++ literal name ++ "; " ++ literal outer ++ " is not a package"
  | noOuterModule name =>
    "the 'package' argument is required to perform a relative import for " ++ literal name
  | noName name module =>
    "cannot import name " ++ literal name ++ " from " ++ literal module ++ " (unknown location)"
  | unknownKeyword callee keyword =>
    callee ++ "() got an unexpected keyword argument " ++ marked keyword
  | repeatedArgument callee name =>
    callee ++ "() got multiple values for argument " ++ marked name
  | repeatedKeyword callee name =>
    callee ++ " got multiple values for keyword argument " ++ marked name
  | missingArguments callee names =>
    callee ++ "() missing " ++ counted names.length "required positional argument" ++ ": " ++
      nameList names
  | missingNamed callee names =>
    callee ++ "() missing " ++ counted names.length "required keyword-only argument" ++ ": " ++
      nameList names
  | noArguments callee given =>
    callee ++ "() takes no arguments (" ++ toString given ++ " given)"
  | oneArgument callee given =>
    callee ++ "() takes exactly one argument (" ++ toString given ++ " given)"
  | argumentCount callee fewest most given =>
    let bound := if fewest = most then counted most "argument"
      else if given < fewest then "at least " ++ counted fewest "argument"
      else "at most " ++ counted most "argument"
    callee ++ " expected " ++ bound ++ ", got " ++ toString given
  | boundedCount callee atLeast bound what given =>
    callee ++ "() takes at " ++ (if atLeast then "least " else "most ") ++ counted bound what ++
      " (" ++ toString given ++ " given)"
  | noPlaces callee => callee ++ "() takes no positional arguments"
  | strangeKeyword callee name =>
    marked name ++ " is an invalid keyword argument for " ++ callee ++ "()"
  | namedAndPlaced callee name place =>
    "argument for " ++ callee ++ "() given by name (" ++ marked name ++ ") and position (" ++
      toString place ++ ")"
  | missingRequired callee name place =>
    callee ++ "() missing required argument " ++ marked name ++ " (pos " ++ toString place ++ ")"
  | slotCount expected given =>
    "expected " ++ counted expected "argument" ++ ", got " ++ toString given
  | noWrapperKeywords name => "wrapper " ++ name ++ "() takes no keyword arguments"
  | noParameters callee => callee ++ "() takes no arguments"
  | noReceiver callee => "unbound method " ++ callee ++ "() needs an argument"
  | wrongReceiver owner name sort =>
    "descriptor " ++ marked name ++ " for " ++ marked owner ++ " objects doesn't apply to a " ++
      marked sort ++ " object"
  | noKeywords callee => callee ++ "() takes no keyword arguments"
  | notGeneric shown => shown ++ " is not a generic class"
  | typeNotSubscriptable name => "type " ++ marked name ++ " is not subscriptable"
  | badIndex "str" index => "string indices must be integers, not " ++ marked index
  | badIndex sort index => sort ++ " indices must be integers or slices, not " ++ index
  | noPlace what => what
  | notIndex sort => marked sort ++ " object cannot be interpreted as an integer"
  | notText what sort => what ++ sort
  | badStrip name => name ++ " arg must be None or str"
  | badEdge name sort =>
    name ++ " first arg must be str or a tuple of str, not " ++ sort
  | badArgument what | badSort what => what
  | notJoinedBy => "can only join an iterable"
  | badItem place sort =>
    "sequence item " ++ toString place ++ ": expected str instance, " ++ sort ++ " found"
  | undefinedName name => "name " ++ marked name ++ " is not defined"
  | tooDeep => "maximum recursion depth exceeded"
  | surplusArguments callee fewest most given =>
    let range := if fewest = most then counted most "positional argument"
      else "from " ++ toString fewest ++ " to " ++ counted most "positional argument"
    callee ++ "() takes " ++ range ++ " but " ++ toString given ++
      (if given = 1 then " was given" else " were given")
  | closedExecutor => "cannot schedule new futures after shutdown"
  | noRegister name => name
  | malformed flaw => flaw.text
  | invalid report =>
    toString report.issues.length ++ " validation errors for " ++ report.model

/-- A fault inside another message: a lookup shows its text as a literal. -/
def text (fault : Fault) : String :=
  match fault, fault.sort with
  | noKey key, _ => key.display
  | _, .lookup => literal fault.message
  | _, _ => fault.message

end Fault

end PgSchema
