import PgSchema.Object.Heap

/-!
Arguments of the functions of the language.

Other than those of the library, these functions mostly take their arguments by place only, and each
way of taking them has its own words for what is wrong.
-/

namespace PgSchema.Object

/-- Arguments as they are given, by place and by name. -/
structure Given where
  places : List Value
  names : Entries Value := []

namespace Given

/-- The argument in a place. -/
def nth (g : Given) (index : Nat) : Value := g.places.getD index .null

/-- The argument in a place, if there is one. -/
def nth? (g : Given) (index : Nat) : Option Value := g.places[index]?

end Given

/-- The arguments that a function of the language takes. -/
inductive Arity where
  | none
  | one
  | between (fewest most : Nat)
  /-- As before, with the numbers told behind the call. -/
  | within (fewest most : Nat)
  /-- By place or by name, with what stands for an argument that need not be given; so many of them
  can be given by place. -/
  | named (placed : Nat) (parameters : Entries (Option Value))
  /-- Operators that are called like functions. -/
  | slot (count : Nat)
  /-- Operators that are called with arguments not all of which need to be given. -/
  | slots (fewest most : Nat)
  /-- Any arguments by name, besides those by place. -/
  | free (most : Option Nat)

namespace Arity

/-- Arguments by name over those by place. -/
def addNamed (name : String) (parameters : List String) (given : List Value) :
    Entries Value → Except Fault (Entries Value)
  | [] => .ok (parameters.zip given)
  | (key, v) :: rest => do
    let found ← addNamed name parameters given rest
    match parameters.idxOf? key with
    | some place =>
      if place < given.length then .error (.namedAndPlaced name key (place + 1))
      else return found ++ [(key, v)]
    | Option.none => .error (.strangeKeyword name key)

/-- The first parameter that needs an argument and has none, with its place. -/
def missing? (g : Given) (parameters : Entries (Option Value)) : Option (String × Nat) :=
  (parameters.zipIdx.find? fun ((key, default), place) =>
    default.isNone && g.places.length ≤ place && !g.names.has key).map fun ((key, _), place) =>
      (key, place + 1)

/-- Arguments by place or by name, all in their places. -/
def align (name : String) (placed : Nat) (parameters : Entries (Option Value)) (g : Given) :
    Except Fault Given := do
  let count := g.places.length
  let all := count + g.names.length
  let most := parameters.length
  if all > most then
    let what := if count = 0 then "keyword argument" else "argument"
    .error (.boundedCount name false most what all)
  else if count > placed then
    if placed = 0 then .error (.noPlaces name)
    else .error (.boundedCount name false placed "positional argument" count)
  else
    match missing? g parameters with
    | some (key, place) => .error (.missingRequired name key place)
    | Option.none => do
      let found ← addNamed name parameters.keys g.places g.names
      return ⟨parameters.map fun (key, default) => ((found.get? key).or default).getD .null, []⟩

/-- The number of arguments lies between bounds, with a fault for those it does not. -/
def bounded (fewest most count : Nat) (fault : Bool → Nat → Fault) : Except Fault Unit :=
  if count < fewest then .error (fault true fewest)
  else if most < count then .error (fault false most)
  else .ok ()

/-- Arguments are checked, and those by name are put in their places. -/
def accept (arity : Arity) (owner name : String) (g : Given) : Except Fault Given := do
  let callee := if owner = "builtins" then name else owner ++ "." ++ name
  let count := g.places.length
  let unnamed (ok : Except Fault Unit) : Except Fault Given :=
    if g.names.isEmpty then ok.map fun _ => g else .error (.noKeywords callee)
  match arity with
  | none => unnamed (if count = 0 then .ok () else .error (.noArguments callee count))
  | one => unnamed (if count = 1 then .ok () else .error (.oneArgument callee count))
  | between fewest most =>
    unnamed (bounded fewest most count fun _ _ => .argumentCount name fewest most count)
  | within fewest most =>
    if !g.names.isEmpty then .error (.noKeywords name)
    else
      (bounded fewest most count fun atLeast bound =>
        .boundedCount name atLeast bound "argument" count).map fun _ => g
  | named placed parameters => align name placed parameters g
  | slot expected =>
    if !g.names.isEmpty then .error (.noWrapperKeywords name)
    else if count = expected then .ok g
    else .error (.slotCount expected count)
  | slots fewest most =>
    if !g.names.isEmpty then .error (.noWrapperKeywords name)
    else (bounded fewest most count fun _ _ => .argumentCount "" fewest most count).map fun _ => g
  | free most =>
    match most with
    | some most =>
      if count ≤ most then .ok g else .error (.argumentCount name 0 most count)
    | Option.none => .ok g

end Arity

end PgSchema.Object
