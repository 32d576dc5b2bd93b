import PgSchema.Json.Printer

/-!
Reading of typed values out of JSON values, with every complaint reported.

A reader gives a value or the list of all issues, each with its place.  `Checked.ap` joins the
readers of the fields of a structure: the issues of all fields are kept, in the order of the fields.
-/

namespace PgSchema

/-- A step on the way to a place inside a value. -/
inductive Place where
  | field (name : String)
  | item (index : Nat)
  deriving DecidableEq, Repr

/-- What a complaint is about. -/
inductive Complaint where
  | missing
  | notText
  | tooShort
  | notChoice (choices : List String)
  | notBool
  | unreadableBool
  | notList
  | notObject (model : String)
  | rule (message : String)
  | frozen
  | malformed (message : String)
  deriving DecidableEq, Repr

/-- Where the value came from: given as a value, or read from a JSON text. -/
inductive Origin where
  | value
  | text
  deriving DecidableEq, Repr

namespace Complaint

/-- The code of a complaint. -/
def code : Complaint → String
  | missing => "missing"
  | notText => "string_type"
  | tooShort => "string_too_short"
  | notChoice _ => "enum"
  | notBool => "bool_type"
  | unreadableBool => "bool_parsing"
  | notList => "tuple_type"
  | notObject _ => "model_type"
  | rule _ => "value_error"
  | frozen => "frozen_instance"
  | malformed _ => "json_invalid"

/-- Choices in words: the last one behind an "or". -/
def choiceText : List String → String
  | [] => ""
  | [c] => Text.literal c
  | [c, d] => Text.literal c ++ " or " ++ Text.literal d
  | c :: rest => Text.literal c ++ ", " ++ choiceText rest

/-- A complaint in words. -/
def message (origin : Origin) : Complaint → String
  | missing => "Field required"
  | notText => "Input should be a valid string"
  | tooShort => "String should have at least 1 character"
  | notChoice choices => "Input should be " ++ choiceText choices
  | notBool => "Input should be a valid boolean"
  | unreadableBool => "Input should be a valid boolean, unable to interpret input"
  | notList =>
    match origin with
    | .value => "Input should be a valid tuple"
    | .text => "Input should be a valid array"
  | notObject model =>
    match origin with
    | .value => "Input should be a valid dictionary or instance of " ++ model
    | .text => "Input should be an object"
  | rule text => "Value error, " ++ text
  | frozen => "Instance is frozen"
  | malformed text => "Invalid JSON: " ++ text

end Complaint

/-- A complaint and its place. -/
structure Issue where
  place : List Place
  complaint : Complaint
  deriving DecidableEq, Repr

/-- All that is wrong with a value that was to be a model. -/
structure Report where
  model : String
  origin : Origin
  issues : List Issue
  deriving DecidableEq, Repr

/-- A value, or all issues that stand against it. -/
inductive Checked (α : Type) where
  | ok (value : α)
  | bad (issues : List Issue)
  deriving Repr

namespace Checked

variable {α β : Type}

/-- A single complaint about the value itself. -/
def complain (complaint : Complaint) : Checked α := bad [⟨[], complaint⟩]

/-- A value that is there, or a complaint. -/
def ofOption (complaint : Complaint) : Option α → Checked α
  | some value => ok value
  | none => complain complaint

/-- A function of the value. -/
def map (f : α → β) : Checked α → Checked β
  | ok value => ok (f value)
  | bad issues => bad issues

/-- The issues of two readers together. -/
def ap : Checked (α → β) → Checked α → Checked β
  | ok f, x => x.map f
  | bad issues, ok _ => bad issues
  | bad issues, bad more => bad (issues ++ more)

/-- A reader for a value that stood all tests before. -/
def bind (x : Checked α) (f : α → Checked β) : Checked β :=
  match x with
  | ok value => f value
  | bad issues => bad issues

/-- The same issues, one step further down. -/
def within (step : Place) : Checked α → Checked α
  | ok value => ok value
  | bad issues => bad (issues.map fun issue => { issue with place := step :: issue.place })

/-- The items of a list, each read on its own. -/
def each (read : Json → Checked α) : Nat → List Json → Checked (List α)
  | _, [] => ok []
  | index, x :: xs =>
    ((read x).within (.item index)).map List.cons |>.ap (each read (index + 1) xs)

/-- A field of an object: without it the default stands, if there is one. -/
def field (fields : Entries Json) (name : String) (default? : Option α) (read : Json → Checked α) :
    Checked α :=
  match fields.get? name, default? with
  | some value, _ => (read value).within (.field name)
  | none, some value => ok value
  | none, none => bad [⟨[.field name], .missing⟩]

/-- The outcome as a report on a model. -/
def report (model : String) (origin : Origin) : Checked α → Except Report α
  | ok value => .ok value
  | bad issues => .error ⟨model, origin, issues⟩

/-! ### Readers of plain values -/

/-- A text. -/
def text : Json → Checked String
  | .text s => .ok s
  | _ => complain .notText

/-- A text of one character or more. -/
def filledText (value : Json) : Checked String :=
  match text value with
  | .ok "" => complain .tooShort
  | outcome => outcome

/-- A list. -/
def list (read : Json → Checked α) : Json → Checked (List α)
  | .list items => each read 0 items
  | _ => complain .notList

/-- One of a number of texts. -/
def choice (ofText? : String → Option α) (choices : List String) (value : Json) : Checked α :=
  ofOption (.notChoice choices) (value.text?.bind ofText?)

/-- The texts for true and for false, in lower case. -/
def trueTexts : List String := ["1", "on", "t", "true", "y", "yes"]

@[inherit_doc trueTexts]
def falseTexts : List String := ["0", "off", "f", "false", "n", "no"]

/-- A truth value by its number. -/
def boolOfInt (n : Int) : Checked Bool :=
  if n = 0 then .ok false
  else if n = 1 then .ok true
  else if -(Number.twoTo 63 : Int) ≤ n ∧ n < Number.twoTo 63 then complain .unreadableBool
  else complain .notBool

/-- A truth value by a number with a fraction.  Of the numbers out of range, one more counts than
among whole numbers. -/
def boolOfDouble (x : Number.Double) : Checked Bool :=
  match x.toInt? with
  | none => complain .notBool
  | some n => if n = -(Number.twoTo 63 : Int) then complain .notBool else boolOfInt n

/-- A truth value: as such, as the number zero or one, or in words of any case. -/
def bool : Json → Checked Bool
  | .bool b => .ok b
  | .int n => boolOfInt n
  | .double x => boolOfDouble x
  | .text s =>
    let word := s.map Char.toLower
    if word ∈ trueTexts then .ok true
    else if word ∈ falseTexts then .ok false
    else complain .unreadableBool
  | _ => complain .notBool

end Checked

end PgSchema
