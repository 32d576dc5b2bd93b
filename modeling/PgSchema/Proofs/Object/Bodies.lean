import PgSchema.Proofs.Codegen.ConditionNames
import PgSchema.Proofs.Object.Conditions
import PgSchema.Proofs.Query.Marks
import PgSchema.Proofs.Source.Methods

/-!
The bodies of conditions.

A condition is written as a method of one statement, which hands a text on to a method of the
library together with what the condition takes.  Its name, its parameters, its predicate and its
body are written apart from each other; read again, they belong together (`bodies_run_iff`): the
literal in the body stands for the predicate, or for the column, and what is handed on behind it is
the parameter.  A parameter is called by its column, and steps aside for keywords and for the
receiver.  It does not for a name that only becomes that of the receiver in its normal form, nor for
the one name that nothing can be called by, and such a method cannot be read at all.
-/

namespace PgSchema.Codegen

open Identifier (quote)
open Source (Delegation IsIdentifier)
open Text.Normal (form)

/-! ### Conditions by their tests -/

namespace Test

/-- The tests of a column. -/
def ofColumn (c : Column) : List Test :=
  if c.primaryKey then [compare .eq]
  else (if c.nullable then [absent false, absent true] else []) ++
    [compare .eq, compare .notEq, among false, among true] ++
    (if c.kind.isNumeric then Comparison.ordering.map compare else [])

/-- What a condition takes for a test. -/
def parameters (c : Column) : Test → List Parameter
  | compare _ => [valueParameter c]
  | absent _ => []
  | among _ => [valuesParameter c]

/-- The predicate of a test. -/
def predicate (c : Column) : Test → String
  | compare k => quote c.columnName ++ " " ++ k.operator ++ " %s"
  | absent negated => quote c.columnName ++ absence negated
  | among negated => quote c.columnName ++ (if negated then " NOT IN" else " IN") ++ " (%s, ...)"

/-- The condition of a column that makes a test. -/
def condition (target : String) (c : Column) (test : Test) : Operation where
  name := if c.primaryKey then "find" else c.name ++ "_" ++ test.kind.text
  kind := if c.primaryKey then .find else test.kind
  returns := target
  body := [test.statement c]
  parameters := test.parameters c
  sql := some (test.predicate c)
  column := some c.name

end Test

/-- **The conditions of a column** make its tests, one each. -/
lemma columnConditions_eq (target : String) (c : Column) :
    columnConditions target c = (Test.ofColumn c).map (Test.condition target c) := by
  have htext (column : String) : column ++ " = %s" = column ++ " " ++ "=" ++ " %s" := by
    rw [String.append_assoc, String.append_assoc]
    rfl
  obtain ⟨name, column, kind, nullable, indexed, key, auto, policy⟩ := c
  cases key with
  | true =>
    change [findBy target _] = [_]
    rw [findBy, htext]
    rfl
  | false =>
    cases nullable <;> cases hnumeric : kind.isNumeric <;>
      simp only [columnConditions, Test.ofColumn, hnumeric] <;> rfl

/-! ### Names of conditions -/

/-- What the names of conditions end with is basic, and no name that is taken ends so. -/
lemma ending_free : ∀ kind ∈ OperationKind.conditions,
    (ending kind).all Text.isIdentifierChar = true ∧
      (∀ c ∈ ending kind, c.toNat < Text.Normal.basicCount) ∧
      ∀ s ∈ Source.Check.reserved :: Source.keywords, ¬ ending kind <:+ s.toList := by
  decide

/-- **A name that a class or a method can have**: no keyword, and not the one that nothing can be
called by. -/
structure CanCall (name : String) : Prop where
  isName : IsIdentifier name ∧ name ∉ Source.keywords
  ne_reserved : form name ≠ Source.Check.reserved

lemma CanCall.ne_empty {name : String} (h : CanCall name) : name ≠ "" := by
  rintro rfl
  exact absurd h.isName.1 (by decide)

/-- The conditions of a column can be called as they are. -/
lemma canCall_condition {c : Column} (hc : IsIdentifier c.name) (target : String) (test : Test) :
    CanCall (test.condition target c).name := by
  unfold Test.condition
  dsimp only
  split
  · exact ⟨by decide, by decide⟩
  · obtain ⟨hchars, hbasic, hfree⟩ := ending_free _ test.kind_mem
    have hends (s : String) : ending test.kind <:+ (s ++ ("_" ++ test.kind.text)).toList := by
      rw [String.toList_append]
      exact List.suffix_append _ _
    rw [String.append_assoc]
    refine ⟨⟨hc.append hchars, fun hmem => ?_⟩, fun heq => ?_⟩
    · exact hfree _ (List.mem_cons_of_mem _ hmem) (hends c.name)
    · rw [Text.Normal.form_append _ hbasic] at heq
      exact hfree _ List.mem_cons_self (heq ▸ hends (form c.name))

/-- **The parameter of a column is free**: it is no keyword, and not the name of the receiver. -/
lemma parameterName_free (c : Column) :
    parameterName c ∉ reservedWords ∧ parameterName c ≠ "self" := by
  unfold parameterName
  split
  case isTrue htaken =>
    have hline : ∀ s ∈ "self" :: reservedWords, s ++ "_" ∉ "self" :: reservedWords := by decide
    have hfree := hline c.name (List.mem_cons.2 htaken.symm)
    rw [List.mem_cons, not_or] at hfree
    exact hfree.symm
  case isFalse hfree => exact not_or.1 hfree

lemma isIdentifier_parameterName {c : Column} (hc : IsIdentifier c.name) :
    IsIdentifier (parameterName c) := by
  unfold parameterName
  split
  · exact hc.append (by decide)
  · exact hc

/-! ### Conditions as methods that are read -/

/-- The text of a class with a single method. -/
def Operation.classText (op : Operation) (owner base : String) : String :=
  "\n".intercalate (("class " ++ owner ++ "(" ++ base ++ "):") :: op.render "    ") ++ "\n"

namespace Test

/-- The text that a condition hands on. -/
def handedText (c : Column) : Test → String
  | among _ => quote c.columnName
  | test => test.predicate c

/-- The condition as a method that hands a text on. -/
def delegation (owner base : String) (c : Column) (test : Test) : Delegation where
  owner := owner
  base := base
  name := (test.condition owner c).name
  handed := match test with
    | compare _ => .value (parameterName c) c.kind.valueType
      (if nullability c = some true then some "Optional" else none)
    | absent _ => .text
    | among negated => .chosen negated "values" c.kind.valueType "Sequence"
  returns := "\"" ++ owner ++ "\""
  callee := match test with
    | among _ => "in_"
    | _ => "where"
  literal := Text.literal (test.handedText c)

/-- **A condition is written** as the method that it is. -/
lemma classText_condition (owner base : String) (c : Column) (test : Test) :
    (test.condition ("\"" ++ owner ++ "\"") c).classText owner base =
      (test.delegation owner base c).text := by
  -- both are told character by character
  refine String.toList_inj.1 ?_
  by_cases hnull : nullability c = some true <;> cases test <;>
    simp [Operation.classText, Operation.render, Operation.lines, Operation.shownDoc?,
      Parameter.text, Parameter.typeText, Statement.lines, Statement.boolText, Delegation.text,
      Delegation.words, Delegation.truthWord, Source.Handed.taken?, Source.Handed.truth?,
      Source.Nested.chars, Source.Word.chars, condition, delegation, statement, parameters,
      valueParameter, valuesParameter, handedText, predicate, hnull]

lemma isIdentifier_valueType (kind : StorageKind) :
    IsIdentifier kind.valueType ∧ kind.valueType ∉ Source.keywords := by
  cases kind <;> decide

lemma handedText_ne (c : Column) (test : Test) : test.handedText c ≠ "" := by
  have hquote (s : String) : quote c.columnName ++ s ≠ "" := by
    rw [Ne, ← String.toList_eq_nil_iff, String.toList_append, quote, String.toList_ofList]
    exact List.cons_ne_nil _ _
  cases test with
  | compare k =>
    change quote c.columnName ++ " " ++ k.operator ++ " %s" ≠ ""
    rw [String.append_assoc, String.append_assoc]
    exact hquote _
  | absent negated => exact hquote _
  | among negated =>
    change quote c.columnName ≠ ""
    rw [← String.append_empty (s := quote c.columnName)]
    exact hquote ""

section Delegation

variable {owner base : String} (howner : CanCall owner)
  (hbase : IsIdentifier base ∧ base ∉ Source.keywords) {c : Column} (hc : IsIdentifier c.name)
  (test : Test)

include howner hbase hc

/-- **A condition is a method that is read**, whatever its column is called. -/
lemma isWritten_delegation : (test.delegation owner base c).IsWritten where
  names := by
    have hname := (canCall_condition hc owner test).isName
    have htype := isIdentifier_valueType c.kind
    have hparameter : IsIdentifier (parameterName c) ∧ parameterName c ∉ Source.keywords :=
      ⟨isIdentifier_parameterName hc, (parameterName_free c).1⟩
    have hform : ∀ s ∈ (if nullability c = some true then some "Optional" else none).toList,
        IsIdentifier s ∧ s ∉ Source.keywords := by
      split <;> decide
    cases test <;>
      simp only [Delegation.names, delegation, Source.Handed.taken?, List.cons_append,
        List.nil_append, Option.toList_some, Option.toList_none, List.flatMap_cons,
        List.flatMap_nil, List.append_nil, List.forall_mem_cons]
    case compare => exact ⟨howner.isName, hbase, hname, by decide, hparameter, htype, hform⟩
    case absent => exact ⟨howner.isName, hbase, hname, by decide, List.forall_mem_nil _⟩
    case among =>
      exact ⟨howner.isName, hbase, hname, by decide, by decide, htype, by decide,
        List.forall_mem_nil _⟩
  returns := Source.isLiteral_quoted howner.isName.1
  literal := Source.isLiteral_literal (test.handedText_ne c)

omit hbase hc in
lemma hasTexts_delegation : (test.delegation owner base c).HasTexts owner (test.handedText c) where
  returns := Source.piece_quoted howner.isName.1
  literal := Source.piece_literal _

end Delegation

end Test

end PgSchema.Codegen

namespace PgSchema.Object

open Codegen (CanCall Operation OperationKind Test reservedWords tableConditions)
open Query (Free markCount)
open Source (CanName IsIdentifier Stmt readModule)
open Text.Normal (form)

/-! ### Bodies that run -/

section Runs

variable {owner base : String} {c : Column} {test : Test}

/-- What a condition gives back, as it is read. -/
lemma given?_condition (parameter : String)
    (hparameter : ∀ name ∈ (test.delegation owner base c).takenName?,
      parameter = (test.delegation owner base c).counted name) :
    given? parameter (test.statement c) =
      some ((test.delegation owner base c).call (test.handedText c)) := by
  have hplain : ∀ name ∈ ["self", "where", "in_"],
      form name = name ∧ "__".toList.isPrefixOf name.toList = false := by decide
  have hcounted (name : String) (hname : name ∈ ["self", "where", "in_"]) :
      Source.countedName (form owner) name = name :=
    Source.countedName_of_plain (hplain name hname).1 (hplain name hname).2 _
  have hcall (callee : String) (hcallee : callee ∈ ["self", "where", "in_"])
      (arguments : List Source.Argument) :
      Source.Expr.call (.member (.name "self") callee) arguments =
        .call (.member (.name (Source.countedName (form owner) "self"))
          (Source.countedName (form owner) callee)) arguments := by
    rw [hcounted "self" (by decide), hcounted callee hcallee]
  cases test with
  | compare k =>
    obtain rfl := hparameter _ rfl
    exact congrArg some (hcall "where" (by decide) _)
  | absent negated => exact congrArg some (hcall "where" (by decide) _)
  | among negated =>
    obtain rfl := hparameter _ rfl
    exact congrArg some (hcall "in_" (by decide) _)

/-- What a condition takes is its parameter. -/
lemma takenName?_condition (owner base : String) (c : Column) (test : Test) :
    (test.delegation owner base c).takenName?.toList = (test.parameters c).map (·.name) := by
  cases test <;> rfl

/-- **The body of a condition** calls the method of the library that it hands on to. -/
lemma exec_call {fr : Frame} {self : Value} {values : List Value}
    (hvalues : values.length = (test.parameters c).length)
    (hcan : ∀ name ∈ (test.delegation owner base c).takenName?, CanName name)
    (hnames : fr.names = (("self" :: (test.parameters c).map (·.name)).map
      (Source.countedName (form owner))).zip (self :: values)) (m : Machine) (run : Course State) :
    (execAll m fr [.give (some ((test.delegation owner base c).call (test.handedText c)))] >>=
      fun done => pure (done.2.getD .null)) run =
      m.callMethod self (handed values (test.statement c)).1
        (handed values (test.statement c)).2 run := by
  rw [execAll_give]
  have hreceiver : Source.countedName (form owner) "self" = "self" :=
    Source.countedName_eq_self_iff.2 (by decide)
  have hself : fr.names.get? "self" = some self := by
    rw [hnames, List.map_cons, hreceiver]
    exact List.lookup_cons_self
  have hone : ∀ name ∈ (test.delegation owner base c).takenName?, ∀ v,
      fr.names = [("self", self), (Source.countedName (form owner) name, v)] →
        fr.names.get? (Source.countedName (form owner) name) = some v := by
    intro name hname v hlist
    have hne : Source.countedName (form owner) name ≠ "self" :=
      mt Source.countedName_eq_self_iff.1 (hcan name hname).1
    rw [hlist, Entries.get?, List.lookup_cons, beq_false_of_ne hne]
    exact List.lookup_cons_self
  rw [List.map_cons, hreceiver, List.zip_cons_cons] at hnames
  cases test with
  | absent negated =>
    obtain rfl := List.length_eq_zero_iff.1 hvalues
    exact eval_given (v := .null) hself (given?_condition "" fun name h => by cases h) rfl
      (fun h => absurd h List.not_mem_nil) run
  | compare k =>
    obtain ⟨v, rfl⟩ := List.length_eq_one_iff.1 hvalues
    refine eval_given hself (given?_condition
      (Source.countedName (form owner) (Codegen.parameterName c)) fun name hname => ?_) rfl
        (fun _ => hone _ rfl v hnames) run
    rw [← Option.some.inj hname]
    rfl
  | among negated =>
    obtain ⟨v, rfl⟩ := List.length_eq_one_iff.1 hvalues
    refine eval_given hself (given?_condition (Source.countedName (form owner) "values")
      fun name hname => ?_) rfl (fun _ => hone _ rfl v hnames) run
    rw [← Option.some.inj hname]
    rfl

end Runs

/-- The predicate of a test has a mark for each value that is taken. -/
lemma markCount_predicate {c : Column} (hfree : Free c.columnName) (test : Test) :
    markCount (test.predicate c) = (test.parameters c).length := by
  have hquote : Free (Identifier.quote c.columnName) := (Query.plain_quote hfree).2
  cases test with
  | compare k =>
    have hoperator : Free k.operator := by cases k <;> decide
    have hfront : Free (Identifier.quote c.columnName ++ " " ++ k.operator) :=
      (hquote.append (by decide)).append hoperator
    rw [Test.predicate, Query.markCount_append _ (by decide), Query.markCount_of_free hfront]
    rfl
  | absent negated =>
    have habsence : Free (Test.absence negated) := by cases negated <;> decide
    exact Query.markCount_of_free (hquote.append habsence)
  | among negated =>
    have hword : Free (if negated then " NOT IN" else " IN") := by cases negated <;> decide
    rw [Test.predicate, Query.markCount_append _ (by decide),
      Query.markCount_of_free (hquote.append hword)]
    rfl

/-! ### The conditions of a table -/

/-- The class of a table for a kind of builders. -/
def builderName (t : Table) : Kind → String
  | .selector => t.selectorName
  | .updater => t.updaterName
  | .deleter => t.deleterName
  | .relation => t.relationName

/-- What is asked of a column. -/
def asked (c : Column) : List OperationKind :=
  if c.primaryKey then [.find]
  else (if c.nullable then [.isNull, .isNotNull] else []) ++ [.eq, .notEq, .member, .notMember] ++
    (if c.kind.isNumeric then [.lt, .le, .gt, .ge] else [])

/-- The names that a statement hands on. -/
def argumentNames : Codegen.Statement → List String
  | .condition _ argument => argument.toList
  | .membership .. => ["values"]
  | _ => []

/-- What a condition promises to do: it adds its predicate with the values that it is called with,
or narrows its column to them. -/
def promised (op : Operation) (quoted sql : String) (values : List Value) : String × List Value :=
  match op.kind with
  | .member => ("in_", .bool false :: .text quoted :: values)
  | .notMember => ("in_", .bool true :: .text quoted :: values)
  | _ => ("where", .text sql :: values)

/-- **A text is read as the class of a condition**, whose parameters are the receiver and those that
the condition declares. -/
def ReadsAs (owner base : String) (op : Operation) (read : List Stmt)
    (parameters : Source.Parameters) (body : List Stmt) : Prop :=
  (∃ returns, read = [.cls [] (form owner) (Source.privateName "" (form owner))
    [.plain (.name base)] [.function [] (form op.name)
      (Source.countedName (form owner) op.name) parameters returns body]]) ∧
  parameters.all = parameters.plain ∧
  parameters.plain.map (fun p => (p.name, p.default.isNone)) =
    ("self" :: op.parameterNames).map fun name => (Source.countedName (form owner) name, true)

/-- **A body does what is promised**, whatever it is run with. -/
def Performs (body : List Stmt) (names : List String) (op : Operation) (quoted sql : String) :
    Prop :=
  ∀ (m : Machine) (fr : Frame) (self : Value) (values : List Value),
    values.length = op.parameters.length → fr.names = names.zip (self :: values) → ∀ run,
      (execAll m fr body >>= fun done => pure (done.2.getD .null)) run =
        m.callMethod self (promised op quoted sql values).1 (promised op quoted sql values).2 run

/-- The conditions of a table make the tests of its columns. -/
lemma tableConditions_eq (t : Table) (owner : String) :
    tableConditions t owner = (t.columns.filter Column.hasConditions).flatMap fun c =>
      (Test.ofColumn c).map (Test.condition (Codegen.targetText t owner) c) :=
  List.flatMap_congr fun c _ => Codegen.columnConditions_eq _ c

/-- What is promised is what the statement of a condition hands on. -/
lemma promised_condition {c : Column} {test : Test} (htest : test ∈ Test.ofColumn c)
    (target : String) (values : List Value) :
    promised (test.condition target c) (Identifier.quote c.columnName) (test.predicate c) values =
      handed values (test.statement c) := by
  cases hkey : c.primaryKey with
  | true =>
    rw [Test.ofColumn, if_pos hkey, List.mem_singleton] at htest
    subst htest
    simp only [promised, Test.condition, hkey, if_true]
    rfl
  | false =>
    simp only [promised, Test.condition, hkey, Bool.false_eq_true, if_false]
    cases test with
    | compare k => cases k <;> rfl
    | absent negated | among negated => cases negated <;> rfl

/-- Columns are asked what their conditions are for. -/
lemma asked_eq (target : String) (c : Column) :
    (Test.ofColumn c).map (fun test => (test.condition target c).kind) = asked c := by
  obtain ⟨name, column, kind, nullable, indexed, key, auto, policy⟩ := c
  cases key with
  | true => rfl
  | false =>
    cases nullable <;> cases hnumeric : kind.isNumeric <;>
      simp only [Test.ofColumn, asked, hnumeric] <;> rfl

/-- A statement hands on the parameters of its condition. -/
lemma argumentNames_statement (c : Column) (test : Test) :
    argumentNames (test.statement c) = (test.parameters c).map (·.name) := by
  cases test <;> rfl

lemma parameterNames_free (c : Column) (test : Test) :
    ∀ p ∈ (test.parameters c).map (·.name), p ∉ reservedWords ∧ p ≠ "self" := by
  have hvalues : "values" ∉ reservedWords ∧ "values" ≠ "self" := by decide
  cases test with
  | compare k => exact List.forall_mem_singleton.2 (Codegen.parameterName_free c)
  | absent negated => exact List.forall_mem_nil _
  | among negated => exact List.forall_mem_singleton.2 hvalues

/-- **The text of a condition is read** exactly if its parameters can be named as they are, and then
it does what is promised. -/
lemma read_condition {owner : String} (howner : CanCall owner) (k : Kind) {c : Column}
    (hc : IsIdentifier c.name) {test : Test} (htest : test ∈ Test.ofColumn c) :
    let op := test.condition ("\"" ++ owner ++ "\"") c
    ((∃ read, readModule (op.classText owner k.title) = .ok read) ↔
      ∀ p ∈ op.parameterNames, CanName p) ∧
    ∀ read, readModule (op.classText owner k.title) = .ok read →
      ∃ parameters body, ReadsAs owner k.title op read parameters body ∧
        Performs body (parameters.plain.map (·.name)) op (Identifier.quote c.columnName)
          (test.predicate c) := by
  intro op
  have hbase : IsIdentifier k.title ∧ k.title ∉ Source.keywords := by cases k <;> decide
  have hplain : Source.countedName "" k.title = k.title := by cases k <;> decide
  let d := test.delegation owner k.title c
  have htaken : d.takenName?.toList = op.parameterNames := takenName?_condition owner _ c test
  have hname := Codegen.canCall_condition hc owner test
  obtain ⟨hiff, hread⟩ := Source.Delegation.readModule_text
    (Test.isWritten_delegation howner hbase hc test) (Test.hasTexts_delegation howner test)
    howner.ne_reserved hname.ne_reserved
  have hcan : (∀ p ∈ op.parameterNames, CanName p) ↔ ∀ name ∈ d.takenName?, CanName name := by
    simp only [← htaken, Option.mem_toList]
    exact Iff.rfl
  rw [Test.classText_condition, hcan]
  refine ⟨hiff, fun read heq => ⟨d.parameters, [.give (some (d.call (test.handedText c)))], ?_, ?_⟩⟩
  · refine ⟨⟨some (.constant (.text owner)), ?_⟩, ?_, ?_⟩
    · rw [hread read heq, Source.Delegation.cls, show d.base = k.title from rfl, hplain]
      rfl
    · simp [Source.Parameters.all, Source.Delegation.parameters]
    · rw [d.parameters_plain, htaken]
      rfl
  · intro m fr self values hvalues hnames run
    have hall := congrArg (List.map Prod.fst) d.parameters_plain
    rw [List.map_map, List.map_map, htaken] at hall
    rw [promised_condition htest]
    exact exec_call hvalues (hiff.1 ⟨read, heq⟩) (hnames.trans (congrArg (List.zip · _) hall)) m run

/-- **The bodies of conditions do what is promised**, if they can be read at all.  The conditions of
a table are those of its columns, one after the other.  Each of them hands on the parameters that it
declares, as many as its predicate has marks, and none of them is called by a keyword or as the
receiver.  Its text is read exactly if no parameter gets the name of the receiver in its normal
form, or the one that nothing can be called by; a body that is read calls the method of the library
that is promised, with its predicate or its column and what the condition is called with. -/
theorem bodies_run_iff (t : Table) (k : Kind) :
    ((tableConditions t (builderName t k)).map fun op => (op.column, op.kind)) =
      ((t.columns.filter fun c => c.indexed || c.primaryKey).flatMap fun c =>
        (asked c).map fun kind => (some c.name, kind)) ∧
    ∀ op ∈ tableConditions t (builderName t k), ∃ c ∈ t.columns, ∃ sql,
      op.column = some c.name ∧ op.sql = some sql ∧
      (Free c.columnName → markCount sql = op.parameters.length) ∧
      (∃ s, op.body = [s] ∧ argumentNames s = op.parameterNames) ∧
      (∀ p ∈ op.parameterNames, p ∉ reservedWords ∧ p ≠ "self") ∧
      (IsIdentifier c.name → CanCall (builderName t k) →
        ((∃ read, readModule (op.classText (builderName t k) k.title) = .ok read) ↔
          ∀ p ∈ op.parameterNames, CanName p) ∧
        ∀ read, readModule (op.classText (builderName t k) k.title) = .ok read →
          ∃ parameters body, ReadsAs (builderName t k) k.title op read parameters body ∧
            Performs body (parameters.plain.map (·.name)) op
              (Identifier.quote c.columnName) sql) := by
  rw [tableConditions_eq]
  refine ⟨?_, fun op hop => ?_⟩
  · rw [List.map_flatMap]
    refine List.flatMap_congr fun c _ => ?_
    rw [List.map_map, ← asked_eq (Codegen.targetText t (builderName t k)) c, List.map_map]
    rfl
  · obtain ⟨c, hc, hop⟩ := List.mem_flatMap.1 hop
    obtain ⟨test, htest, rfl⟩ := List.mem_map.1 hop
    refine ⟨c, (List.mem_filter.1 hc).1, test.predicate c, rfl, rfl,
      fun hfree => markCount_predicate hfree test, ⟨_, rfl, argumentNames_statement c test⟩,
      parameterNames_free c test, fun hname howner => ?_⟩
    rw [Codegen.targetText, if_neg howner.ne_empty]
    exact read_condition howner k hname htest

/-- A table with a column that is called by a keyword, and one that is called as nothing can be. -/
def reservedTable : Table where
  name := "t"
  columns := [⟨"class", "a\"\n\\", .string, true, true, false, false, .none⟩,
    ⟨"__debug__", "b", .int, false, false, true, false, .none⟩]
  modelName := "T"
  modelModule := ""
  relationName := "TRelation"
  selectorName := "TSelector"
  updaterName := "TUpdater"
  deleterName := "TDeleter"
  inserterName := "TInserter"
  createStatement := ""
  indexStatements := []

/-- The look-up by the key cannot be read, and all other conditions can. -/
theorem bodies_run_iff_reserved :
    (∀ c ∈ reservedTable.columns, IsIdentifier c.name) ∧
      CanCall (builderName reservedTable .selector) ∧
      ∀ op ∈ tableConditions reservedTable "TSelector",
        (∃ read, readModule (op.classText "TSelector" "Selector") = .ok read) ↔
          op.kind ≠ .find := by
  have hcolumns : ∀ c ∈ reservedTable.columns, IsIdentifier c.name := by decide
  have howner : CanCall (builderName reservedTable .selector) := ⟨by decide, by decide⟩
  refine ⟨hcolumns, howner, fun op hop => ?_⟩
  obtain ⟨c, hc, sql, -, -, -, -, -, hread⟩ := (bodies_run_iff reservedTable .selector).2 op hop
  have hnames : ∀ op ∈ tableConditions reservedTable "TSelector",
      (∀ p ∈ op.parameterNames, CanName p) ↔ op.kind ≠ .find := by
    decide
  exact (hread (hcolumns c hc) howner).1.trans (hnames op hop)

end PgSchema.Object
