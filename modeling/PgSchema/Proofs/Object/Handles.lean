import Mathlib.Data.List.Forall2
import PgSchema.Proofs.Codegen.Surface
import PgSchema.Proofs.Object.Schemas

/-!
The methods of a handle that work with a schema.

Such a method hands the constant of its table on, to a method of the connection or to a class of the
table (`SchemaCall`).  What the constant stands for when the method is called is what the method
works with (`eval_schemaCall`), so a table is served if and only if its constant stands for it
(`serves_iff`).  From this and from what a module makes of its tables it follows which tables keep
their own schema (`tables_kept_iff`).
-/

namespace PgSchema.Object

open Codegen (Module Operation Statement capitals constantEnd constantIn schemaConstant
  tableOperations)
open Session (machine)
open Source (Argument Expr countedName)
open Text.Normal (basicCount form)

/-! ### Schemas that are handed on -/

/-- What a schema is handed on to. -/
inductive Receiver where
  /-- A method of the connection of the handle. -/
  | method (name : String)
  /-- A class, which is called on the connection first. -/
  | cls (name : String)

/-- A call that hands a schema on: the constant of the schema, and the parameters behind it. -/
structure SchemaCall where
  receiver : Receiver
  schema : String
  others : List String

/-- The call of a statement that hands a schema on. -/
def schemaCall? : Statement → Option SchemaCall
  | .load schema => some ⟨.method "new_model_from_row", schema, ["row"]⟩
  | .create schema => some ⟨.method "create_model", schema, ["factory"]⟩
  | .derive builder schema => some ⟨.cls builder, schema, []⟩
  | .prepare inserter schema => some ⟨.cls inserter, schema, ["on_conflict", "skip_auto_id"]⟩
  | _ => none

namespace SchemaCall

/-- The connection of the handle, by how names count. -/
def connection (name : String → String) : Expr := .member (.name (name "self")) (name "connection")

/-- The call as an expression, by how names count. -/
def expr (name : String → String) (h : SchemaCall) : Expr :=
  let arguments : List Argument := (h.schema :: h.others).map fun a => .plain (.name (name a))
  match h.receiver with
  | .method m => .call (.member (connection name) (name m)) arguments
  | .cls c => .call (.name (name c)) (.plain (connection name) :: arguments)

/-- The call as it is made, with the connection, the class, the schema and the other arguments. -/
def run (m : Machine) (connection cls schema : Value) (others : List Value) (h : SchemaCall) :
    Run Value :=
  match h.receiver with
  | .method name => m.callMethod connection name (schema :: others)
  | .cls _ => m.call cls (connection :: schema :: others) []

/-- The class that is called. -/
def cls? (h : SchemaCall) : Option String :=
  match h.receiver with
  | .method _ => none
  | .cls name => some name

end SchemaCall

/-- A call as it is written. -/
def callText : Expr → String
  | .call callee arguments =>
    plainText callee ++ "(" ++ ", ".intercalate (arguments.map argumentText) ++ ")"
  | e => plainText e

/-- **A method is written as its call.** -/
lemma lines_schemaCall {s : Statement} {h : SchemaCall} (hs : schemaCall? s = some h) :
    s.lines = ["return " ++ callText (h.expr id)] := by
  cases s <;> cases hs <;> refine congrArg (fun line => [line]) (String.toList_inj.1 ?_) <;>
    simp only [SchemaCall.expr, SchemaCall.connection, callText, plainText, argumentText, id,
      List.map_cons, List.map_nil, String.toList_append, String.toList_intercalate,
      List.intercalate_cons_cons, List.intercalate_singleton, List.append_assoc] <;> rfl

/-! ### Methods that run -/

/-- A method is called on a handle: its names are the handle and its parameters, the connection is
that of the handle, and to look for a member of the connection changes nothing. -/
structure Called (m : Machine) (op : Operation) (handle connection : Value) (args : List Value)
    (fr : Frame) (c : Course State) : Prop where
  names : fr.names = ("self", handle) :: op.parameterNames.zip args
  length : op.parameterNames.length = args.length
  connected : m.member handle "connection" c = (.ok connection, c)
  quiet : ∀ name, ∃ found, m.member connection name c = (found, c)

/-- **The methods for a table work with it**, where a module ends with names: each of them that
hands a schema on hands on the table, in any call and whatever comes of it. -/
def Serves (owner : String) (globals : Entries Value) (t : Table) : Prop :=
  ∀ op ∈ tableOperations t, ∀ s ∈ op.body, ∀ h, schemaCall? s = some h →
    ∀ (m : Machine) (handle connection cls : Value) (args : List Value) (fr : Frame)
      (c : Course State), Called m op handle connection args fr c → c.work.globals = globals →
        (∀ name ∈ h.cls?, lookName fr (countedName owner name) c = (.ok cls, c)) →
          eval m fr (h.expr (countedName owner)) c = h.run m connection cls (.table t) args c

section Methods

variable {m : Machine} {handle connection cls v : Value} {args : List Value} {fr : Frame}
  {c : Course State} {t : Table} {op : Operation} {s : Statement} {h : SchemaCall}
  {name owner : String} {globals : Entries Value}

lemma languageName?_ne : languageName? name ≠ some (.table t) := by
  unfold languageName?
  intro h
  split_ifs at h
  · cases h
  · cases h
  · split at h <;> cases h

/-- Names as arguments. -/
lemma evalArguments_names {names : List String} {values : List Value} {count : String → String}
    (hnames : List.Forall₂ (fun a v => lookName fr (count a) c = (.ok v, c)) names values)
    (f : Value) (given : List Value) :
    evalArguments m fr f given [] (names.map fun a => .plain (.name (count a))) c =
      (.ok (given ++ values, []), c) := by
  induction hnames generalizing given with
  | nil => rw [List.map_nil, evalArguments, List.append_nil]; rfl
  | cons hname _ ih =>
    rw [List.map_cons, evalArguments_name hname, ih, List.append_assoc]
    rfl

/-- The methods for a table hand on its constant and their own parameters. -/
lemma schemaCall_eq (hop : op ∈ tableOperations t) (hs : s ∈ op.body)
    (h' : schemaCall? s = some h) :
    h.schema = schemaConstant t ∧ h.others = op.parameterNames := by
  simp only [tableOperations, List.mem_cons, List.not_mem_nil, or_false] at hop
  rcases hop with rfl | rfl | rfl | rfl | rfl | rfl | rfl | rfl <;>
    rw [List.mem_singleton.1 hs] at h' <;> cases h' <;> exact ⟨rfl, rfl⟩

/-- The methods of the connection are called alike in all classes. -/
lemma receiver_plain (h' : schemaCall? s = some h) (hname : h.receiver = .method name) :
    name.toList.all (fun c => c.toNat < basicCount) = true ∧
      "__".toList.isPrefixOf name.toList = false := by
  have hplain : ∀ name ∈ ["new_model_from_row", "create_model"],
      name.toList.all (fun c => c.toNat < basicCount) = true ∧
        "__".toList.isPrefixOf name.toList = false := by decide
  apply hplain
  cases s <;> cases h' <;> cases hname <;> decide

/-- The names of the methods for a table, the handle first. -/
lemma parameterNames_mem (hop : op ∈ tableOperations t) :
    "self" :: op.parameterNames ∈ [["self"], ["self", "row"], ["self", "factory"],
      ["self", "model"], ["self", "on_conflict", "skip_auto_id"]] := by
  simp only [tableOperations, List.mem_cons, List.not_mem_nil, or_false] at hop
  rcases hop with rfl | rfl | rfl | rfl | rfl | rfl | rfl | rfl <;>
    simp [Operation.parameterNames]

/-- They are different, are the same in all classes, and none of them ends like a constant. -/
lemma parameterNames_plain (hop : op ∈ tableOperations t) :
    ("self" :: op.parameterNames).Nodup ∧ ∀ p ∈ "self" :: op.parameterNames,
      (∀ owner, countedName owner p = p) ∧ ¬ constantEnd.toList <:+ p.toList := by
  have hplain : ∀ names ∈ [["self"], ["self", "row"], ["self", "factory"], ["self", "model"],
      ["self", "on_conflict", "skip_auto_id"]], names.Nodup ∧ ∀ p ∈ names,
        (p.toList.all (fun c => c.toNat < basicCount) = true ∧
          "__".toList.isPrefixOf p.toList = false) ∧ ¬ constantEnd.toList <:+ p.toList := by decide
  obtain ⟨hnodup, hnames⟩ := hplain _ (parameterNames_mem hop)
  exact ⟨hnodup, fun p hp => ⟨countedName_eq (hnames p hp).1.1 (hnames p hp).1.2, (hnames p hp).2⟩⟩

namespace Called

/-- The handle is found. -/
lemma lookName_self (hm : Called m op handle connection args fr c) :
    lookName fr "self" c = (.ok handle, c) := by
  refine lookName_own ?_ c
  rw [hm.names]
  exact List.lookup_cons_self

lemma keys (hm : Called m op handle connection args fr c) :
    fr.names.keys = "self" :: op.parameterNames := by
  rw [hm.names, Entries.keys, List.map_cons]
  exact congrArg _ (List.map_fst_zip hm.length.le)

/-- The parameters of a method stand for its arguments. -/
lemma lookName_parameters (hm : Called m op handle connection args fr c)
    (hop : op ∈ tableOperations t) (owner : String) :
    List.Forall₂ (fun a v => lookName fr (countedName owner a) c = (.ok v, c))
      op.parameterNames args := by
  obtain ⟨hnodup, hplain⟩ := parameterNames_plain hop
  refine List.forall₂_iff_zip.2 ⟨hm.length, fun {a v} hav => ?_⟩
  rw [← hm.keys] at hnodup
  have hmem : (a, v) ∈ fr.names := by
    rw [hm.names]
    exact List.mem_cons_of_mem _ hav
  rw [(hplain a (List.mem_cons_of_mem _ (List.of_mem_zip hav).1)).1]
  exact lookName_own ((Entries.get?_eq_some_iff hnodup).2 hmem) c

/-- The connection of the handle is found. -/
lemma eval_connection (hm : Called m op handle connection args fr c) (owner : String) :
    eval m fr (SchemaCall.connection (countedName owner)) c = (.ok connection, c) := by
  have hself : countedName owner "self" = "self" := countedName_eq (by decide) (by decide) owner
  have hconnection : countedName owner "connection" = "connection" :=
    countedName_eq (by decide) (by decide) owner
  rw [SchemaCall.connection, hself, hconnection, eval,
    Action.bind_apply_ok (eval_name hm.lookName_self m), hm.connected]

/-- **The call of a method is made** with what the constant of its schema stands for. -/
lemma eval_schemaCall (hm : Called m op handle connection args fr c) (hop : op ∈ tableOperations t)
    (hs : s ∈ op.body) (h' : schemaCall? s = some h)
    (hcls : ∀ name ∈ h.cls?, lookName fr (countedName owner name) c = (.ok cls, c))
    (hv : lookName fr (constantIn owner t) c = (.ok v, c)) :
    eval m fr (h.expr (countedName owner)) c = h.run m connection cls v args c := by
  obtain ⟨hschema, hothers⟩ := schemaCall_eq hop hs h'
  have hnames : List.Forall₂ (fun a v => lookName fr (countedName owner a) c = (.ok v, c))
      (h.schema :: h.others) (v :: args) := by
    rw [hschema, hothers]
    exact .cons hv (hm.lookName_parameters hop owner)
  cases hreceiver : h.receiver with
  | method name =>
    have hname : countedName owner name = name := by
      have hplain := receiver_plain h' hreceiver
      exact countedName_eq hplain.1 hplain.2 owner
    have hcallee : eval m fr (.member (SchemaCall.connection (countedName owner)) name) c =
        m.member connection name c := by
      rw [eval, Action.bind_apply_ok (hm.eval_connection owner)]
    simp only [SchemaCall.expr, SchemaCall.run, Machine.callMethod, hreceiver, hname]
    rw [eval]
    -- the method is looked for before the arguments: where there is none, both sides fail alike
    obtain ⟨e | f, hfound⟩ := hm.quiet name
    · rw [Action.bind_apply_error (hcallee.trans hfound), Action.bind_apply_error hfound]
    · rw [Action.bind_apply_ok (hcallee.trans hfound), Action.bind_apply_ok hfound,
        Action.bind_apply_ok (evalArguments_names hnames f [])]
      rfl
  | cls name =>
    have hcallee : eval m fr (.name (countedName owner name)) c = (.ok cls, c) :=
      eval_name (hcls name (by rw [SchemaCall.cls?, hreceiver]; rfl)) m
    have hgiven : evalArguments m fr cls [] []
        (.plain (SchemaCall.connection (countedName owner)) ::
          (h.schema :: h.others).map fun a => .plain (.name (countedName owner a))) c =
            (.ok (connection :: v :: args, []), c) := by
      rw [evalArguments_plain _ (hm.eval_connection owner), evalArguments_names hnames]
      · rfl
      · intro inner h
        cases h
    simp only [SchemaCall.expr, SchemaCall.run, hreceiver]
    rw [eval, Action.bind_apply_ok hcallee, Action.bind_apply_ok hgiven]

end Called

/-- A constant is called like no parameter of a method for its table. -/
lemma constantIn_notMem (hop : op ∈ tableOperations t) (owner : String) :
    constantIn owner t ∉ "self" :: op.parameterNames := fun hmem =>
  ((parameterNames_plain hop).2 _ hmem).2 (Codegen.suffix_constantIn owner t)

/-- A name that is not one of a function is one of the module or of the language, or there is none
like it. -/
lemma lookName_outer (hname : name ∉ fr.names.keys) (c : Course State) :
    (∃ v, (c.work.globals.get? name).or (languageName? name) = some v ∧
      lookName fr name c = (.ok v, c)) ∨ ∃ e, lookName fr name c = (.error e, c) := by
  have hnone : fr.names.get? name = none := Entries.get?_eq_none_iff.2 hname
  cases hfound : (c.work.globals.get? name).or (languageName? name) with
  | some v => exact .inl ⟨v, rfl, lookName_apply (by rw [hnone, Option.none_or, hfound])⟩
  | none =>
    refine .inr ⟨.fault (.undefinedName name), ?_⟩
    rw [lookName, Action.bind_apply_ok (work_apply c), hnone, Option.none_or, hfound]
    rfl

/-- A call cannot be made where there is no name like its first argument. -/
lemma eval_call_unbound {callee : Expr} {e : Failure}
    (hcallee : eval m fr callee c = (.ok v, c)) (hname : lookName fr name c = (.error e, c))
    (rest : List Argument) : eval m fr (.call callee (.plain (.name name) :: rest)) c =
      (.error e, c) := by
  have hargument : eval m fr (.name name) c = (.error e, c) := by rw [eval, hname]
  have hgiven : evalArguments m fr v [] [] (.plain (.name name) :: rest) c = (.error e, c) := by
    rw [evalArguments, Action.bind_apply_error hargument]
    intro inner h
    cases h
  rw [eval, Action.bind_apply_ok hcallee, Action.bind_apply_error hgiven]

/-- A machine in which a call gives its arguments back, and a value is each of its members. -/
def mirror : Machine where
  call _ given _ := return .tuple given
  member v _ := return v

/-- **A table is served** if and only if its constant stands for it, as the class of the handle
knows the constant. -/
lemma serves_iff (c : Course State) :
    Serves owner globals t ↔ globals.get? (constantIn owner t) = some (.table t) := by
  constructor
  · intro hserves
    -- a row is loaded in a machine that shows what the constant stands for
    let fr : Frame := { place := .function, names := [("self", .null), ("row", .null)] }
    let c' : Course State := { c with work := { c.work with globals } }
    let op : Operation := (tableOperations t).head (List.cons_ne_nil _ _)
    have hop : op ∈ tableOperations t := List.mem_cons_self
    have hs : .load (schemaConstant t) ∈ op.body := List.mem_cons_self
    have hm : Called mirror op .null .null [.null] fr c' := ⟨rfl, rfl, rfl, fun _ => ⟨_, rfl⟩⟩
    have hcls : ∀ name ∈ (none : Option String),
        lookName fr (countedName owner name) c' = (.ok .null, c') := by
      intro name h
      cases h
    have hload := hserves op hop _ hs _ rfl mirror .null .null .null [.null] fr c' hm rfl hcls
    have hname : constantIn owner t ∉ fr.names.keys := constantIn_notMem hop owner
    rcases lookName_outer hname c' with ⟨v, hfound, hv⟩ | ⟨e, he⟩
    · rw [hm.eval_schemaCall hop hs rfl hcls hv] at hload
      obtain ⟨⟩ : v = .table t := by cases hload; rfl
      exact (Option.or_eq_some_iff.1 hfound).resolve_right fun h => languageName?_ne h.2
    · have hcallee : eval mirror fr (.member (SchemaCall.connection (countedName owner))
          (countedName owner "new_model_from_row")) c' = (.ok .null, c') := by
        rw [eval, Action.bind_apply_ok (hm.eval_connection owner)]
        rfl
      have hunbound := eval_call_unbound hcallee he [.plain (.name (countedName owner "row"))]
      cases hunbound.symm.trans hload
  · rintro hfound op hop s hs h h' m handle connection cls args fr c hm rfl hcls
    have hname : constantIn owner t ∉ fr.names.keys := by
      rw [hm.keys]
      exact constantIn_notMem hop owner
    have hnone : fr.names.get? (constantIn owner t) = none := Entries.get?_eq_none_iff.2 hname
    exact hm.eval_schemaCall hop hs h' hcls
      (lookName_apply (by rw [hnone, Option.none_or, hfound, Option.some_or]))

end Methods

/-! ### Tables that are kept -/

/-- **Which tables of a module keep their own schema**.  As they are written, constants are
different if and only if the models are in capitals.  The statements of the tables are those of the
module, and the calls those of its methods.  The statements run to their end, and each constant
stands for the last table that is called like it.  Whatever the module defines behind them, the row
is that of the tables if and only if the models are different in capitals and normal form, and no
class takes the name of the row; and the methods for each table work with it if and only if the
models are different like that, and every constant is called inside the class of the handle as it
is in the module, and like no class.  Models with basic names are different in capitals, since they
are in snake case. -/
theorem tables_kept_iff {m : Module} {c : Course State} (haccepted : m.database.IsAccepted)
    (hvalid : ∀ t ∈ m.database.tables, t.IsValid) (n : Nat)
    (hreader : c.work.globals.get? Table.title = some (.cls (.known Table.title)))
    (hearlier : ∀ e ∈ c.work.globals, e.2.isSchema = false) :
    ((m.database.tables.map schemaConstant).Nodup ↔
        (m.database.tables.map fun t => Text.upper t.snakeName).Nodup) ∧
      (∀ g : Settings.Generation,
        [""].intercalate ((schemaStatements id m.database.tables).map (written g.indent)) <:+:
          m.constantLines g) ∧
      (∀ (s : Statement) (h : SchemaCall), schemaCall? s = some h →
        s.lines = ["return " ++ callText (h.expr id)]) ∧
      execAll (machine (n + 2)) moduleFrame
          (schemaStatements (countedName "") m.database.tables) c =
        (.ok (moduleFrame, none), naming c (schemaNames m.database.tables)) ∧
      (∀ later : Entries Value, later.keys = laterNames m →
        (∀ e ∈ later, e.2.isSchema = false) →
          ((naming (naming c (schemaNames m.database.tables)) later).work.globals.get? rowName =
              some (.tuple (m.database.tables.map .table)) ↔
            (m.database.tables.map capitals).Nodup ∧ rowName ∉ laterNames m) ∧
          ((∀ t ∈ m.database.tables, Serves (form m.database.className)
              (naming (naming c (schemaNames m.database.tables)) later).work.globals t) ↔
            (m.database.tables.map capitals).Nodup ∧ ∀ t ∈ m.database.tables,
              constantIn (form m.database.className) t = constantIn "" t ∧
                constantIn "" t ∉ laterNames m)) ∧
      ((∀ t ∈ m.database.tables, ∀ c ∈ t.modelName.toList, c.toNat < basicCount) →
        (m.database.tables.map capitals).Nodup) := by
  obtain ⟨hnames, hmodels⟩ := haccepted.namesApart
  have hnodup : m.database.tables.Nodup := hnames.of_map
  refine ⟨Codegen.nodup_schemaConstant_iff, fun g => written_schemaStatements g m,
    fun s h => lines_schemaCall, execAll_schemas hvalid n hreader, fun later hkeys hlater => ?_,
    fun hbasic => Codegen.nodup_capitals_of_basic hbasic hmodels⟩
  rw [naming_append, ← hkeys]
  refine ⟨row_kept_iff hnodup hearlier hlater, ?_⟩
  rw [← holder_eq_iff hnodup, ← forall₂_and]
  refine forall₂_congr fun t ht => ?_
  rw [serves_iff c]
  exact constant_kept_iff ht hearlier hlater _

/-! ### A sharp s -/

namespace Sharp

/-- Two tables whose models are told apart in small letters only: a sharp s is a double S in
capitals. -/
def database : Database where
  package := "p"
  className := "D"
  tables := [("t", "Straße"), ("u", "Strasse")].map fun p => Table.ofColumns p.1 p.2
    [⟨"a", "a", .int, false, true, false, false, .none⟩]

/-- The module of the tables where its statements begin. -/
def start : Course State where
  work :=
    { world := ⟨database.tables, ⟨⟨[], none⟩, ⟨"2026-10-19", "00:00:00"⟩, []⟩⟩
      globals := [(Table.title, .cls (.known Table.title))] }

/-- The names behind the tables: all of them are of classes. -/
def later : Entries Value :=
  (laterNames (Codegen.moduleOf database)).map fun name => (name, .cls (.known "object"))

end Sharp

open Sharp in
/-- These two tables have one constant: the row is not theirs, and not all methods work with their
own. -/
theorem tables_kept_iff_sharp : database.IsAccepted ∧ (∀ t ∈ database.tables, t.IsValid) ∧
    ¬ (database.tables.map schemaConstant).Nodup ∧
    (naming (naming start (schemaNames database.tables)) later).work.globals.get? rowName ≠
      some (.tuple (database.tables.map .table)) ∧
    ¬ ∀ t ∈ database.tables, Serves (form database.className)
      (naming (naming start (schemaNames database.tables)) later).work.globals t := by
  have haccepted : database.IsAccepted :=
    .inl ⟨.text "p", .text "D", _, Database.ofTables_eq_ok_iff.2 ⟨rfl, rfl, rfl, by decide⟩⟩
  have hvalid : ∀ t ∈ database.tables, t.IsValid := by
    intro t ht
    refine Table.isValid_iff.2 ?_
    rcases List.mem_pair.1 ht with rfl | rfl
    all_goals exact ⟨by decide, List.forall_mem_singleton.2 ⟨by decide, by decide⟩, by decide,
      by decide, by decide, by decide, by decide, by decide, by decide⟩
  have hupper : ¬ (database.tables.map fun t => Text.upper t.snakeName).Nodup := by decide +kernel
  have hcapitals : ¬ (database.tables.map capitals).Nodup := by decide +kernel
  have hkeys : later.keys = laterNames (Codegen.moduleOf database) := by
    rw [later, Entries.keys, List.map_map]
    exact List.map_id _
  have hlater : ∀ e ∈ later, e.2.isSchema = false := by
    intro e he
    obtain ⟨name, -, rfl⟩ := List.mem_map.1 he
    rfl
  have hearlier : ∀ e ∈ start.work.globals, e.2.isSchema = false :=
    List.forall_mem_singleton.2 rfl
  obtain ⟨hconstants, -, -, -, hkept, -⟩ :=
    tables_kept_iff (m := Codegen.moduleOf database) (c := start) haccepted hvalid 0 rfl hearlier
  obtain ⟨hrow, hmethods⟩ := hkept later hkeys hlater
  exact ⟨haccepted, hvalid, fun h => hupper (hconstants.1 h), fun h => hcapitals (hrow.1 h).1,
    fun h => hcapitals (hmethods.1 h).1⟩

end PgSchema.Object
