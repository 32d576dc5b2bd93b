import PgSchema.Codegen.Compilation
import PgSchema.Proofs.Codegen.Constants
import PgSchema.Proofs.Object.Conditions
import PgSchema.Proofs.Schema.RoundTrip

/-!
The tables of a module that runs.

A module makes a constant for each table, one after the other, and then the row of all constants.  A
constant stands for the last table that is called like it, its holder (`execAll_schemas`).  What
the module defines behind the row can take the names of constants away, and the class of the handle
knows some of them by other names.  Where nothing of this is so, and only there, the row is that of
the tables (`row_kept_iff`), and the class finds the table of each constant (`constant_kept_iff`).
-/

namespace PgSchema.Object

open Codegen (Module capitals constantEnd constantIn schemaConstant)
open Session (machine)
open Source (Argument Expr Stmt countedName)
open Text.Normal (basicCount form)

/-! ### Statements of a module -/

/-- The name of the row of all tables. -/
def rowName : String := "SCHEMAS"

/-- The method that reads a table from its text. -/
def readerName : String := "model_validate_json"

/-- The statement that makes the constant of a table, by how names count. -/
def constantStatement (name : String → String) (t : Table) : Stmt :=
  .assign [.name (name (schemaConstant t))]
    (.call (.member (.name (name Table.title)) (name readerName))
      [.plain (.constant (.text t.toText))])

/-- The statement that makes the row of all tables, by how names count. -/
def rowStatement (name : String → String) (tables : List Table) : Stmt :=
  .assign [.name (name rowName)] (.tuple (tables.map fun t => .name (name (schemaConstant t))))

/-- The statements of all tables, by how names count. -/
def schemaStatements (name : String → String) (tables : List Table) : List Stmt :=
  tables.map (constantStatement name) ++ [rowStatement name tables]

/-! ### Statements as they are written -/

/-- A name, a member or a text as it is written. -/
def plainText : Expr → String
  | .name id => id
  | .member e id => plainText e ++ "." ++ id
  | .constant (.text s) => Text.literal s
  | _ => ""

/-- An argument in its place as it is written. -/
def argumentText : Argument → String
  | .plain e => plainText e
  | _ => ""

/-- The lines of an assignment: each argument of a call and each item of a row has its own. -/
def written (indent : String) : Stmt → List String
  | .assign [target] (.call callee arguments) =>
    [plainText target ++ " = " ++ plainText callee ++ "("] ++
      arguments.map (fun a => indent ++ argumentText a) ++ [")"]
  | .assign [target] (.tuple []) => [plainText target ++ " = ()"]
  | .assign [target] (.tuple items) =>
    [plainText target ++ " = ("] ++ items.map (fun e => indent ++ plainText e ++ ",") ++ [")"]
  | _ => []

lemma written_constantStatement (indent : String) (t : Table) :
    written indent (constantStatement id t) =
      [schemaConstant t ++ " = TableDefinition.model_validate_json(",
        indent ++ Text.literal t.toText, ")"] := by
  have hline : schemaConstant t ++ " = " ++ (Table.title ++ "." ++ readerName) ++ "(" =
      schemaConstant t ++ " = TableDefinition.model_validate_json(" := by
    rw [String.append_assoc, String.append_assoc]
    rfl
  rw [← hline]
  rfl

lemma written_rowStatement (indent : String) (tables : List Table) :
    written indent (rowStatement id tables) =
      if tables.isEmpty then ["SCHEMAS = ()"]
      else ["SCHEMAS = ("] ++ tables.map (fun t => indent ++ schemaConstant t ++ ",") ++ [")"] := by
  cases tables with
  | nil => rfl
  | cons t tables =>
    have hitems : ((t :: tables).map fun t => Expr.name (schemaConstant t)).map
        (fun e => indent ++ plainText e ++ ",") =
          (t :: tables).map fun t => indent ++ schemaConstant t ++ "," := List.map_map
    simp only [List.isEmpty_cons, Bool.false_eq_true, if_false, ← hitems]
    rfl

/-- **The constants of a module are written as these statements**, with an empty line between each
two of them. -/
lemma written_schemaStatements (g : Settings.Generation) (m : Module) :
    [""].intercalate ((schemaStatements id m.database.tables).map (written g.indent)) <:+:
      m.constantLines g := by
  have hblocks : ∀ (tables : List Table) (last : List String),
      [""].intercalate ((tables.map fun t => written g.indent (constantStatement id t)) ++ [last]) =
        (tables.flatMap fun t => [schemaConstant t ++ " = TableDefinition.model_validate_json(",
          g.indent ++ Text.literal t.toText, ")", ""]) ++ last := by
    intro tables last
    induction tables with
    | nil => exact List.append_nil last
    | cons t tables ih =>
      rw [List.map_cons, List.cons_append, List.intercalate_cons_of_ne_nil (by simp), ih,
        written_constantStatement]
      rfl
  have hinfix : ∀ front blocks row back rest : List String,
      blocks ++ row <:+: front ++ blocks ++ row ++ back ++ rest :=
    fun front blocks row back rest => ⟨front, back ++ rest, by simp only [List.append_assoc]⟩
  have hlines := hblocks m.database.tables (written g.indent (rowStatement id m.database.tables))
  rw [← Function.comp_def, ← List.map_map, ← List.map_singleton (f := written g.indent),
    ← List.map_append] at hlines
  rw [schemaStatements, hlines, written_rowStatement]
  exact hinfix _ _ _ _ _

/-! ### Names that count as they are -/

/-- A name of basic characters that does not begin with two low lines is the same in all classes. -/
lemma countedName_eq {name : String}
    (hbasic : name.toList.all (fun c => c.toNat < basicCount) = true)
    (hline : "__".toList.isPrefixOf name.toList = false) (owner : String) :
    countedName owner name = name := by
  have hform : form name = name := Text.Normal.form_of_basic fun c hc =>
    of_decide_eq_true (List.all_eq_true.1 hbasic c hc)
  rw [countedName, hform, Source.privateName]
  exact if_neg fun h => Bool.false_ne_true (hline.symm.trans h.1)

lemma countedName_title (owner : String) : countedName owner Table.title = Table.title :=
  countedName_eq (by decide) (by decide) owner

lemma countedName_reader (owner : String) : countedName owner readerName = readerName :=
  countedName_eq (by decide) (by decide) owner

lemma countedName_row (owner : String) : countedName owner rowName = rowName :=
  countedName_eq (by decide) (by decide) owner

/-! ### Constants and their tables -/

/-- The constants with the tables that they are made for. -/
def constants (tables : List Table) : Entries Value :=
  tables.map fun t => (constantIn "" t, .table t)

/-- The row of the tables that constants stand for, given that of each constant. -/
def row (v : Table → Table) (tables : List Table) : Value :=
  .tuple (tables.map fun t => .table (v t))

/-- A course in which names of the module have been assigned to, one after the other. -/
def naming (c : Course State) (names : Entries Value) : Course State :=
  { c with work := { c.work with globals := c.work.globals.merge names } }

/-! ### The table of a constant -/

/-- The last table whose constant is called like that of a table. -/
def holder (tables : List Table) (t : Table) : Table :=
  (tables.reverse.find? fun s => constantIn "" s = constantIn "" t).getD t

section Holders

variable {tables : List Table} {t : Table}

lemma find?_holder (ht : t ∈ tables) :
    (tables.reverse.find? fun s => constantIn "" s = constantIn "" t) =
      some (holder tables t) := by
  obtain ⟨s, hs⟩ :
      ∃ s, (tables.reverse.find? fun s => constantIn "" s = constantIn "" t) = some s := by
    rw [← Option.isSome_iff_exists, List.find?_isSome]
    exact ⟨t, List.mem_reverse.2 ht, decide_eq_true rfl⟩
  rw [holder, hs, Option.getD_some]

/-- **Every table holds its own constant** if and only if the tables are different in capitals. -/
lemma holder_eq_iff (h : tables.Nodup) :
    (∀ t ∈ tables, holder tables t = t) ↔ (tables.map capitals).Nodup := by
  rw [← Codegen.nodup_constantIn_iff, List.nodup_map_iff_inj_on h]
  constructor
  · intro hholder s hs t ht heq
    have hfound : some (holder tables s) = some (holder tables t) := by
      rw [← find?_holder hs, ← find?_holder ht, heq]
    rw [← hholder s hs, ← hholder t ht, Option.some.inj hfound]
  · intro hinj t ht
    have hfound := find?_holder ht
    have hmem := List.mem_reverse.1 (List.mem_of_find?_eq_some hfound)
    have hname := List.find?_some hfound
    exact hinj _ hmem t ht (of_decide_eq_true hname)

/-- **A constant stands for its holder**: the last assignment to its name counts. -/
lemma get?_constants (ht : t ∈ tables) :
    Entries.get? (constants tables).reverse (constantIn "" t) =
      some (.table (holder tables t)) := by
  rw [constants, ← List.map_reverse, Entries.get?_map, find?_holder ht, Option.map_some]

/-- Only tables are in constants, each in its own. -/
lemma eq_of_mem_constants {name : String} (h : (name, Value.table t) ∈ constants tables) :
    name = constantIn "" t := by
  obtain ⟨s, -, heq⟩ := List.mem_map.1 h
  obtain ⟨rfl, hs⟩ := Prod.mk.inj heq
  rw [Value.table.inj hs]

end Holders

/-- What the statements of the tables give names to, one after the other. -/
def schemaNames (tables : List Table) : Entries Value :=
  constants tables ++ [(rowName, row (holder tables) tables)]

/-! ### Runs of the statements -/

section Runs

variable {c : Course State} {tables : List Table} {t : Table}

lemma globals_naming (c : Course State) (name : String) (v : Value) :
    (naming c [(name, v)]).work.globals = c.work.globals.put name v := rfl

lemma naming_append (c : Course State) (first second : Entries Value) :
    naming (naming c first) second = naming c (first ++ second) := by
  have hmerge : (c.work.globals.merge first).merge second =
      c.work.globals.merge (first ++ second) := List.foldl_append.symm
  rw [naming, naming, naming, ← hmerge]

/-- The frame of a module. -/
abbrev moduleFrame : Frame := { place := .module }

lemma lookName_global {name : String} {v : Value}
    (h : c.work.globals.get? name = some v) : lookName moduleFrame name c = (.ok v, c) :=
  lookName_apply (by rw [h]; rfl)

/-- A statement that assigns to a name of the module. -/
lemma exec_assign {m : Machine} {name : String} {e : Expr} {v : Value} {d : Course State}
    (h : eval m moduleFrame e c = (.ok v, d)) :
    exec m moduleFrame (.assign [.name name] e) c =
      (.ok (moduleFrame, none), naming d [(name, v)]) := by
  rw [exec, Action.bind_apply_ok h]
  rfl

/-- Statements behind one that does not end the run. -/
lemma execAll_cons {m : Machine} {fr fr' : Frame} {s : Stmt} {d : Course State}
    (h : exec m fr s c = (.ok (fr', none), d)) (rest : List Stmt) :
    execAll m fr (s :: rest) c = execAll m fr' rest d := by
  rw [execAll, Action.bind_apply_ok h]

/-- The class of tables reads a text as a table. -/
lemma call_reader (n : Nat) (s : String) :
    (machine (n + 2)).call (.method (.cls (.known Table.title)) (.known Table.title readerName))
      [.text s] [] c = (Action.check (Table.ofText s) >>= fun t => pure (.table t)) c := rfl

/-- The class of tables reads a table from its text. -/
lemma eval_reader (h : t.IsValid) (n : Nat)
    (hreader : c.work.globals.get? Table.title = some (.cls (.known Table.title))) :
    eval (machine (n + 2)) moduleFrame (.call (.member (.name Table.title) readerName)
      [.plain (.constant (.text t.toText))]) c = (.ok (.table t), c) := by
  let reader : Value := .method (.cls (.known Table.title)) (.known Table.title readerName)
  have hcallee : eval (machine (n + 2)) moduleFrame (.member (.name Table.title) readerName) c =
      (.ok reader, c) := by
    rw [eval, eval, Action.bind_apply_ok (lookName_global hreader)]
    rfl
  have hargument : evalArguments (machine (n + 2)) moduleFrame reader [] []
      [.plain (.constant (.text t.toText))] c = (.ok ([.text t.toText], []), c) := by
    rw [evalArguments_constant, evalArguments]
    rfl
  have hread : Table.ofText t.toText = .ok t := Table.ofText_toText (Table.isValid_iff.1 h)
  have hcall := call_reader (c := c) n t.toText
  rw [hread] at hcall
  rw [eval, Action.bind_apply_ok hcallee, Action.bind_apply_ok hargument]
  exact hcall

/-- **The statement of a constant** gives it its table. -/
lemma exec_constant (h : t.IsValid) (n : Nat)
    (hreader : c.work.globals.get? Table.title = some (.cls (.known Table.title))) :
    exec (machine (n + 2)) moduleFrame (constantStatement (countedName "") t) c =
      (.ok (moduleFrame, none), naming c [(constantIn "" t, .table t)]) := by
  rw [constantStatement, countedName_title, countedName_reader]
  exact exec_assign (eval_reader h n hreader)

/-- The statements of constants give each of them its table. -/
lemma execAll_constants (hvalid : ∀ t ∈ tables, t.IsValid) (n : Nat) (rest : List Stmt)
    (hreader : c.work.globals.get? Table.title = some (.cls (.known Table.title))) :
    execAll (machine (n + 2)) moduleFrame
        (tables.map (constantStatement (countedName "")) ++ rest) c =
      execAll (machine (n + 2)) moduleFrame rest (naming c (constants tables)) := by
  induction tables generalizing c with
  | nil => rfl
  | cons t tables ih =>
    obtain ⟨ht, htables⟩ := List.forall_mem_cons.1 hvalid
    have hend : ¬ constantEnd.toList <:+ Table.title.toList := by decide
    have hne : Table.title ≠ constantIn "" t := (Codegen.constantIn_ne hend).symm
    have hstill : (naming c [(constantIn "" t, .table t)]).work.globals.get? Table.title =
        some (.cls (.known Table.title)) := by
      rw [globals_naming, Entries.get?_put_of_ne hne, hreader]
    rw [List.map_cons, List.cons_append, execAll_cons (exec_constant ht n hreader),
      ih htables hstill, naming_append]
    rfl

/-- The names of a row stand for its items. -/
lemma evalItems_names (m : Machine) {v : Table → Value}
    (h : ∀ t ∈ tables, c.work.globals.get? (constantIn "" t) = some (v t)) :
    evalItems m moduleFrame (tables.map fun t => .name (countedName "" (schemaConstant t))) c =
      (.ok (tables.map v), c) := by
  induction tables with
  | nil => rw [List.map_nil, evalItems]; rfl
  | cons t tables ih =>
    obtain ⟨ht, htables⟩ := List.forall_mem_cons.1 h
    have hname : eval m moduleFrame (.name (countedName "" (schemaConstant t))) c =
        (.ok (v t), c) := eval_name (lookName_global ht) m
    rw [List.map_cons, evalItems, Action.bind_apply_ok hname, Action.bind_apply_ok (ih htables)]
    · rfl
    · intro inner h
      cases h

/-- **The statements of the tables** give every constant its table, and the row the tables that the
constants stand for in the end. -/
lemma execAll_schemas (hvalid : ∀ t ∈ tables, t.IsValid) (n : Nat)
    (hreader : c.work.globals.get? Table.title = some (.cls (.known Table.title))) :
    execAll (machine (n + 2)) moduleFrame (schemaStatements (countedName "") tables) c =
      (.ok (moduleFrame, none), naming c (schemaNames tables)) := by
  have hnames : ∀ t ∈ tables, (naming c (constants tables)).work.globals.get? (constantIn "" t) =
      some (.table (holder tables t)) := by
    intro t ht
    rw [naming, Entries.get?_merge, get?_constants ht, Option.some_or]
  have hrow : eval (machine (n + 2)) moduleFrame
      (.tuple (tables.map fun t => .name (countedName "" (schemaConstant t))))
        (naming c (constants tables)) =
          (.ok (row (holder tables) tables), naming c (constants tables)) := by
    rw [eval, Action.bind_apply_ok (evalItems_names _ hnames)]
    rfl
  rw [schemaStatements, execAll_constants hvalid n _ hreader, rowStatement, countedName_row,
    execAll_cons (exec_assign hrow), naming_append, execAll]
  rfl

end Runs

/-! ### Names at the end of a module -/

/-- The value is a table, or a row that can be one of tables. -/
def Value.isSchema : Value → Bool
  | .table _ | .tuple _ => true
  | _ => false

/-- The names that a module gives to something else behind its tables: to the models by table, and
to classes, of which that of the handle is the last. -/
def laterNames (m : Module) : List String :=
  "MODELS" :: (m.classes.map (·.name) ++ [m.database.className]).map form

section Ends

variable {earlier later : Entries Value} {tables : List Table} {t : Table} {name : String}
  {v w : Value}

lemma Value.ne_of_isSchema (hw : w.isSchema = false) (hv : v.isSchema = true) : w ≠ v := by
  rintro rfl
  rw [hv] at hw
  cases hw

/-- A table or a row stays where no name behind it is the same. -/
lemma get?_schema_iff (hearlier : ∀ e ∈ earlier, e.2.isSchema = false)
    (hlater : ∀ e ∈ later, e.2.isSchema = false) (names : Entries Value)
    (hv : v.isSchema = true) : (earlier.merge (names ++ later)).get? name = some v ↔
      Entries.get? names.reverse name = some v ∧ name ∉ later.keys := by
  have happend : Entries.get? (names ++ later).reverse name =
      (Entries.get? later.reverse name).or (Entries.get? names.reverse name) := by
    rw [List.reverse_append]
    exact List.lookup_append
  have hearlier' : earlier.get? name ≠ some v := fun h =>
    Value.ne_of_isSchema (hearlier _ (Entries.mem_of_get? h)) hv rfl
  have hkeys : Entries.keys later.reverse = later.keys.reverse := List.map_reverse
  rw [Entries.get?_merge, happend]
  cases hfound : Entries.get? later.reverse name with
  | none =>
    have hname : name ∉ later.keys := by
      have hnone := Entries.get?_eq_none_iff.1 hfound
      rwa [hkeys, List.mem_reverse] at hnone
    rw [Option.none_or, and_iff_left hname]
    cases Entries.get? names.reverse name with
    | none => simpa using hearlier'
    | some w => rfl
  | some w =>
    have hmem : (name, w) ∈ later := List.mem_reverse.1 (Entries.mem_of_get? hfound)
    have hw : w ≠ v := Value.ne_of_isSchema (hlater _ hmem) hv
    exact iff_of_false (fun h => hw (Option.some.inj h)) fun h => h.2 (Entries.mem_keys hmem)

lemma row_eq_iff : row (holder tables) tables = row id tables ↔
    ∀ t ∈ tables, holder tables t = t := by
  unfold row
  rw [Value.tuple.injEq, List.map_inj_left]
  exact forall₂_congr fun t _ => by rw [Value.table.injEq]; rfl

/-- **The row is that of the tables** if and only if they are different in capitals and nothing else
is called like the row. -/
lemma row_kept_iff (h : tables.Nodup) (hearlier : ∀ e ∈ earlier, e.2.isSchema = false)
    (hlater : ∀ e ∈ later, e.2.isSchema = false) :
    (earlier.merge (schemaNames tables ++ later)).get? rowName = some (row id tables) ↔
      (tables.map capitals).Nodup ∧ rowName ∉ later.keys := by
  have hrow : Entries.get? (schemaNames tables).reverse rowName =
      some (row (holder tables) tables) := by
    rw [schemaNames, List.reverse_append]
    exact List.lookup_cons_self
  rw [get?_schema_iff hearlier hlater _ rfl, hrow, Option.some_inj, row_eq_iff, holder_eq_iff h]

/-- **A class finds the table of a constant** if and only if the table holds the constant, the class
knows the constant by its own name, and nothing else is called like it. -/
lemma constant_kept_iff (ht : t ∈ tables) (hearlier : ∀ e ∈ earlier, e.2.isSchema = false)
    (hlater : ∀ e ∈ later, e.2.isSchema = false) (owner : String) :
    (earlier.merge (schemaNames tables ++ later)).get? (constantIn owner t) = some (.table t) ↔
      holder tables t = t ∧ constantIn owner t = constantIn "" t ∧
        constantIn "" t ∉ later.keys := by
  have hend : ¬ constantEnd.toList <:+ rowName.toList := by decide
  have hne : constantIn owner t ≠ rowName := Codegen.constantIn_ne hend
  have hconstants : Entries.get? (schemaNames tables).reverse (constantIn owner t) =
      Entries.get? (constants tables).reverse (constantIn owner t) := by
    rw [schemaNames, List.reverse_append, Entries.get?, List.reverse_singleton,
      List.singleton_append, List.lookup_cons, beq_false_of_ne hne]
    rfl
  rw [get?_schema_iff hearlier hlater _ rfl, hconstants]
  constructor
  · rintro ⟨hfound, hkeys⟩
    have hname : constantIn owner t = constantIn "" t :=
      eq_of_mem_constants (List.mem_reverse.1 (Entries.mem_of_get? hfound))
    rw [hname] at hfound hkeys
    rw [get?_constants ht, Option.some_inj, Value.table.injEq] at hfound
    exact ⟨hfound, hname, hkeys⟩
  · rintro ⟨hholder, hname, hkeys⟩
    rw [hname, get?_constants ht, hholder]
    exact ⟨rfl, hkeys⟩

end Ends

end PgSchema.Object
