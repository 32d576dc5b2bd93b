import Mathlib.Data.List.Nodup
import PgSchema.Proofs.Query.Reading
import PgSchema.Query.Inserter

/-!
Insertions read back from their text.

The statement of an insertion says where it writes, which columns, what becomes of a row that is in
conflict with the one that it inserts, and what it returns.  A reader that knows nothing but this
grammar finds all of it in the statement (`Insertion.read?_text`), whatever the names are, and the
statement that is prepared is such a statement (`Inserter.text_said`).  What it does to a row in
conflict is told by `Insertion.settle?`: with a policy that replaces rows, the row takes over every
column that is written, and keeps every other one (`Resolves.settle?_replace`).
-/

namespace PgSchema.Query

open Identifier (mark quote)
open IndexStatement (afterWord?)

/-! ### What insertions say -/

/-- **What a statement does about a row** that is in conflict with the one that it inserts. -/
inductive Conflict where
  /-- The statement fails. -/
  | fails
  /-- Nothing is inserted, if the conflict is about a column, or about anything. -/
  | skips (target : Option String)
  /-- If the conflict is about a column, then columns of the row that is there take over values of
  columns of the other row. -/
  | writes (target : String) (assignments : List (String × String))
  deriving DecidableEq, Repr

/-- **What an insertion says**: the table, the columns that are written, what becomes of a row in
conflict, and the column that is returned. -/
structure Insertion where
  table : String
  columns : List String
  conflict : Conflict
  returning : Option String
  deriving DecidableEq, Repr

/-! ### Insertions as they are written -/

/-- An assignment as it is written. -/
def assignmentText (p : String × String) : String := quote p.1 ++ " = EXCLUDED." ++ quote p.2

/-- The columns that are written, and a mark for each of them. -/
def columnsText (columns : List String) : String :=
  if columns = [] then " DEFAULT VALUES"
  else
    " (" ++ ", ".intercalate (columns.map quote) ++ ") VALUES (" ++
      Conditions.placeholders columns.length ++ ")"

/-- The column that is returned. -/
def returningText : Option String → String
  | some name => " RETURNING " ++ quote name
  | none => ""

namespace Conflict

/-- The column that a conflict is about. -/
def targetText (target : String) : String := " ON CONFLICT (" ++ quote target ++ ") DO "

/-- What is said about a row in conflict, as it is written. -/
def text : Conflict → String
  | fails => ""
  | skips none => " ON CONFLICT DO NOTHING"
  | skips (some target) => targetText target ++ "NOTHING"
  | writes target assignments =>
    targetText target ++ "UPDATE SET " ++ ", ".intercalate (assignments.map assignmentText)

/-- Where columns are assigned, there is one at least. -/
def Fits : Conflict → Prop
  | writes _ assignments => assignments ≠ []
  | _ => True

/-- What is said about a row of which columns are assigned, if there are any. -/
def assigning (target : String) (assignments : List (String × String)) : Conflict :=
  if assignments = [] then skips target else writes target assignments

lemma fits_assigning (target : String) (assignments : List (String × String)) :
    (assigning target assignments).Fits := by
  unfold assigning
  by_cases h : assignments = []
  · rw [if_pos h]
    trivial
  · rw [if_neg h]
    exact h

end Conflict

/-- **An insertion as it is written.** -/
def Insertion.text (s : Insertion) : String :=
  "INSERT INTO " ++ quote s.table ++ columnsText s.columns ++ s.conflict.text ++
    returningText s.returning

/-! ### The reader -/

section Readers

variable {γ : Type}

/-- Items with commas between them, so many at most, and the text behind them. -/
def readRow? (item : List Char → Option (γ × List Char)) :
    Nat → List Char → Option (List γ × List Char)
  | 0, _ => none
  | n + 1, cs => do
    let (x, rest) ← item cs
    match afterWord? ", ".toList rest with
    | none => return ([x], rest)
    | some rest => do
      let (xs, rest) ← readRow? item n rest
      return (x :: xs, rest)

/-- The columns that are written, with a mark for each of them, and the text behind them. -/
def readColumns? (cs : List Char) : Option (List String × List Char) :=
  match afterWord? " DEFAULT VALUES".toList cs with
  | some rest => some ([], rest)
  | none => do
    let cs ← afterWord? " (".toList cs
    let (columns, cs) ← readRow? Identifier.read? cs.length cs
    let cs ← afterWord? ") VALUES (".toList cs
    let (n, cs) ← readMarks? cs
    if n = columns.length then return (columns, cs) else none

/-- A column that takes over the value of a column of the other row, and the text behind it. -/
def readAssignment? (cs : List Char) : Option ((String × String) × List Char) := do
  let (column, cs) ← Identifier.read? cs
  let cs ← afterWord? " = EXCLUDED.".toList cs
  let (source, cs) ← Identifier.read? cs
  return ((column, source), cs)

/-- What becomes of a row in conflict about a column, and the text behind it. -/
def readTargeted? (target : String) (cs : List Char) : Option (Conflict × List Char) :=
  match afterWord? "NOTHING".toList cs with
  | some rest => some (.skips target, rest)
  | none => do
    let cs ← afterWord? "UPDATE SET ".toList cs
    let (assignments, cs) ← readRow? readAssignment? cs.length cs
    return (.writes target assignments, cs)

/-- What becomes of a row in conflict, and the text behind it. -/
def readConflict? (cs : List Char) : Option (Conflict × List Char) :=
  match afterWord? " ON CONFLICT".toList cs with
  | none => some (.fails, cs)
  | some cs =>
    match afterWord? " DO NOTHING".toList cs with
    | some rest => some (.skips none, rest)
    | none => do
      let cs ← afterWord? " (".toList cs
      let (target, cs) ← Identifier.read? cs
      let cs ← afterWord? ") DO ".toList cs
      readTargeted? target cs

/-- The column that is returned, and the text behind it. -/
def readReturning? (cs : List Char) : Option (Option String × List Char) :=
  match afterWord? " RETURNING ".toList cs with
  | none => some (none, cs)
  | some cs => (Identifier.read? cs).map fun (name, rest) => (some name, rest)

/-- **What the text of an insertion says**, up to its end. -/
def Insertion.read? (s : String) : Option Insertion := do
  let cs ← afterWord? "INSERT INTO ".toList s.toList
  let (table, cs) ← Identifier.read? cs
  let (columns, cs) ← readColumns? cs
  let (conflict, cs) ← readConflict? cs
  let (returning, cs) ← readReturning? cs
  if cs = [] then return { table, columns, conflict, returning } else none

end Readers

/-! ### Reading what is written -/

section Rows

variable {γ : Type} {item : List Char → Option (γ × List Char)} {write : γ → List Char}

/-- **A row is read back**, by induction on the items behind the first one, if its items are, and no
comma follows it. -/
lemma readRow?_append (hitem : ∀ x tail, tail.head? ≠ some mark →
      item (write x ++ tail) = some (x, tail)) {rest : List Char} (hmark : rest.head? ≠ some mark)
    (hend : afterWord? ", ".toList rest = none) (x : γ) (xs : List γ) {n : Nat}
    (hn : xs.length < n) :
    readRow? item n (write x ++ (xs.flatMap (fun y => ", ".toList ++ write y) ++ rest)) =
      some (x :: xs, rest) := by
  induction xs generalizing x n with
  | nil =>
    obtain ⟨m, rfl⟩ := Nat.exists_eq_succ_of_ne_zero (Nat.ne_of_gt hn)
    rw [List.flatMap_nil, List.nil_append, readRow?, hitem x rest hmark]
    simp only [Option.bind_eq_bind, Option.bind_some, hend, Option.pure_def]
  | cons y ys ih =>
    obtain ⟨m, rfl⟩ := Nat.exists_eq_succ_of_ne_zero (Nat.ne_of_gt (Nat.zero_lt_of_lt hn))
    have hlater := ih y (Nat.lt_of_succ_lt_succ hn)
    have hcomma : ∀ tail, (", ".toList ++ tail).head? ≠ some mark := by
      intro tail heq
      exact absurd (Option.some.inj heq) (by decide)
    rw [List.flatMap_cons, List.append_assoc, List.append_assoc, readRow?,
      hitem x _ (hcomma _)]
    simp only [Option.bind_eq_bind, Option.bind_some, afterWord?_append, hlater, Option.pure_def]

/-- Every item has its place in the text. -/
lemma length_lt_row (hwrite : ∀ x, write x ≠ []) (x : γ) (xs : List γ) (rest : List Char) :
    xs.length < (write x ++ (xs.flatMap (fun y => ", ".toList ++ write y) ++ rest)).length := by
  have hfirst : 0 < (write x).length := List.length_pos_iff.2 (hwrite x)
  have hmore : xs.length ≤ (xs.flatMap fun y => ", ".toList ++ write y).length :=
    Text.length_le_flatMap (fun y => by simp) xs
  rw [List.length_append, List.length_append]
  omega

/-- A row of texts with commas between them, as its characters. -/
lemma toList_row {α : Type} (text : α → String) (x : α) (xs : List α) :
    (", ".intercalate ((x :: xs).map text)).toList =
      (text x).toList ++ xs.flatMap fun y => ", ".toList ++ (text y).toList := by
  rw [String.toList_intercalate, List.map_cons, List.map_cons, Text.intercalate_cons, List.map_map,
    List.flatMap_map]
  rfl

/-- **A row of texts with commas between them is read back.** -/
lemma readRow?_intercalate (text : γ → String)
    (hitem : ∀ x tail, tail.head? ≠ some mark → item ((text x).toList ++ tail) = some (x, tail))
    (htext : ∀ x, (text x).toList ≠ []) {rest : List Char} (hmark : rest.head? ≠ some mark)
    (hend : afterWord? ", ".toList rest = none) {xs : List γ} (hxs : xs ≠ []) :
    readRow? item ((", ".intercalate (xs.map text)).toList ++ rest).length
      ((", ".intercalate (xs.map text)).toList ++ rest) = some (xs, rest) := by
  obtain ⟨x, ys, rfl⟩ := List.exists_cons_of_ne_nil hxs
  rw [toList_row, List.append_assoc]
  exact readRow?_append hitem hmark hend x ys (length_lt_row htext x ys rest)

end Rows

section Clauses

variable {rest : List Char}

lemma quote_ne_nil (name : String) : (quote name).toList ≠ [] := by
  rw [Identifier.toList_quote]
  exact List.cons_ne_nil _ _

/-- **The columns of an insertion are read back**, with as many marks as there are columns. -/
lemma readColumns?_text (columns : List String) (rest : List Char) :
    readColumns? ((columnsText columns).toList ++ rest) = some (columns, rest) := by
  unfold columnsText
  by_cases hempty : columns = []
  · subst hempty
    rfl
  · have hne : columns.length ≠ 0 := mt List.length_eq_zero_iff.1 hempty
    have hdefault : ∀ cs, afterWord? " DEFAULT VALUES".toList (" (".toList ++ cs) = none :=
      fun _ => rfl
    have hmark : (") VALUES (".toList ++
        ((Conditions.placeholders columns.length ++ ")").toList ++ rest)).head? ≠ some mark := by
      intro heq
      exact absurd (Option.some.inj heq) (by decide)
    have hnames := readRow?_intercalate quote
      (fun name tail htail => Identifier.read?_quote htail name) quote_ne_nil hmark rfl hempty
    have hchars : (" (" ++ ", ".intercalate (columns.map quote) ++ ") VALUES (" ++
        Conditions.placeholders columns.length ++ ")").toList ++ rest =
          " (".toList ++ ((", ".intercalate (columns.map quote)).toList ++
            (") VALUES (".toList ++
              ((Conditions.placeholders columns.length ++ ")").toList ++ rest))) := by
      simp only [String.toList_append, List.append_assoc]
    rw [if_neg hempty, hchars, readColumns?, hdefault, afterWord?_append]
    simp only [Option.bind_eq_bind, Option.bind_some, hnames, afterWord?_append,
      readMarks?_placeholders hne, if_true, Option.pure_def]

lemma readAssignment?_text (p : String × String) {tail : List Char}
    (htail : tail.head? ≠ some mark) :
    readAssignment? ((assignmentText p).toList ++ tail) = some (p, tail) := by
  have hword : (" = EXCLUDED.".toList ++ ((quote p.2).toList ++ tail)).head? ≠ some mark := by
    intro heq
    exact absurd (Option.some.inj heq) (by decide)
  have hchars : (assignmentText p).toList ++ tail = (quote p.1).toList ++
      (" = EXCLUDED.".toList ++ ((quote p.2).toList ++ tail)) := by
    simp only [assignmentText, String.toList_append, List.append_assoc]
  rw [hchars, readAssignment?, Identifier.read?_quote hword]
  simp only [Option.bind_eq_bind, Option.bind_some, afterWord?_append,
    Identifier.read?_quote htail, Option.pure_def]

/-- The text behind a clause continues neither an identifier nor a row. -/
structure Closes (rest : List Char) : Prop where
  mark : rest.head? ≠ some mark
  comma : afterWord? ", ".toList rest = none
  clause : afterWord? " ON CONFLICT".toList rest = none

lemma closes_returning (name? : Option String) : Closes (returningText name?).toList := by
  cases name? with
  | none => exact ⟨by decide, rfl, rfl⟩
  | some name =>
    rw [returningText, String.toList_append]
    exact ⟨fun heq => absurd (Option.some.inj heq) (by decide), rfl, rfl⟩

/-- What is said about a row in conflict about a column is read by its target first. -/
lemma readConflict?_target (target : String) (cs : List Char) :
    readConflict? ((Conflict.targetText target).toList ++ cs) = readTargeted? target cs := by
  have hskip : ∀ cs, afterWord? " DO NOTHING".toList (" (".toList ++ cs) = none := fun _ => rfl
  have hclose : (") DO ".toList ++ cs).head? ≠ some mark := by
    intro heq
    exact absurd (Option.some.inj heq) (by decide)
  have hchars : (Conflict.targetText target).toList ++ cs =
      " ON CONFLICT".toList ++ (" (".toList ++ ((quote target).toList ++
        (") DO ".toList ++ cs))) := by
    simp only [Conflict.targetText, String.toList_append, List.append_assoc]
    rfl
  rw [hchars, readConflict?, afterWord?_append]
  simp only [hskip, Option.bind_eq_bind, Option.bind_some, afterWord?_append,
    Identifier.read?_quote hclose]

/-- **What is said about a row in conflict is read back.** -/
lemma readConflict?_text {s : Conflict} (hs : s.Fits) (hrest : Closes rest) :
    readConflict? (s.text.toList ++ rest) = some (s, rest) := by
  cases s with
  | fails =>
    change readConflict? rest = _
    rw [readConflict?, hrest.clause]
  | skips target =>
    cases target with
    | none => rfl
    | some target =>
      rw [Conflict.text, String.toList_append, List.append_assoc, readConflict?_target]
      rfl
  | writes target assignments =>
    have hnothing : ∀ cs, afterWord? "NOTHING".toList ("UPDATE SET ".toList ++ cs) = none :=
      fun _ => rfl
    have htext : ∀ p, (assignmentText p).toList ≠ [] := by
      intro p heq
      rw [assignmentText, String.toList_append, String.toList_append, List.append_assoc] at heq
      exact quote_ne_nil p.1 (List.append_eq_nil_iff.1 heq).1
    have hrow := readRow?_intercalate assignmentText
      (fun p tail htail => readAssignment?_text p htail) htext hrest.mark hrest.comma hs
    rw [Conflict.text, String.toList_append, String.toList_append, List.append_assoc,
      List.append_assoc, readConflict?_target, readTargeted?, hnothing, afterWord?_append]
    simp only [Option.bind_eq_bind, Option.bind_some, hrow, Option.pure_def]

/-- The column that is returned is read back at the end of a text. -/
lemma readReturning?_text (name? : Option String) :
    readReturning? (returningText name?).toList = some (name?, []) := by
  cases name? with
  | none => rfl
  | some name =>
    have hend : ([] : List Char).head? ≠ some mark := by decide
    have hread := Identifier.read?_quote hend name
    rw [List.append_nil] at hread
    rw [returningText, String.toList_append, readReturning?, afterWord?_append]
    simp only [hread, Option.map_some]

/-- **An insertion is read back from its text.** -/
theorem Insertion.read?_text {s : Insertion} (hs : s.conflict.Fits) : read? s.text = some s := by
  let rest := s.conflict.text.toList ++ (returningText s.returning).toList
  have hbehind : ((columnsText s.columns).toList ++ rest).head? ≠ some mark := by
    intro heq
    unfold columnsText at heq
    split at heq
    · exact absurd (Option.some.inj heq) (by decide)
    · simp only [String.toList_append, List.append_assoc] at heq
      exact absurd (Option.some.inj heq) (by decide)
  have hchars : s.text.toList = "INSERT INTO ".toList ++ ((quote s.table).toList ++
      ((columnsText s.columns).toList ++ rest)) := by
    simp only [Insertion.text, String.toList_append, List.append_assoc, rest]
  rw [Insertion.read?, hchars, afterWord?_append]
  simp only [Option.bind_eq_bind, Option.bind_some, Identifier.read?_quote hbehind,
    readColumns?_text, readConflict?_text hs (closes_returning s.returning), rest,
    readReturning?_text]
  rfl

/-- A table whose name looks like the end of an insertion. -/
example : Insertion.read? "INSERT INTO \"t\"\" DEFAULT VALUES\" (\"a\") VALUES (%s)" =
    some ⟨"t\" DEFAULT VALUES", ["a"], .fails, none⟩ := by
  decide +kernel

end Clauses

/-! ### Insertions that are prepared -/

section Prepared

variable {t : Table} {given : OnConflict} {skip : Bool} {i : Inserter}

/-- The columns that are assigned when a row replaces another, each to the column of its name. -/
def replacements (key : Column) (columns : List Column) : List (String × String) :=
  (Inserter.overwritten key columns).map fun c => (c.columnName, c.columnName)

/-- **What is said about a row in conflict**, if there is a key where one is needed. -/
def conflictOf (t : Table) (policy : OnConflict) (columns : List Column) : Conflict :=
  match policy, t.primaryKey? with
  | .ignore, _ => .skips none
  | .replace, some key => .assigning key.columnName (replacements key columns)
  | _, _ => .fails

lemma fits_conflictOf (t : Table) (policy : OnConflict) (columns : List Column) :
    (conflictOf t policy columns).Fits := by
  unfold conflictOf
  split
  · trivial
  · exact Conflict.fits_assigning _ _
  · trivial

lemma replaceClause_eq (key : Column) (columns : List Column) :
    Inserter.replaceClause key columns =
      (Conflict.assigning key.columnName (replacements key columns)).text := by
  unfold Inserter.replaceClause Conflict.assigning replacements
  cases Inserter.overwritten key columns with
  | nil => rfl
  | cons c others =>
    have hne : ((c :: others).map fun c => (c.columnName, c.columnName)) ≠ [] :=
      List.cons_ne_nil _ _
    rw [if_neg hne, Conflict.text, List.map_map]
    rfl

namespace Inserter

/-- What a prepared insertion says. -/
def said (i : Inserter) : Insertion where
  table := i.table.name
  columns := i.columns.map Column.columnName
  conflict := conflictOf i.table i.policy i.columns
  returning := i.table.primaryKey?.map Column.columnName

/-- The insertion with a clause for rows in conflict. -/
def withClause (t : Table) (given : OnConflict) (skip : Bool) (clause : String) : Inserter where
  table := t
  given := given
  skipAutoId := skip
  policy := (resolveConflict t given).1
  declaredOn := (resolveConflict t given).2
  columns := writtenColumns t skip
  text := "INSERT INTO " ++ quote t.name ++ valuesClause (writtenColumns t skip) ++ clause ++
    returningClause t

lemma valuesClause_eq (columns : List Column) :
    valuesClause columns = columnsText (columns.map Column.columnName) := by
  unfold valuesClause columnsText
  cases columns with
  | nil => rfl
  | cons c columns =>
    have hne : (c :: columns).map Column.columnName ≠ [] := List.cons_ne_nil _ _
    rw [if_neg (by simp), if_neg hne, List.length_map, List.map_map]
    rfl

lemma returningClause_eq (t : Table) :
    returningClause t = returningText (t.primaryKey?.map Column.columnName) := by
  unfold returningClause
  cases t.primaryKey? <;> rfl

/-- **The clause for rows in conflict** says what it should. -/
lemma conflictClause_eq {policy : OnConflict} {declaredOn : Option Column} {columns : List Column}
    {clause : String} (h : conflictClause t policy declaredOn columns = .ok clause) :
    clause = (conflictOf t policy columns).text := by
  cases policy with
  | abort | none | rollback | fail | ignore => exact (Except.ok.inj h).symm
  | replace =>
    unfold conflictClause at h
    unfold conflictOf
    cases hkey : t.primaryKey? with
    | none =>
      rw [hkey] at h
      cases h
    | some key =>
      rw [hkey] at h
      exact (Except.ok.inj h).symm.trans (replaceClause_eq key columns)

/-- An insertion is prepared with the clause for its policy. -/
lemma prepare_eq (t : Table) (given : OnConflict) (skip : Bool) : prepare t given skip =
    (conflictClause t (resolveConflict t given).1 (resolveConflict t given).2
      (writtenColumns t skip)).map (withClause t given skip) := rfl

/-- **What an insertion is that is prepared.** -/
lemma exists_clause (h : prepare t given skip = .ok i) : ∃ clause,
    conflictClause t (resolveConflict t given).1 (resolveConflict t given).2
      (writtenColumns t skip) = .ok clause ∧ i = withClause t given skip clause := by
  rw [prepare_eq] at h
  cases hclause : conflictClause t (resolveConflict t given).1 (resolveConflict t given).2
    (writtenColumns t skip) with
  | error fault =>
    rw [hclause] at h
    cases h
  | ok clause =>
    rw [hclause] at h
    exact ⟨clause, rfl, (Except.ok.inj h).symm⟩

/-- **Only a row that would replace another can lack what it is told by.** -/
lemma conflictClause_error_iff {policy : OnConflict} {declaredOn : Option Column}
    {columns : List Column} {fault : Fault} :
    conflictClause t policy declaredOn columns = .error fault ↔
      policy = .replace ∧ t.primaryKey? = none ∧
        fault = .noConflictTarget t.name (declaredOn.map Column.columnName) := by
  cases policy with
  | abort | none | rollback | fail | ignore => simp [conflictClause]
  | replace =>
    cases hkey : t.primaryKey? with
    | none => simp [conflictClause, hkey, eq_comm]
    | some key => simp [conflictClause, hkey]

end Inserter

/-- **A prepared insertion has the text of what it says.** -/
theorem Inserter.text_said (h : Inserter.prepare t given skip = .ok i) : i.text = i.said.text := by
  obtain ⟨clause, hclause, rfl⟩ := Inserter.exists_clause h
  change "INSERT INTO " ++ quote t.name ++ Inserter.valuesClause _ ++ clause ++
    Inserter.returningClause t = _
  rw [Inserter.valuesClause_eq, Inserter.returningClause_eq, Inserter.conflictClause_eq hclause]
  rfl

/-- **The text of a prepared insertion is read back.** -/
theorem Inserter.read?_said (h : Inserter.prepare t given skip = .ok i) :
    Insertion.read? i.text = some i.said := by
  rw [Inserter.text_said h]
  exact Insertion.read?_text (fits_conflictOf _ _ _)

end Prepared

/-! ### The policy that holds -/

section Policies

variable {t : Table} {given p : OnConflict}

/-- **The policy that holds for a table**: the one that is asked for, or else that of the first
column with a policy of its own. -/
inductive Effective (t : Table) : OnConflict → OnConflict → Prop
  | given {p : OnConflict} (hp : p ≠ .none) : Effective t p p
  | declared {before after : List Column} {c : Column}
      (hcolumns : t.columns = before ++ c :: after)
      (hbefore : ∀ b ∈ before, b.onConflict = .none) (hc : c.onConflict ≠ .none) :
      Effective t .none c.onConflict
  | absent (h : ∀ c ∈ t.columns, c.onConflict = .none) : Effective t .none .none

/-- **A policy holds if and only if it is the one that is found.** -/
theorem effective_iff : Effective t given p ↔ p = (resolveConflict t given).1 := by
  constructor
  · intro h
    cases h with
    | given hp => rw [resolveConflict, if_pos hp]
    | @declared before after c hcolumns hbefore hc =>
      have hfind : t.columns.find? (·.onConflict ≠ .none) = some c := by
        rw [hcolumns, List.find?_eq_some_iff_append]
        refine ⟨by simpa using hc, before, after, rfl, fun b hb => ?_⟩
        simp [hbefore b hb]
      rw [resolveConflict, if_neg (by simp), hfind]
    | absent hall =>
      have hfind : t.columns.find? (·.onConflict ≠ .none) = none := by
        rw [List.find?_eq_none]
        intro c hc
        simp [hall c hc]
      rw [resolveConflict, if_neg (by simp), hfind]
  · rintro rfl
    unfold resolveConflict
    by_cases hgiven : given = .none
    · subst hgiven
      rw [if_neg (by simp)]
      cases hfind : t.columns.find? (·.onConflict ≠ .none) with
      | none =>
        rw [List.find?_eq_none] at hfind
        exact .absent fun c hc => by simpa using hfind c hc
      | some c =>
        obtain ⟨hc, before, after, hcolumns, hbefore⟩ := List.find?_eq_some_iff_append.1 hfind
        exact .declared hcolumns (fun b hb => by simpa using hbefore b hb) (by simpa using hc)
    · rw [if_pos hgiven]
      exact .given hgiven

end Policies

/-! ### Rows in conflict -/

section Rows

variable {β : Type} {t : Table} {given : OnConflict} {skip : Bool} {i : Inserter} {s : Insertion}

/-- **What an insertion makes of a row that is there**, if the row that it offers is in conflict
with it.  A statement that fails makes nothing of it. -/
def Insertion.settle? (s : Insertion) (offered old : String → β) : Option (String → β) :=
  match s.conflict with
  | .fails => none
  | .skips _ => some old
  | .writes _ assignments => some fun column =>
    match assignments.lookup column with
    | some source => offered source
    | none => old column

/-- **What a statement says** for a table, the policy that holds, and numbers that are written or
not. -/
structure Resolves (t : Table) (policy : OnConflict) (skip : Bool) (s : Insertion) : Prop where
  table : s.table = t.name
  columns : s.columns = (t.columns.filter fun c => skip || !c.autoId).map Column.columnName
  returning : s.returning = t.primaryKey?.map Column.columnName
  clause : s.conflict ≠ .fails ↔ policy = .ignore ∨ policy = .replace
  ignore : policy = .ignore → s.conflict = .skips none
  replace : policy = .replace → ∃ key, t.primaryKey? = some key ∧
    s.conflict = .assigning key.columnName
      ((t.columns.filter fun c => (skip || !c.autoId) && c ≠ key).map fun c =>
        (c.columnName, c.columnName))

/-- The columns that are assigned are those that are written, but for the key itself. -/
lemma replacements_eq (hnames : (t.columns.map Column.columnName).Nodup) {key : Column}
    (hkey : t.primaryKey? = some key) :
    replacements key (Inserter.writtenColumns t skip) =
      (t.columns.filter fun c => (skip || !c.autoId) && c ≠ key).map fun c =>
        (c.columnName, c.columnName) := by
  have hmem : key ∈ t.columns := List.mem_of_find?_eq_some hkey
  have hinj := List.inj_on_of_nodup_map hnames
  unfold replacements Inserter.overwritten Inserter.writtenColumns
  rw [List.filter_filter]
  refine congrArg (List.map _) (List.filter_congr fun c hc => ?_)
  have hiff : c.columnName = key.columnName ↔ c = key :=
    ⟨fun heq => hinj hc hmem heq, fun heq => congrArg _ heq⟩
  simp [hiff, Bool.and_comm]

/-- **A prepared insertion says what its table and its policy ask for.** -/
theorem resolves_said (hnames : (t.columns.map Column.columnName).Nodup)
    (h : Inserter.prepare t given skip = .ok i) : Resolves t i.policy skip i.said := by
  obtain ⟨clause, hclause, rfl⟩ := Inserter.exists_clause h
  generalize hp : (resolveConflict t given).1 = policy at hclause
  have hsaid : (Inserter.withClause t given skip clause).said.conflict =
      conflictOf t policy (Inserter.writtenColumns t skip) := by
    rw [← hp]
    rfl
  have hpolicy : (Inserter.withClause t given skip clause).policy = policy := hp
  rw [hpolicy]
  refine ⟨rfl, rfl, rfl, ?_, ?_, ?_⟩
  · rw [hsaid]
    cases policy with
    | abort | none | rollback | fail | ignore => simp [conflictOf]
    | replace =>
      cases hkey : t.primaryKey? with
      | none => simp [Inserter.conflictClause, hkey] at hclause
      | some key =>
        simp only [conflictOf, hkey, Conflict.assigning]
        split <;> simp
  · rintro rfl
    exact hsaid
  · rintro rfl
    cases hkey : t.primaryKey? with
    | none => simp [Inserter.conflictClause, hkey] at hclause
    | some key =>
      refine ⟨key, rfl, hsaid.trans ?_⟩
      simp only [conflictOf, hkey]
      rw [replacements_eq hnames hkey]

lemma lookup_same (names : List String) (name : String) :
    (names.map fun c => (c, c)).lookup name = if name ∈ names then some name else none := by
  induction names with
  | nil => rfl
  | cons c names ih =>
    rw [List.map_cons, List.lookup_cons, ih]
    by_cases hc : name = c
    · simp [hc]
    · simp [hc, beq_false_of_ne hc]

/-- Columns take over the values of the columns of their names, or nothing is assigned. -/
lemma settle?_assigning {target : String} {names : List String}
    (h : s.conflict = .assigning target (names.map fun c => (c, c))) (offered old : String → β) :
    s.settle? offered old =
      some fun column => if column ∈ names then offered column else old column := by
  unfold Insertion.settle?
  rw [h, Conflict.assigning]
  by_cases hnames : names = []
  · subst hnames
    simp
  · rw [if_neg (by simpa using hnames)]
    refine congrArg some (funext fun column => ?_)
    rw [lookup_same]
    by_cases hcolumn : column ∈ names
    · rw [if_pos hcolumn, if_pos hcolumn]
    · rw [if_neg hcolumn, if_neg hcolumn]

/-- **A row that replaces another** takes over every column that is written, and leaves every other
one as it is. -/
theorem Resolves.settle?_replace (h : Resolves t .replace skip s) {key : Column}
    (hkey : t.primaryKey? = some key) {offered old : String → β}
    (hconflict : offered key.columnName = old key.columnName) :
    s.settle? offered old =
      some fun column => if column ∈ s.columns then offered column else old column := by
  obtain ⟨key', hkey', hs⟩ := h.replace rfl
  obtain rfl := Option.some.inj (hkey'.symm.trans hkey)
  let names := (t.columns.filter fun c => (skip || !c.autoId) && c ≠ key').map Column.columnName
  have hassign : s.conflict = .assigning key'.columnName (names.map fun c => (c, c)) := by
    rw [hs, List.map_map]
    rfl
  rw [settle?_assigning hassign]
  refine congrArg some (funext fun column => ?_)
  -- the key is the only column that may be written and is not assigned
  have hmem : column ∈ s.columns → column ∈ names ∨ column = key'.columnName := by
    intro hcolumn
    rw [h.columns] at hcolumn
    obtain ⟨c, hc, rfl⟩ := List.mem_map.1 hcolumn
    by_cases hkey : c = key'
    · exact Or.inr (congrArg _ hkey)
    · refine Or.inl (List.mem_map_of_mem (List.mem_filter.2 ?_))
      obtain ⟨hmem, hwritten⟩ := List.mem_filter.1 hc
      exact ⟨hmem, by simp [hwritten, hkey]⟩
  have hwritten : column ∈ names → column ∈ s.columns := by
    intro hcolumn
    rw [h.columns]
    obtain ⟨c, hc, rfl⟩ := List.mem_map.1 hcolumn
    obtain ⟨hmem, hboth⟩ := List.mem_filter.1 hc
    exact List.mem_map_of_mem (List.mem_filter.2 ⟨hmem, (Bool.and_eq_true_iff.1 hboth).1⟩)
  by_cases hassigned : column ∈ names
  · rw [if_pos hassigned, if_pos (hwritten hassigned)]
  · rw [if_neg hassigned]
    by_cases hcolumn : column ∈ s.columns
    · obtain rfl := (hmem hcolumn).resolve_left hassigned
      rw [if_pos hcolumn, hconflict]
    · rw [if_neg hcolumn]

end Rows

end PgSchema.Query
