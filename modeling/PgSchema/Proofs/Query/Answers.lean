import PgSchema.Object.Equality
import PgSchema.Proofs.Query.Insertions
import PgSchema.Query.Statement

/-!
How a database answers the statements that ask for rows.

A reader finds in the text of a statement what is asked for: rows of a table, under conditions, in
an order and within bounds, or their number, or whether there are any (`readInquiry?`).  A database
takes the rows that satisfy the conditions, arranges them, leaves out those in front and keeps as
many as are wanted (`Contents.reply?`).  The statements of a selection are answered as it says
(`Selector.reply?_render`), and the statement for the first row with the front of what the statement
for all rows gives (`Selector.reply?_first`).
-/

namespace PgSchema.Query

open Identifier (double mark quote)
open IndexStatement (afterWord?)
open Object (Value)

/-! ### Predicates in brackets -/

/-- What is open at a place of a text: so many brackets, and a quote. -/
structure Opened where
  depth : Nat := 0
  quote : Option Char := none
  deriving DecidableEq, Repr

/-- What is open behind one more character, if that is not a bracket that closes none of them. -/
def Opened.next? (s : Opened) (c : Char) : Option Opened :=
  match s.quote with
  | some q => some (if c = q then { s with quote := none } else s)
  | none =>
    if c = mark ∨ c = '\'' then some { s with quote := some c }
    else if c = '(' then some { s with depth := s.depth + 1 }
    else if c = ')' then (if s.depth = 0 then none else some { s with depth := s.depth - 1 })
    else some s

/-- The text up to the bracket that closes none that is open in it, and the text behind that. -/
def readEnclosed? (s : Opened) : List Char → Option (List Char × List Char)
  | [] => none
  | c :: rest =>
    match s.next? c with
    | none => some ([], rest)
    | some s => (readEnclosed? s rest).map fun (cs, rest) => (c :: cs, rest)

/-- **A predicate that a bracket can close**: each bracket and each quote in it is closed in it. -/
def Closed (cs : List Char) : Prop := cs.foldlM Opened.next? {} = some {}

instance : DecidablePred Closed := fun cs =>
  inferInstanceAs (Decidable (cs.foldlM Opened.next? {} = some {}))

lemma readEnclosed?_of_foldlM {s : Opened} {cs : List Char}
    (h : cs.foldlM Opened.next? s = some {}) (rest : List Char) :
    readEnclosed? s (cs ++ ')' :: rest) = some (cs, rest) := by
  induction cs generalizing s with
  | nil =>
    obtain rfl := Option.some.inj h
    rfl
  | cons c cs ih =>
    obtain ⟨s', hs, h⟩ := Option.bind_eq_some_iff.1 h
    rw [List.cons_append, readEnclosed?, hs]
    dsimp only
    rw [ih h, Option.map_some]

lemma Closed.append {cs cs' : List Char} (h : Closed cs) (h' : Closed cs') :
    Closed (cs ++ cs') := by
  rw [Closed, List.foldlM_append, h]
  exact h'

/-- **A quoted identifier is closed**, whatever its name is. -/
lemma closed_quote (name : String) : Closed (quote name).toList := by
  have hinside : ∀ cs : List Char,
      (double cs ++ [mark]).foldlM Opened.next? ⟨0, some mark⟩ = some {} := by
    intro cs
    induction cs with
    | nil => rfl
    | cons c cs ih =>
      rw [double]
      split
      · exact ih
      · rename_i hc
        rw [List.cons_append, List.foldlM_cons, Opened.next?]
        dsimp only
        rw [if_neg hc]
        exact ih
  rw [Identifier.toList_quote]
  exact hinside name.toList

/-- What has neither brackets nor quotes leaves open what is. -/
lemma foldlM_next?_of_plain {depth : Nat} {cs : List Char}
    (h : ∀ c ∈ cs, c ∉ [mark, '\'', '(', ')']) :
    cs.foldlM Opened.next? ⟨depth, none⟩ = some ⟨depth, none⟩ := by
  induction cs with
  | nil => rfl
  | cons c cs ih =>
    obtain ⟨hc, hcs⟩ := List.forall_mem_cons.1 h
    simp only [List.mem_cons, List.not_mem_nil, or_false, not_or] at hc
    obtain ⟨hmark, hsingle, hopen, hclose⟩ := hc
    rw [List.foldlM_cons, Opened.next?]
    dsimp only
    rw [if_neg (not_or.2 ⟨hmark, hsingle⟩), if_neg hopen, if_neg hclose]
    exact ih hcs

lemma closed_placeholders (n : Nat) :
    Closed ("(".toList ++ (Conditions.placeholders n).toList ++ ")".toList) := by
  have hchars : ∀ c ∈ ", ".toList ++ Conditions.placeholder.toList, c ∉ [mark, '\'', '(', ')'] := by
    simp [Conditions.placeholder, mark, Text.doubleMark]
  have hplain : ∀ c ∈ (Conditions.placeholders n).toList, c ∉ [mark, '\'', '(', ')'] := by
    intro c hc
    refine hchars c ?_
    rw [Conditions.placeholders, String.toList_intercalate] at hc
    cases n with
    | zero => exact absurd hc List.not_mem_nil
    | succ n =>
      rw [List.replicate_succ, List.map_cons, Text.intercalate_cons, List.mem_append,
        List.map_replicate, List.mem_flatMap] at hc
      rcases hc with hc | ⟨part, hpart, hc⟩
      · exact List.mem_append_right _ hc
      · rwa [List.eq_of_mem_replicate hpart] at hc
  have hopen : "(".toList.foldlM Opened.next? {} = some ⟨1, none⟩ := rfl
  rw [Closed, List.foldlM_append, List.foldlM_append, hopen]
  simp only [Option.bind_eq_bind, Option.bind_some, foldlM_next?_of_plain hplain]
  rfl

lemma closed_memberClause (negated : Bool) {column : String} (h : Closed column.toList) (n : Nat) :
    Closed (Conditions.memberClause negated column n).toList := by
  unfold Conditions.memberClause
  split
  · cases negated <;> decide
  · have hword : Closed ((if negated then " NOT IN" else " IN") ++ " ").toList := by
      cases negated <;> decide
    have hchars : (column ++ (if negated then " NOT IN" else " IN") ++ " (" ++
        Conditions.placeholders n ++ ")").toList =
          column.toList ++ (((if negated then " NOT IN" else " IN") ++ " ").toList ++
            ("(".toList ++ (Conditions.placeholders n).toList ++ ")".toList)) := by
      simp only [String.toList_append, List.append_assoc]
      rfl
    rw [hchars]
    exact h.append (hword.append (closed_placeholders n))

/-- **The predicates of conditions are closed**, whatever the names of the columns are. -/
lemma closed_clause (test : Codegen.Test) (column : String) (n : Nat) :
    Closed (test.clause column n).toList := by
  cases test with
  | compare k =>
    have hword : Closed (" " ++ k.operator ++ " %s").toList := by cases k <;> decide
    have hchars : (Codegen.Test.clause column n (.compare k)).toList =
        (quote column).toList ++ (" " ++ k.operator ++ " %s").toList := by
      simp only [Codegen.Test.clause, String.toList_append, List.append_assoc]
    rw [hchars]
    exact (closed_quote column).append hword
  | absent negated =>
    have hword : Closed (Codegen.Test.absence negated).toList := by cases negated <;> decide
    rw [Codegen.Test.clause, String.toList_append]
    exact (closed_quote column).append hword
  | among negated => exact closed_memberClause negated (closed_quote column) n

/-! ### What is asked for -/

/-- The rows that are meant: those of a table under conditions. -/
structure Source where
  table : String
  clauses : List String
  deriving DecidableEq, Repr

/-- **What a statement asks for.**  Of rows it says which columns are shown, in which order the rows
come, by columns and whether they descend, and whether they are bounded. -/
inductive Inquiry where
  | rows (columns : List String) (source : Source) (order : List (String × Bool))
      (limited shifted : Bool)
  | number (source : Source)
  | found (source : Source)
  deriving DecidableEq, Repr

/-- Predicates in brackets with `AND` between them, so many at most, and the text behind them. -/
def readClauses? : Nat → List Char → Option (List String × List Char)
  | 0, _ => none
  | n + 1, cs => do
    let cs ← afterWord? "(".toList cs
    let (clause, rest) ← readEnclosed? {} cs
    match afterWord? " AND ".toList rest with
    | none => return ([String.ofList clause], rest)
    | some rest => do
      let (clauses, rest) ← readClauses? n rest
      return (String.ofList clause :: clauses, rest)

/-- A table and the conditions on its rows, and the text behind them. -/
def readSource? (cs : List Char) : Option (Source × List Char) := do
  let (table, cs) ← Identifier.read? cs
  match afterWord? " WHERE ".toList cs with
  | none => return (⟨table, []⟩, cs)
  | some cs => do
    let (clauses, cs) ← readClauses? cs.length cs
    return (⟨table, clauses⟩, cs)

/-- The columns that are shown, and the text behind them. -/
def readColumnNames? (cs : List Char) : Option (List String × List Char) :=
  match afterWord? " FROM ".toList cs with
  | some rest => some ([], rest)
  | none => do
    let (columns, cs) ← readRow? Identifier.read? cs.length cs
    let cs ← afterWord? " FROM ".toList cs
    return (columns, cs)

/-- A column that rows are arranged by, and whether they descend, and the text behind it. -/
def readOrdered? (cs : List Char) : Option ((String × Bool) × List Char) := do
  let (column, cs) ← Identifier.read? cs
  match afterWord? " DESC".toList cs with
  | some cs => return ((column, true), cs)
  | none => do
    let cs ← afterWord? " ASC".toList cs
    return ((column, false), cs)

/-- The order of rows, and the text behind it. -/
def readOrder? (cs : List Char) : Option (List (String × Bool) × List Char) :=
  match afterWord? " ORDER BY ".toList cs with
  | none => some ([], cs)
  | some cs => readRow? readOrdered? cs.length cs

/-- Whether rows are bounded in a way, and the text behind it. -/
def readBound (word : String) (cs : List Char) : Bool × List Char :=
  match afterWord? (" " ++ word ++ " " ++ Conditions.placeholder).toList cs with
  | none => (false, cs)
  | some cs => (true, cs)

/-- The rows that a statement asks for, up to its end. -/
def readRows? (cs : List Char) : Option Inquiry := do
  let (columns, cs) ← readColumnNames? cs
  let (source, cs) ← readSource? cs
  let (order, cs) ← readOrder? cs
  let (limited, cs) := readBound "LIMIT" cs
  let (shifted, cs) := readBound "OFFSET" cs
  if cs = [] then return .rows columns source order limited shifted else none

/-- **What a statement asks for**, if it asks for rows, for their number, or whether there is
one. -/
def readInquiry? (s : String) : Option Inquiry := do
  let cs ← afterWord? "SELECT ".toList s.toList
  match afterWord? "COUNT(*) AS count FROM ".toList cs with
  | some cs => do
    let (source, cs) ← readSource? cs
    if cs = [] then return .number source else none
  | none =>
    match afterWord? "EXISTS (SELECT 1 FROM ".toList cs with
    | some cs => do
      let (source, cs) ← readSource? cs
      if cs = ") AS found".toList then return .found source else none
    | none => readRows? cs

/-! ### Reading what is written -/

/-- No word is at the front of a text that begins with another character. -/
lemma afterWord?_of_head {word cs : List Char} {c : Char} (hword : word.head? = some c)
    (h : cs.head? ≠ some c) : afterWord? word cs = none := by
  refine if_neg fun hstart => h ?_
  obtain ⟨rest, rfl⟩ := List.isPrefixOf_iff_prefix.1 hstart
  rw [List.head?_append, hword, Option.some_or]

/-- The text behind a source continues neither an identifier nor conditions. -/
structure Follows (rest : List Char) : Prop where
  mark : rest.head? ≠ some mark
  conditions : afterWord? " WHERE ".toList rest = none
  more : afterWord? " AND ".toList rest = none

/-- **Closed predicates in brackets are read back**, by induction on those behind the first one. -/
lemma readClauses?_append {clause : String} {clauses : List String}
    (h : ∀ c ∈ clause :: clauses, Closed c.toList) {rest : List Char}
    (hrest : afterWord? " AND ".toList rest = none) {n : Nat} (hn : clauses.length < n) :
    readClauses? n (("(" ++ clause ++ ")").toList ++
      ((clauses.flatMap fun c => " AND ".toList ++ ("(" ++ c ++ ")").toList) ++ rest)) =
        some (clause :: clauses, rest) := by
  have hchars (c : String) (cs : List Char) :
      ("(" ++ c ++ ")").toList ++ cs = "(".toList ++ (c.toList ++ ')' :: cs) := by
    simp only [String.toList_append, List.append_assoc]
    rfl
  induction clauses generalizing clause n with
  | nil =>
    obtain ⟨m, rfl⟩ := Nat.exists_eq_succ_of_ne_zero (Nat.ne_of_gt hn)
    rw [List.flatMap_nil, List.nil_append, hchars, readClauses?, afterWord?_append]
    simp only [Option.bind_eq_bind, Option.bind_some,
      readEnclosed?_of_foldlM (h clause List.mem_cons_self), hrest, Option.pure_def,
      String.ofList_toList]
  | cons c clauses ih =>
    obtain ⟨m, rfl⟩ := Nat.exists_eq_succ_of_ne_zero (Nat.ne_of_gt (Nat.zero_lt_of_lt hn))
    obtain ⟨hfirst, hclauses⟩ := List.forall_mem_cons.1 h
    have hlater := ih hclauses (Nat.lt_of_succ_lt_succ hn)
    rw [List.flatMap_cons, List.append_assoc, List.append_assoc, hchars, readClauses?,
      afterWord?_append]
    simp only [Option.bind_eq_bind, Option.bind_some, readEnclosed?_of_foldlM hfirst,
      afterWord?_append, hlater, Option.pure_def, String.ofList_toList]

lemma readSource?_text {β : Type} (table : String) {c : Conditions β}
    (hc : ∀ clause ∈ c.clauses, Closed clause.toList) {rest : List Char} (hrest : Follows rest) :
    readSource? ((quote table ++ c.whereText).toList ++ rest) =
      some (⟨table, c.clauses⟩, rest) := by
  rw [String.toList_append, List.append_assoc, readSource?]
  cases hclauses : c.clauses with
  | nil =>
    have hempty : c.whereText.toList ++ rest = rest := by
      rw [Conditions.whereText, hclauses]
      rfl
    rw [hempty, Identifier.read?_quote hrest.mark]
    simp only [Option.bind_eq_bind, Option.bind_some, hrest.conditions, Option.pure_def]
  | cons clause clauses =>
    have hchars : c.whereText.toList ++ rest = " WHERE ".toList ++
        (("(" ++ clause ++ ")").toList ++
          ((clauses.flatMap fun c => " AND ".toList ++ ("(" ++ c ++ ")").toList) ++ rest)) := by
      rw [Conditions.whereText, hclauses, List.isEmpty_cons, if_neg Bool.false_ne_true,
        String.toList_append, String.toList_intercalate, List.map_cons, List.map_cons,
        Text.intercalate_cons, List.map_map, List.flatMap_map, List.append_assoc,
        List.append_assoc]
      rfl
    have hmark (cs : List Char) : (" WHERE ".toList ++ cs).head? ≠ some mark := fun heq =>
      absurd (Option.some.inj heq) (by decide)
    have hlength : clauses.length < (("(" ++ clause ++ ")").toList ++ ((clauses.flatMap
        fun c => " AND ".toList ++ ("(" ++ c ++ ")").toList) ++ rest)).length := by
      have hmore := Text.length_le_flatMap
        (f := fun c : String => " AND ".toList ++ ("(" ++ c ++ ")").toList) (fun c => by simp)
        clauses
      have hfirst : 0 < ("(" ++ clause ++ ")").toList.length := by simp
      rw [List.length_append, List.length_append]
      omega
    rw [hclauses] at hc
    rw [hchars, Identifier.read?_quote (hmark _)]
    simp only [Option.bind_eq_bind, Option.bind_some, afterWord?_append,
      readClauses?_append hc hrest.more hlength, Option.pure_def]

/-- A column that rows are arranged by, as it is written. -/
def orderedText (p : String × Bool) : String := Selector.orderEntry (quote p.1) p.2

lemma readOrdered?_text (p : String × Bool) (tail : List Char) :
    readOrdered? ((orderedText p).toList ++ tail) = some (p, tail) := by
  obtain ⟨column, descending⟩ := p
  have hchars : (orderedText (column, descending)).toList ++ tail = (quote column).toList ++
      (' ' :: ((if descending then "DESC" else "ASC").toList ++ tail)) := by
    simp [orderedText, Selector.orderEntry]
  have hmark (cs : List Char) : (' ' :: cs).head? ≠ some mark := fun heq =>
    absurd (Option.some.inj heq) (by decide)
  rw [hchars, readOrdered?, Identifier.read?_quote (hmark _)]
  cases descending <;> rfl

namespace Selector

variable {β : Type} (s : Selector β) {order : List (String × Bool)} (limit : Option β)

/-- The bounds as they are written, if there are any. -/
def boundsText (limited shifted : Bool) : List Char :=
  (if limited then " LIMIT %s" else "").toList ++ (if shifted then " OFFSET %s" else "").toList

lemma toList_bounds : (boundText "LIMIT" limit).toList ++ (boundText "OFFSET" s.offset).toList =
    boundsText limit.isSome s.offset.isSome := by
  have hlimit : (boundText "LIMIT" limit).toList =
      (if limit.isSome then " LIMIT %s" else "").toList := by cases limit <;> rfl
  have hoffset : (boundText "OFFSET" s.offset).toList =
      (if s.offset.isSome then " OFFSET %s" else "").toList := by cases s.offset <;> rfl
  rw [hlimit, hoffset, boundsText]

/-- The bounds are read back at the end of a text. -/
lemma readBound_bounds (limited shifted : Bool) :
    readBound "LIMIT" (boundsText limited shifted) = (limited, boundsText false shifted) ∧
      readBound "OFFSET" (boundsText false shifted) = (shifted, []) := by
  cases limited <;> cases shifted <;> decide

lemma readOrder?_text (horder : s.order = order.map orderedText) (limited shifted : Bool) :
    readOrder? (s.orderText.toList ++ boundsText limited shifted) =
      some (order, boundsText limited shifted) := by
  have hbounds : (boundsText limited shifted).head? ≠ some mark ∧
      afterWord? ", ".toList (boundsText limited shifted) = none ∧
      afterWord? " ORDER BY ".toList (boundsText limited shifted) = none := by
    cases limited <;> cases shifted <;> decide
  obtain ⟨hmark, hcomma, hword⟩ := hbounds
  rw [orderText, horder, List.isEmpty_map]
  cases hempty : order with
  | nil =>
    change readOrder? (boundsText limited shifted) = _
    rw [readOrder?, hword]
  | cons p ps =>
    have htext (q : String × Bool) : (orderedText q).toList ≠ [] := by
      rw [orderedText, Selector.orderEntry, String.toList_append, String.toList_append,
        Identifier.toList_quote]
      exact List.cons_ne_nil _ _
    rw [List.isEmpty_cons, if_neg Bool.false_ne_true, String.toList_append, List.append_assoc,
      readOrder?, afterWord?_append]
    exact readRow?_intercalate orderedText (fun q tail _ => readOrdered?_text q tail) htext hmark
      hcomma (List.cons_ne_nil _ _)

lemma follows_order (horder : s.order = order.map orderedText) (limited shifted : Bool) :
    Follows (s.orderText.toList ++ boundsText limited shifted) := by
  rw [orderText, horder, List.isEmpty_map]
  cases order with
  | nil => cases limited <;> cases shifted <;> exact ⟨by decide, by decide, by decide⟩
  | cons p ps =>
    rw [List.isEmpty_cons, if_neg Bool.false_ne_true, String.toList_append, List.append_assoc]
    exact ⟨fun heq => absurd (Option.some.inj heq) (by decide), rfl, rfl⟩

lemma readColumnNames?_text (cs : List Char) :
    readColumnNames? (s.columnList.toList ++ (" FROM ".toList ++ cs)) =
      some (s.table.columns.map Column.columnName, cs) := by
  have hmap : s.columnList =
      ", ".intercalate ((s.table.columns.map Column.columnName).map quote) := by
    rw [columnList, List.map_map]
    rfl
  have hmark : (" FROM ".toList ++ cs).head? ≠ some mark := fun heq =>
    absurd (Option.some.inj heq) (by decide)
  rw [hmap, readColumnNames?]
  cases hcolumns : s.table.columns.map Column.columnName with
  | nil => rfl
  | cons column columns =>
    have hfrom : afterWord? " FROM ".toList ((", ".intercalate
        ((column :: columns).map quote)).toList ++ (" FROM ".toList ++ cs)) = none := by
      rw [toList_row, Identifier.toList_quote]
      rfl
    rw [hfrom]
    dsimp only
    rw [readRow?_intercalate quote (fun name tail htail => Identifier.read?_quote htail name)
      quote_ne_nil hmark rfl (List.cons_ne_nil _ _)]
    simp only [Option.bind_eq_bind, Option.bind_some, afterWord?_append, Option.pure_def]

/-- The rows that a selection is about. -/
def meant : Source := ⟨s.table.name, s.conditions.clauses⟩

variable (hclauses : ∀ clause ∈ s.conditions.clauses, Closed clause.toList)

include hclauses

/-- **What a selection asks for is read back.** -/
theorem readInquiry?_render (horder : s.order = order.map orderedText) :
    readInquiry? (s.render limit).1 = some (.rows (s.table.columns.map Column.columnName) s.meant
      order limit.isSome s.offset.isSome) := by
  have hchars : (s.render limit).1.toList = "SELECT ".toList ++ (s.columnList.toList ++
      (" FROM ".toList ++ (s.source.toList ++
        (s.orderText.toList ++ boundsText limit.isSome s.offset.isSome)))) := by
    simp only [render, String.toList_append, List.append_assoc, toList_bounds]
  have hother {word : List Char} {c : Char} (hword : word.head? = some c)
      (hc : c ≠ mark ∧ c ≠ ' ') (cs : List Char) :
      afterWord? word (s.columnList.toList ++ (" FROM ".toList ++ cs)) = none := by
    refine afterWord?_of_head hword ?_
    rw [columnList]
    cases s.table.columns with
    | nil => exact fun heq => hc.2 (Option.some.inj heq).symm
    | cons column columns =>
      rw [toList_row, Identifier.toList_quote]
      exact fun heq => hc.1 (Option.some.inj heq).symm
  obtain ⟨hlimit, hoffset⟩ := readBound_bounds limit.isSome s.offset.isSome
  rw [readInquiry?, hchars, afterWord?_append]
  simp only [Option.bind_eq_bind, Option.bind_some]
  rw [hother (c := 'C') (by decide) (by decide), hother (c := 'E') (by decide) (by decide),
    readRows?, readColumnNames?_text]
  simp only [Option.bind_eq_bind, Option.bind_some, source, tableText,
    readSource?_text s.table.name hclauses (s.follows_order horder _ _),
    s.readOrder?_text horder, hlimit, hoffset, if_true, meant, Option.pure_def]

lemma readInquiry?_count : readInquiry? s.countStatement.1 = some (.number s.meant) := by
  have hnothing : Follows [] := ⟨by decide, rfl, rfl⟩
  have hsource := readSource?_text s.table.name hclauses hnothing
  rw [List.append_nil] at hsource
  have hfront : "SELECT COUNT(*) AS " ++ countColumn ++ " FROM " =
      "SELECT " ++ "COUNT(*) AS count FROM " := by decide +kernel
  have hchars : s.countStatement.1.toList =
      "SELECT ".toList ++ ("COUNT(*) AS count FROM ".toList ++ s.source.toList) := by
    have htext : s.countStatement.1 =
        "SELECT COUNT(*) AS " ++ countColumn ++ " FROM " ++ s.source := rfl
    rw [htext, hfront, String.append_assoc, String.toList_append, String.toList_append]
  rw [readInquiry?, hchars, afterWord?_append, Option.bind_eq_bind, Option.bind_some,
    afterWord?_append, source, tableText]
  simp only [Option.bind_eq_bind, hsource, Option.bind_some, if_true, meant, Option.pure_def]

lemma readInquiry?_exists : readInquiry? s.existsStatement.1 = some (.found s.meant) := by
  have hend : Follows ") AS found".toList := ⟨by decide, by decide, by decide⟩
  have hsource := readSource?_text s.table.name hclauses hend
  have hfront : "SELECT EXISTS (SELECT 1 FROM " = "SELECT " ++ "EXISTS (SELECT 1 FROM " := by
    decide +kernel
  have hbehind : ") AS " ++ foundColumn = ") AS found" := by decide +kernel
  have hchars : s.existsStatement.1.toList = "SELECT ".toList ++
      ("EXISTS (SELECT 1 FROM ".toList ++ (s.source.toList ++ ") AS found".toList)) := by
    have htext : s.existsStatement.1 =
        "SELECT EXISTS (SELECT 1 FROM " ++ s.source ++ ") AS " ++ foundColumn := rfl
    rw [htext, String.append_assoc, hbehind, hfront, String.append_assoc, String.append_assoc,
      String.toList_append, String.toList_append, String.toList_append]
  have hcount (cs : List Char) : afterWord? "COUNT(*) AS count FROM ".toList
      ("EXISTS (SELECT 1 FROM ".toList ++ cs) = none :=
    afterWord?_of_head (c := 'C') rfl (by simp)
  rw [readInquiry?, hchars, afterWord?_append, Option.bind_eq_bind, Option.bind_some, hcount,
    afterWord?_append, source, tableText]
  dsimp only
  rw [hsource, Option.bind_eq_bind, Option.bind_some]
  exact if_pos rfl

end Selector

/-! ### Answers -/

/-- **The contents of a database**: the rows of each table, which of them satisfy predicates with
their values, how rows are arranged by columns, and how a row is shown with some of its columns. -/
structure Contents where
  rows : String → List Json
  satisfies : List String → List Value → Json → Bool
  arrange : List (String × Bool) → List Json → List Json
  arrange_perm : ∀ order rows, (arrange order rows).Perm rows
  present : List String → Json → Json

/-- An answer to a statement. -/
inductive Reply where
  | rows (rows : List Json)
  | number (n : Nat)
  | found (b : Bool)

/-- The number that a bound stands for. -/
def amount? : Value → Option Nat
  | .int n => if 0 ≤ n then some n.toNat else none
  | _ => none

/-- A bound is the last value of a statement that has it. -/
def takeBound? (bounded : Bool) (values : List Value) : Option (List Value × Option Nat) :=
  if bounded then values.getLast?.bind fun v => (amount? v).map (values.dropLast, some ·)
  else some (values, none)

/-- Rows without those in front, and so many of them at most. -/
def window (limit offset : Option Nat) (rows : List Json) : List Json :=
  let rows := rows.drop (offset.getD 0)
  limit.elim rows rows.take

namespace Contents

variable (db : Contents)

/-- The rows of a table that satisfy the conditions. -/
def matching (source : Source) (values : List Value) : List Json :=
  (db.rows source.table).filter (db.satisfies source.clauses values)

/-- The rows that a selection shows. -/
def shown (columns : List String) (source : Source) (order : List (String × Bool))
    (values : List Value) (limit offset : Option Nat) : List Json :=
  (window limit offset (db.arrange order (db.matching source values))).map (db.present columns)

/-- **The answer to a statement**, by what its text asks for. -/
def reply? (q : Bound Value) : Option Reply := do
  match ← readInquiry? q.1 with
  | .number source => return .number (db.matching source q.2).length
  | .found source => return .found (!(db.matching source q.2).isEmpty)
  | .rows columns source order limited shifted => do
    let (values, offset) ← takeBound? shifted q.2
    let (values, limit) ← takeBound? limited values
    return .rows (db.shown columns source order values limit offset)

end Contents

/-- **A selection that a database can answer**: predicates that are closed, an order by columns, and
bounds that are numbers. -/
structure Selector.Readable (s : Selector Value) (order : List (String × Bool)) : Prop where
  clauses : ∀ clause ∈ s.conditions.clauses, Closed clause.toList
  order : s.order = order.map orderedText
  limit : ∀ v ∈ s.limit, (amount? v).isSome
  offset : ∀ v ∈ s.offset, (amount? v).isSome

/-- The bound on the first row. -/
def firstBound (limit : Option Nat) : Nat := min (limit.getD 1) 1

lemma window_firstBound (limit offset : Option Nat) (rows : List Json) :
    window (some (firstBound limit)) offset rows = (window limit offset rows).take 1 := by
  unfold window firstBound
  cases limit with
  | none => rfl
  | some n =>
    change (rows.drop _).take (min n 1) = ((rows.drop _).take n).take 1
    rw [List.take_take, Nat.min_comm]

lemma eq_int_of_amount? {v : Value} {n : Nat} (h : amount? v = some n) : v = .int n := by
  cases v with
  | int m =>
    obtain ⟨hm, hn⟩ := Option.ite_none_right_eq_some.1 h
    rw [← Option.some.inj hn, Int.toNat_of_nonneg hm]
  | _ => cases h

lemma takeBound?_append {bound : Option Value} (h : ∀ v ∈ bound, (amount? v).isSome)
    (values : List Value) :
    takeBound? bound.isSome (values ++ bound.toList) = some (values, bound.bind amount?) := by
  cases bound with
  | none => simp [takeBound?]
  | some v =>
    obtain ⟨n, hn⟩ := Option.isSome_iff_exists.1 (h v rfl)
    simp [takeBound?, hn]

namespace Selector

variable {s : Selector Value} {order : List (String × Bool)} (h : s.Readable order)
  (db : Contents)

/-- The rows that a selection shows within bounds of its own. -/
def replied (s : Selector Value) (order : List (String × Bool)) (db : Contents)
    (limit : Option Nat) : List Json :=
  db.shown (s.table.columns.map Column.columnName) s.meant order s.conditions.bindings limit
    (s.offset.bind amount?)

include h

omit h in
/-- The limit for the first row stands for one row, or for the limit that is less. -/
lemma amount?_firstLimit (hlimit : ∀ v ∈ s.limit, (amount? v).isSome) :
    amount? s.firstLimit = some (firstBound (s.limit.bind amount?)) := by
  rw [firstLimit]
  cases hwhich : s.limit with
  | none => rfl
  | some v =>
    obtain ⟨n, hn⟩ := Option.isSome_iff_exists.1 (hlimit v hwhich)
    obtain rfl := eq_int_of_amount? hn
    have habove : Amount.exceedsOne (Value.int n) = decide ((1 : Int) < n) := rfl
    rw [Option.bind_some, hn]
    dsimp only
    rw [habove]
    by_cases hone : (1 : Int) < n
    · have hmin : firstBound (some n) = 1 := Nat.min_eq_right (show 1 ≤ n by omega)
      rw [if_pos (decide_eq_true hone), hmin]
      rfl
    · have hmin : firstBound (some n) = n := Nat.min_eq_left (show n ≤ 1 by omega)
      rw [if_neg (by simpa using hone), hmin, hn]

/-- **A selection is answered** with the rows that satisfy its conditions, in its order and within
its bounds. -/
theorem reply?_render {limit : Option Value} (hlimit : ∀ v ∈ limit, (amount? v).isSome) :
    db.reply? (s.render limit) = some (.rows (s.replied order db (limit.bind amount?))) := by
  have hvalues : (s.render limit).2 =
      (s.conditions.bindings ++ limit.toList) ++ s.offset.toList := rfl
  rw [Contents.reply?, s.readInquiry?_render limit h.clauses h.order, Option.bind_eq_bind,
    Option.bind_some, hvalues]
  dsimp only
  rw [takeBound?_append h.offset, Option.bind_eq_bind, Option.bind_some]
  dsimp only
  rw [takeBound?_append hlimit]
  rfl

lemma reply?_statement :
    db.reply? s.statement = some (.rows (s.replied order db (s.limit.bind amount?))) :=
  reply?_render h db h.limit

/-- **The first row is asked for** as the front of all that are. -/
theorem reply?_first : db.reply? s.firstStatement =
    some (.rows ((s.replied order db (s.limit.bind amount?)).take 1)) := by
  have hbound := amount?_firstLimit h.limit
  have hamount : ∀ v ∈ some s.firstLimit, (amount? v).isSome := by
    intro v hv
    rw [← Option.some.inj hv, hbound]
    rfl
  have hreply := reply?_render h db hamount
  rw [Option.bind_some, hbound] at hreply
  rw [firstStatement, hreply]
  simp only [replied, Contents.shown, window_firstBound, List.map_take]

lemma reply?_count : db.reply? s.countStatement =
    some (.number (db.matching s.meant s.conditions.bindings).length) := by
  rw [Contents.reply?, s.readInquiry?_count h.clauses]
  rfl

lemma reply?_exists : db.reply? s.existsStatement =
    some (.found (!(db.matching s.meant s.conditions.bindings).isEmpty)) := by
  rw [Contents.reply?, s.readInquiry?_exists h.clauses]
  rfl

omit h in
/-- **Without bounds there are as many rows as are counted.** -/
lemma length_replied (hlimit : s.limit = none) (hoffset : s.offset = none) :
    (s.replied order db (s.limit.bind amount?)).length =
      (db.matching s.meant s.conditions.bindings).length := by
  rw [replied, hlimit, hoffset, Contents.shown, List.length_map]
  exact (db.arrange_perm order _).length_eq

/-- The statements that a selection sends. -/
def statements (s : Selector Value) : List (Bound Value) :=
  [s.statement, s.firstStatement, s.countStatement, s.existsStatement]

end Selector

end PgSchema.Query
