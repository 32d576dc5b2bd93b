import PgSchema.Proofs.Query.Pieces

/-!
Marks and values in the statements of builders.

Each call gives a statement as many marks as values.  So the marks of the statement are as many as
its values, and a mark and the value in its place come from the same call (`marks_match_values`).
-/

namespace PgSchema.Object

open Codegen (Test)
open Query (Amount Bound Conditions Free Piece Plain Selector Starts markCount marks tableText)
open Query.Piece (glue listed)
open Session (machine)

namespace Builder

/-! ### As many marks as values -/

/-- **A table whose identifiers have no percent sign.** -/
structure Unmarked (t : Table) : Prop where
  name : Free t.name
  columns : ∀ c ∈ t.columns, Free c.columnName

/-- An entry with as many marks as values. -/
def Entry.Marked : Entry → Prop
  | clause text values => markCount text = values.length
  | order text => Plain text
  | assignment column _ => Plain column
  | bound .. => True

namespace Draft

open Query.Piece (Aligned)

lemma aligned_edge (e : Edge) (found : Option (Option Nat × Value)) :
    Aligned (edgePieces e found) := by
  have hword : Starts (" " ++ e.word ++ " " ++ Conditions.placeholder) := by cases e <;> decide
  have hcount : markCount (" " ++ e.word ++ " " ++ Conditions.placeholder) = 1 := by
    cases e <;> decide
  cases found with
  | none => exact .nil
  | some x => exact .single hword hcount

variable {d : Draft} (hd : ∀ x ∈ d, x.2.Marked) {t : Table} (ht : Unmarked t)

lemma aligned_glue {s : String} (hs : Plain s) : Aligned [(glue s : Passage)] := .plain hs rfl

include hd

lemma marked_of_pick {α : Type} {f : Entry → Option α} {i : Nat} {a : α}
    (hx : (i, a) ∈ d.pick f) : ∃ e : Entry, e.Marked ∧ f e = some a := by
  obtain ⟨e, he, hfound⟩ := mem_pick hx
  exact ⟨e, hd _ he, hfound⟩

lemma aligned_where : Aligned d.wherePieces := by
  unfold wherePieces
  split
  · exact .nil
  · refine (aligned_glue (by decide)).append (.listed (aligned_glue (by decide)) fun ps hps => ?_)
    obtain ⟨⟨i, text, values⟩, hx, rfl⟩ := List.mem_map.1 hps
    obtain ⟨e, hmarked, he⟩ := marked_of_pick hd hx
    cases e with
    | clause => cases he; exact .enclosed hmarked
    | _ => cases he

lemma aligned_order : Aligned d.orderPieces := by
  unfold orderPieces
  split
  · exact .nil
  · refine (aligned_glue (by decide)).append (.listed (aligned_glue (by decide)) fun ps hps => ?_)
    obtain ⟨⟨i, text⟩, hx, rfl⟩ := List.mem_map.1 hps
    obtain ⟨e, hmarked, he⟩ := marked_of_pick hd hx
    cases e with
    | order => cases he; exact .plain hmarked rfl
    | _ => cases he

lemma aligned_assignment : Aligned d.assignmentPieces := by
  refine .listed (aligned_glue (by decide)) fun ps hps => ?_
  obtain ⟨⟨i, column, value⟩, hx, rfl⟩ := List.mem_map.1 hps
  obtain ⟨e, hmarked, he⟩ := marked_of_pick hd hx
  cases e with
  | assignment =>
    cases he
    have hfree : Free (column ++ " = ") := Free.append hmarked.2 (by decide)
    refine .single ((hmarked.1.append " = ").append Conditions.placeholder) ?_
    change markCount (column ++ " = " ++ Conditions.placeholder) = 1
    rw [Query.markCount_append _ (by decide), Query.markCount_of_free hfree]
    decide
  | _ => cases he

include ht

lemma aligned_select (limit : Option (Option Nat × Value)) :
    Aligned (d.selectPieces t limit) := by
  have hlist : Free (d.selector t).columnList := by
    refine Free.intercalate (by decide) fun s hs => ?_
    obtain ⟨c, hc, rfl⟩ := List.mem_map.1 hs
    exact (Query.plain_quote (ht.columns c hc)).2
  have hstart : Plain ("SELECT " ++ (d.selector t).columnList ++ " FROM " ++ tableText t) :=
    ((Plain.append (by decide) hlist).append (by decide)).append (Query.plain_quote ht.name).2
  exact (aligned_glue hstart).append ((((aligned_where hd).append (aligned_order hd)).append
    (aligned_edge _ _)).append (aligned_edge _ _))

/-- **Statements of marked entries have their marks where their values are.** -/
lemma aligned_pieces (k : Kind) (ask : Ask) : Aligned (d.pieces k t ask) := by
  have hname : Free (tableText t) := (Query.plain_quote ht.name).2
  have hwhere := aligned_where hd
  have hstatement : Aligned (d.statementPieces k t) := by
    cases k with
    | selector | relation => exact aligned_select hd ht _
    | updater =>
      have hstart : Plain ("UPDATE " ++ tableText t ++ " SET ") :=
        (Plain.append (by decide) hname).append (by decide)
      exact (aligned_glue hstart).append ((aligned_assignment hd).append hwhere)
    | deleter => exact (aligned_glue (Plain.append (by decide) hname)).append hwhere
  cases ask with
  | all | execute => exact hstatement
  | first => exact aligned_select hd ht _
  | count => exact (aligned_glue (Plain.append (by decide) hname)).append hwhere
  | anyRow =>
    exact (aligned_glue (Plain.append (by decide) hname)).append
      (hwhere.append (aligned_glue (by decide)))

end Draft

/-! ### Calls -/

/-- A call with as many marks as values, if its text comes from outside. -/
def Call.Marked : Call → Prop
  | .filter clause values => markCount clause = values.length
  | .among _ column _ => Free column
  | _ => True

lemma markCount_memberClause (negated : Bool) {column : String} (hcolumn : Free column)
    (count : Nat) : markCount (Conditions.memberClause negated column count) = count := by
  unfold Conditions.memberClause
  split
  · rename_i hcount
    rw [hcount]
    cases negated <;> decide
  · rename_i hcount
    have hword : Free (if negated then " NOT IN" else " IN") := by cases negated <;> decide
    have hfront : Free (column ++ (if negated then " NOT IN" else " IN") ++ " (") :=
      (hcolumn.append hword).append (by decide)
    have hstart : Starts (Conditions.placeholders count) := by
      obtain ⟨m, rfl⟩ := Nat.exists_eq_succ_of_ne_zero hcount
      refine ⟨'%', ?_, by decide⟩
      rw [Conditions.placeholders, String.toList_intercalate, List.replicate_succ, List.map_cons,
        Text.intercalate_cons]
      rfl
    rw [Query.markCount_append _ (by decide), Query.markCount_append _ hstart,
      Query.markCount_of_free hfront, Query.markCount_placeholders, Nat.zero_add]
    rfl

/-- **The fragment of a condition** has a mark for each of its values. -/
lemma markCount_fragmentOf {t : Table} (ht : Unmarked t) {h : Heap} {name : String}
    {s : Codegen.Statement} (hs : Call.IsCondition t name s) {arguments values : List Value}
    (htakes : Takes h s arguments values) :
    markCount (fragmentOf values.length s) = values.length := by
  obtain ⟨column, hcolumn, test, -, -, -, rfl⟩ := hs.exists_test
  have hquote : Free (Identifier.quote column.columnName) :=
    (Query.plain_quote (ht.columns column hcolumn)).2
  cases test with
  | compare k =>
    obtain ⟨v, -, rfl⟩ := htakes
    have hoperator : Free k.operator := by cases k <;> decide
    have hfront : Free (Identifier.quote column.columnName ++ " " ++ k.operator) :=
      (hquote.append (by decide)).append hoperator
    change markCount (Identifier.quote column.columnName ++ " " ++ k.operator ++ " %s") = 1
    rw [Query.markCount_append _ (by decide), Query.markCount_of_free hfront]
    decide
  | absent negated =>
    obtain ⟨-, rfl⟩ := htakes
    have habsence : Free (Test.absence negated) := by cases negated <;> decide
    exact Query.markCount_of_free (hquote.append habsence)
  | among negated => exact markCount_memberClause negated hquote _

/-- A column that is found by a name is one of the table. -/
lemma mem_columns {t : Table} {name : Value} {found : Column}
    (h : name.text?.bind t.column? = some found) : found ∈ t.columns := by
  obtain ⟨text, -, hfound⟩ := Option.bind_eq_some_iff.1 h
  exact List.mem_of_find?_eq_some hfound

/-- **What the calls of a builder put in** has as many marks as values. -/
lemma Lived.marked {n : Nat} {b : Builder} {calls : List Call} {c : Course State}
    (hb : Lived n b calls c) (ht : Unmarked b.table) (hcalls : ∀ call ∈ calls, call.Marked) :
    ∀ x ∈ draft b.table calls, x.2.Marked := by
  intro x hx
  obtain ⟨call, hcall, hentry⟩ := exists_of_mem_draft hx
  have hmarked := hcalls call hcall
  cases call with
  | condition name s values =>
    obtain ⟨b', h, arguments, htable, -, hfits, hgiven⟩ := hb.fitted _ hcall
    rw [← Option.some.inj hentry]
    exact markCount_fragmentOf ht (htable ▸ hfits.2) hgiven
  | filter clause values =>
    rw [← Option.some.inj hentry]
    exact hmarked
  | among negated column values =>
    rw [← Option.some.inj hentry]
    exact markCount_memberClause negated hmarked _
  | order column descending =>
    obtain ⟨found, hfound, heq⟩ := Option.map_eq_some_iff.1 hentry
    have hquote := Query.plain_quote (ht.columns found (mem_columns hfound))
    rw [← heq]
    refine Plain.append (hquote.append (by decide)) ?_
    cases descending <;> decide
  | assign column value =>
    obtain ⟨found, hfound, heq⟩ := Option.map_eq_some_iff.1 hentry
    rw [← heq]
    exact Query.plain_quote (ht.columns found (mem_columns hfound))
  | bound e count =>
    obtain ⟨found, -, heq⟩ := Option.map_eq_some_iff.1 hentry
    rw [← heq]
    trivial

/-! ### Statements -/

lemma getElem?_of_mem_draft {t : Table} {calls : List Call} {i : Nat} {e : Entry}
    (h : (i, e) ∈ draft t calls) : ∃ call, calls[i]? = some call ∧ call.adds? t = some e := by
  obtain ⟨⟨call, j⟩, hmem, hentry⟩ := List.mem_filterMap.1 h
  obtain ⟨found, hfound, heq⟩ := Option.map_eq_some_iff.1 hentry
  obtain ⟨rfl, rfl⟩ := Prod.mk.inj heq
  exact ⟨call, List.mem_zipIdx_iff_getElem?.1 hmem, hfound⟩

/-- The entries of a draft are in the order of their calls. -/
lemma pairwise_draft (t : Table) (calls : List Call) :
    (draft t calls).Pairwise fun x y => x.1 < y.1 := by
  have hnumbers : calls.zipIdx.Pairwise fun x y => x.2 < y.2 := by
    rw [← List.pairwise_map, List.zipIdx_map_snd]
    exact List.pairwise_lt_range'
  refine hnumbers.filterMap _ fun x y hlt e he e' he' => ?_
  obtain ⟨_, -, rfl⟩ := Option.map_eq_some_iff.1 he
  obtain ⟨_, -, rfl⟩ := Option.map_eq_some_iff.1 he'
  exact hlt

/-- **A statement with its values, traced back to calls**, but for values that it has of its own. -/
structure Traced (t : Table) (calls : List Call) (own : List Value) (ps : List Passage)
    (given : List (Value × Option Nat)) (q : Bound Value) : Prop where
  /-- The text is that of the pieces. -/
  text : Piece.chars ps = q.1.toList
  /-- A piece is what a call has put in, or no call's. -/
  calls : ∀ p ∈ ps, ∀ i, p.author = some i →
    ∃ call e, calls[i]? = some call ∧ call.adds? t = some e ∧ p = e.piece i
  /-- The values of the pieces are those of the statement. -/
  bound : ps.flatMap Piece.bound = given
  values : given.map (·.1) = q.2
  /-- A value that is no call's is one of the statement's own. -/
  own : ∀ v ∈ given, v.2 = none → v.1 ∈ own
  /-- The mark in a place comes from the call that the value in this place comes from. -/
  marks : marks (ps.flatMap Piece.signed) = given.map fun v => (v.2, v.2)
  /-- There are as many marks as values. -/
  count : markCount q.1 = q.2.length

lemma traced {t : Table} {calls : List Call} (ht : Unmarked t)
    (hmarked : ∀ x ∈ draft t calls, x.2.Marked) {k : Kind} {ask : Ask} {q : Bound Value}
    (hq : (draft t calls).query k t ask = .ok q) :
    Traced t calls (Draft.own ask) ((draft t calls).pieces k t ask) ((draft t calls).values k ask)
      q := by
  have htext := Draft.chars_pieces _ hq
  have hvalues := Draft.map_values _ hq
  have hmarks := (Draft.aligned_pieces hmarked ht k ask).marks_eq
  rw [Draft.bound_pieces] at hmarks
  refine ⟨htext, fun p hp i hi => ?_, Draft.bound_pieces _ k t ask, hvalues,
    fun v hv hnone => Draft.mem_own hv hnone, hmarks, ?_⟩
  · obtain ⟨e, he, hpiece⟩ := Draft.told_pieces k t ask p hp i hi
    obtain ⟨call, hcall, hentry⟩ := getElem?_of_mem_draft he
    exact ⟨call, e, hcall, hentry, hpiece⟩
  · have hsigned : q.1.toList.map (·, ()) =
        (((draft t calls).pieces k t ask).flatMap Piece.signed).map fun e => (e.1, ()) := by
      rw [← htext, ← Piece.map_signed, List.map_map]
      rfl
    rw [markCount, hsigned, Query.marks_map fun _ => (), hmarks, List.length_map, List.length_map,
      ← hvalues, List.length_map]

/-- A statement that cannot be rendered is a change that changes nothing. -/
lemma query_eq_error {k : Kind} {t : Table} {d : Draft} {ask : Ask} {fault : Fault}
    (h : d.query k t ask = .error fault) : k = .updater ∧ d.assigned = [] := by
  have hstatement : d.statement k t = .error fault → k = .updater ∧ d.assigned = [] := by
    intro h
    cases k with
    | updater =>
      change (if _ then _ else _) = _ at h
      split at h
      · rename_i hempty
        have hnone := List.isEmpty_iff.1 hempty
        exact ⟨rfl, List.map_eq_nil_iff.2 (List.map_eq_nil_iff.1 hnone)⟩
      · cases h
    | selector | deleter | relation => cases h
  cases ask with
  | all | execute => exact hstatement h
  | first | count | anyRow => cases h

/-- **Marks match values.**  Of the entries that the calls have put in, in their order, a builder
renders the new values first, then the predicates, and the bounds behind them (`Draft.values`).
What `to_sql` gives, and what goes over the connection when the builder is asked, has as many marks
as values; the mark in any place comes from the call that the value in this place comes from.  Only
a change without new values is refused. -/
theorem marks_match_values {n : Nat} {b : Builder} {calls : List Call} {c : Course State}
    (hb : Lived n b calls c) (hkind : b.kind ≠ .relation) (ht : Unmarked b.table)
    (hcalls : ∀ call ∈ calls, call.Marked) :
    let d := draft b.table calls
    let m := machine (n + 4)
    d.Pairwise (fun x y => x.1 < y.1) ∧
    (match d.statement b.kind b.table with
      | .ok q => (machine (n + 5)).callMethod b.value "to_sql" [] c = boundValue q c ∧
          Traced b.table calls [] (d.statementPieces b.kind b.table) (d.rendered b.kind) q
      | .error fault =>
          (machine (n + 5)).callMethod b.value "to_sql" [] c = (.error (.fault fault), c) ∧
            b.kind = .updater ∧ d.assigned = []) ∧
    ∀ ask ∈ b.kind.asks,
      match d.query b.kind b.table ask with
      | .ok q =>
          (machine (n + 5)).callMethod b.value ask.method [] c =
            (sent m b.connection ask.via q >>= fun answer => ask.reading m b answer) c ∧
          Traced b.table calls (Draft.own ask) (d.pieces b.kind b.table ask) (d.values b.kind ask) q
      | .error fault =>
          (machine (n + 5)).callMethod b.value ask.method [] c = (.error (.fault fault), c) ∧
            b.kind = .updater ∧ d.assigned = [] := by
  intro d m
  have hmarked := hb.marked ht hcalls
  have hbounded := bounded_draft b.table calls
  refine ⟨pairwise_draft b.table calls, ?_, fun ask hask => ?_⟩
  · have hrun := toSql_apply hb.holds hbounded hkind (n + 3)
    cases hq : d.statement b.kind b.table with
    | ok q =>
      rw [hq] at hrun
      exact ⟨hrun, traced ht hmarked (show d.query b.kind b.table .all = .ok q from hq)⟩
    | error fault =>
      rw [hq] at hrun
      exact ⟨hrun, query_eq_error (show d.query b.kind b.table .all = .error fault from hq)⟩
  · have hrun := ask_apply hb.holds hbounded hask (n + 3)
    cases hq : d.query b.kind b.table ask with
    | ok q =>
      rw [hq] at hrun
      exact ⟨hrun, traced ht hmarked hq⟩
    | error fault =>
      rw [hq] at hrun
      exact ⟨hrun, query_eq_error hq⟩

/-- The scores above 7 that are 8 or 9, at most 3 of them. -/
theorem marks_match_values_board : ∃ b c, Lived 0 b (Board.calls (.int 7) [.int 8, .int 9] ++
      [.bound .limit (.int 3)]) c ∧ b.kind ≠ .relation ∧ Unmarked b.table ∧
    (machine 5).callMethod b.value "to_sql" [] c = boundValue
      ("SELECT \"score\" FROM \"board\" WHERE (\"score\" > %s) AND (\"score\" IN (%s, %s))" ++
        " LIMIT %s", [.int 7, .int 8, .int 9, .int 3]) c := by
  obtain ⟨b, c, hkind, htable, -, hlived⟩ := Board.lived (.int 7) [.int 8, .int 9]
  have hfits : Call.Fits b c.work.heap (.bound .limit (.int 3)) := hkind
  have hb := hlived.called hfits (show Call.Given c.work.heap _ [.int 3] from rfl) rfl
  have hne : b.kind ≠ .relation := by rw [hkind]; decide
  have ht : Unmarked b.table := by
    rw [htable]
    exact ⟨by decide, by decide⟩
  refine ⟨b, _, hb, hne, ht, ?_⟩
  have hsql := (marks_match_values hb hne ht (by simp [Board.calls, Call.Marked])).2.1
  rw [hkind, htable] at hsql
  exact hsql.1

end Builder

end PgSchema.Object
