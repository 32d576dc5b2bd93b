import Mathlib.Data.List.Forall2
import PgSchema.Object.Builder
import PgSchema.Proofs.Object.Asking
import PgSchema.Proofs.Query.Reading

/-!
What conditions mean.

A predicate holds on a row, or it does not, or neither is known, where a value is absent (`Truth`).
Of what is read from the text of conditions, every predicate judges by its own values, and all of
them have to hold (`Situation.holds?`).

The conditions that a module defines ask questions about columns (`Call.Asks`).  From the text that
a builder gives for its conditions these questions are read back in the order of the calls, and with
the values that the builder keeps, the text means that all of them hold (`where_means_calls`).
-/

namespace PgSchema.Query

open Codegen (Comparison Test)
open Object (Value optional)

/-! ### Three truth values -/

/-- A truth value, if it is known. -/
abbrev Truth := Option Bool

namespace Truth

/-- What does not hold. -/
def neg (p : Truth) : Truth := p.map not

/-- Both hold. -/
def both : Truth → Truth → Truth
  | some false, _ => some false
  | _, some false => some false
  | some true, some true => some true
  | _, _ => none

/-- One of the two holds, or both. -/
def either : Truth → Truth → Truth
  | some true, _ => some true
  | _, some true => some true
  | some false, some false => some false
  | _, _ => none

/-- All of them hold. -/
def all (ps : List Truth) : Truth := ps.foldr both (some true)

/-- One of them holds at least; as long as none does, those that are not known leave it open. -/
def any (ps : List Truth) : Truth :=
  if some true ∈ ps then some true else if none ∈ ps then none else some false

@[simp] lemma both_true (p : Truth) : p.both (some true) = p := by
  rcases p with _ | (_ | _) <;> rfl

lemma neg_either (p q : Truth) : (p.either q).neg = p.neg.both q.neg := by
  rcases p with _ | (_ | _) <;> rcases q with _ | (_ | _) <;> rfl

/-- **Of two lists together, one holds** if one of the first or one of the second does. -/
lemma any_append (ps qs : List Truth) : any (ps ++ qs) = (any ps).either (any qs) := by
  unfold any
  by_cases hp : some true ∈ ps <;> by_cases hq : some true ∈ qs <;>
    by_cases hp' : none ∈ ps <;> by_cases hq' : none ∈ qs <;> simp [hp, hq, hp', hq', either]

end Truth

/-! ### Rows -/

/-- A row, and how values compare that are there. -/
structure Situation where
  value : String → Value
  compare : Comparison → Value → Value → Bool

namespace Situation

variable (w : Situation)

/-- How two values compare, if both are there. -/
def relate (k : Comparison) (x y : Value) : Truth := do
  let x ← optional x
  let y ← optional y
  return w.compare k x y

/-- **What a test of a column means**, with its values. -/
def test (column : String) (values : List Value) : Test → Truth
  | .compare k => Truth.all (values.map (w.relate k (w.value column)))
  | .absent negated => some ((optional (w.value column)).isNone != negated)
  | .among negated =>
    let found := Truth.any (values.map (w.relate .eq (w.value column)))
    if negated then found.neg else found

/-- What a predicate means, with its values. -/
def judge (values : List Value) : Predicate → Truth
  | .never => some false
  | .always => some true
  | .tests column test _ => w.test column values test

/-- What predicates mean that all have to hold: each takes its values from the front. -/
def judgeAll : List Predicate → List Value → Truth
  | [], _ => some true
  | p :: ps, values =>
    (w.judge (values.take p.count) p).both (judgeAll ps (values.drop p.count))

/-- **What a text of conditions means**, with the values that are bound in it. -/
def holds? (s : String) (values : List Value) : Option Truth :=
  (readWhere? s).map (w.judgeAll · values)

/-- A predicate means what the test means that it is made for: nothing is in the empty
collection. -/
@[simp] lemma judge_of (column : String) (test : Test) (values : List Value) :
    w.judge values (.of column test values.length) = w.test column values test := by
  cases test with
  | compare | absent => rfl
  | among negated =>
    cases values with
    | nil => cases negated <;> rfl
    | cons v values => rfl

/-- **A collection in two parts**: a column is in one of the parts, or in neither. -/
lemma test_append (column : String) (negated : Bool) (xs ys : List Value) :
    w.test column (xs ++ ys) (.among negated) = if negated
      then (w.test column xs (.among negated)).both (w.test column ys (.among negated))
      else (w.test column xs (.among negated)).either (w.test column ys (.among negated)) := by
  cases negated <;> simp [test, Truth.any_append, Truth.neg_either]

end Situation

/-! ### Questions -/

/-- A test that is asked of a column, with its values. -/
structure Question where
  column : String
  test : Test
  values : List Value

namespace Question

/-- What the predicate says. -/
def predicate (q : Question) : Predicate := .of q.column q.test q.values.length

/-- What is asked for, on a row. -/
def truth (w : Situation) (q : Question) : Truth := w.test q.column q.values q.test

/-- Questions that differ in their values only, and in the column if they are about the empty
collection. -/
def Alike (q q' : Question) : Prop :=
  q.test = q'.test ∧ q.values.length = q'.values.length ∧
    (q.column = q'.column ∨ q.values = [] ∧ ∃ negated, q.test = .among negated)

lemma predicate_eq_iff {q q' : Question} : q.predicate = q'.predicate ↔ q.Alike q' := by
  rw [predicate, predicate, Predicate.of_eq_of_iff, List.length_eq_zero_iff]
  rfl

/-- **All predicates together mean that all questions hold**: each of them gets its values. -/
lemma judgeAll_predicates (w : Situation) (qs : List Question) :
    w.judgeAll (qs.map predicate) (qs.flatMap (·.values)) = Truth.all (qs.map (truth w)) := by
  induction qs with
  | nil => rfl
  | cons q qs ih =>
    have hcount : q.predicate.count = q.values.length := Predicate.count_of ..
    rw [List.map_cons, List.flatMap_cons, Situation.judgeAll, hcount, List.take_left,
      List.drop_left, ih, predicate, Situation.judge_of]
    rfl

end Question

end PgSchema.Query

namespace PgSchema.Object.Builder

open Codegen (Test)
open Query (Conditions Predicate Question Situation Truth readWhere?)
open Session (machine)

/-! ### Questions of calls -/

/-- The fragment of a condition is the predicate of its test. -/
lemma fragmentOf_statement (test : Test) (column : Column) (count : Nat) :
    fragmentOf count (test.statement column) = test.clause column.columnName count := by
  cases test <;> rfl

namespace Call

/-- A call of a condition that a module defines. -/
def IsGenerated : Call → Prop
  | .condition .. => True
  | _ => False

/-- **A call asks a question**: the condition that is called is derived from the column, to make the
test. -/
def Asks (t : Table) : Call → Question → Prop
  | .condition name s values, q => values = q.values ∧
    ∃ column ∈ t.columns, column.columnName = q.column ∧
      ∃ target, ∃ op ∈ Codegen.tableConditions t target,
        op.name = name ∧ op.body = [s] ∧ op.Makes column q.test
  | _, _ => False

variable {t : Table} {call : Call} {q : Question}

/-- What is put in for a question is its predicate, and its values. -/
lemma Asks.adds (h : call.Asks t q) :
    call.adds? t = some (.clause q.predicate.text q.values) := by
  cases call with
  | condition name s values =>
    obtain ⟨rfl, column, -, hcolumn, target, op, -, -, hbody, hmakes⟩ := h
    obtain rfl : s = q.test.statement column :=
      List.head_eq_of_cons_eq (hbody.symm.trans hmakes.body)
    rw [adds?, fragmentOf_statement, hcolumn, Question.predicate, Predicate.text_of]
  | _ => exact h.elim

/-- A condition is called with as many values as its test takes. -/
lemma Asks.fits (h : call.Asks t q) {heap : Heap} {arguments : List Value}
    (hgiven : call.Given heap arguments) : q.predicate.Fits := by
  cases call with
  | condition name s values =>
    obtain ⟨rfl, column, -, -, target, op, -, -, hbody, hmakes⟩ := h
    obtain rfl : s = q.test.statement column :=
      List.head_eq_of_cons_eq (hbody.symm.trans hmakes.body)
    refine Predicate.fits_of ?_
    change Takes heap (q.test.statement column) arguments q.values at hgiven
    cases htest : q.test with
    | compare k =>
      rw [htest] at hgiven
      obtain ⟨v, -, hvalues⟩ := hgiven
      rw [hvalues]
      rfl
    | absent negated =>
      rw [htest] at hgiven
      rw [hgiven.2]
      rfl
    | among negated => trivial
  | _ => exact h.elim

/-- Every call of a condition asks a question. -/
lemma exists_asks {b : Builder} {heap : Heap} (hcall : call.IsGenerated)
    (hfits : call.Fits b heap) : ∃ q, call.Asks b.table q := by
  cases call with
  | condition name s values =>
    obtain ⟨-, target, op, hop, hname, hbody⟩ := hfits
    obtain ⟨column, hcolumn, test, hmakes⟩ := Codegen.exists_test hop
    exact ⟨⟨column.columnName, test, values⟩, rfl, column, hcolumn, rfl, target, op, hop, hname,
      hbody, hmakes⟩
  | _ => exact hcall.elim

end Call

/-! ### Conditions of calls -/

section Calls

variable {n : Nat} {b : Builder} {calls : List Call} {c : Course State} {qs : List Question}

/-- What conditions put in are the predicates of their questions, in the order of the calls. -/
lemma conditions_draft {t : Table} (h : List.Forall₂ (Call.Asks t) calls qs) :
    (draft t calls).conditions =
      ⟨qs.map (·.predicate.text), qs.flatMap (·.values)⟩ := by
  have hpicked : ((draft t calls).pick Entry.clause?).map (·.2) =
      qs.map fun q => (q.predicate.text, q.values) := by
    rw [map_pick_draft]
    induction h with
    | nil => rfl
    | cons hcall _ ih => simp [hcall.adds, Entry.clause?, ih]
  have hclauses := congrArg (List.map (·.1)) hpicked
  have hbindings := congrArg (List.flatMap (·.2)) hpicked
  simp only [List.map_map, List.flatMap_map] at hclauses hbindings
  exact congr (congrArg Conditions.mk hclauses) hbindings

namespace Lived

/-- A builder that got conditions was asked questions. -/
lemma exists_questions (hb : Lived n b calls c) (hcalls : ∀ call ∈ calls, call.IsGenerated) :
    ∃ qs, List.Forall₂ (Call.Asks b.table) calls qs := by
  have hasks : ∀ call ∈ calls, ∃ q, call.Asks b.table q := by
    intro call hcall
    obtain ⟨b', heap, arguments, htable, -, hfits, -⟩ := hb.fitted call hcall
    rw [← htable]
    exact Call.exists_asks (hcalls call hcall) hfits
  clear hb hcalls
  induction calls with
  | nil => exact ⟨[], .nil⟩
  | cons call calls ih =>
    obtain ⟨⟨q, hq⟩, hrest⟩ := List.forall_mem_cons.1 hasks
    obtain ⟨qs, hqs⟩ := ih hrest
    exact ⟨q :: qs, .cons hq hqs⟩

/-- The questions are asked with as many values as their tests take. -/
lemma fits (hb : Lived n b calls c) (hqs : List.Forall₂ (Call.Asks b.table) calls qs) :
    ∀ p ∈ qs.map Question.predicate, p.Fits := by
  have hgiven : ∀ call ∈ calls, ∃ heap arguments, call.Given heap arguments := by
    intro call hcall
    obtain ⟨_, heap, arguments, -, -, -, hgiven⟩ := hb.fitted call hcall
    exact ⟨heap, arguments, hgiven⟩
  clear hb
  induction hqs with
  | nil => simp
  | cons hcall _ ih =>
    obtain ⟨⟨heap, arguments, hfirst⟩, hrest⟩ := List.forall_mem_cons.1 hgiven
    exact List.forall_mem_cons.2 ⟨hcall.fits hfirst, ih hrest⟩

/-- **The questions are read back** from the text of the conditions. -/
lemma readWhere? (hb : Lived n b calls c) (hqs : List.Forall₂ (Call.Asks b.table) calls qs) :
    Query.readWhere? (draft b.table calls).conditions.whereText =
      some (qs.map Question.predicate) := by
  refine Query.readWhere?_whereText (hb.fits hqs) ?_
  rw [conditions_draft hqs, List.map_map]
  rfl

end Lived

/-- The text shows the questions, up to what `Question.Alike` leaves open. -/
lemma whereText_eq_iff {n' : Nat} {b' : Builder} {calls' : List Call} {c' : Course State}
    {qs' : List Question} (hb : Lived n b calls c)
    (hqs : List.Forall₂ (Call.Asks b.table) calls qs) (hb' : Lived n' b' calls' c')
    (hqs' : List.Forall₂ (Call.Asks b'.table) calls' qs') :
    (draft b.table calls).conditions.whereText = (draft b'.table calls').conditions.whereText ↔
      List.Forall₂ Question.Alike qs qs' := by
  have hsame : qs.map Question.predicate = qs'.map Question.predicate ↔
      List.Forall₂ Question.Alike qs qs' := by
    rw [← List.forall₂_eq_eq_eq, List.forall₂_map_left_iff, List.forall₂_map_right_iff]
    simp only [Question.predicate_eq_iff]
  rw [← hsame]
  refine ⟨fun htext => ?_, fun hpredicates => ?_⟩
  · have hread := hb.readWhere? hqs
    rw [htext, hb'.readWhere? hqs'] at hread
    exact (Option.some.inj hread).symm
  · have htexts := congrArg (List.map Predicate.text) hpredicates
    simp only [List.map_map] at htexts
    rw [conditions_draft hqs, conditions_draft hqs', Conditions.whereText, Conditions.whereText]
    simp only [Function.comp_def] at htexts
    rw [htexts]

/-- **Conditions mean what is called.**  From the text that a builder gives for its conditions, the
columns, the tests and the numbers of values of the calls are read back, in the order of the calls,
so two builders give the same text only for the same questions.  With the values that the builder
keeps, the text means on every row that all questions hold.  A column is among two collections
together if it is among one of them, and not among both together if it is not among either. -/
theorem where_means_calls (hb : Lived n b calls c)
    (hcalls : ∀ call ∈ calls, call.IsGenerated) :
    ∃ qs s, List.Forall₂ (Call.Asks b.table) calls qs ∧
      (machine (n + 5)).callMethod b.value "where_clause" [] c = (.ok (.text s), c) ∧
      keptItems (machine (n + 5)) b.value "bindings" c = (.ok (qs.flatMap (·.values)), c) ∧
      Query.readWhere? s = some (qs.map Question.predicate) ∧
      (∀ {n' b' calls' c' qs' s'}, Lived n' b' calls' c' →
        List.Forall₂ (Call.Asks b'.table) calls' qs' →
        (machine (n' + 5)).callMethod b'.value "where_clause" [] c' = (.ok (.text s'), c') →
        (s = s' ↔ List.Forall₂ Question.Alike qs qs')) ∧
      ∀ w : Situation,
        w.holds? s (qs.flatMap (·.values)) = some (Truth.all (qs.map (·.truth w))) ∧
        ∀ (column : String) (negated : Bool) (xs ys : List Value),
          let among := fun values : List Value => w.holds?
            (Conditions.member {} negated (Identifier.quote column) values).whereText values
          ∃ p q, among xs = some p ∧ among ys = some q ∧
            among (xs ++ ys) = some (if negated then p.both q else p.either q) := by
  obtain ⟨qs, hqs⟩ := hb.exists_questions hcalls
  have hbindings : Part.bindings ∈ b.kind.parts := by cases b.kind <;> decide
  have hkept := keptItems_apply hb.holds (n + 4) hbindings
  rw [Draft.kept_bindings, conditions_draft hqs] at hkept
  have hread := hb.readWhere? hqs
  refine ⟨qs, _, hqs, whereClause_apply hb.holds (n + 3), hkept, hread, ?_, fun w => ⟨?_, ?_⟩⟩
  · intro n' b' calls' c' qs' s' hb' hqs' hrun
    rw [whereClause_apply hb'.holds (n' + 3)] at hrun
    obtain rfl := Value.text.inj (Except.ok.inj (congrArg Prod.fst hrun))
    exact whereText_eq_iff hb hqs hb' hqs'
  · rw [Situation.holds?, hread, Option.map_some, Question.judgeAll_predicates]
  · intro column negated xs ys among
    have hamong : ∀ values, among values = some (w.test column values (.among negated)) := by
      intro values
      have hpredicate : Query.readWhere?
          (Conditions.member {} negated (Identifier.quote column) values).whereText =
            some [.of column (.among negated) values.length] := by
        refine Query.readWhere?_whereText (List.forall_mem_singleton.2 (Predicate.fits_of trivial))
          ?_
        rw [List.map_singleton, Predicate.text_of]
        rfl
      have hjudge := Question.judgeAll_predicates w [⟨column, .among negated, values⟩]
      simp only [List.map_singleton, List.flatMap_singleton] at hjudge
      dsimp only [among, Situation.holds?]
      rw [hpredicate, Option.map_some]
      exact congrArg some (hjudge.trans (Truth.both_true _))
    exact ⟨_, _, hamong xs, hamong ys, (hamong _).trans (congrArg some (w.test_append ..))⟩

end Calls

/-- The scores above 7 in a collection that is empty. -/
theorem where_means_calls_board : ∃ b c, Lived 0 b (Board.calls (.int 7) []) c ∧
    (∀ call ∈ Board.calls (.int 7) [], call.IsGenerated) ∧
    (machine 5).callMethod b.value "where_clause" [] c =
      (.ok (.text " WHERE (\"score\" > %s) AND (1 = 0)"), c) ∧
    ∃ qs, List.Forall₂ (Call.Asks b.table) (Board.calls (.int 7) []) qs ∧
      qs.map Question.predicate = [.tests "score" (.compare .gt) 1, .never] := by
  obtain ⟨b, c, -, htable, -, hb⟩ := Board.lived (.int 7) []
  have hcalls : ∀ call ∈ Board.calls (.int 7) [], call.IsGenerated := by
    simp [Board.calls, Call.IsGenerated]
  have hrun : (machine 5).callMethod b.value "where_clause" [] c =
      (.ok (.text " WHERE (\"score\" > %s) AND (1 = 0)"), c) := by
    have hwhere := whereClause_apply hb.holds 3
    rw [htable] at hwhere
    exact hwhere
  obtain ⟨qs, s, hqs, hwhere, -, hread, -⟩ := where_means_calls hb hcalls
  obtain rfl := Value.text.inj (Except.ok.inj (congrArg Prod.fst (hwhere.symm.trans hrun)))
  exact ⟨b, c, hb, hcalls, hrun, qs, hqs,
    Option.some.inj (hread.symm.trans (by decide +kernel))⟩

end PgSchema.Object.Builder
