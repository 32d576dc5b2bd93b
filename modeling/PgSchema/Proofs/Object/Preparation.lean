import PgSchema.Proofs.Object.Inserters
import PgSchema.Proofs.Object.Lives
import PgSchema.Proofs.Query.Placeholders

/-!
What insertions are prepared to say.

The policy that holds for a table decides whether an insertion can be made, and what its statement
says (`Prepared.insertion_resolved`).  The driver finds a place for each value in the statement and
no other, unless a name in it has a single percent sign (`Prepared.places_match_values_iff`).
-/

namespace PgSchema.Object

open Query (Doubled Effective Inserter Insertion Resolves effective_iff holes? places? resolves_said)
open Session (machine)

namespace Prepared

variable {p : Prepared} {c d : Course State} {t : Table} {given : OnConflict} {skip : Bool}
  {n : Nat}

/-! ### Policies -/

/-- **How an insertion is resolved** that was made for a table, the policy that holds, and numbers
that are written or not: what it has, what its statement says, and what the statement makes of a row
in conflict. -/
structure Resolved (n : Nat) (t : Table) (policy : OnConflict) (skip : Bool) (p : Prepared)
    (d : Course State) : Prop where
  holding : (d.work.heap.attributes p.id).get? "policy" = some (.policy policy)
  written : (machine (n + 1)).member p.value "columns" d =
    (.ok (.tuple ((t.columns.filter fun c => skip || !c.autoId).map .column)), d)
  statement : ∃ text s, (machine (n + 2)).member p.value "sql" d = (.ok (.text text), d) ∧
    Insertion.read? text = some s ∧ Resolves t policy skip s ∧
      ∀ key, policy = .replace → t.primaryKey? = some key →
        ∀ offered old : String → Value, offered key.columnName = old key.columnName →
          s.settle? offered old =
            some fun column => if column ∈ s.columns then offered column else old column

/-- An insertion that was just made is resolved. -/
lemma resolved_made {cls : Class} (hcls : cls.Prepares c.work.heap)
    (hnames : (t.columns.map Column.columnName).Nodup) {i : Inserter}
    (hi : Inserter.prepare t given skip = .ok i) (n : Nat) (connection : Value) :
    Resolved n t i.policy skip ⟨cls, c.work.heap.size, connection, i⟩
      (c.withHeap (c.work.heap.grown (attributes connection t given skip i) [])) := by
  have hkeeps : (⟨cls, c.work.heap.size, connection, i⟩ : Prepared).Keeps
      (c.withHeap (c.work.heap.grown (attributes connection t given skip i) [])).work.heap :=
    keeps_made hcls
  have hsaid := resolves_said hnames hi
  have hwritten : i.columns = t.columns.filter fun c => skip || !c.autoId := by
    obtain ⟨clause, -, rfl⟩ := Inserter.exists_clause hi
    rfl
  refine ⟨?_, ?_, i.text, i.said, hkeeps.member_sql n, Inserter.read?_said hi, hsaid, ?_⟩
  · rw [heap_withHeap, Heap.attributes_of_instance (Heap.getElem?_grown_object ..)]
    rfl
  · rw [← hwritten]
    exact hkeeps.member_own (by decide) rfl rfl (machine n)
  · rintro key hpolicy hkey offered old hconflict
    rw [hpolicy] at hsaid
    exact hsaid.settle?_replace hkey hconflict

/-- **An insertion is resolved by its policy.**  Exactly one policy holds for a table, and an
insertion that is to replace rows of a table without a key fails with a faulty argument.  Every
other one is made, and its statement says what the policy asks for. -/
theorem insertion_resolved {cls : Class} (hcls : cls.Prepares c.work.heap)
    (hnames : (t.columns.map Column.columnName).Nodup) (given : OnConflict) (skip : Bool)
    (n : Nat) (connection : Value) :
    ∃ policy, (∀ q, Effective t given q ↔ q = policy) ∧ ∃ outcome d,
      (machine (n + 2)).call (.cls cls) [connection, .table t, .policy given, .bool skip] [] c =
          (outcome, d) ∧
        ((∃ fault, outcome = .error (.fault fault) ∧ fault.sort = .argument) ↔
          policy = .replace ∧ t.primaryKey? = none) ∧
        (¬ (policy = .replace ∧ t.primaryKey? = none) → ∃ p : Prepared, outcome = .ok p.value ∧
          Readied n t given skip p d ∧ Resolved n t policy skip p d) := by
  refine ⟨(Query.resolveConflict t given).1, fun q => effective_iff, ?_⟩
  cases hclause : Inserter.conflictClause t (Query.resolveConflict t given).1
      (Query.resolveConflict t given).2 (Inserter.writtenColumns t skip) with
  | error fault =>
    obtain ⟨hpolicy, hkey, hfault⟩ := Inserter.conflictClause_error_iff.1 hclause
    have hi : Inserter.prepare t given skip = .error fault := by
      rw [Inserter.prepare_eq, hclause]
      rfl
    have hsort : fault.sort = .argument := by
      rw [hfault]
      rfl
    refine ⟨.error (.fault fault), _, call_inserter_error hcls hi n connection, ?_, ?_⟩
    · exact ⟨fun _ => ⟨hpolicy, hkey⟩, fun _ => ⟨fault, rfl, hsort⟩⟩
    · intro hnot
      exact absurd ⟨hpolicy, hkey⟩ hnot
  | ok clause =>
    have hi : Inserter.prepare t given skip = .ok (Inserter.withClause t given skip clause) := by
      rw [Inserter.prepare_eq, hclause]
      rfl
    have hcall := call_inserter hcls hi n connection
    refine ⟨.ok (.object cls c.work.heap.size), _, hcall, ?_, fun _ => ?_⟩
    rotate_left
    · exact ⟨_, rfl, .made hcls hi hcall, resolved_made hcls hnames hi n connection⟩
    constructor
    · rintro ⟨fault, hfault, -⟩
      cases hfault
    · rintro ⟨hpolicy, hkey⟩
      rw [hpolicy, Inserter.conflictClause, hkey] at hclause
      cases hclause

/-- A table whose rows have numbers for keys, and replace one another. -/
def ranking : Table :=
  { Board.table with columns :=
      [⟨"id", "id", .long, false, false, true, true, .none⟩,
        ⟨"score", "\"s\"", .int, false, true, false, false, .replace⟩] }

/-- **A new score replaces the old one.** -/
theorem insertion_resolved_ranking :
    (Class.known "Inserter").Prepares Board.start.work.heap ∧
      (ranking.columns.map Column.columnName).Nodup ∧ ∃ p d,
        (machine 2).call (.cls (.known "Inserter"))
            [.null, .table ranking, .policy .none, .bool true] [] Board.start = (.ok p.value, d) ∧
          Resolved 0 ranking .replace true p d := by
  have hcls : (Class.known "Inserter").Prepares Board.start.work.heap :=
    ⟨.library, fun _ hid => absurd hid List.not_mem_nil, fun _ _ _ hid => absurd hid
      List.not_mem_nil⟩
  have hnames : (ranking.columns.map Column.columnName).Nodup := by decide
  have hcolumns : ranking.columns = [ranking.columns[0]] ++ ranking.columns[1] :: [] := rfl
  have hholds : Effective ranking .none .replace :=
    .declared hcolumns (by decide) (by decide)
  obtain ⟨policy, hpolicy, outcome, d, hcall, -, hmade⟩ :=
    insertion_resolved hcls hnames .none true 0 .null
  obtain rfl := (hpolicy .replace).1 hholds
  obtain ⟨p, rfl, -, hp⟩ := hmade (by decide)
  exact ⟨hcls, hnames, p, d, hcall, hp⟩

/-! ### Places for values -/

/-- Work on one item after the other comes to one thing for each item. -/
lemma forall₂_of_each {σ α β : Type} {f : α → Action σ β} {l : List α} {bs : List β}
    {c d : Course σ} (h : Action.each f l c = (.ok bs, d)) :
    List.Forall₂ (fun a b => ∃ e e', f a e = (.ok b, e')) l bs := by
  induction l generalizing bs c with
  | nil =>
    obtain ⟨rfl, -⟩ := Action.pure_eq_ok.1 h
    exact .nil
  | cons a l ih =>
    obtain ⟨b, e, hb, h⟩ := Action.bind_eq_ok.1 h
    obtain ⟨bs', e', hrest, h⟩ := Action.bind_eq_ok.1 h
    obtain ⟨rfl, rfl⟩ := Action.pure_eq_ok.1 h
    exact .cons ⟨c, e, hb⟩ (ih hrest)

/-- **The places of an insertion match its values** if and only if no name in its statement has a
single percent sign.  The values are the attributes of a model by the columns that the statement
names, in their order, and the places then stand in a row behind these names. -/
theorem places_match_values_iff (h : Readied n t given skip p c) (m : Nat) (model : Value) :
    let i := p.inserter
    let attributes := Action.each (fun column => (machine (m + 1)).member model column.name)
      i.columns
    (machine (m + 2)).member p.value "sql" c = (.ok (.text i.text), c) ∧
      (machine (m + 2)).callMethod p.value "values_of" [model] c = (attributes >>= newList) c ∧
      (∀ values d, attributes c = (.ok values, d) → values.length = i.columns.length) ∧
      (Insertion.read? i.text).map Insertion.columns = some (i.columns.map Column.columnName) ∧
      (holes? i.text.toList = some i.columns.length ↔
        ∀ name ∈ t.name :: (i.columns ++ t.primaryKey?.toList).map Column.columnName,
          Doubled name) ∧
      (holes? i.text.toList = some i.columns.length → ∃ front back : List Char,
        places? i.text.toList = some (front.map some ++
          (Insertion.valuesPlaces i.columns.length ++ back.map some))) := by
  intro i attributes
  have hi := h.prepare_eq
  have htext : i.text = i.said.text := Inserter.text_said hi
  have htable : i.table = t := by
    obtain ⟨clause, -, hclause⟩ := Inserter.exists_clause hi
    rw [show i = _ from hclause]
    rfl
  have hlength : i.said.columns.length = i.columns.length := List.length_map _
  have hnames : (∀ name ∈ i.said.names, Doubled name) ↔
      ∀ name ∈ t.name :: (i.columns ++ t.primaryKey?.toList).map Column.columnName,
        Doubled name := by
    refine forall_congr' fun name => imp_congr_left ?_
    rw [i.mem_names_said, htable, List.mem_cons, List.map_append, List.mem_append]
    cases t.primaryKey? <;> rfl
  have hholes : holes? i.text.toList = some i.columns.length ↔
      ∀ name ∈ i.said.names, Doubled name := by
    rw [htext, ← hlength]
    exact i.said.holes?_text_iff
  refine ⟨h.keeps.member_sql m, h.keeps.values_apply m model, fun values d hvalues =>
    (forall₂_of_each hvalues).length_eq.symm, ?_, hholes.trans hnames, fun hmatch => ?_⟩
  · rw [Inserter.read?_said hi]
    rfl
  · obtain ⟨front, back, hplaces⟩ := i.said.places?_text (hholes.1 hmatch)
    refine ⟨front, back, ?_⟩
    rw [htext, hplaces, hlength]

/-- **A percent sign in the name of a table** is taken for the beginning of a place. -/
theorem places_match_values_iff_percent :
    let t := { Board.table with name := "100%" }
    ∃ p d, Readied 0 t .none false p d ∧
      holes? p.inserter.text.toList ≠ some p.inserter.columns.length := by
  intro t
  have hcls : (Class.known "Inserter").Prepares Board.start.work.heap :=
    ⟨.library, fun _ hid => absurd hid List.not_mem_nil, fun _ _ _ hid => absurd hid
      List.not_mem_nil⟩
  have hi : Inserter.prepare t .none false = .ok (Inserter.withClause t .none false "") := rfl
  have hp := Readied.made hcls hi (call_inserter hcls hi 0 .null)
  refine ⟨_, _, hp, fun hholes => ?_⟩
  have hdoubled := (places_match_values_iff hp 0 .null).2.2.2.2.1.1 hholes
  exact absurd (hdoubled "100%" List.mem_cons_self) (by decide)

end Prepared

end PgSchema.Object
