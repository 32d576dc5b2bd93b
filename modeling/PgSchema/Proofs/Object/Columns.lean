import PgSchema.Proofs.Object.Connections
import PgSchema.Proofs.Object.Preparation
import PgSchema.Proofs.Query.Meaning

/-!
The columns that attribute names stand for.

A column is looked up by a name that may be its name in the code or in the database, and the first
one that goes by the name is found.  So the name of an attribute finds its own column unless a
column in front of it has this name in the database (`Table.Shadowed`), and with the look-up go all
the methods that take the name of a column.  Conditions, insertions and rows go by the column
itself (`attribute_addresses`).
-/

namespace PgSchema

/-! ### Columns by name -/

namespace Table

variable {t : Table} {c : Column}

/-- **A column is shadowed** by another one in front of it, whose name in the database is the name
that the column has in the code. -/
def Shadowed (t : Table) (c : Column) : Prop :=
  ∃ before after, t.columns = before ++ c :: after ∧ ∃ d ∈ before, d.columnName = c.name

/-- The columns in front of another one have other names. -/
lemma name_ne_of_before (hnames : (t.columns.map Column.name).Nodup) {before after : List Column}
    (hcolumns : t.columns = before ++ c :: after) : ∀ d ∈ before, d.name ≠ c.name := by
  rw [hcolumns, List.map_append, List.map_cons, List.nodup_append] at hnames
  exact fun d hd => hnames.2.2 d.name (List.mem_map_of_mem hd) c.name List.mem_cons_self

/-- A column is found by its name unless it is shadowed. -/
lemma column?_eq_iff (hnames : (t.columns.map Column.name).Nodup) (hc : c ∈ t.columns) :
    t.column? c.name = some c ↔ ¬ t.Shadowed c := by
  constructor
  · rintro hfound ⟨before, after, hcolumns, d, hd, heq⟩
    -- the first column that goes by the name is in front, and is another one
    have hsome : (before.find? fun e => e.name = c.name ∨ e.columnName = c.name).isSome := by
      rw [List.find?_isSome]
      exact ⟨d, hd, by simp [heq]⟩
    obtain ⟨e, he⟩ := Option.isSome_iff_exists.1 hsome
    rw [column?, hcolumns, List.find?_append, he] at hfound
    obtain rfl := Option.some.inj hfound
    exact name_ne_of_before hnames hcolumns e (List.mem_of_find?_eq_some he) rfl
  · intro hshadowed
    obtain ⟨before, after, hcolumns⟩ := List.append_of_mem hc
    have hnone : before.find? (fun e => e.name = c.name ∨ e.columnName = c.name) = none := by
      rw [List.find?_eq_none]
      intro d hd
      have hother : d.columnName ≠ c.name := fun heq =>
        hshadowed ⟨before, after, hcolumns, d, hd, heq⟩
      simp [name_ne_of_before hnames hcolumns d hd, hother]
    rw [column?, hcolumns, List.find?_append, hnone, Option.none_or,
      List.find?_cons_of_pos (by simp)]

/-- Some column goes by the name of a column. -/
lemma exists_column? (hc : c ∈ t.columns) : ∃ d ∈ t.columns, t.column? c.name = some d := by
  have hsome : (t.column? c.name).isSome := by
    unfold column?
    rw [List.find?_isSome]
    exact ⟨c, hc, by simp⟩
  obtain ⟨d, hd⟩ := Option.isSome_iff_exists.1 hsome
  exact ⟨d, List.mem_of_find?_eq_some hd, hd⟩

end Table

namespace Object

open Builder (Takes narrowed)
open Codegen (tableConditions)
open Identifier (quote)
open Query (Insertion Selector)
open Session (callKnown machine)

/-! ### Look-ups -/

section LookUps

variable {t : Table} {c : Column} {s : Course State} {b : Builder} {kept kept' : Part → List Value}
  {bounds bounds' : Edge → Value}

/-- A table gives the column that goes by a name. -/
lemma callMethod_getColumn (n : Nat) (t : Table) (name : String) (s : Course State) :
    (machine (n + 1)).callMethod (.table t) "get_column" [.text name] s =
      (columnNamed t (.text name) >>= fun c => pure (.column c)) s := rfl

/-- A run leaves one thing in the lists of a builder. -/
lemma Builder.Turns.kept_eq {α : Type} {x : Run α} {r r' : Except Failure α}
    (h : b.Turns s x r kept bounds) (h' : b.Turns s x r' kept' bounds') {p : Part}
    (hp : p ∈ b.kind.parts) : kept p = kept' p := by
  obtain ⟨heap, hrun, -, hk⟩ := h
  obtain ⟨heap', hrun', -, hk'⟩ := h'
  obtain rfl : heap = heap' :=
    congrArg (fun outcome => outcome.2.work.heap) (hrun.symm.trans hrun')
  exact Stored.list.inj (Option.some.inj ((hk.lists p hp).symm.trans (hk'.lists p hp)))

/-- **A run puts a column in**: an item with the column as it is written, at the end of a list that
a builder keeps. -/
def Builder.Puts (b : Builder) (s : Course State) (x : Run Value) (p : Part)
    (item : String → Value) (c : Column) (kept : Part → List Value) (bounds : Edge → Value) :
    Prop :=
  b.Turns s x (.ok b.value) (Function.update kept p (kept p ++ [item (quote c.columnName)])) bounds

/-- What is put in for the name of a column is the column itself, unless it is shadowed. -/
lemma Builder.puts_iff (hnames : (b.table.columns.map Column.name).Nodup)
    (hcolumns : (b.table.columns.map Column.columnName).Nodup) (hc : c ∈ b.table.columns)
    {p : Part} (hp : p ∈ b.kind.parts) {item : String → Value}
    (hitem : Function.Injective item) {x : Run Value}
    (hturns : match b.column? (.text c.name) with
      | some d => b.Puts s x p item d kept bounds
      | none => ∃ e, b.Turns s x (.error e) kept bounds) :
    b.Puts s x p item c kept bounds ↔ ¬ b.table.Shadowed c := by
  obtain ⟨d, hd, hfound⟩ := Table.exists_column? hc
  have hcolumn : b.column? (.text c.name) = some d := hfound
  rw [hcolumn] at hturns
  rw [← Table.column?_eq_iff hnames hc, hfound]
  constructor
  · intro hputs
    have hkept := hputs.kept_eq hturns hp
    rw [Function.update_self, Function.update_self] at hkept
    have hquoted : quote c.columnName = quote d.columnName :=
      hitem (List.head_eq_of_cons_eq (List.append_cancel_left hkept))
    have hname : c.columnName = d.columnName :=
      (Identifier.quote_append_inj (by simp) (by simp)
        (congrArg (fun text : String => text.toList ++ []) hquoted)).1
    exact congrArg some (List.inj_on_of_nodup_map hcolumns hd hc hname.symm)
  · intro heq
    obtain rfl := Option.some.inj heq
    exact hturns

end LookUps

/-! ### Rows -/

/-- **A row**: a dictionary of cells by texts. -/
def IsRow (h : Heap) (row : Value) (cells : Entries Value) : Prop :=
  ∃ id, row = .dict id ∧ h[id]? = some (.dict (cells.map fun cell => (.text cell.1, cell.2)))

section Rows

variable {t : Table} {c : Column} {s s' : Course State} {row : Value} {cells : Entries Value}

/-- A cell of a row is found by its text. -/
lemma lookUp_text {h : Heap} {id : Nat}
    (hid : h[id]? = some (.dict (cells.map fun cell => (.text cell.1, cell.2)))) (name : String) :
    lookUp h id (.text name) = cells.get? name := by
  have hsame : ∀ x : String, sameValue h (.text x) (.text name) = (name == x) := by
    intro x
    rw [Bool.beq_comm]
    rfl
  rw [lookUp, Heap.entries, hid]
  dsimp only
  clear hid
  induction cells with
  | nil => rfl
  | cons cell cells ih =>
    rw [List.map_cons, List.find?_cons, hsame, Entries.get?, List.lookup_cons]
    cases name == cell.1
    · exact ih
    · rfl

/-- A row has a cell if a text of it is the name. -/
lemma has_text {h : Heap} (cells : Entries Value) (name : String) :
    (cells.map fun cell => Value.text cell.1).any (sameValue h (.text name)) =
      (cells.get? name).isSome := by
  have hsame : ∀ x : String, sameValue h (.text name) (.text x) = (name == x) := fun _ => rfl
  induction cells with
  | nil => rfl
  | cons cell cells ih =>
    rw [List.map_cons, List.any_cons, hsame, ih, Entries.get?, Entries.get?, List.lookup_cons]
    cases name == cell.1 <;> rfl

/-- A cell is read from a row. -/
lemma IsRow.cell?_apply (hrow : IsRow s.work.heap row cells) (m : Machine) (name : String) :
    Link.cell? m row name s = (.ok (cells.get? name), s) := by
  obtain ⟨id, rfl, hid⟩ := hrow
  have hlookUp := lookUp_text hid name
  have hhas : m.hasElement name (.dict id) s = (.ok (cells.get? name).isSome, s) := by
    have hkeys : (ownItems? s.work.heap (.dict id)) = some (cells.map fun c => .text c.1) := by
      rw [ownItems?, Heap.entries, hid, List.map_map]
      rfl
    rw [Machine.hasElement, Action.bind_apply_ok (heap_apply s)]
    dsimp only [Value.text?]
    rw [hkeys, ← has_text cells name]
    rfl
  unfold Link.cell?
  rw [Action.bind_apply_ok hhas]
  cases hcell : cells.get? name with
  | none => rfl
  | some x =>
    have hat : elementAt (.dict id) name s = (.ok x, s) := by
      rw [elementAt, Action.bind_apply_ok (heap_apply s)]
      dsimp only
      rw [hlookUp, hcell]
      rfl
    exact Action.bind_apply_ok hat _

/-- The attributes of a row's model. -/
lemma rowAttributes_apply {σ β : Type} {cell? : String → Action σ (Option β)}
    {cells : String → Option β} {d : Course σ}
    (hcell : ∀ name, cell? name d = (.ok (cells name), d)) (t : Table) :
    Connection.rowAttributes cell? t d = (.ok (Entries.collapse
      (t.columns.filterMap fun c => (cells c.columnName).map (c.name, ·))), d) := by
  have hfound : Action.each (fun c : Column => do
      let value ← cell? c.columnName
      return value.map (c.name, ·)) t.columns d =
        (.ok (t.columns.map fun c => (cells c.columnName).map (c.name, ·)), d) :=
    Action.each_apply fun c _ => Action.bind_apply_ok (hcell c.columnName) _
  rw [Connection.rowAttributes, Action.bind_apply_ok hfound, List.filterMap_map]
  rfl

/-- What a model has of a column is the row's cell under the column's name in the database. -/
lemma get?_attributes {β : Type} (cells : String → Option β)
    (hnames : (t.columns.map Column.name).Nodup) (hc : c ∈ t.columns) :
    (Entries.collapse (t.columns.filterMap fun c => (cells c.columnName).map (c.name, ·))).get?
      c.name = cells c.columnName := by
  have hkeys : ∀ l : List Column, ((l.filterMap fun c =>
      (cells c.columnName).map (c.name, ·)).map Prod.fst).Sublist (l.map Column.name) := by
    intro l
    induction l with
    | nil => exact .slnil
    | cons d l ih =>
      rw [List.filterMap_cons]
      cases cells d.columnName with
      | none => exact ih.cons d.name
      | some x => exact ih.cons_cons d.name
  have hnodup := (hkeys t.columns).nodup hnames
  rw [Entries.collapse_of_nodup hnodup]
  refine Option.ext fun x => ?_
  rw [Entries.get?_eq_some_iff hnodup, List.mem_filterMap]
  constructor
  · rintro ⟨d, hd, heq⟩
    obtain ⟨y, hy, heq⟩ := Option.map_eq_some_iff.1 heq
    obtain ⟨hname, rfl⟩ := Prod.mk.inj heq
    obtain rfl := List.inj_on_of_nodup_map hnames hd hc hname
    exact hy
  · exact fun hx => ⟨c, hc, by rw [hx]; rfl⟩

/-- **A row becomes a model**, which has the cell of a column under the column's name. -/
lemma newModel_eq_ok (hnames : (t.columns.map Column.name).Nodup) (hc : c ∈ t.columns)
    (hrow : IsRow s.work.heap row cells) {m : Machine} {self v : Value}
    (h : callKnown m Connection.owner "new_model_from_row" [self, .table t, row] [] s =
      (.ok v, s')) :
    ∃ cls id, v = .object cls id ∧
      (s'.work.heap.attributes id).get? c.name = cells.get? c.columnName := by
  rw [Link.callKnown_newModel] at h
  obtain ⟨l, e, hl, h⟩ := Action.bind_eq_ok.1 h
  obtain ⟨e₁, e₂, h, hthere, hback⟩ := Link.atSite_eq_ok h
  obtain ⟨model, e₃, hmodel, h⟩ := Action.bind_eq_ok.1 h
  have hstays : e.work.heap = s.work.heap := by
    unfold Link.of at hl
    rw [Action.bind_apply_ok (heap_apply s)] at hl
    cases self with
    | object cls id =>
      dsimp only at hl
      cases hlink : s.work.heap.link? id with
      | none =>
        rw [hlink] at hl
        cases hl
      | some l' =>
        rw [hlink] at hl
        cases hl
        rfl
    | _ => cases hl
  -- the attributes are read from the row, and the class of the model does not matter to them
  have hcell : ∀ name, Link.cell? m row name e₁ = (.ok (cells.get? name), e₁) :=
    fun name => IsRow.cell?_apply (by rwa [hthere, hstays]) m name
  have hattributes := rowAttributes_apply hcell t
  obtain ⟨attributes, e₄, hread, hmodel⟩ := Action.bind_eq_ok.1 hmodel
  rw [hattributes] at hread
  cases hread
  obtain ⟨name, e₅, -, hmodel⟩ := Action.bind_eq_ok.1 hmodel
  obtain ⟨rfl, rfl⟩ := Action.pure_eq_ok.1 hmodel
  rw [newObject_apply] at h
  obtain ⟨hv, rfl⟩ := Prod.mk.inj h
  refine ⟨_, _, (Except.ok.inj hv).symm, ?_⟩
  rw [← hback, heap_withHeap, Heap.attributes_of_instance Array.getElem?_push_size]
  exact get?_attributes cells.get? hnames hc

end Rows

/-! ### All ways to a column -/

/-- **What the name of an attribute stands for**, in all the ways in which it is used.  Those that
look it up come to its column unless the column is shadowed; the others go by the column itself. -/
structure Addresses (n : Nat) (t : Table) (c : Column) : Prop where
  /-- The column that a table gives for the name. -/
  found : ∀ s, (machine (n + 1)).callMethod (.table t) "get_column" [.text c.name] s =
    (.ok (.column c), s) ↔ ¬ t.Shadowed c
  /-- The column that an updater sets. -/
  assigned : ∀ {b : Builder} {s : Course State} {kept : Part → List Value} {bounds : Edge → Value},
    b.Keeps s.work.heap kept bounds → b.table = t → b.kind = .updater → ∀ x,
      b.Puts s ((machine (n + 3)).callMethod b.value "set" [.text c.name, x]) .assignments
        (fun text => .tuple [.text text, x]) c kept bounds ↔ ¬ t.Shadowed c
  /-- The column that a selector orders its rows by. -/
  ordered : ∀ {b : Builder} {s : Course State} {kept : Part → List Value} {bounds : Edge → Value},
    b.Keeps s.work.heap kept bounds → b.table = t → b.kind = .selector → ∀ descending,
      b.Puts s ((machine (n + 3)).callMethod b.value "order_by" [.text c.name, .bool descending])
        .order (fun text => .text (Selector.orderEntry text descending)) c kept bounds ↔
          ¬ t.Shadowed c
  /-- The column that a condition of the attribute tests. -/
  tested : ∀ {target : String}, ∀ op ∈ tableConditions t target, op.column = some c.name →
    ∃ test, op.Makes c test ∧ ∀ {b : Builder} {s : Course State} {kept : Part → List Value}
      {bounds : Edge → Value} {arguments values : List Value}, b.Keeps s.work.heap kept bounds →
        b.table = t → b.cls.Has s.work.heap op.name (test.statement c) →
          Takes s.work.heap (test.statement c) arguments values →
            b.Turns s ((machine (n + 5)).callMethod b.value op.name arguments) (.ok b.value)
              (narrowed kept (.text (test.clause c.columnName values.length)) values) bounds
  /-- The column that the attribute of a model is inserted into. -/
  inserted : ∀ {given : OnConflict} {skip : Bool} {p : Prepared} {s s' : Course State}
    {model v : Value} {k : Nat}, Prepared.Readied n t given skip p s →
      (p.inserter.columns.map Column.columnName)[k]? = some c.columnName →
        (machine (n + 2)).callMethod p.value "values_of" [model] s = (.ok v, s') →
          ∃ values x, ownItems? s'.work.heap v = some values ∧ values[k]? = some x ∧
            ∃ d e, (machine (n + 1)).member model c.name d = (.ok x, e)
  /-- The column of a row that becomes the attribute of a model. -/
  read : ∀ {m : Machine} {self row v : Value} {cells : Entries Value} {s s' : Course State},
    IsRow s.work.heap row cells →
      callKnown m Connection.owner "new_model_from_row" [self, .table t, row] [] s =
        (.ok v, s') → ∃ cls id, v = .object cls id ∧
          (s'.work.heap.attributes id).get? c.name = cells.get? c.columnName

/-- **The name of an attribute stands for one column**, in all ways in which it is used, if and only
if the column is not shadowed. -/
theorem attribute_addresses {t : Table} {c : Column} (hnames : (t.columns.map Column.name).Nodup)
    (hcolumns : (t.columns.map Column.columnName).Nodup) (hc : c ∈ t.columns) (n : Nat) :
    Addresses n t c where
  found s := by
    obtain ⟨d, -, hfound⟩ := Table.exists_column? hc
    have hnamed : columnNamed t (.text c.name) s = (.ok d, s) := by
      rw [columnNamed, Value.text?, Option.bind_some, hfound]
      rfl
    rw [callMethod_getColumn, Action.bind_apply_ok hnamed, ← Table.column?_eq_iff hnames hc, hfound]
    constructor
    · intro h
      cases h
      rfl
    · intro h
      cases h
      rfl
  assigned {b} s kept bounds hk hb hkind x := by
    subst hb
    have hp : Part.assignments ∈ b.kind.parts := by
      rw [hkind]
      decide
    refine Builder.puts_iff hnames hcolumns hc hp (fun text text' h => ?_)
      (Builder.turns_set hk hkind n (.text c.name) x)
    cases h
    rfl
  ordered {b} s kept bounds hk hb hkind descending := by
    subst hb
    have hp : Part.order ∈ b.kind.parts := by
      rw [hkind]
      decide
    refine Builder.puts_iff hnames hcolumns hc hp (fun text text' h => ?_)
      (Builder.turns_orderBy hk hkind n (.text c.name) descending)
    have hentries := congrArg String.toList (Value.text.inj h)
    simp only [Selector.orderEntry, String.toList_append, List.append_cancel_right_eq] at hentries
    exact String.toList_inj.1 hentries
  tested {target} op hop hcolumn := by
    obtain ⟨d, hd, test, hmakes⟩ := Codegen.exists_test hop
    obtain rfl : d = c := List.inj_on_of_nodup_map hnames hd hc
      (Option.some.inj (hmakes.column.symm.trans hcolumn))
    refine ⟨test, hmakes, fun {b} s kept bounds arguments values hk hb hhas htakes => ?_⟩
    subst hb
    have hcondition : Builder.Call.IsCondition b.table op.name (test.statement d) :=
      ⟨target, op, hop, rfl, hmakes.body⟩
    rw [← Builder.fragmentOf_statement]
    exact Builder.turns_condition hk n hhas (Builder.own?_condition hcondition) htakes
  inserted {given skip p s s' model v k} hp hk hrun := by
    obtain ⟨d, hd, hname⟩ := Option.map_eq_some_iff.1 ((List.getElem?_map ..).symm.trans hk)
    obtain ⟨clause, -, hinserter⟩ := Query.Inserter.exists_clause hp.prepare_eq
    have hdt : d ∈ t.columns := by
      have hmem := List.mem_of_getElem? hd
      rw [hinserter] at hmem
      exact (List.mem_filter.1 hmem).1
    obtain rfl : d = c := List.inj_on_of_nodup_map hcolumns hdt hc hname
    rw [hp.keeps.values_apply n model] at hrun
    obtain ⟨values, e, hvalues, hlist⟩ := Action.bind_eq_ok.1 hrun
    obtain ⟨hv, rfl⟩ := Prod.mk.inj ((newList_apply values e).symm.trans hlist)
    obtain rfl := Except.ok.inj hv
    have hitems : ownItems? (e.withHeap (e.work.heap.push (.list values))).work.heap
        (.list e.work.heap.size) = some values :=
      congrArg some (Heap.items_of_list Array.getElem?_push_size)
    have hread := Prepared.forall₂_of_each hvalues
    obtain ⟨hlt, hget⟩ := List.getElem?_eq_some_iff.1 hd
    have hlt' : k < values.length := hread.length_eq ▸ hlt
    have hmember := hread.get hlt hlt'
    rw [List.get_eq_getElem, hget] at hmember
    exact ⟨values, values[k], hitems, List.getElem?_eq_getElem hlt', hmember⟩
  read {m self row v cells s s'} hrow h := newModel_eq_ok hnames hc hrow h

/-- Scores with a lower and an upper bound, each called in the code what the other one is called in
the database. -/
def Board.bounded : Table :=
  { Board.table with columns :=
      [⟨"low", "high", .int, false, true, false, false, .none⟩,
        ⟨"high", "low", .int, false, true, false, false, .none⟩] }

/-- **The upper bound is shadowed by the lower one**, whose name in the database is that of the
attribute. -/
theorem attribute_addresses_bounded :
    let t := Board.bounded
    let c := t.columns[1]
    (t.columns.map Column.name).Nodup ∧ (t.columns.map Column.columnName).Nodup ∧
      c ∈ t.columns ∧ t.Shadowed c ∧ Addresses 0 t c ∧
      (machine 1).callMethod (.table t) "get_column" [.text c.name] Board.start ≠
        (.ok (.column c), Board.start) := by
  intro t c
  have hnames : (t.columns.map Column.name).Nodup := by decide
  have hcolumns : (t.columns.map Column.columnName).Nodup := by decide
  have hc : c ∈ t.columns := by decide
  have hshadowed : t.Shadowed c := ⟨[t.columns[0]], [], rfl, _, List.mem_cons_self, rfl⟩
  have haddresses := attribute_addresses hnames hcolumns hc 0
  exact ⟨hnames, hcolumns, hc, hshadowed, haddresses, fun h => (haddresses.found _).1 h hshadowed⟩

end Object

end PgSchema
