import PgSchema.Proofs.Codegen.Tests
import PgSchema.Proofs.Object.Conditions

/-!
What calls put into a builder.

Every call that narrows a builder puts one entry into it: a predicate with its values, a column to
order by, a new value for a column, or a bound.  A builder keeps what its entries say, and each of
them has the number of its call (`Draft`).  A call that fails puts nothing in (`turns_call`).
-/

namespace PgSchema.Object.Builder

open Codegen (OperationKind Statement)
open Query (Conditions Selector)
open Session (machine)

/-! ### Entries -/

/-- What one call puts into a builder. -/
inductive Entry where
  | clause (text : String) (values : List Value)
  | order (text : String)
  | assignment (column : String) (value : Value)
  | bound (e : Edge) (count : Value)

namespace Entry

/-- The items that an entry adds to a list. -/
def items : Entry → Part → List Value
  | clause text _, .clauses => [.text text]
  | clause _ values, .bindings => values
  | order text, .order => [.text text]
  | assignment column value, .assignments => [.tuple [.text column, value]]
  | _, _ => []

/-- A predicate with its values. -/
def clause? : Entry → Option (String × List Value)
  | clause text values => some (text, values)
  | _ => none

/-- A column to order by, as it is written. -/
def order? : Entry → Option String
  | order text => some text
  | _ => none

/-- A column as it is written, with its new value. -/
def assignment? : Entry → Option (String × Value)
  | assignment column value => some (column, value)
  | _ => none

/-- The value of a bound. -/
def count? (e : Edge) : Entry → Option Value
  | bound e' count => if e' = e then some count else none
  | _ => none

end Entry

/-- **What was put into a builder**: the entries, each with the number of its call. -/
abbrev Draft := List (Nat × Entry)

namespace Draft

/-- The items of a list. -/
def kept (d : Draft) (p : Part) : List Value := d.flatMap fun x => x.2.items p

/-- The entries of a sort, with the numbers of their calls. -/
def pick {α : Type} (d : Draft) (f : Entry → Option α) : List (Nat × α) :=
  d.filterMap fun x => (f x.2).map (x.1, ·)

/-- A bound, with the number of the last call that set it. -/
def bound? (d : Draft) (e : Edge) : Option (Nat × Value) := (d.pick (Entry.count? e)).getLast?

/-- A bound as it is kept. -/
def bounds (d : Draft) (e : Edge) : Value := ((d.bound? e).map (·.2)).getD .null

variable (d : Draft) (i : Nat)

lemma kept_snoc (x : Nat × Entry) (p : Part) : kept (d ++ [x]) p = d.kept p ++ x.2.items p := by
  rw [kept, List.flatMap_append, List.flatMap_singleton]
  rfl

lemma kept_clause (text : String) (values : List Value) :
    kept (d ++ [(i, .clause text values)]) = narrowed d.kept (.text text) values := by
  funext p
  rw [kept_snoc]
  cases p <;> simp [Entry.items, narrowed, Function.update]

lemma kept_order (text : String) : kept (d ++ [(i, .order text)]) =
    Function.update d.kept .order (d.kept .order ++ [.text text]) := by
  funext p
  rw [kept_snoc]
  cases p <;> simp [Entry.items, Function.update]

lemma kept_assignment (column : String) (x : Value) :
    kept (d ++ [(i, .assignment column x)]) = Function.update d.kept .assignments
      (d.kept .assignments ++ [.tuple [.text column, x]]) := by
  funext p
  rw [kept_snoc]
  cases p <;> simp [Entry.items, Function.update]

lemma kept_bound (e : Edge) (count : Value) : kept (d ++ [(i, .bound e count)]) = d.kept := by
  funext p
  rw [kept_snoc]
  exact List.append_nil _

lemma mem_pick {α : Type} {d : Draft} {f : Entry → Option α} {i : Nat} {a : α}
    (h : (i, a) ∈ d.pick f) : ∃ e, (i, e) ∈ d ∧ f e = some a := by
  obtain ⟨⟨j, e⟩, hmem, hentry⟩ := List.mem_filterMap.1 h
  obtain ⟨found, hfound, heq⟩ := Option.map_eq_some_iff.1 hentry
  obtain ⟨rfl, rfl⟩ := Prod.mk.inj heq
  exact ⟨e, hmem, hfound⟩

lemma pick_eq_nil {α : Type} {d : Draft} {f : Entry → Option α} (h : ∀ x ∈ d, f x.2 = none) :
    d.pick f = [] :=
  List.filterMap_eq_nil_iff.2 fun x hx => by rw [h x hx, Option.map_none]

lemma pick_snoc {α : Type} (f : Entry → Option α) (x : Nat × Entry) :
    pick (d ++ [x]) f = d.pick f ++ ((f x.2).map (x.1, ·)).toList := by
  rw [pick, List.filterMap_append]
  cases hx : f x.2 <;> simp [hx, pick]

lemma bound?_snoc (x : Nat × Entry) (e : Edge) :
    bound? (d ++ [x]) e = ((x.2.count? e).map (x.1, ·)).or (d.bound? e) := by
  rw [bound?, pick_snoc, List.getLast?_append]
  cases x.2.count? e <;> rfl

lemma bounds_bound (e : Edge) (count : Value) :
    bounds (d ++ [(i, .bound e count)]) = Function.update d.bounds e count := by
  funext e'
  unfold bounds
  rw [bound?_snoc]
  by_cases he : e' = e
  · subst he
    simp [Entry.count?]
  · simp [Entry.count?, Function.update_of_ne he, Ne.symm he]

lemma bounds_snoc {x : Nat × Entry} (hx : ∀ e, x.2.count? e = none) :
    bounds (d ++ [x]) = d.bounds := by
  funext e
  unfold bounds
  rw [bound?_snoc, hx]
  rfl

end Draft

/-! ### Calls -/

/-- A call that narrows a builder, with the values that it gets. -/
inductive Call where
  /-- A condition that a module defines, by its name and its statement. -/
  | condition (name : String) (s : Statement) (values : List Value)
  | filter (clause : String) (values : List Value)
  | among (negated : Bool) (column : String) (values : List Value)
  | order (column : Value) (descending : Bool)
  | assign (column value : Value)
  | bound (e : Edge) (count : Value)

namespace Call

/-- The method that is called. -/
def name : Call → String
  | condition name .. => name
  | filter .. => "where"
  | among .. => "in_"
  | order .. => "order_by"
  | assign .. => "set"
  | bound e _ => e.text

/-- **The arguments of a call.**  A collection comes as any value that has its items by itself. -/
def Given (h : Heap) : Call → List Value → Prop
  | condition _ s values, arguments => Takes h s arguments values
  | filter clause values, arguments => arguments = .text clause :: values
  | among negated column values, arguments =>
    ∃ v, arguments = [.bool negated, .text column, v] ∧ ownItems? h v = some values
  | order column descending, arguments => arguments = [column, .bool descending]
  | assign column x, arguments => arguments = [column, x]
  | bound _ count, arguments => arguments = [count]

/-- A condition of a table: one of those that are derived from its columns. -/
def IsCondition (t : Table) (name : String) (s : Statement) : Prop :=
  ∃ target, ∃ op ∈ Codegen.tableConditions t target, op.name = name ∧ op.body = [s]

/-- **The builder has the method**: its kind has it, or a module has defined the condition. -/
def Fits (b : Builder) (h : Heap) : Call → Prop
  | condition name s _ => b.cls.Has h name s ∧ IsCondition b.table name s
  | filter .. | among .. => True
  | order .. | bound .. => b.kind = .selector
  | assign .. => b.kind = .updater

/-- What a call puts into a builder for a table: nothing if it fails. -/
def adds? (t : Table) : Call → Option Entry
  | condition _ s values => some (.clause (fragmentOf values.length s) values)
  | filter clause values => some (.clause clause values)
  | among negated column values =>
    some (.clause (Conditions.memberClause negated column values.length) values)
  | order column descending => (column.text?.bind t.column?).map fun found =>
    .order (Selector.orderEntry (Identifier.quote found.columnName) descending)
  | assign column x => (column.text?.bind t.column?).map fun found =>
    .assignment (Identifier.quote found.columnName) x
  | bound e count => (Selector.bound e.text count).toOption.map (.bound e)

end Call

/-- **What calls put into a builder**, one after the other. -/
def draft (t : Table) (calls : List Call) : Draft :=
  calls.zipIdx.filterMap fun x => (x.1.adds? t).map (x.2, ·)

lemma draft_snoc (t : Table) (calls : List Call) (call : Call) :
    draft t (calls ++ [call]) =
      draft t calls ++ ((call.adds? t).map (calls.length, ·)).toList := by
  unfold draft
  rw [List.zipIdx_append, List.filterMap_append, Nat.zero_add]
  cases hentry : call.adds? t <;> simp [hentry]

/-- The entries of a sort, call by call. -/
lemma map_pick_draft {α : Type} (t : Table) (calls : List Call) (f : Entry → Option α) :
    ((draft t calls).pick f).map (·.2) = calls.filterMap fun call => (call.adds? t).bind f := by
  have hcall : ∀ x : Call × Nat, (((x.1.adds? t).map (x.2, ·)).bind fun y =>
      ((f y.2).map (y.1, ·))).map (·.2) = (x.1.adds? t).bind f := by
    intro x
    cases x.1.adds? t with
    | none => rfl
    | some e => cases hf : f e <;> simp [hf]
  rw [draft, Draft.pick, List.filterMap_filterMap, List.map_filterMap]
  simp only [hcall]
  calc calls.zipIdx.filterMap (fun x => (x.1.adds? t).bind f)
      = (calls.zipIdx.map Prod.fst).filterMap fun call => (call.adds? t).bind f := by
        rw [List.filterMap_map]
        rfl
    _ = calls.filterMap fun call => (call.adds? t).bind f := by rw [List.zipIdx_map_fst]

/-- Every entry comes from a call. -/
lemma exists_of_mem_draft {t : Table} {calls : List Call} {x : Nat × Entry}
    (hx : x ∈ draft t calls) : ∃ call ∈ calls, call.adds? t = some x.2 := by
  obtain ⟨⟨call, i⟩, hmem, hentry⟩ := List.mem_filterMap.1 hx
  obtain ⟨e, he, rfl⟩ := Option.map_eq_some_iff.1 hentry
  exact ⟨call, List.fst_mem_of_mem_zipIdx hmem, he⟩

/-! ### Names of conditions -/

/-- A condition makes its test by its statement. -/
lemma Call.IsCondition.exists_test {t : Table} {name : String} {s : Statement}
    (h : Call.IsCondition t name s) : ∃ column ∈ t.columns, ∃ test, ∃ op : Codegen.Operation,
      op.name = name ∧ op.Makes column test ∧ s = test.statement column := by
  obtain ⟨target, op, hop, hname, hbody⟩ := h
  obtain ⟨column, hcolumn, test, hmakes⟩ := Codegen.exists_test hop
  exact ⟨column, hcolumn, test, op, hname, hmakes,
    List.head_eq_of_cons_eq (hbody.symm.trans hmakes.body)⟩

/-- A condition is called like nothing that ends otherwise than conditions do. -/
lemma Call.IsCondition.name_notMem {t : Table} {name : String} {s : Statement}
    (h : Call.IsCondition t name s) {names : List String} (hfind : "find" ∉ names)
    (hnames : ∀ k ∈ OperationKind.conditions, ∀ other ∈ names,
      ¬ ("_" ++ k.text).toList <:+ other.toList) : name ∉ names := by
  obtain ⟨column, -, test, op, rfl, hmakes, -⟩ := h.exists_test
  rcases hmakes.named with ⟨-, hname⟩ | ⟨-, hname, -⟩
  · intro hmem
    have hparts : (column.name ++ ("_" ++ test.kind.text)).toList =
        column.name.toList ++ ("_" ++ test.kind.text).toList := String.toList_append
    have hsuffix : ("_" ++ test.kind.text).toList <:+ op.name.toList := by
      rw [hname, String.append_assoc, hparts]
      exact List.suffix_append _ _
    exact hnames _ test.kind_mem op.name hmem hsuffix
  · rwa [hname]

/-- A builder has no condition by itself. -/
lemma own?_condition {b : Builder} {bounds : Edge → Value} {name : String} {s : Statement}
    (h : Call.IsCondition b.table name s) : b.own? bounds name = none :=
  own?_of_notMem (h.name_notMem (by decide) (by decide))

/-! ### Calls on builders -/

/-- A builder keeps what was put into it. -/
abbrev Holds (b : Builder) (h : Heap) (d : Draft) : Prop := b.Keeps h d.kept d.bounds

variable {b : Builder} {c : Course State} {d : Draft}

section Entries

variable {x : Run Value} {found : Option Entry}

/-- The builder with an entry more, which is the one that a call adds. -/
lemma turns_put {e : Entry} {kept' : Part → List Value} {bounds' : Edge → Value} {i : Nat}
    (hfound : found = some e) (hkept : Draft.kept (d ++ [(i, e)]) = kept')
    (hbounds : Draft.bounds (d ++ [(i, e)]) = bounds')
    (hturns : b.Turns c x (.ok b.value) kept' bounds') :
    let d' := d ++ (found.map (i, ·)).toList
    ∃ r, r.toOption = found.map (fun _ => b.value) ∧ b.Turns c x r d'.kept d'.bounds := by
  subst hfound hkept hbounds
  exact ⟨.ok b.value, rfl, hturns⟩

/-- The builder as it was, behind a call that adds nothing. -/
lemma turns_refused {e : Failure} {i : Nat} (hfound : found = none)
    (hturns : b.Turns c x (.error e) d.kept d.bounds) :
    let d' := d ++ (found.map (i, ·)).toList
    ∃ r, r.toOption = found.map (fun _ => b.value) ∧ b.Turns c x r d'.kept d'.bounds := by
  subst hfound
  refine ⟨.error e, rfl, ?_⟩
  simpa using hturns

end Entries

/-- **A call puts its entry in and gives the builder itself**, or it fails and puts nothing in. -/
theorem turns_call (hk : b.Holds c.work.heap d) {call : Call} (hfits : call.Fits b c.work.heap)
    {arguments : List Value} (hgiven : call.Given c.work.heap arguments) (n i : Nat) :
    let d' := d ++ ((call.adds? b.table).map (i, ·)).toList
    ∃ r, r.toOption = (call.adds? b.table).map (fun _ => b.value) ∧
      b.Turns c ((machine (n + 5)).callMethod b.value call.name arguments) r d'.kept
        d'.bounds := by
  intro d'
  cases call with
  | condition name s values =>
    have hturns := turns_condition hk n hfits.1 (own?_condition hfits.2) hgiven
    exact turns_put rfl (d.kept_clause i _ _) (d.bounds_snoc fun _ => rfl) hturns
  | filter clause values =>
    obtain rfl := hgiven
    have hturns := turns_where hk (n + 2) (.text clause) values
    exact turns_put rfl (d.kept_clause i _ _) (d.bounds_snoc fun _ => rfl) hturns
  | among negated column values =>
    obtain ⟨v, rfl, hv⟩ := hgiven
    have hturns := turns_in hk (n + 1) negated column hv
    exact turns_put rfl (d.kept_clause i _ _) (d.bounds_snoc fun _ => rfl) hturns
  | order column descending =>
    obtain rfl := hgiven
    have hturns := turns_orderBy hk hfits (n + 2) column descending
    unfold column? at hturns
    cases hcolumn : column.text?.bind b.table.column? with
    | none =>
      rw [hcolumn] at hturns
      obtain ⟨e, hturns⟩ := hturns
      exact turns_refused (by rw [Call.adds?, hcolumn]; rfl) hturns
    | some found =>
      rw [hcolumn] at hturns
      exact turns_put (by rw [Call.adds?, hcolumn]; rfl) (d.kept_order i _)
        (d.bounds_snoc fun _ => rfl) hturns
  | assign column x =>
    obtain rfl := hgiven
    have hturns := turns_set hk hfits (n + 2) column x
    unfold column? at hturns
    cases hcolumn : column.text?.bind b.table.column? with
    | none =>
      rw [hcolumn] at hturns
      obtain ⟨e, hturns⟩ := hturns
      exact turns_refused (by rw [Call.adds?, hcolumn]; rfl) hturns
    | some found =>
      rw [hcolumn] at hturns
      exact turns_put (by rw [Call.adds?, hcolumn]; rfl) (d.kept_assignment i _ x)
        (d.bounds_snoc fun _ => rfl) hturns
  | bound e count =>
    obtain rfl := hgiven
    have hturns := turns_bound hk hfits (n + 4) e count
    cases hbound : Selector.bound e.text count with
    | error fault =>
      rw [hbound] at hturns
      exact turns_refused (by rw [Call.adds?, hbound]; rfl) hturns
    | ok found =>
      rw [hbound] at hturns
      exact turns_put (by rw [Call.adds?, hbound]; rfl) (d.kept_bound i e found)
        (d.bounds_bound i e found) hturns

end PgSchema.Object.Builder
