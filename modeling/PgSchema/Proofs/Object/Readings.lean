import PgSchema.Proofs.Query.Answers
import PgSchema.Proofs.Query.Meaning

/-!
What is read through a selector.

A connection may answer what a selector sends as a database with contents does (`Answers`).  Then all
that is read through the selector tells of the same models: the list, its first one, the iteration,
the number and whether there is one (`readings_agree`).  What its calls have put into a selector
makes a selection that a database can answer (`Lived.readable`).
-/

namespace PgSchema.Object

open Query (Bound Closed Contents Selector amount? orderedText)
open Session (callKnown machine)

/-! ### Values and what they stand for -/

section Standing

variable {h h' : Heap} {v : Value} {j : Json} {c : Course State} {α β : Type}

/-- **A value stands for data**: it is shown as the data, however the heap grows. -/
def Stands (h : Heap) (v : Value) (j : Json) : Prop :=
  ∀ h', Changes [] h h' → shown h' shownDepth v = .ok j

/-- The items of a value stand for data, one by one. -/
def StandsEach (h : Heap) (v : Value) (js : List Json) : Prop :=
  ∃ items, ownItems? h v = some items ∧ List.Forall₂ (Stands h) items js

lemma Stands.later (hv : Stands h v j) (hc : Changes [] h h') : Stands h' v j :=
  fun h'' hc' => hv h'' (hc.trans hc')

lemma stands_null (h : Heap) : Stands h .null .null := fun _ _ => rfl

lemma standsEach_newList {items : List Value} {js : List Json}
    (hitems : List.Forall₂ (Stands h) items js) :
    StandsEach (h.push (.list items)) (.list h.size) js := by
  refine ⟨items, congrArg some (Heap.items_of_list Array.getElem?_push_size), ?_⟩
  exact hitems.imp fun _ _ hv => hv.later (.push [] h _)

/-- The first of items stands for the first of data, and nothing for nothing. -/
lemma stands_head? {items : List Value} {js : List Json}
    (hitems : List.Forall₂ (Stands h) items js) :
    Stands h (items.head?.getD .null) (js.head?.getD .null) := by
  cases hitems with
  | nil => exact stands_null h
  | cons hv _ => exact hv

/-- A dictionary stands for its fields. -/
lemma stands_dict {id : Nat} {entries : List (Value × Value)} {fields : List (String × Json)}
    (hid : h[id]? = some (.dict entries))
    (hentries : ∀ h' : Heap, (entries.mapM fun (key, x) => do
      let name ← plainOf h' key
      let inner ← shown h' 899 x
      return (name, inner)) = .ok fields) : Stands h (.dict id) (.object fields) := by
  intro h' hchanges
  have hlt : id < h.size := (Array.getElem?_eq_some_iff.1 hid).1
  have hlater : h'.entries id = entries := by
    rw [Heap.entries, hchanges.others id hlt List.not_mem_nil, hid]
  change (do
    let fields ← (h'.entries id).mapM fun (key, x) => do
      let name ← plainOf h' key
      let inner ← shown h' 899 x
      return (name, inner)
    return Json.object fields) = _
  rw [hlater, hentries]
  rfl

lemma showValues_apply {c : Course State} {values : List Value} {js : List Json}
    (h : List.Forall₂ (fun v j => shown c.work.heap shownDepth v = .ok j) values js) :
    showValues values c = (.ok js, c) := by
  unfold showValues
  induction h with
  | nil => rfl
  | @cons v j values js hv _ ih =>
    have hshown : showValue v c = (.ok j, c) := by
      rw [showValue, Action.bind_apply_ok (heap_apply c), hv]
      rfl
    rw [Action.each, Action.bind_apply_ok hshown, Action.bind_apply_ok ih]
    rfl

lemma elementAt_dict {c : Course State} {id : Nat} {entries : List (Value × Value)}
    (hid : c.work.heap[id]? = some (.dict entries)) {key : String} {x : Value}
    (hx : ∀ h, (entries.find? fun e => sameValue h e.1 (.text key)).map (·.2) = some x) :
    elementAt (.dict id) key c = (.ok x, c) := by
  have hfound : lookUp c.work.heap id (.text key) = some x := by
    rw [lookUp, Heap.entries, hid]
    exact hx _
  rw [elementAt, Action.bind_apply_ok (heap_apply c)]
  dsimp only
  rw [hfound]
  rfl

/-- A run ends well, and what it gives is as is said. -/
def Gives (x : Run α) (c : Course State) (P : Course State → α → Prop) : Prop :=
  ∃ a d, x c = (.ok a, d) ∧ P d a

lemma Gives.bind {x : Run α} {f : α → Run β} {P : Course State → α → Prop}
    {Q : Course State → β → Prop} (hx : Gives x c P) (hf : ∀ d a, P d a → Gives (f a) d Q) :
    Gives (x >>= f) c Q := by
  obtain ⟨a, d, hrun, ha⟩ := hx
  obtain ⟨b, e, hrun', hb⟩ := hf d a ha
  exact ⟨b, e, (Action.bind_apply_ok hrun f).trans hrun', hb⟩

lemma Gives.imp {x : Run α} {P Q : Course State → α → Prop} (hx : Gives x c P)
    (h : ∀ d a, P d a → Q d a) : Gives x c Q := by
  obtain ⟨a, d, hrun, ha⟩ := hx
  exact ⟨a, d, hrun, h d a ha⟩

/-- Another run that does the same. -/
lemma Gives.congr {x y : Run α} {d : Course State} {P : Course State → α → Prop}
    (hx : Gives x d P) (h : y c = x d) : Gives y c P := by
  obtain ⟨a, e, hrun, ha⟩ := hx
  exact ⟨a, e, h.trans hrun, ha⟩

end Standing

/-! ### Connections that answer -/

/-- **A connection that answers as a database does.**  In the course of work, and however the heap
grows, what is asked is answered as the contents say: rows come as values that stand for them, and
the number and whether there is a row come as a row with one column.  Behind rows, as long as it is
ready for that, the connection makes a model of each row for the table. -/
structure Answers (db : Contents) (model : Json → Json) (connection : Value) (t : Table)
    (asked : List (Bound Value)) (least : Nat) (ready : Course State → Prop)
    (c : Course State) : Prop where
  rows : ∀ n ≥ least, ∀ h, Changes [] c.work.heap h → ∀ q ∈ asked, ∀ rows,
    db.reply? q = some (.rows rows) → Gives (sent (machine n) connection "fetch_all" q)
      (c.withHeap h) fun d answer => StandsEach d.work.heap answer rows ∧ ready d
  number : ∀ n ≥ least, ∀ h, Changes [] c.work.heap h → ∀ q ∈ asked, ∀ k : Nat,
    db.reply? q = some (.number k) → Gives (sent (machine n) connection "fetch_one" q)
      (c.withHeap h) fun d answer => holds d.work.heap answer = true ∧
        elementAt answer Selector.countColumn d = (.ok (.int k), d)
  found : ∀ n ≥ least, ∀ h, Changes [] c.work.heap h → ∀ q ∈ asked, ∀ b : Bool,
    db.reply? q = some (.found b) → Gives (sent (machine n) connection "fetch_one" q)
      (c.withHeap h) fun d answer => holds d.work.heap answer = true ∧
        elementAt answer Selector.foundColumn d = (.ok (.bool b), d)
  model : ∀ n ≥ least, ∀ d v row, ready d → Stands d.work.heap v row →
    Gives ((machine n).callMethod connection "new_model_from_row" [.table t, v]) d fun e x =>
      Changes [] d.work.heap e.work.heap ∧ Stands e.work.heap x (model row) ∧ ready e

namespace Answers

variable {db : Contents} {model : Json → Json} {b : Builder} {asked : List (Bound Value)}
  {least : Nat} {ready : Course State → Prop} {c : Course State}
  (hs : Answers db model b.connection b.table asked least ready c)

include hs

/-- **Rows become models**, by induction on the rows. -/
lemma each_model {n : Nat} (hn : n ≥ least) {d : Course State} (hready : ready d)
    {items : List Value} {rows : List Json}
    (hitems : List.Forall₂ (Stands d.work.heap) items rows) :
    Gives (Action.each (fun row => (machine n).callMethod b.connection "new_model_from_row"
      [.table b.table, row]) items) d fun e models =>
        Changes [] d.work.heap e.work.heap ∧
          List.Forall₂ (Stands e.work.heap) models (rows.map model) := by
  induction items generalizing rows d with
  | nil =>
    obtain rfl := List.forall₂_nil_left_iff.1 hitems
    exact ⟨[], d, rfl, .refl _ _, .nil⟩
  | cons v items ih =>
    obtain ⟨row, rows, hv, hrest, rfl⟩ := List.forall₂_cons_left_iff.1 hitems
    refine (hs.model n hn d v row hready hv).bind fun e x ⟨hchanges, hx, hready⟩ => ?_
    have hlater : List.Forall₂ (Stands e.work.heap) items rows :=
      hrest.imp fun _ _ hv => hv.later hchanges
    refine (ih hready hlater).bind fun e' models ⟨hchanges', hmodels⟩ => ?_
    exact ⟨_, _, rfl, hchanges.trans hchanges', .cons (hx.later hchanges') hmodels⟩

/-- The models of rows that a connection has given. -/
lemma models {n : Nat} (hn : n ≥ least) {d : Course State} (hready : ready d) {answer : Value}
    {rows : List Json} (hanswer : StandsEach d.work.heap answer rows) :
    Gives (Ask.models (machine n) b answer) d fun e models =>
      List.Forall₂ (Stands e.work.heap) models (rows.map model) := by
  obtain ⟨items, hitems, hrows⟩ := hanswer
  refine ((hs.each_model hn hready hrows).imp fun _ _ h => h.2).congr ?_
  exact Action.bind_apply_ok (items_apply hitems) _

variable {n : Nat} (hn : n ≥ least) {h : Heap} (hc : Changes [] c.work.heap h) {q : Bound Value}
  (hq : q ∈ asked)

include hn hc hq

/-- **All models** are given in a new list. -/
lemma reads_all {rows : List Json} (hreply : db.reply? q = some (.rows rows)) :
    Gives (sent (machine n) b.connection "fetch_all" q >>= fun answer =>
      Ask.reading (machine n) b answer .all) (c.withHeap h) fun d v =>
        StandsEach d.work.heap v (rows.map model) := by
  refine (hs.rows n hn h hc q hq rows hreply).bind fun d answer ⟨hanswer, hready⟩ => ?_
  refine (hs.models hn hready hanswer).bind fun e models hmodels => ?_
  exact ⟨_, _, newList_apply models e, standsEach_newList hmodels⟩

/-- **The first model** is given, or nothing if there is none. -/
lemma reads_first {rows : List Json} (hreply : db.reply? q = some (.rows rows)) :
    Gives (sent (machine n) b.connection "fetch_all" q >>= fun answer =>
      Ask.reading (machine n) b answer .first) (c.withHeap h) fun d v =>
        Stands d.work.heap v ((rows.map model).head?.getD .null) := by
  refine (hs.rows n hn h hc q hq rows hreply).bind fun d answer ⟨hanswer, hready⟩ => ?_
  refine (hs.models hn hready hanswer).bind fun e models hmodels => ⟨_, e, rfl, ?_⟩
  exact stands_head? hmodels

/-- **The number of rows.** -/
lemma reads_count {k : Nat} (hreply : db.reply? q = some (.number k)) :
    Gives (sent (machine n) b.connection "fetch_one" q >>= fun answer =>
      Ask.reading (machine n) b answer .count) (c.withHeap h) fun _ v => v = .int k := by
  refine (hs.number n hn h hc q hq k hreply).bind fun d answer ⟨hholds, helement⟩ => ?_
  refine ⟨.int k, d, ?_, rfl⟩
  refine (Action.bind_apply_ok (isTrue_apply answer d) _).trans ?_
  rw [hholds]
  exact helement

/-- **Whether there is a row.** -/
lemma reads_anyRow {found : Bool} (hreply : db.reply? q = some (.found found)) :
    Gives (sent (machine n) b.connection "fetch_one" q >>= fun answer =>
      Ask.reading (machine n) b answer .anyRow) (c.withHeap h) fun _ v => v = .bool found := by
  refine (hs.found n hn h hc q hq found hreply).bind fun d answer ⟨hholds, helement⟩ => ?_
  refine ⟨.bool found, d, Action.bind_apply_ok ?_ _, rfl⟩
  refine (Action.bind_apply_ok (isTrue_apply answer d) _).trans ?_
  rw [hholds]
  exact Action.bind_apply_ok helement isTrue

end Answers

namespace Builder

variable {n : Nat} {b : Builder} {calls : List Call} {c : Course State}

/-! ### Selections that a database can answer -/

/-- **A call that a database can answer for**: a predicate or a column that is given as text closes
what it opens, and a bound is a number. -/
def Call.Answerable : Call → Prop
  | filter clause _ => Closed clause.toList
  | among _ column _ => Closed column.toList
  | bound _ count => ∃ n : Int, count = .int n
  | _ => True

/-- The column that a call orders by, and whether rows descend. -/
def Call.ordered? (t : Table) : Call → Option (String × Bool)
  | order column descending => (column.text?.bind t.column?).map (·.columnName, descending)
  | _ => none

/-- The order that calls have put in. -/
def orders (t : Table) (calls : List Call) : List (String × Bool) :=
  calls.filterMap (Call.ordered? t)

lemma exists_of_mem_pick {α : Type} {t : Table} {f : Entry → Option α} {x : Nat × α}
    (hx : x ∈ (draft t calls).pick f) :
    ∃ call ∈ calls, ∃ e, call.adds? t = some e ∧ f e = some x.2 := by
  obtain ⟨e, hentry, hwhich⟩ := Draft.mem_pick hx
  obtain ⟨call, hcall, hadds⟩ := exists_of_mem_draft hentry
  exact ⟨call, hcall, e, hadds, hwhich⟩

lemma order_draft (t : Table) (calls : List Call) :
    ((draft t calls).selector t).order = (orders t calls).map orderedText := by
  have hcall (call : Call) :
      (call.adds? t).bind Entry.order? = (call.ordered? t).map orderedText := by
    cases call with
    | order column descending =>
      rw [Call.adds?, Call.ordered?]
      cases column.text?.bind t.column? <;> rfl
    | assign column x =>
      rw [Call.adds?]
      cases column.text?.bind t.column? <;> rfl
    | bound e count =>
      rw [Call.adds?]
      cases (Selector.bound e.text count).toOption <;> rfl
    | _ => rfl
  change ((draft t calls).pick Entry.order?).map (·.2) = _
  rw [map_pick_draft, orders, List.map_filterMap]
  exact List.filterMap_congr fun call _ => hcall call

namespace Lived

variable (hb : Lived n b calls c) (hcalls : ∀ call ∈ calls, call.Answerable)

include hb hcalls

lemma closed_clauses : ∀ clause ∈ ((draft b.table calls).selector b.table).conditions.clauses,
    Closed clause.toList := by
  intro clause hclause
  obtain ⟨⟨i, text, values⟩, hmem, rfl⟩ := List.mem_map.1 hclause
  obtain ⟨call, hcall, e, hadds, hwhich⟩ := exists_of_mem_pick hmem
  have hanswerable := hcalls call hcall
  cases call with
  | condition name s values =>
    obtain rfl := Option.some.inj hadds
    obtain rfl := (Prod.mk.inj (Option.some.inj hwhich)).1
    obtain ⟨b', heap, arguments, -, -, ⟨-, hcondition⟩, -⟩ := hb.fitted _ hcall
    obtain ⟨column, -, test, -, -, -, rfl⟩ := hcondition.exists_test
    rw [fragmentOf_statement]
    exact Query.closed_clause test column.columnName values.length
  | filter text' values =>
    obtain rfl := Option.some.inj hadds
    obtain rfl := (Prod.mk.inj (Option.some.inj hwhich)).1
    exact hanswerable
  | among negated column values =>
    obtain rfl := Option.some.inj hadds
    obtain rfl := (Prod.mk.inj (Option.some.inj hwhich)).1
    exact Query.closed_memberClause negated hanswerable values.length
  | order | assign =>
    obtain ⟨column, -, rfl⟩ := Option.map_eq_some_iff.1 hadds
    cases hwhich
  | bound =>
    obtain ⟨count, -, rfl⟩ := Option.map_eq_some_iff.1 hadds
    cases hwhich

omit hb in
lemma isSome_amount? {e : Edge} {v : Value}
    (hv : ((draft b.table calls).bound? e).map (·.2) = some v) : (amount? v).isSome := by
  obtain ⟨⟨i, count⟩, hbound, rfl⟩ := Option.map_eq_some_iff.1 hv
  obtain ⟨call, hcall, entry, hadds, hcount⟩ := exists_of_mem_pick (List.mem_of_getLast? hbound)
  cases call with
  | condition | filter | among =>
    obtain rfl := Option.some.inj hadds
    cases hcount
  | order | assign =>
    obtain ⟨column, -, rfl⟩ := Option.map_eq_some_iff.1 hadds
    cases hcount
  | bound e' given =>
    obtain ⟨k, rfl⟩ := hcalls _ hcall
    obtain ⟨found, hfound, rfl⟩ := Option.map_eq_some_iff.1 hadds
    obtain ⟨rfl, hnumber⟩ := bound_eq_some hfound
    rw [Entry.count?] at hcount
    split at hcount
    · obtain rfl := Option.some.inj hcount
      have hnot : ¬ k < 0 := by
        have hbelow : Except.ok (decide (k < 0)) = Except.ok (ε := Fault) false := hnumber
        simpa using hbelow
      exact Option.isSome_iff_exists.2 ⟨k.toNat, if_pos (Int.not_lt.1 hnot)⟩
    · cases hcount

/-- **What calls have put in is a selection that a database can answer.** -/
lemma readable : ((draft b.table calls).selector b.table).Readable (orders b.table calls) where
  clauses := hb.closed_clauses hcalls
  order := order_draft b.table calls
  limit _ hv := isSome_amount? hcalls hv
  offset _ hv := isSome_amount? hcalls hv

end Lived

/-- A relation reads through a selection of its conditions and nothing else. -/
lemma selector_of_conditions {t : Table} (hcalls : ∀ call ∈ calls, call.Suits .relation) :
    (draft t calls).selector t = { table := t, conditions := (draft t calls).conditions } := by
  have hclauses := Lived.clause_of_mem_draft (t := t) hcalls
  have horder : (draft t calls).pick Entry.order? = [] := Draft.pick_eq_nil fun x hx => by
    obtain ⟨text, values, hentry⟩ := hclauses x hx
    rw [hentry]
    rfl
  have hbound (e : Edge) : (draft t calls).pick (Entry.count? e) = [] :=
    Draft.pick_eq_nil fun x hx => by
      obtain ⟨text, values, hentry⟩ := hclauses x hx
      rw [hentry]
      rfl
  rw [Draft.selector, horder, Draft.bound?, hbound, Draft.bound?, hbound]
  rfl

/-! ### What a selector gives -/

section Gives

variable {d : Draft} (hk : b.Holds c.work.heap d) (hkind : b.kind = .selector)

include hk hkind

/-- The first model goes by another name as well. -/
lemma getOrNone_apply (hleaves : b.cls.Leaves c.work.heap "get_or_none") (k : Nat) :
    (machine (k + 1)).callMethod b.value "get_or_none" [] c =
      (machine (k + 1)).callMethod b.value "first" [] c := by
  have hoffers (name : String) (hname : name ∈ ["first", "get_or_none"]) :
      b.kind.Offers "Selector" name := by
    rw [hkind]
    simp only [List.mem_cons, List.not_mem_nil, or_false] at hname
    rcases hname with rfl | rfl <;> exact fun h => ⟨_, rfl⟩
  rw [hk.callMethod_of_leaves k hleaves (by decide) (hoffers _ (by decide)),
    hk.callMethod k (by decide) (hoffers _ (by decide))]
  rfl

/-- **A selector is iterated** over what its list has. -/
lemma gives_items (hleaves : b.cls.Leaves c.work.heap "__iter__") {k : Nat} {js : List Json}
    (hlist : Gives ((machine k).callMethod b.value "to_list" []) c fun e v =>
      StandsEach e.work.heap v js) :
    Gives ((machine (k + 1)).items b.value) c fun e items =>
      List.Forall₂ (Stands e.work.heap) items js := by
  obtain ⟨v, e, hrun, items, hitems, hjs⟩ := hlist
  have hoffers : b.kind.Offers "Selector" "__iter__" := by
    rw [hkind]
    exact fun h => ⟨_, rfl⟩
  have hiter : (machine (k + 1)).callMethod b.value "__iter__" [] c = (.ok v, e) := by
    rw [hk.callMethod_of_leaves k hleaves (by decide) hoffers]
    exact hrun
  have hselector : b.cls.isKind "Selector" = true := by
    have hextends := hk.isKind
    rw [hkind] at hextends
    exact hextends.isKind_eq_true
  have hhas : hasItems c.work.heap b.value = true := by
    change (_ || b.cls.isKind "Selector" || _) = true
    rw [hselector, Bool.or_true, Bool.true_or]
  have hnone : ownItems? c.work.heap b.value = none := rfl
  refine ⟨items, e, ?_, hjs⟩
  rw [Machine.items, Action.bind_apply_ok (heap_apply c), hnone, hhas]
  dsimp only
  rw [if_pos rfl, Action.bind_apply_ok hiter, Action.bind_apply_ok (heap_apply e), hitems]
  rfl

variable (hd : d.Bounded) {db : Contents} {model : Json → Json} {least : Nat}
  {ready : Course State → Prop}
  (hs : Answers db model b.connection b.table (d.selector b.table).statements least ready c)
  {order : List (String × Bool)} (hr : (d.selector b.table).Readable order) {k : Nat}
  (hleast : least ≤ k + 1)

include hd hs hr hleast

/-- **The list** has the models of the rows that the database replies with. -/
lemma gives_toList : Gives ((machine (k + 2)).callMethod b.value "to_list" []) c fun e v =>
    StandsEach e.work.heap v (((d.selector b.table).replied order db
      ((d.selector b.table).limit.bind amount?)).map model) := by
  have hasks : Ask.all ∈ b.kind.asks := by rw [hkind]; decide
  have hrun := ask_apply hk hd hasks k
  rw [hkind] at hrun
  have hsent : (d.selector b.table).statement ∈ (d.selector b.table).statements :=
    List.mem_cons_self
  exact (hs.reads_all hleast (.refl _ _) hsent (Selector.reply?_statement hr db)).congr hrun

/-- **The first model** is the first one of the list. -/
lemma gives_first : Gives ((machine (k + 2)).callMethod b.value "first" []) c fun e v =>
    Stands e.work.heap v ((((d.selector b.table).replied order db
      ((d.selector b.table).limit.bind amount?)).map model).head?.getD .null) := by
  have hasks : Ask.first ∈ b.kind.asks := by rw [hkind]; decide
  have hrun := ask_apply hk hd hasks k
  rw [hkind] at hrun
  have hsent : (d.selector b.table).firstStatement ∈ (d.selector b.table).statements :=
    List.mem_cons_of_mem _ List.mem_cons_self
  have hgives := hs.reads_first hleast (.refl _ _) hsent (Selector.reply?_first hr db)
  rw [List.map_take, List.head?_take, if_neg Nat.one_ne_zero] at hgives
  exact hgives.congr hrun

lemma gives_count : Gives ((machine (k + 2)).callMethod b.value "count" []) c fun _ v =>
    v = .int (db.matching (d.selector b.table).meant d.conditions.bindings).length := by
  have hasks : Ask.count ∈ b.kind.asks := by rw [hkind]; decide
  have hrun := ask_apply hk hd hasks k
  have hsent : (d.selector b.table).countStatement ∈ (d.selector b.table).statements :=
    List.mem_cons_of_mem _ (List.mem_cons_of_mem _ List.mem_cons_self)
  exact (hs.reads_count hleast (.refl _ _) hsent (Selector.reply?_count hr db)).congr hrun

lemma gives_exists : Gives ((machine (k + 2)).callMethod b.value "exists" []) c fun _ v =>
    v = .bool (!(db.matching (d.selector b.table).meant d.conditions.bindings).isEmpty) := by
  have hasks : Ask.anyRow ∈ b.kind.asks := by rw [hkind]; decide
  have hrun := ask_apply hk hd hasks k
  have hsent : (d.selector b.table).existsStatement ∈ (d.selector b.table).statements :=
    List.mem_of_getLast? rfl
  exact (hs.reads_anyRow hleast (.refl _ _) hsent (Selector.reply?_exists hr db)).congr hrun

end Gives

/-! ### What a relation gives -/

section Through

variable {r : Builder} {cls : Class} (hr : Lived n r calls c) (hrelation : r.kind = .relation)
  (hlink : r.cls.Hands c.work.heap .selector cls) (hcls : cls.Makes c.work.heap .selector)
  {db : Contents} {model : Json → Json} {least : Nat} {ready : Course State → Prop}
  {asked : List (Bound Value)}
  (hs : Answers db model r.connection r.table asked least ready c) (hleast : least ≤ n + 3)

include hr hrelation hlink hcls hs hleast

/-- **A relation lists** what a selection of its conditions replies with. -/
lemma gives_toList_through {s : Selector Value}
    (hsame : (draft r.table calls).selector r.table = s) (hreadable : s.Readable [])
    (hasked : s.statement ∈ asked) :
    Gives ((machine (n + 5)).callMethod r.value "to_list" []) c fun e v =>
      StandsEach e.work.heap v ((s.replied [] db (s.limit.bind amount?)).map model) := by
  subst hsame
  obtain ⟨h, hchanges, hrun⟩ := through_apply hr hrelation (.inl rfl) hlink hcls
  exact (hs.reads_all hleast hchanges hasked (Selector.reply?_statement hreadable db)).congr hrun

/-- **A relation counts** the rows under its conditions. -/
lemma gives_count_through {k : Nat} {q : Bound Value}
    (hsame : ((draft r.table calls).selector r.table).countStatement = q)
    (hreply : db.reply? q = some (.number k)) (hasked : q ∈ asked) :
    Gives ((machine (n + 5)).callMethod r.value "count" []) c fun _ v => v = .int k := by
  subst hsame
  obtain ⟨h, hchanges, hrun⟩ := through_apply hr hrelation (.inr rfl) hlink hcls
  exact (hs.reads_count hleast hchanges hasked hreply).congr hrun

end Through

/-! ### All ways of reading -/

/-- **The ways of reading a selector agree.**  The database answers from its contents, whatever they
are, and the selector has got any calls.  Then the list of the selector has certain models; the
selector is iterated over these; and the first model is the first of them, or there is none.  The
number that is counted is that of the models if the selector is without bounds, and it tells whether
there is one.  A relation with the same conditions counts the same number, and lists the same models
if the selector has neither an order nor bounds. -/
theorem readings_agree {db : Contents} {model : Json → Json} {least : Nat}
    {ready : Course State → Prop} (hb : Lived n b calls c) (hkind : b.kind = .selector)
    (hcalls : ∀ call ∈ calls, call.Answerable)
    (hleaves : ∀ name ∈ ["get_or_none", "__iter__"], b.cls.Leaves c.work.heap name)
    (hs : Answers db model b.connection b.table
      ((draft b.table calls).selector b.table).statements least ready c)
    (hleast : least ≤ n + 3) :
    let m := machine (n + 5)
    let s := (draft b.table calls).selector b.table
    let found := (s.replied (orders b.table calls) db (s.limit.bind amount?)).map model
    Gives (m.callMethod b.value "to_list" []) c (fun e v => StandsEach e.work.heap v found) ∧
      Gives (m.items b.value) c (fun e items =>
        List.Forall₂ (Stands e.work.heap) items found) ∧
      (∀ name ∈ ["first", "get_or_none"], Gives (m.callMethod b.value name []) c fun e v =>
        Stands e.work.heap v (found.head?.getD .null)) ∧
      ∃ count : Nat, (s.limit = none → s.offset = none → count = found.length) ∧
        Gives (m.callMethod b.value "count" []) c (fun _ v => v = .int count) ∧
        Gives (m.callMethod b.value "exists" []) c (fun _ v => v = .bool (count ≠ 0)) ∧
        ∀ {r : Builder} {calls' : List Call} {cls : Class}, Lived n r calls' c →
          r.kind = .relation → r.connection = b.connection → r.table = b.table →
          (draft r.table calls').conditions = s.conditions →
          r.cls.Hands c.work.heap .selector cls → cls.Makes c.work.heap .selector →
          Gives (m.callMethod r.value "count" []) c (fun _ v => v = .int count) ∧
            (s.order = [] → s.limit = none → s.offset = none →
              Gives (m.callMethod r.value "to_list" []) c fun e v =>
                StandsEach e.work.heap v found) := by
  intro m s found
  have hk := hb.holds
  have hd := bounded_draft b.table calls
  have hr : s.Readable (orders b.table calls) := hb.readable hcalls
  let matching := db.matching s.meant s.conditions.bindings
  have hfirst := gives_first hk hkind hd hs hr (k := n + 3) (Nat.le_succ_of_le hleast)
  refine ⟨gives_toList hk hkind hd hs hr (Nat.le_succ_of_le hleast),
    gives_items hk hkind (hleaves _ (by decide)) (gives_toList hk hkind hd hs hr hleast),
    ?_, matching.length, ?_, gives_count hk hkind hd hs hr (Nat.le_succ_of_le hleast), ?_, ?_⟩
  · simp only [List.forall_mem_cons, List.not_mem_nil, false_implies, implies_true, and_true]
    exact ⟨hfirst, hfirst.congr (getOrNone_apply hk hkind (hleaves _ (by decide)) _)⟩
  · intro hlimit hoffset
    rw [List.length_map]
    exact (Selector.length_replied db hlimit hoffset).symm
  · have hany : (!matching.isEmpty) = decide (matching.length ≠ 0) := by cases matching <;> rfl
    rw [← hany]
    exact gives_exists hk hkind hd hs hr (Nat.le_succ_of_le hleast)
  · intro r calls' cls hlived hrelation hconnection htable hconditions hlink hcls
    -- the selection of the relation has the conditions of this one, and nothing else
    have hsuits := hlived.suits
    rw [hrelation] at hsuits
    have hthrough : (draft r.table calls').selector r.table =
        { table := b.table, conditions := s.conditions } := by
      rw [selector_of_conditions hsuits, hconditions, htable]
    have hs' := hs
    rw [← hconnection, ← htable] at hs'
    refine ⟨?_, fun horder hlimit hoffset => ?_⟩
    · refine gives_count_through hlived hrelation hlink hcls hs' hleast (q := s.countStatement) ?_
        (Selector.reply?_count hr db) ?_
      · rw [hthrough]
        rfl
      · rw [htable]
        exact List.mem_cons_of_mem _ (List.mem_cons_of_mem _ List.mem_cons_self)
    · have hplain : s = { table := b.table, conditions := s.conditions } := by
        change Selector.mk _ _ s.order s.limit s.offset = _
        rw [horder, hlimit, hoffset]
        rfl
      have hnone : orders b.table calls = [] := List.map_eq_nil_iff.1 (hr.order.symm.trans horder)
      have hfound : found = (s.replied [] db (s.limit.bind amount?)).map model := by
        rw [← hnone]
      rw [hnone] at hr
      rw [hfound]
      refine gives_toList_through hlived hrelation hlink hcls hs' hleast
        (hthrough.trans hplain.symm) hr ?_
      rw [htable]
      exact List.mem_cons_self

end Builder

/-! ### A database behind a recorder -/

namespace Board

open Builder

/-- A row with a score. -/
def row (n : Int) : Json := .object [("score", .int n)]

/-- A database with two scores. -/
def contents : Contents where
  rows table := if table = "board" then [row 5, row 9] else []
  satisfies clauses values found :=
    match values, found with
    | [.int bound], .object [(_, .int n)] => clauses = ["\"score\" > %s"] && decide (bound < n)
    | _, _ => false
  arrange _ rows := rows
  arrange_perm _ rows := .refl rows
  present _ found := found

/-- The row with the number of scores and with whether there is one. -/
def told : Json := .object [("count", .int 1), ("found", .bool true)]

/-- What the database answers when it is asked for the scores above 7. -/
def answers : Entries (List Json) := [("fetch_all", [.list [row 9]]), ("fetch_one", [told])]

/-- A connection that gives the answers. -/
def answering : Value := .object Recorder.cls 4

/-- A session with the connection. -/
def connected : Course State :=
  { start with work :=
      { start.work with
        heap := heap.push (.attributes [])
        returns := answers } }

/-- The scores above 7. -/
def above : Builder.Call := .condition "score_gt" (asks (.compare .gt)) [.int 7]

/-- The selection of the scores. -/
def high : Selector Value where
  table := table
  conditions := ⟨["\"score\" > %s"], [.int 7]⟩

lemma answerable_above : ∀ call ∈ [above], call.Answerable := List.forall_mem_singleton.2 trivial

lemma values_high {q : Bound Value} (hq : q ∈ high.statements) (h : Heap) :
    ∃ values, q.2.mapM (shown h 899) = .ok values := by
  simp only [Selector.statements, List.mem_cons, List.not_mem_nil, or_false] at hq
  rcases hq with rfl | rfl | rfl | rfl <;> exact ⟨_, rfl⟩

/-- The answers are those of the database. -/
lemma reply_high {q : Bound Value} (hq : q ∈ high.statements) :
    contents.reply? q = some (.rows [row 9]) ∨ contents.reply? q = some (.number 1) ∨
      contents.reply? q = some (.found true) := by
  have hr : high.Readable [] :=
    ⟨List.forall_mem_singleton.2 (Query.closed_clause (.compare .gt) "score" 1), rfl, nofun, nofun⟩
  simp only [Selector.statements, List.mem_cons, List.not_mem_nil, or_false] at hq
  rcases hq with rfl | rfl | rfl | rfl
  · exact .inl (Selector.reply?_statement hr contents)
  · exact .inl (Selector.reply?_first hr contents)
  · exact .inr (.inl (Selector.reply?_count hr contents))
  · exact .inr (.inr (Selector.reply?_exists hr contents))

/-- A method of the connection gets what is laid out for it. -/
lemma note_answering {c : Course State} {method : String} {next : Json} {arguments : List Value}
    {shown : List Json} (hshown : showValues arguments c = (.ok shown, c))
    (hreturns : c.work.returns.get? method = some [next]) :
    ∃ d, d.work.returns = c.work.returns.put method [] ∧ d.work.heap = c.work.heap ∧
      Recorder.note method arguments c = ofJson next d := by
  refine ⟨{ c with
    store := c.store.record (.noted method shown)
    work := { c.work with returns := c.work.returns.put method [] } }, rfl, rfl, ?_⟩
  rw [Recorder.note, Action.bind_apply_ok hshown]
  rw [Action.bind_apply_ok (show Action.change _ c = (.ok (), _) from rfl),
    Action.bind_apply_ok (work_apply _)]
  simp only [hreturns]
  rfl

lemma sent_answering {c : Course State} {method : String} {next : Json}
    (hmethod : method ∈ ["fetch_all", "fetch_one"])
    (hreturns : c.work.returns.get? method = some [next]) {q : Bound Value}
    (hvalues : ∀ h, ∃ shown, q.2.mapM (Object.shown h 899) = .ok shown) (n : Nat) :
    ∃ d, d.work.returns = c.work.returns.put method [] ∧
      d.work.heap = c.work.heap.push (.list q.2) ∧
      sent (machine (n + 1)) answering method q c = ofJson next d := by
  let h : Heap := c.work.heap.push (.list q.2)
  have hmember : (machine (n + 1)).member answering method c =
      (.ok (.function (.noting method)), c) := by
    simp only [List.mem_cons, List.not_mem_nil, or_false] at hmethod
    rcases hmethod with rfl | rfl <;> rfl
  have hitems : h.items c.work.heap.size = q.2 := Heap.items_of_list Array.getElem?_push_size
  obtain ⟨shown, hshown⟩ := hvalues h
  have hlist : showValues [.text q.1, .list c.work.heap.size] (c.withHeap h) =
      (.ok [.text q.1, Json.list shown], c.withHeap h) := by
    have hvalue : Object.shown h shownDepth (.list c.work.heap.size) = .ok (Json.list shown) := by
      change ((h.items c.work.heap.size).mapM (Object.shown h 899)).map Json.list = _
      rw [hitems, hshown]
      rfl
    exact showValues_apply (.cons rfl (.cons hvalue .nil))
  obtain ⟨d, hreturned, hheap, hnote⟩ := note_answering hlist hreturns
  refine ⟨d, hreturned, hheap, ?_⟩
  rw [sent, Action.bind_apply_ok hmember, Action.bind_apply_ok (newList_apply q.2 c)]
  exact hnote

/-- The answer with the number, on the heap. -/
def toldEntries : List (Value × Value) := [(.text "count", .int 1), (.text "found", .bool true)]

/-- The answer with the number tells that there is a row, and how many. -/
lemma gives_told {c : Course State} (hreturns : c.work.returns = answers) {n : Nat} (hn : n ≥ 1)
    {q : Bound Value} (hq : q ∈ high.statements) :
    Gives (sent (machine n) answering "fetch_one" q) c fun d v =>
      holds d.work.heap v = true ∧ elementAt v Selector.countColumn d = (.ok (.int 1), d) ∧
        elementAt v Selector.foundColumn d = (.ok (.bool true), d) := by
  obtain ⟨n, rfl⟩ := Nat.exists_eq_add_of_le' hn
  have hnext : c.work.returns.get? "fetch_one" = some [told] := by
    rw [hreturns]
    rfl
  obtain ⟨d, -, -, hrun⟩ := sent_answering (by decide) hnext (values_high hq) n
  let h : Heap := d.work.heap.push (.dict toldEntries)
  have hid : h[d.work.heap.size]? = some (.dict toldEntries) := Array.getElem?_push_size
  refine ⟨.dict d.work.heap.size, d.withHeap h, hrun, ?_,
    elementAt_dict hid fun _ => rfl, elementAt_dict hid fun _ => rfl⟩
  change (!(h.entries d.work.heap.size).isEmpty) = true
  rw [Heap.entries, hid]
  rfl

/-- The rows come with the number 9, and are gone then. -/
lemma gives_row {c : Course State} (hreturns : c.work.returns = answers) {n : Nat} (hn : n ≥ 1)
    {q : Bound Value} (hq : q ∈ high.statements) :
    Gives (sent (machine n) answering "fetch_all" q) c fun d v =>
      StandsEach d.work.heap v [row 9] ∧ d.work.returns.get? "new_model_from_row" = none := by
  obtain ⟨n, rfl⟩ := Nat.exists_eq_add_of_le' hn
  have hnext : c.work.returns.get? "fetch_all" = some [.list [row 9]] := by
    rw [hreturns]
    rfl
  obtain ⟨d, hleft, -, hrun⟩ := sent_answering (by decide) hnext (values_high hq) n
  let h : Heap := d.work.heap.push (.dict [(.text "score", .int 9)])
  have hid : h[d.work.heap.size]? = some (.dict [(.text "score", .int 9)]) :=
    Array.getElem?_push_size
  refine ⟨_, d.withHeap (h.push (.list [.dict d.work.heap.size])), hrun,
    standsEach_newList (.cons (stands_dict hid fun _ => rfl) .nil), ?_⟩
  change d.work.returns.get? _ = none
  rw [hleft, hreturns]
  rfl

/-- A row becomes a model that is equal to it. -/
lemma gives_model {n : Nat} (hn : n ≥ 1) {d : Course State} {v : Value} {found : Json}
    (hready : d.work.returns.get? "new_model_from_row" = none) (hv : Stands d.work.heap v found) :
    Gives ((machine n).callMethod answering "new_model_from_row" [.table table, v]) d fun e x =>
      Changes [] d.work.heap e.work.heap ∧ Stands e.work.heap x found ∧
        e.work.returns.get? "new_model_from_row" = none := by
  obtain ⟨n, rfl⟩ := Nat.exists_eq_add_of_le' hn
  have hmember : (machine (n + 1)).member answering "new_model_from_row" d =
      (.ok (.function (.noting "new_model_from_row")), d) := rfl
  let shown := [tagged "$schema" (.text table.name) [], found]
  have hshown : showValues [.table table, v] d = (.ok shown, d) :=
    showValues_apply (.cons rfl (.cons (hv _ (.refl _ _)) .nil))
  refine ⟨v, { d with store := d.store.record (.noted "new_model_from_row" shown) }, ?_,
    .refl _ _, hv, hready⟩
  rw [Machine.callMethod, Action.bind_apply_ok hmember]
  change Recorder.note "new_model_from_row" [.table table, v] d = _
  rw [Recorder.note, Action.bind_apply_ok hshown]
  rw [Action.bind_apply_ok (show Action.change _ d = (.ok (), _) from rfl),
    Action.bind_apply_ok (work_apply _)]
  simp only [hready]
  rfl

/-- **The connection answers as the database does**, as long as it has its answers. -/
lemma answers_of_returns {c : Course State} (hreturns : c.work.returns = answers) :
    Answers contents (fun j => j) answering table high.statements 1
      (fun d => d.work.returns.get? "new_model_from_row" = none) c where
  rows n hn h _ q hq rows hrows := by
    obtain rfl : rows = [row 9] := by
      rcases reply_high hq with h' | h' | h' <;> rw [h'] at hrows <;> cases hrows
      rfl
    exact gives_row (c := c.withHeap h) hreturns hn hq
  number n hn h _ q hq k hk := by
    obtain rfl : k = 1 := by
      rcases reply_high hq with h' | h' | h' <;> rw [h'] at hk <;> cases hk
      rfl
    exact (gives_told (c := c.withHeap h) hreturns hn hq).imp fun _ _ hv => ⟨hv.1, hv.2.1⟩
  found n hn h _ q hq k hk := by
    obtain rfl : k = true := by
      rcases reply_high hq with h' | h' | h' <;> rw [h'] at hk <;> cases hk
      rfl
    exact (gives_told (c := c.withHeap h) hreturns hn hq).imp fun _ _ hv => ⟨hv.1, hv.2.2⟩
  model n hn d v row hready hv := gives_model hn hready hv

/-- A relation on the scores. -/
def picked : Builder := fresh .relation relation answering table 5

lemma lived_picked : ∃ h, Changes [] heap h ∧ Lived 0 picked [above] (connected.withHeap h) := by
  have hrelation : ∀ id ∈ relation.places, id < heap.size ∧ id ∉ [] := by decide
  have hconnected : Changes [] heap connected.work.heap := .push _ _ _
  have hmakes := makes_relation.of_changes hconnected hrelation
  have hlived : Lived 0 picked [] _ := .made hmakes (call_class_apply hmakes 3 answering table)
  have hgrown : Changes [] heap _ := hconnected.trans (connected.work.heap.changes_grown
    (picked.attributes unbounded) (picked.kind.parts.map (started [] [])))
  have hfits : above.Fits picked _ :=
    ⟨has_gt.of_changes hgrown hrelation (by decide), isCondition_gt⟩
  have hgiven : ∀ h : Heap, above.Given h [.int 7] := fun _ => ⟨.int 7, rfl, rfl⟩
  obtain ⟨result, -, h, hrun, hchanges, -⟩ := turns_call hlived.holds hfits (hgiven _) 0 0
  refine ⟨h, hgrown.fresh hchanges fun i hi => ?_, hlived.called hfits (hgiven _) hrun⟩
  revert i
  decide

/-- **A relation with a condition, and a selector that is derived from it.** -/
lemma lived_pair : ∃ (b : Builder) (c : Course State), Lived 0 b [above] c ∧ b.kind = .selector ∧
    b.cls = selector ∧ b.connection = answering ∧ b.table = table ∧ Lived 0 picked [above] c ∧
    Changes [] heap c.work.heap ∧ c.work.returns = answers := by
  have hrelation : ∀ id ∈ relation.places, id < heap.size ∧ id ∉ [] := by decide
  have hselector : ∀ id ∈ selector.places, id < heap.size ∧ id ∉ [] := by decide
  obtain ⟨h, hchanges, hlived⟩ := lived_picked
  have hlink := hands_selector.of_changes hchanges hrelation
  have hcls := makes_selector.of_changes hchanges hselector
  have hderived := Lived.derived hlived rfl (by decide) hlink hcls
    (derive_apply hlived.holds rfl (by decide) hlink hcls 1)
  let b := fresh .selector selector answering table h.size
  have hlater : Changes [] h (planted h b ((draft table [above]).kept .clauses)
    ((draft table [above]).kept .bindings)) := h.changes_grown _ _
  exact ⟨b, _, hderived, rfl, rfl, rfl, rfl,
    hlived.meanwhile hlater ⟨fun _ _ => List.not_mem_nil, fun _ _ => List.not_mem_nil⟩,
    hchanges.trans hlater, rfl⟩

/-- One score is above 7, and every way of reading tells of it. -/
theorem readings_agree_board : ∃ (b : Builder) (c : Course State), Lived 0 b [above] c ∧
    b.kind = .selector ∧ (∀ call ∈ [above], call.Answerable) ∧
    (∀ name ∈ ["get_or_none", "__iter__"], b.cls.Leaves c.work.heap name) ∧
    Answers contents (fun j => j) b.connection b.table
      ((draft b.table [above]).selector b.table).statements 1
      (fun d => d.work.returns.get? "new_model_from_row" = none) c ∧
    Gives ((machine 5).callMethod b.value "to_list" []) c (fun e v =>
      StandsEach e.work.heap v [row 9]) ∧
    Gives ((machine 5).callMethod b.value "get_or_none" []) c (fun e v =>
      Stands e.work.heap v (row 9)) ∧
    Lived 0 picked [above] c ∧ picked.kind = .relation ∧
    Gives ((machine 5).callMethod picked.value "count" []) c (fun _ v => v = .int 1) ∧
    Gives ((machine 5).callMethod picked.value "to_list" []) c fun e v =>
      StandsEach e.work.heap v [row 9] := by
  have hrelation : ∀ id ∈ relation.places, id < heap.size ∧ id ∉ [] := by decide
  have hselector : ∀ id ∈ selector.places, id < heap.size ∧ id ∉ [] := by decide
  obtain ⟨b, c, hb, hkind, hcls, hconnection, htable, hpicked, hchanges, hreturns⟩ := lived_pair
  have hleaves : ∀ name ∈ ["get_or_none", "__iter__"], b.cls.Leaves c.work.heap name := by
    intro name hname id hid
    rw [hcls] at hid
    rw [hchanges.attributes_eq (hselector id hid).1 (hselector id hid).2]
    obtain rfl := List.mem_singleton.1 hid
    revert name
    decide
  have hs : Answers contents (fun j => j) b.connection b.table
      ((draft b.table [above]).selector b.table).statements 1
      (fun d => d.work.returns.get? "new_model_from_row" = none) c := by
    rw [hconnection, htable]
    exact answers_of_returns hreturns
  have hfound : (((draft b.table [above]).selector b.table).replied (orders b.table [above])
      contents (((draft b.table [above]).selector b.table).limit.bind amount?)).map (fun j => j) =
        [row 9] := by
    rw [htable]
    rfl
  have hagree := readings_agree hb hkind answerable_above hleaves hs (by decide)
  dsimp only at hagree
  rw [hfound] at hagree
  obtain ⟨hlist, -, hfirst, count, hcount, -, -, hrelations⟩ := hagree
  have hplain : (draft b.table [above]).selector b.table = high := by
    rw [htable]
    rfl
  rw [hplain] at hcount hrelations
  obtain ⟨hnumber, hsame⟩ := hrelations hpicked rfl hconnection.symm htable.symm rfl
    (hands_selector.of_changes hchanges hrelation) (makes_selector.of_changes hchanges hselector)
  obtain rfl := hcount rfl rfl
  exact ⟨b, c, hb, hkind, answerable_above, hleaves, hs, hlist, hfirst _ (by decide), hpicked, rfl,
    hnumber, hsame rfl rfl rfl⟩

end Board

end PgSchema.Object
