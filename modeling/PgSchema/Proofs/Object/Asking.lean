import PgSchema.Proofs.Object.Lives

/-!
What a builder says and sends.

From what a builder keeps follows what it says of itself (`whereClause_apply`, `toSql_apply`), and
what goes over the connection when it is asked for rows, for their number, or to change them
(`ask_apply`): always a statement that its draft gives, with the values behind it.
-/

namespace PgSchema.Object

open Query (Bound Conditions Selector Updater)
open Session (callKnown machine)

namespace Builder

/-! ### The query of a draft -/

namespace Draft

/-- The conditions. -/
def conditions (d : Draft) : Conditions Value where
  clauses := (d.pick Entry.clause?).map (·.2.1)
  bindings := (d.pick Entry.clause?).flatMap (·.2.2)

/-- The selection. -/
def selector (t : Table) (d : Draft) : Selector Value where
  table := t
  conditions := d.conditions
  order := (d.pick Entry.order?).map (·.2)
  limit := (d.bound? .limit).map (·.2)
  offset := (d.bound? .offset).map (·.2)

/-- The change. -/
def updater (t : Table) (d : Draft) : Updater Value where
  table := t
  conditions := d.conditions
  assignments := (d.pick Entry.assignment?).map (·.2)

variable (d : Draft)

lemma kept_cons (x : Nat × Entry) (p : Part) : kept (x :: d) p = x.2.items p ++ d.kept p := rfl

lemma pick_cons {α : Type} (x : Nat × Entry) (f : Entry → Option α) :
    pick (x :: d) f = ((f x.2).map (x.1, ·)).toList ++ d.pick f := by
  rw [pick, List.filterMap_cons]
  cases f x.2 <;> rfl

lemma kept_clauses : d.kept .clauses = d.conditions.clauses.map .text := by
  unfold conditions
  induction d with
  | nil => rfl
  | cons x d ih =>
    rw [kept_cons, ih, pick_cons]
    obtain ⟨i, e⟩ := x
    cases e <;> rfl

lemma kept_bindings : d.kept .bindings = d.conditions.bindings := by
  unfold conditions
  induction d with
  | nil => rfl
  | cons x d ih =>
    rw [kept_cons, ih, pick_cons]
    obtain ⟨i, e⟩ := x
    cases e <;> rfl

lemma kept_orders : d.kept .order = ((d.pick Entry.order?).map (·.2)).map .text := by
  induction d with
  | nil => rfl
  | cons x d ih =>
    rw [kept_cons, ih, pick_cons]
    obtain ⟨i, e⟩ := x
    cases e <;> rfl

lemma kept_assignments : d.kept .assignments =
    ((d.pick Entry.assignment?).map (·.2)).map fun a => .tuple [.text a.1, a.2] := by
  induction d with
  | nil => rfl
  | cons x d ih =>
    rw [kept_cons, ih, pick_cons]
    obtain ⟨i, e⟩ := x
    cases e <;> rfl

/-- What a builder of a kind renders.  A relation reads as the selection that is derived from it. -/
def statement (k : Kind) (t : Table) (d : Draft) : Except Fault (Bound Value) :=
  match k with
  | .selector | .relation => .ok (d.selector t).statement
  | .updater => (d.updater t).statement
  | .deleter => .ok (Query.removal t d.conditions)

/-- No bound stands for no bound. -/
def Bounded (d : Draft) : Prop := ∀ x ∈ d, ∀ e, x.2.count? e ≠ some .null

variable {d}

lemma optional_bounds (hd : d.Bounded) (e : Edge) :
    optional (d.bounds e) = (d.bound? e).map (·.2) := by
  unfold bounds
  cases hfound : d.bound? e with
  | none => rfl
  | some x =>
    obtain ⟨i, count⟩ := x
    obtain ⟨entry, hentry, hcount⟩ := mem_pick (List.mem_of_getLast? hfound)
    have hne : count ≠ .null := fun heq => hd _ hentry e (heq ▸ hcount)
    change optional count = some count
    cases count <;> first | rfl | exact absurd rfl hne

end Draft

/-- A bound that is accepted is kept as it is, and it is not negative. -/
lemma bound_eq_some {what : String} {count found : Value}
    (h : (Selector.bound what count).toOption = some found) :
    found = count ∧ Query.Amount.isNegative count = .ok false := by
  unfold Selector.bound at h
  cases hnegative : Query.Amount.isNegative count with
  | error fault =>
    rw [hnegative] at h
    cases h
  | ok negative =>
    rw [hnegative] at h
    cases negative with
    | false => exact ⟨(Option.some.inj h).symm, rfl⟩
    | true => cases h

lemma bounded_draft (t : Table) (calls : List Call) : (draft t calls).Bounded := by
  intro x hx e hcount
  obtain ⟨call, -, hentry⟩ := exists_of_mem_draft hx
  cases call with
  | condition | filter | among =>
    rw [← Option.some.inj hentry] at hcount
    cases hcount
  | order | assign =>
    obtain ⟨column, -, heq⟩ := Option.map_eq_some_iff.1 hentry
    rw [← heq] at hcount
    cases hcount
  | bound e' count =>
    obtain ⟨found, hfound, heq⟩ := Option.map_eq_some_iff.1 hentry
    rw [← heq, Entry.count?] at hcount
    split at hcount
    · obtain rfl := Option.some.inj hcount
      obtain ⟨rfl, hnumber⟩ := bound_eq_some hfound
      cases hnumber
    · cases hcount

/-! ### What is kept, read back -/

variable {b : Builder} {c : Course State} {d : Draft}

lemma joinable_texts (texts : List String) : joinable (texts.map .text) = .ok texts := by
  have hnone : (texts.map Value.text).findIdx? (·.text?.isNone) = none := by
    rw [List.findIdx?_eq_none_iff]
    intro x hx
    obtain ⟨s, -, rfl⟩ := List.mem_map.1 hx
    rfl
  have hall : (texts.map Value.text).filterMap Value.text? = texts := by
    rw [List.filterMap_map]
    exact List.filterMap_some
  unfold joinable
  rw [hnone]
  exact congrArg Except.ok hall

lemma each_assignmentOf (m : Machine) (assignments : List (String × Value)) :
    Action.each (assignmentOf m) (assignments.map fun a => .tuple [.text a.1, a.2]) c =
      (.ok assignments, c) := by
  induction assignments with
  | nil => rfl
  | cons a assignments ih =>
    have hfirst : assignmentOf m (.tuple [.text a.1, a.2]) c = (.ok a, c) := rfl
    rw [List.map_cons, Action.each, Action.bind_apply_ok hfirst, Action.bind_apply_ok ih]
    rfl

lemma keptItems_apply (hk : b.Holds c.work.heap d) (n : Nat) {p : Part} (hp : p ∈ b.kind.parts) :
    keptItems (machine (n + 1)) b.value p.name c = (.ok (d.kept p), c) := by
  refine (Action.bind_apply_ok (hk.member_part (machine n) hp) _).trans ?_
  exact items_apply (congrArg some (Heap.items_of_list (hk.lists p hp)))

lemma conditionsOf_apply (hk : b.Holds c.work.heap d) (n : Nat) :
    conditionsOf (machine (n + 1)) b.value c = (.ok d.conditions, c) := by
  have hclauses : Part.clauses ∈ b.kind.parts := by cases b.kind <;> decide
  have hbindings : Part.bindings ∈ b.kind.parts := by cases b.kind <;> decide
  have htexts := each_showPlain d.conditions.clauses c
  rw [← Draft.kept_clauses] at htexts
  refine (Action.bind_apply_ok (keptItems_apply hk n hclauses) _).trans ?_
  refine (Action.bind_apply_ok htexts _).trans ?_
  refine (Action.bind_apply_ok (keptItems_apply hk n hbindings) _).trans ?_
  rw [Draft.kept_bindings]
  rfl

lemma tableOf_apply (hk : b.Holds c.work.heap d) (n : Nat) (first : String) :
    tableOf (machine (n + 1)) first b.value c = (.ok b.table, c) :=
  Action.bind_apply_ok (hk.member_schema (machine n)) _

lemma unorderedSelector_apply (hk : b.Holds c.work.heap d) (n : Nat) (first : String) :
    unorderedSelector (machine (n + 1)) first b.value c =
      (.ok { table := b.table, conditions := d.conditions }, c) := by
  refine (Action.bind_apply_ok (tableOf_apply hk n first) _).trans ?_
  exact Action.bind_apply_ok (conditionsOf_apply hk n) _

lemma selectorOf_apply (hk : b.Holds c.work.heap d) (hd : d.Bounded) (hkind : b.kind = .selector)
    (n : Nat) : selectorOf (machine (n + 1)) b.value c = (.ok (d.selector b.table), c) := by
  have horder : Part.order ∈ b.kind.parts := by rw [hkind]; decide
  have hedge : ∀ e : Edge, e ∈ b.kind.edges := by
    rw [hkind]
    intro e
    cases e <;> decide
  have hjoined : Action.check (joinable (d.kept .order)) c =
      (.ok ((d.pick Entry.order?).map (·.2)), c) := by
    rw [Draft.kept_orders, joinable_texts]
    rfl
  refine (Action.bind_apply_ok (unorderedSelector_apply hk n "columns") _).trans ?_
  refine (Action.bind_apply_ok (keptItems_apply hk n horder) _).trans ?_
  refine (Action.bind_apply_ok hjoined _).trans ?_
  refine (Action.bind_apply_ok (hk.member_edge (machine n) (hedge .limit)) _).trans ?_
  refine (Action.bind_apply_ok (hk.member_edge (machine n) (hedge .offset)) _).trans ?_
  rw [Draft.optional_bounds hd, Draft.optional_bounds hd]
  rfl

lemma updaterOf_apply (hk : b.Holds c.work.heap d) (hkind : b.kind = .updater) (n : Nat) :
    updaterOf (machine (n + 1)) b.value c = (.ok (d.updater b.table), c) := by
  have hassignments : Part.assignments ∈ b.kind.parts := by rw [hkind]; decide
  have heach : Action.each (assignmentOf (machine (n + 1))) (d.kept .assignments) c =
      (.ok ((d.pick Entry.assignment?).map (·.2)), c) := by
    rw [Draft.kept_assignments]
    exact each_assignmentOf _ _
  refine (Action.bind_apply_ok (tableOf_apply hk n "table_name") _).trans ?_
  refine (Action.bind_apply_ok (keptItems_apply hk n hassignments) _).trans ?_
  refine (Action.bind_apply_ok heach _).trans ?_
  exact Action.bind_apply_ok (conditionsOf_apply hk n) _

/-! ### The text of a builder -/

/-- **What `where_clause` gives.** -/
theorem whereClause_apply (hk : b.Holds c.work.heap d) (n : Nat) :
    (machine (n + 2)).callMethod b.value "where_clause" [] c =
      (.ok (.text d.conditions.whereText), c) := by
  rw [hk.callMethod (n + 1) (by decide) (b.kind.offers_common (by decide))]
  exact Action.bind_apply_ok (conditionsOf_apply hk n) _

/-- **What `to_sql` gives**: the statement with a new list of its values, or the failure of a change
that changes nothing. -/
theorem toSql_apply (hk : b.Holds c.work.heap d) (hd : d.Bounded) (hkind : b.kind ≠ .relation)
    (n : Nat) :
    (machine (n + 2)).callMethod b.value "to_sql" [] c =
      (Action.check (d.statement b.kind b.table) >>= boundValue) c := by
  have hoffers : b.kind.Offers b.kind.title "to_sql" := by
    intro h
    revert hkind
    cases b.kind <;> intro hkind <;> first | exact ⟨_, rfl⟩ | exact absurd rfl hkind
  rw [hk.callMethod (n + 1) (by decide) hoffers]
  cases hwhich : b.kind with
  | selector => exact Action.bind_apply_ok (selectorOf_apply hk hd hwhich n) _
  | updater => exact Action.bind_apply_ok (updaterOf_apply hk hwhich n) _
  | deleter =>
    refine (Action.bind_apply_ok (tableOf_apply hk n "table_name") _).trans ?_
    exact Action.bind_apply_ok (conditionsOf_apply hk n) _
  | relation => exact absurd hwhich hkind

end Builder

/-! ### Questions over the connection -/

/-- What a builder is asked for over its connection. -/
inductive Ask where
  | all
  | first
  | count
  | anyRow
  | execute
  deriving DecidableEq, Repr

/-- What builders of a kind are asked for. -/
def Kind.asks : Kind → List Ask
  | selector => [.all, .first, .count, .anyRow]
  | updater | deleter => [.execute]
  | relation => []

namespace Ask

/-- The method of the builder. -/
def method : Ask → String
  | all => "to_list"
  | first => "first"
  | count => "count"
  | anyRow => "exists"
  | execute => "execute"

/-- The method of the connection. -/
def via : Ask → String
  | all | first => "fetch_all"
  | count | anyRow => "fetch_one"
  | execute => "execute"

/-- The models of the rows that a connection has given. -/
def models (m : Machine) (b : Builder) (answer : Value) : Run (List Value) := do
  let rows ← m.items answer
  Action.each (fun row => m.callMethod b.connection "new_model_from_row" [.table b.table, row]) rows

/-- What is made of the answer of the connection. -/
def reading (m : Machine) (b : Builder) (answer : Value) : Ask → Run Value
  | all => do
    let found ← models m b answer
    newList found
  | first => do
    let found ← models m b answer
    return found.head?.getD .null
  | count => do
    if ← isTrue answer then elementAt answer Selector.countColumn else return .int 0
  | anyRow => do
    let found ← (do
      if ← isTrue answer then
        let found ← elementAt answer Selector.foundColumn
        isTrue found
      else return false)
    return .bool found
  | execute => return answer

end Ask

/-- **A statement goes over a connection**: its text, and its values in a new list. -/
def sent (m : Machine) (connection : Value) (via : String) (q : Bound Value) : Run Value := do
  let f ← m.member connection via
  let values ← newList q.2
  m.call f [.text q.1, values] []

namespace Builder

variable {b : Builder} {c : Course State} {d : Draft}

/-- The statement that a builder sends. -/
def Draft.query (k : Kind) (t : Table) (d : Draft) : Ask → Except Fault (Bound Value)
  | .all | .execute => d.statement k t
  | .first => .ok (d.selector t).firstStatement
  | .count => .ok (d.selector t).countStatement
  | .anyRow => .ok (d.selector t).existsStatement

lemma backendIn_apply (hk : b.Holds c.work.heap d) (n : Nat) :
    backendIn (machine (n + 1)) b.value c =
      (.ok (backendOf (machine (n + 1)) b.connection (.table b.table)), c) := by
  refine (Action.bind_apply_ok (hk.member_connection (machine n)) _).trans ?_
  exact Action.bind_apply_ok (hk.member_schema (machine n)) _

/-- Rows are asked for and become models. -/
lemma fetchModels_backendOf (m : Machine) (s : Selector Value) (q : Bound Value) :
    s.fetchModels (backendOf m b.connection (.table b.table)) q =
      sent m b.connection "fetch_all" q >>= Ask.models m b :=
  Action.bind_assoc _ _ _

/-- **What a builder sends when it is asked**: its statement, and nothing if that is a change that
changes nothing. -/
theorem ask_apply (hk : b.Holds c.work.heap d) (hd : d.Bounded) {ask : Ask}
    (hask : ask ∈ b.kind.asks) (n : Nat) :
    (machine (n + 2)).callMethod b.value ask.method [] c =
      (Action.check (d.query b.kind b.table ask) >>= fun q =>
        sent (machine (n + 1)) b.connection ask.via q >>= fun answer =>
          ask.reading (machine (n + 1)) b answer) c := by
  have hname : ask.method ∈ libraryNames := by cases ask <;> decide
  have hoffers : b.kind.Offers b.kind.title ask.method := by
    intro h
    revert hask
    cases b.kind <;> cases ask <;> intro hask <;>
      first | exact ⟨_, rfl⟩ | exact absurd hask (by decide)
  have hbackend := backendIn_apply hk n
  rw [hk.callMethod (n + 1) hname hoffers]
  cases hwhich : b.kind with
  | selector =>
    cases ask with
    | all =>
      refine (Action.bind_apply_ok (selectorOf_apply hk hd hwhich n) _).trans ?_
      refine (Action.bind_apply_ok hbackend _).trans ?_
      change (Selector.fetchModels _ _ _ >>= _) c = _
      rw [fetchModels_backendOf, Action.bind_assoc]
      rfl
    | first =>
      refine (Action.bind_apply_ok (selectorOf_apply hk hd hwhich n) _).trans ?_
      refine (Action.bind_apply_ok hbackend _).trans ?_
      change (Selector.fetchModels _ _ _ >>= _ >>= _) c = _
      rw [fetchModels_backendOf, Action.bind_assoc, Action.bind_assoc]
      rfl
    | count =>
      refine (Action.bind_apply_ok (unorderedSelector_apply hk n "table_name") _).trans ?_
      exact Action.bind_apply_ok hbackend _
    | anyRow =>
      refine (Action.bind_apply_ok (unorderedSelector_apply hk n "table_name") _).trans ?_
      refine (Action.bind_apply_ok hbackend _).trans ?_
      change ((sent _ _ _ _ >>= _) >>= _) c = _
      rw [Action.bind_assoc]
      rfl
    | execute => rw [hwhich] at hask; exact absurd hask (by decide)
  | updater =>
    cases ask with
    | execute =>
      refine (Action.bind_apply_ok (updaterOf_apply hk hwhich n) _).trans ?_
      refine (Action.bind_apply_ok hbackend _).trans ?_
      change _ = (Action.check (d.updater b.table).statement >>= fun q =>
        sent (machine (n + 1)) b.connection "execute" q >>= fun answer => pure answer) c
      simp only [Action.bind_pure]
      rfl
    | _ => rw [hwhich] at hask; exact absurd hask (by decide)
  | deleter =>
    cases ask with
    | execute =>
      refine (Action.bind_apply_ok (tableOf_apply hk n "table_name") _).trans ?_
      refine (Action.bind_apply_ok (conditionsOf_apply hk n) _).trans ?_
      refine (Action.bind_apply_ok hbackend _).trans ?_
      change _ = (sent (machine (n + 1)) b.connection "execute"
        (Query.removal b.table d.conditions) >>= fun answer => pure answer) c
      rw [Action.bind_pure]
      rfl
    | _ => rw [hwhich] at hask; exact absurd hask (by decide)
  | relation => rw [hwhich] at hask; exact absurd hask List.not_mem_nil

/-- What a relation is asked for goes to a selector that it derives. -/
lemma callMethod_through {n : Nat} {r : Builder} (hr : r.Holds c.work.heap d)
    (hrelation : r.kind = .relation) {ask : Ask} (hask : ask = .all ∨ ask = .count) :
    (machine (n + 1)).callMethod r.value ask.method [] c =
      ((machine n).callMethod r.value Kind.selector.word [] >>= fun s =>
        (machine n).callMethod s ask.method []) c := by
  have hname : ask.method ∈ libraryNames := by rcases hask with rfl | rfl <;> decide
  have hoffers : r.kind.Offers "Relation" ask.method := by
    rw [hrelation]
    intro h
    rcases hask with rfl | rfl <;> exact ⟨_, rfl⟩
  rw [hr.callMethod n hname hoffers]
  rcases hask with rfl | rfl <;> rfl

/-- **A relation asks a selector** that is derived from it for the purpose. -/
theorem through_apply {n : Nat} {r : Builder} {calls : List Call} {cls : Class}
    (hr : Lived n r calls c) (hrelation : r.kind = .relation) {ask : Ask}
    (hask : ask = .all ∨ ask = .count) (hlink : r.cls.Hands c.work.heap .selector cls)
    (hcls : cls.Makes c.work.heap .selector) :
    let b := fresh .selector cls r.connection r.table c.work.heap.size
    ∃ h, Changes [] c.work.heap h ∧ (machine (n + 5)).callMethod r.value ask.method [] c =
      (Action.check ((draft r.table calls).query .selector r.table ask) >>= fun q =>
        sent (machine (n + 3)) r.connection ask.via q >>= fun answer =>
          ask.reading (machine (n + 3)) b answer) (c.withHeap h) := by
  intro b
  let d := draft r.table calls
  have hne : Kind.selector ≠ .relation := by decide
  have hderived := derive_apply hr.holds hrelation hne hlink hcls n
  have hb := Lived.derived hr hrelation hne hlink hcls
    (derive_apply hr.holds hrelation hne hlink hcls (n + 1))
  have hasks : ask ∈ Kind.asks .selector := by rcases hask with rfl | rfl <;> decide
  refine ⟨planted c.work.heap b (d.kept .clauses) (d.kept .bindings),
    c.work.heap.changes_grown _ _, ?_⟩
  rw [callMethod_through hr.holds hrelation hask]
  refine (Action.bind_apply_ok hderived _).trans ?_
  exact ask_apply hb.holds (bounded_draft _ _) hasks (n + 2)

end Builder

end PgSchema.Object
