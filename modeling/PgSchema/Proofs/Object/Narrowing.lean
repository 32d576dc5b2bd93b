import PgSchema.Proofs.Object.Builders

/-!
The methods that narrow a builder.

Each of them puts items at the end of what the builder keeps, or sets a bound, and gives the builder
itself (`Turns`).  Those that fail do so before they change anything.
-/

namespace PgSchema.Object

open Query (Conditions Selector)
open Session (callKnown machine)

/-! ### Methods of the library -/

/-- A kind of builders has a method of the library under a name, which is that of a class. -/
def Kind.Offers (k : Kind) (owner name : String) : Prop :=
  ∀ h, ∃ f, classMember? h (.known k.title) name = some (.feature owner (.method f))

lemma Kind.offers_common (k : Kind) {name : String}
    (hname : name ∈ ["where", "in_", "where_clause", "column_sql", "_copy_into"]) :
    k.Offers "QueryBuilder" name := by
  intro h
  simp only [List.mem_cons, List.not_mem_nil, or_false] at hname
  rcases hname with rfl | rfl | rfl | rfl | rfl <;> cases k <;> exact ⟨_, rfl⟩

namespace Builder

variable {b : Builder} {c : Course State} {kept kept' : Part → List Value}
  {bounds bounds' : Edge → Value} {name owner : String}

namespace Keeps

/-- What a builder keeps under a name is what it has under the name. -/
lemma member_own (hk : b.Keeps c.work.heap kept bounds) (m : Machine) {x : Value}
    (hx : b.own? bounds name = some x)
    (hlibrary : ∀ found, classMember? c.work.heap (.known b.kind.title) name = some found →
      found.isProperty = false) : memberOf m b.value name c = (.ok x, c) := by
  refine member_attribute (hk.isKind.ne_recorder ?_) (isProperty_of_extends hk.isKind hlibrary) ?_
  · cases b.kind <;> decide
  · rw [hk.get?, hx]

lemma member_part (hk : b.Keeps c.work.heap kept bounds) (m : Machine) {p : Part}
    (hp : p ∈ b.kind.parts) : memberOf m b.value p.name c = (.ok (.list (b.place p)), c) := by
  have hnone : ∀ k : Kind, classMember? c.work.heap (.known k.title) p.name = none := by
    intro k
    cases k <;> cases p <;> rfl
  refine hk.member_own m (own?_part hp) fun found hfound => ?_
  rw [hnone] at hfound
  cases hfound

lemma member_edge (hk : b.Keeps c.work.heap kept bounds) (m : Machine) {e : Edge}
    (he : e ∈ b.kind.edges) : memberOf m b.value e.name c = (.ok (bounds e), c) := by
  have hnone : ∀ k : Kind, classMember? c.work.heap (.known k.title) e.name = none := by
    intro k
    cases k <;> cases e <;> rfl
  refine hk.member_own m (own?_edge he) fun found hfound => ?_
  rw [hnone] at hfound
  cases hfound

lemma member_connection (hk : b.Keeps c.work.heap kept bounds) (m : Machine) :
    memberOf m b.value "connection" c = (.ok b.connection, c) := by
  have hnone : ∀ k : Kind, classMember? c.work.heap (.known k.title) "connection" = none := by
    intro k
    cases k <;> rfl
  refine hk.member_own m rfl fun found hfound => ?_
  rw [hnone] at hfound
  cases hfound

lemma member_schema (hk : b.Keeps c.work.heap kept bounds) (m : Machine) :
    memberOf m b.value "schema" c = (.ok (.table b.table), c) := by
  have hnone : ∀ k : Kind, classMember? c.work.heap (.known k.title) "schema" = none := by
    intro k
    cases k <;> rfl
  refine hk.member_own m rfl fun found hfound => ?_
  rw [hnone] at hfound
  cases hfound

/-- A call of a method that the modules leave to the library runs its function. -/
lemma callMethod_of_leaves (hk : b.Keeps c.work.heap kept bounds) (n : Nat)
    (hleaves : b.cls.Leaves c.work.heap name) (hown : name ∉ ownNames)
    (hoffers : b.kind.Offers owner name) (arguments : List Value) :
    (machine (n + 1)).callMethod b.value name arguments c =
      callKnown (machine n) owner name (b.value :: arguments) [] c := by
  obtain ⟨f, hf⟩ := hoffers c.work.heap
  have hfound : classMember? c.work.heap b.cls name = some (.feature owner (.method f)) :=
    (classMember?_of_extends hk.isKind hleaves).trans hf
  have hnone : (c.work.heap.attributes b.id).get? name = none := by
    rw [hk.get?, own?_of_notMem hown]
  have hrecorder : b.cls ≠ Recorder.cls := by
    refine hk.isKind.ne_recorder ?_
    cases b.kind <;> decide
  exact callMethod_apply (member_of_class hrecorder hfound hnone)

/-- **A call of a method of the library** runs its function. -/
lemma callMethod (hk : b.Keeps c.work.heap kept bounds) (n : Nat) (hname : name ∈ libraryNames)
    (hoffers : b.kind.Offers owner name) (arguments : List Value) :
    (machine (n + 1)).callMethod b.value name arguments c =
      callKnown (machine n) owner name (b.value :: arguments) [] c :=
  hk.callMethod_of_leaves n (hk.leaves name hname) (notMem_ownNames name hname) hoffers
    arguments

end Keeps

/-! ### Runs about a builder -/

variable {α β : Type}

/-- **A run about a builder**: its outcome, and what the builder keeps behind it.  Nothing is
changed but the builder and its lists. -/
def Turns (b : Builder) (c : Course State) (x : Run α) (r : Except Failure α)
    (kept : Part → List Value) (bounds : Edge → Value) : Prop :=
  ∃ h, x c = (r, c.withHeap h) ∧ Changes b.owned c.work.heap h ∧ b.Keeps h kept bounds

namespace Turns

variable {x : Run α} {f : α → Run β} {a : α} {r : Except Failure β}

/-- A run that only looks. -/
lemma of_apply (hk : b.Keeps c.work.heap kept bounds) {y : Run β} (hy : y c = (r, c)) :
    b.Turns c y r kept bounds := ⟨c.work.heap, hy, .refl _ _, hk⟩

lemma pure (hk : b.Keeps c.work.heap kept bounds) (a : α) :
    b.Turns c (Pure.pure a : Run α) (.ok a) kept bounds := of_apply hk rfl

lemma bind (hx : b.Turns c x (.ok a) kept bounds)
    (hf : ∀ h, b.Keeps h kept bounds → b.Turns (c.withHeap h) (f a) r kept' bounds') :
    b.Turns c (x >>= f) r kept' bounds' := by
  obtain ⟨h, hrun, hchanges, hk⟩ := hx
  obtain ⟨h', hrun', hchanges', hk'⟩ := hf h hk
  exact ⟨h', (Action.bind_apply_ok hrun f).trans hrun', hchanges.trans hchanges', hk'⟩

/-- Behind a run that only looks. -/
lemma behind (hx : x c = (.ok a, c)) (hf : b.Turns c (f a) r kept bounds) :
    b.Turns c (x >>= f) r kept bounds := by
  obtain ⟨h, hrun, hchanges, hk⟩ := hf
  exact ⟨h, (Action.bind_apply_ok hx f).trans hrun, hchanges, hk⟩

/-- Another run that does the same. -/
lemma congr {x y : Run β} (hx : b.Turns c x r kept bounds) (hy : y c = x c) :
    b.Turns c y r kept bounds := by
  obtain ⟨h, hrun, hchanges, hk⟩ := hx
  exact ⟨h, hy.trans hrun, hchanges, hk⟩

end Turns

/-! ### Predicates -/

/-- More items at the end of a list that a builder keeps. -/
lemma turns_extendKept (hk : b.Keeps c.work.heap kept bounds) (n : Nat) {p : Part}
    (hp : p ∈ b.kind.parts) (more : List Value) :
    b.Turns c (extendKept (machine (n + 2)) b.value p.name more) (.ok ())
      (Function.update kept p (kept p ++ more)) bounds := by
  have hextend := callMethod_extend (n := n) (hk.lists p hp) more
  refine .behind (hk.member_part _ hp) ⟨_, ?_, .set (mem_owned_of_part hp) _ _, hk.setPart hp _⟩
  rw [Action.bind_apply_ok hextend]
  rfl

/-- What is kept behind one more predicate with its values. -/
def narrowed (kept : Part → List Value) (clause : Value) (values : List Value) :
    Part → List Value :=
  Function.update (Function.update kept .clauses (kept .clauses ++ [clause])) .bindings
    (kept .bindings ++ values)

lemma turns_narrow (hk : b.Keeps c.work.heap kept bounds) (n : Nat) (clause : Value)
    (values : List Value) : b.Turns c (narrow (machine (n + 2)) b.value clause values)
      (.ok b.value) (narrowed kept clause values) bounds := by
  have hclauses : Part.clauses ∈ b.kind.parts := by cases b.kind <;> decide
  have hbindings : Part.bindings ∈ b.kind.parts := by cases b.kind <;> decide
  refine .bind (turns_extendKept hk n hclauses [clause]) fun h hk' => ?_
  exact .bind (turns_extendKept hk' n hbindings values) fun h hk'' => .pure hk'' _

/-- The values of a predicate are all that is given behind it. -/
lemma callKnown_where (m : Machine) (self clause : Value) (values : List Value) :
    callKnown m "QueryBuilder" "where" (self :: clause :: values) [] =
      narrow m self clause values := by
  let signature : Signature :=
    { callee := "QueryBuilder.where", parameters := [("self", none), ("clause", none)]
      rest := true }
  have haccept : signature.accept (self :: clause :: values) [] =
      .ok ⟨[self, clause], values, []⟩ := by
    unfold Signature.accept
    rw [show signature.addNamed _ [] [] = .ok (_, []) from rfl]
    dsimp only [bind, Except.bind]
    rw [if_neg (fun h => h.2 rfl)]
    rfl
  change (Action.check (signature.accept (self :: clause :: values) []) >>= fun a =>
    narrow m (a.nth 0) (a.nth 1) a.rest) = _
  rw [haccept]
  rfl

/-- **A predicate with its values.** -/
lemma turns_where (hk : b.Keeps c.work.heap kept bounds) (n : Nat) (clause : Value)
    (values : List Value) :
    b.Turns c ((machine (n + 3)).callMethod b.value "where" (clause :: values)) (.ok b.value)
      (narrowed kept clause values) bounds := by
  refine (turns_narrow hk n clause values).congr ?_
  rw [hk.callMethod (n + 2) (by decide) (b.kind.offers_common (by decide)), callKnown_where]

/-- **The membership of a column in a collection**, as a predicate. -/
lemma turns_in (hk : b.Keeps c.work.heap kept bounds) (n : Nat) (negated : Bool) (column : String)
    {v : Value} {values : List Value} (hv : ownItems? c.work.heap v = some values) :
    b.Turns c ((machine (n + 4)).callMethod b.value "in_" [.bool negated, .text column, v])
      (.ok b.value)
      (narrowed kept (.text (Conditions.memberClause negated column values.length)) values)
      bounds := by
  refine (turns_where hk n (.text (Conditions.memberClause negated column values.length))
    values).congr ?_
  rw [hk.callMethod (n + 3) (by decide) (b.kind.offers_common (by decide))]
  change ((machine (n + 3)).items v >>= fun found => (machine (n + 3)).callMethod b.value "where"
    (.text (Conditions.memberClause negated column found.length) :: found)) c = _
  rw [Action.bind_apply_ok (items_apply hv)]

/-! ### Columns -/

/-- A column of the table, by a name that is a value. -/
def column? (b : Builder) (name : Value) : Option Column := name.text?.bind b.table.column?

/-- **A column as it is written**, or a failure if the table has none of that name. -/
lemma callMethod_columnText (hk : b.Keeps c.work.heap kept bounds) (n : Nat) (name : Value) :
    match b.column? name with
    | some column => (machine (n + 2)).callMethod b.value "column_sql" [name] c =
        (.ok (.text (Identifier.quote column.columnName)), c)
    | none => ∃ e, (machine (n + 2)).callMethod b.value "column_sql" [name] c = (.error e, c) := by
  have hrun : (machine (n + 2)).callMethod b.value "column_sql" [name] c =
      (columnNamed b.table name >>= fun column =>
        pure (Value.text (Identifier.quote column.columnName))) c := by
    rw [hk.callMethod (n + 1) (by decide) (b.kind.offers_common (by decide))]
    have htable : tableOf (machine (n + 1)) "get_column" b.value c = (.ok b.table, c) :=
      Action.bind_apply_ok (hk.member_schema (machine n)) fun schema =>
        asTable (machine (n + 1)) "get_column" schema
    exact Action.bind_apply_ok htable fun t => columnNamed t name >>= fun column =>
      pure (Value.text (Identifier.quote column.columnName))
  rw [hrun]
  unfold column? columnNamed
  cases name.text?.bind b.table.column? with
  | some column => rfl
  | none =>
    obtain ⟨r, hshown⟩ : ∃ r, showLiteral name c = (r, c) := by
      unfold showLiteral
      rw [Action.bind_apply_ok (heap_apply c)]
      cases literalOf c.work.heap name <;> exact ⟨_, rfl⟩
    cases r with
    | error e => exact ⟨e, Action.bind_apply_error (Action.bind_apply_error hshown _) _⟩
    | ok text =>
      refine ⟨.fault (.noColumn b.table.name text), Action.bind_apply_error ?_ _⟩
      exact Action.bind_apply_ok hshown fun text => refuse (.noColumn b.table.name text)

/-- A method that puts an item for a column at the end of a list. -/
lemma turns_column (hk : b.Keeps c.work.heap kept bounds) (n : Nat) (name : Value) {p : Part}
    (hp : p ∈ b.kind.parts) (item : String → Value) {x : Run Value} (next : Value → Run Value)
    (hrun : x c = ((machine (n + 2)).callMethod b.value "column_sql" [name] >>= next) c)
    (hnext : ∀ text, next (.text text) =
      extendKept (machine (n + 2)) b.value p.name [item text] >>= fun _ => pure b.value) :
    match b.column? name with
    | some column => b.Turns c x (.ok b.value) (Function.update kept p
        (kept p ++ [item (Identifier.quote column.columnName)])) bounds
    | none => ∃ e, b.Turns c x (.error e) kept bounds := by
  have hcolumn := callMethod_columnText hk n name
  cases hname : b.column? name with
  | none =>
    rw [hname] at hcolumn
    obtain ⟨e, he⟩ := hcolumn
    exact ⟨e, .of_apply hk (hrun.trans (Action.bind_apply_error he _))⟩
  | some column =>
    rw [hname] at hcolumn
    refine Turns.congr (.behind hcolumn ?_) hrun
    rw [hnext]
    exact .bind (turns_extendKept hk n hp _) fun h hk' => .pure hk' b.value

/-- **A column to order by.** -/
lemma turns_orderBy (hk : b.Keeps c.work.heap kept bounds) (hkind : b.kind = .selector) (n : Nat)
    (name : Value) (descending : Bool) :
    match b.column? name with
    | some column => b.Turns c
        ((machine (n + 3)).callMethod b.value "order_by" [name, .bool descending]) (.ok b.value)
        (Function.update kept .order (kept .order ++
          [.text (Selector.orderEntry (Identifier.quote column.columnName) descending)])) bounds
    | none => ∃ e, b.Turns c
        ((machine (n + 3)).callMethod b.value "order_by" [name, .bool descending]) (.error e)
        kept bounds := by
  have horder : Part.order ∈ b.kind.parts := by rw [hkind]; decide
  have hoffers : b.kind.Offers "Selector" "order_by" := by rw [hkind]; exact fun h => ⟨_, rfl⟩
  refine turns_column hk n name horder (fun text => .text (Selector.orderEntry text descending))
    (fun column => showPlain column >>= fun text => extendKept (machine (n + 2)) b.value
      Part.order.name [.text (Selector.orderEntry text descending)] >>= fun _ => pure b.value)
    ?_ fun text => rfl
  rw [hk.callMethod (n + 2) (by decide) hoffers]
  rfl

/-- **A new value for a column.** -/
lemma turns_set (hk : b.Keeps c.work.heap kept bounds) (hkind : b.kind = .updater) (n : Nat)
    (name x : Value) :
    match b.column? name with
    | some column => b.Turns c ((machine (n + 3)).callMethod b.value "set" [name, x])
        (.ok b.value) (Function.update kept .assignments (kept .assignments ++
          [.tuple [.text (Identifier.quote column.columnName), x]])) bounds
    | none => ∃ e, b.Turns c ((machine (n + 3)).callMethod b.value "set" [name, x]) (.error e)
        kept bounds := by
  have hassignments : Part.assignments ∈ b.kind.parts := by rw [hkind]; decide
  have hoffers : b.kind.Offers "Updater" "set" := by rw [hkind]; exact fun h => ⟨_, rfl⟩
  refine turns_column hk n name hassignments (fun text => .tuple [.text text, x])
    (fun column => extendKept (machine (n + 2)) b.value Part.assignments.name
      [.tuple [column, x]] >>= fun _ => pure b.value) ?_ fun text => rfl
  rw [hk.callMethod (n + 2) (by decide) hoffers]
  rfl

/-! ### Bounds -/

/-- **A bound on the number of rows**, or a failure if it cannot be one. -/
lemma turns_bound (hk : b.Keeps c.work.heap kept bounds) (hkind : b.kind = .selector) (n : Nat)
    (e : Edge) (count : Value) :
    match Selector.bound e.text count with
    | .ok found => b.Turns c ((machine (n + 1)).callMethod b.value e.text [count]) (.ok b.value)
        kept (Function.update bounds e found)
    | .error fault => b.Turns c ((machine (n + 1)).callMethod b.value e.text [count])
        (.error (.fault fault)) kept bounds := by
  have hrun : (machine (n + 1)).callMethod b.value e.text [count] c =
      (Action.check (Selector.bound e.text count) >>= fun found =>
        setAttribute b.value e.name found >>= fun _ => pure b.value) c := by
    have hname : e.text ∈ libraryNames := by cases e <;> decide
    have hoffers : b.kind.Offers "Selector" e.text := by
      rw [hkind]
      cases e <;> exact fun h => ⟨_, rfl⟩
    rw [hk.callMethod n hname hoffers]
    cases e <;> rfl
  cases hbound : Selector.bound e.text count with
  | error fault =>
    rw [hbound] at hrun
    exact .of_apply hk hrun
  | ok found =>
    rw [hbound] at hrun
    have hedge : e ∈ b.kind.edges := by
      rw [hkind]
      cases e <;> decide
    obtain ⟨attributes, hid, hk'⟩ := hk.setEdge hedge found
    refine ⟨_, hrun.trans ?_, .set List.mem_cons_self _ _, hk'⟩
    exact Action.bind_apply_ok (setAttribute_apply hid e.name found) fun _ => pure b.value

end Builder

end PgSchema.Object
