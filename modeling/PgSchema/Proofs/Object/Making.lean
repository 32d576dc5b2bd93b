import PgSchema.Proofs.Object.Drafts

/-!
Builders that are made.

A call of a class makes an object with new lists of its own, which are empty, or copies of lists
that are given (`call_class`).  A relation hands its predicates on to the builder that is derived
from it (`derive_apply`), so the two of them share nothing.
-/

namespace PgSchema.Object

open Session (callKnown callValue machine)

/-! ### Objects at the end of the heap -/

/-- A heap with an object and its lists at the end. -/
def Heap.grown (h : Heap) (attributes : Entries Value) (lists : List (List Value)) : Heap :=
  h ++ (Stored.attributes attributes :: lists.map .list).toArray

namespace Heap

variable (h : Heap) (attributes : Entries Value) (lists : List (List Value))

lemma push_attributes : h.push (.attributes attributes) = h.grown attributes [] := by
  simp [grown]

lemma push_grown (items : List Value) :
    (h.grown attributes lists).push (.list items) = h.grown attributes (lists ++ [items]) := by
  apply Array.ext'
  simp [grown]

lemma set_grown (attributes' : Entries Value) :
    (h.grown attributes lists).setIfInBounds h.size (.attributes attributes') =
      h.grown attributes' lists := by
  simp [grown]

lemma size_grown : (h.grown attributes lists).size = h.size + 1 + lists.length := by
  simp [grown]
  omega

lemma getElem?_grown_old {i : Nat} (hi : i < h.size) : (h.grown attributes lists)[i]? = h[i]? := by
  simp [grown, Array.getElem?_append, hi]

lemma getElem?_grown_object :
    (h.grown attributes lists)[h.size]? = some (.attributes attributes) := by
  simp [grown]

lemma getElem?_grown_list {i : Nat} {items : List Value} (hi : lists[i]? = some items) :
    (h.grown attributes lists)[h.size + 1 + i]? = some (.list items) := by
  have hlt : ¬ h.size + 1 + i < h.size := by omega
  have hsub : h.size + 1 + i - h.size = i + 1 := by omega
  simp [grown, Array.getElem?_append, hlt, hsub, hi]

lemma changes_grown : Changes [] h (h.grown attributes lists) where
  size := by
    rw [size_grown]
    omega
  others i hi _ := h.getElem?_grown_old attributes lists hi

end Heap

section Growing

variable {c : Course State} {attributes : Entries Value} {lists : List (List Value)}

lemma setAttribute_grown (cls : Class) (name : String) (x : Value) :
    setAttribute (.object cls c.work.heap.size) name x
        (c.withHeap (c.work.heap.grown attributes lists)) =
      (.ok (), c.withHeap (c.work.heap.grown (attributes.put name x) lists)) := by
  have hid := c.work.heap.getElem?_grown_object attributes lists
  rw [setAttribute_apply hid, heap_withHeap, withHeap_withHeap, Heap.set_grown]

lemma newList_grown (items : List Value) :
    newList items (c.withHeap (c.work.heap.grown attributes lists)) =
      (.ok (.list (c.work.heap.size + 1 + lists.length)),
        c.withHeap (c.work.heap.grown attributes (lists ++ [items]))) := by
  rw [newList_apply, heap_withHeap, withHeap_withHeap, Heap.push_grown, Heap.size_grown]

/-- Items that are copied: those of a list, or none. -/
def Copied (h : Heap) (v : Value) (items : List Value) : Prop :=
  v = .null ∧ items = [] ∨ ∃ id, v = .list id ∧ h[id]? = some (.list items)

/-- **A copy is a new list.** -/
lemma copied_grown {v : Value} {items : List Value} (hv : Copied c.work.heap v items)
    (m : Machine) : copied m v (c.withHeap (c.work.heap.grown attributes lists)) =
      newList items (c.withHeap (c.work.heap.grown attributes lists)) := by
  let d := c.withHeap (c.work.heap.grown attributes lists)
  have hrun : copied m v d = (if holds d.work.heap v then m.items v >>= newList
      else newList []) d := by
    change (isTrue v >>= _) d = _
    rw [Action.bind_apply_ok (isTrue_apply v d)]
  rw [hrun]
  rcases hv with ⟨rfl, rfl⟩ | ⟨id, rfl, hid⟩
  · rfl
  · have hlt : id < c.work.heap.size := (Array.getElem?_eq_some_iff.1 hid).1
    have hitems : d.work.heap.items id = items :=
      Heap.items_of_list (((c.work.heap.getElem?_grown_old attributes lists) hlt).trans hid)
    have hown : ownItems? d.work.heap (.list id) = some items := congrArg some hitems
    have hholds : holds d.work.heap (.list id) = !items.isEmpty := by
      rw [← hitems]
      rfl
    rw [hholds]
    cases items with
    | nil => rfl
    | cons x items => exact Action.bind_apply_ok (items_apply hown) newList

end Growing

/-- **A call of a class makes an object** at the end of the heap, and the function of the library
sets it up. -/
lemma call_apply {title owner : String} {cls : Class} {f : Native} (hcls : cls.Extends title)
    (n : Nat) (given : List Value)
    (hknown : (machine (n + 2)).call (.cls (.known title)) given [] c =
      instantiate (machine (n + 1)) (.known title) given [] c)
    (hfound : classMember? c.work.heap cls initName = some (.feature owner (.method f))) :
    (machine (n + 2)).call (.cls cls) given [] c =
      (callKnown (machine n) owner initName (.object cls c.work.heap.size :: given) [] >>=
        fun _ => pure (.object cls c.work.heap.size)) (c.withHeap (c.work.heap.grown [] [])) := by
  have hcall : (machine (n + 2)).call (.cls cls) given [] c =
      instantiate (machine (n + 1)) cls given [] c := by
    cases hcls with
    | library => exact hknown
    | module => rfl
  rw [hcall, instantiate, Action.bind_apply_ok (heap_apply c),
    hfound, ← Heap.push_attributes]
  exact Action.bind_apply_ok (newObject_apply cls [] c) fun self =>
    callKnown (machine n) owner initName (self :: given) [] >>= fun _ => pure self

/-! ### Classes of builders -/

/-- **A class whose instances are builders** of a kind. -/
structure Class.Makes (cls : Class) (h : Heap) (k : Kind) : Prop where
  isKind : cls.Extends k.title
  there : ∀ id ∈ cls.places, id < h.size
  leaves : ∀ name ∈ libraryNames, cls.Leaves h name

namespace Kind

/-- The class whose function sets builders of a kind up. -/
def initial : Kind → String
  | selector => "Selector"
  | updater => "Updater"
  | deleter | relation => "QueryBuilder"

lemma offers_init (k : Kind) : k.Offers k.initial initName := by
  intro h
  cases k <;> exact ⟨_, rfl⟩

/-- What is done with a builder behind what is common to all of them. -/
def ending (self : Value) : Kind → Run Value
  | selector => do
    let order ← newList []
    setAttribute self "_order_by" order
    setAttribute self "_limit" .null
    setAttribute self "_offset" .null
    return .null
  | updater => do
    let assignments ← newList []
    setAttribute self "_assignments" assignments
    return .null
  | deleter | relation => return .null

lemma callKnown_init (k : Kind) (m : Machine) (self connection : Value) (t : Table) :
    callKnown m k.initial initName [self, connection, .table t] [] =
      (setUp m self ⟨[connection, .table t, .null, .null], [], []⟩ >>= fun _ => k.ending self) := by
  cases k <;> rfl

lemma callKnown_init_copied (k : Kind) (m : Machine) (self connection x y : Value) (t : Table) :
    callKnown m k.initial initName [self, connection, .table t, x, y] [] =
      (setUp m self ⟨[connection, .table t, x, y], [], []⟩ >>= fun _ => k.ending self) := by
  cases k <;> rfl

end Kind

/-! ### Builders as they are made -/

namespace Builder

/-- A builder that is the next thing on the heap, with its lists behind it. -/
def fresh (kind : Kind) (cls : Class) (connection : Value) (table : Table) (id : Nat) :
    Builder where
  kind
  cls
  id
  connection
  table
  place
    | .clauses => id + 1
    | .bindings => id + 2
    | .order | .assignments => id + 3

/-- All that a new builder owns is new. -/
lemma le_of_mem_fresh {kind : Kind} {cls : Class} {connection : Value} {t : Table} {size : Nat} :
    ∀ id ∈ (fresh kind cls connection t size).owned, size ≤ id := by
  refine List.forall_mem_cons.2 ⟨Nat.le_refl _, fun id hid => ?_⟩
  obtain ⟨p, -, rfl⟩ := List.mem_map.1 hid
  cases p <;> exact Nat.le_add_right _ _

/-- What a builder keeps that is made from predicates and their values. -/
def started (clauses bindings : List Value) : Part → List Value
  | .clauses => clauses
  | .bindings => bindings
  | _ => []

/-- A builder without bounds. -/
def unbounded : Edge → Value := fun _ => .null

variable {c : Course State} {k : Kind} {cls : Class} {connection : Value} {t : Table}
  {clauses bindings : List Value}

/-- The heap with a builder at its end. -/
def planted (h : Heap) (b : Builder) (clauses bindings : List Value) : Heap :=
  h.grown (b.attributes unbounded) (b.kind.parts.map (started clauses bindings))

/-- **A builder that is made keeps what it is made from.** -/
lemma keeps_planted {h : Heap} (hcls : cls.Makes h k) :
    let b := fresh k cls connection t h.size
    b.Keeps (planted h b clauses bindings) (started clauses bindings) unbounded := by
  intro b
  have hsize := (h.changes_grown (b.attributes unbounded)
    (b.kind.parts.map (started clauses bindings))).size
  refine ⟨hcls.isKind, fun id hid => ⟨?_, fun hmem => ?_⟩, fun name hname id hid => ?_,
    ⟨_, h.getElem?_grown_object _ _, fun name => rfl⟩, fun p hp => ?_, fun p hp q hq heq => ?_⟩
  · exact Nat.lt_of_lt_of_le (hcls.there id hid) hsize
  · exact absurd (le_of_mem_fresh id hmem) (Nat.not_le.2 (hcls.there id hid))
  · have hleaves := hcls.leaves name hname id hid
    unfold Heap.attributes at hleaves ⊢
    rwa [planted, h.getElem?_grown_old _ _ (hcls.there id hid)]
  · have hplace : ∃ i, b.place p = h.size + 1 + i ∧ b.kind.parts[i]? = some p := by
      revert hp
      change p ∈ k.parts → ∃ i, _ ∧ k.parts[i]? = some p
      cases k <;> cases p <;> intro hp <;>
        first
        | exact ⟨0, rfl, rfl⟩
        | exact ⟨1, rfl, rfl⟩
        | exact ⟨2, rfl, rfl⟩
        | exact absurd hp (by decide)
    obtain ⟨i, hi, hpart⟩ := hplace
    rw [hi]
    refine h.getElem?_grown_list _ _ ?_
    rw [List.getElem?_map, hpart]
    rfl
  · revert hp hq heq
    change p ∈ k.parts → q ∈ k.parts → b.place p = b.place q → p = q
    cases k <;> cases p <;> cases q <;> simp [b, fresh, Kind.parts]

/-- **The function that sets a builder up.** -/
lemma setUp_apply (m : Machine) (cls : Class) (connection : Value) (t : Table) {x y : Value}
    (hx : Copied c.work.heap x clauses) (hy : Copied c.work.heap y bindings) :
    setUp m (.object cls c.work.heap.size) ⟨[connection, .table t, x, y], [], []⟩
        (c.withHeap (c.work.heap.grown [] [])) =
      (.ok (), c.withHeap (c.work.heap.grown
        [("connection", connection), ("schema", .table t),
          ("clauses", .list (c.work.heap.size + 1)), ("bindings", .list (c.work.heap.size + 2))]
        [clauses, bindings])) := by
  refine (Action.bind_apply_ok (setAttribute_grown cls "connection" connection) _).trans ?_
  refine (Action.bind_apply_ok (setAttribute_grown cls "schema" (.table t)) _).trans ?_
  refine (Action.bind_apply_ok ((copied_grown hx m).trans (newList_grown clauses)) _).trans ?_
  refine (Action.bind_apply_ok (setAttribute_grown cls "clauses" _) _).trans ?_
  refine (Action.bind_apply_ok ((copied_grown hy m).trans (newList_grown bindings)) _).trans ?_
  exact setAttribute_grown cls "bindings" _

lemma ending_apply (k : Kind) :
    k.ending (.object cls c.work.heap.size) (c.withHeap (c.work.heap.grown
        [("connection", connection), ("schema", .table t),
          ("clauses", .list (c.work.heap.size + 1)), ("bindings", .list (c.work.heap.size + 2))]
        [clauses, bindings])) =
      (.ok .null, c.withHeap (planted c.work.heap (fresh k cls connection t c.work.heap.size)
        clauses bindings)) := by
  cases k with
  | selector =>
    refine (Action.bind_apply_ok (newList_grown []) _).trans ?_
    refine (Action.bind_apply_ok (setAttribute_grown cls "_order_by" _) _).trans ?_
    refine (Action.bind_apply_ok (setAttribute_grown cls "_limit" .null) _).trans ?_
    exact Action.bind_apply_ok (setAttribute_grown cls "_offset" .null) _
  | updater =>
    refine (Action.bind_apply_ok (newList_grown []) _).trans ?_
    exact Action.bind_apply_ok (setAttribute_grown cls "_assignments" _) _
  | deleter => rfl
  | relation => rfl

/-- A builder is made by a call of its class: an object, which the class sets up. -/
lemma call_class (hcls : cls.Makes c.work.heap k) (n : Nat) (given : List Value) :
    (machine (n + 2)).call (.cls cls) given [] c =
      (callKnown (machine n) k.initial initName (.object cls c.work.heap.size :: given) [] >>=
        fun _ => pure (.object cls c.work.heap.size)) (c.withHeap (c.work.heap.grown [] [])) := by
  obtain ⟨f, hf⟩ := k.offers_init c.work.heap
  have hinit : initName ∈ libraryNames := by decide
  have hfound : classMember? c.work.heap cls initName = some (.feature k.initial (.method f)) :=
    (classMember?_of_extends hcls.isKind (hcls.leaves _ hinit)).trans hf
  exact call_apply hcls.isKind n given (by cases k <;> rfl) hfound

/-- **A builder is made** by a call of its class. -/
theorem call_class_apply (hcls : cls.Makes c.work.heap k) (n : Nat) (connection : Value)
    (t : Table) :
    let b := fresh k cls connection t c.work.heap.size
    (machine (n + 2)).call (.cls cls) [connection, .table t] [] c =
      (.ok b.value, c.withHeap (planted c.work.heap b [] [])) := by
  intro b
  rw [call_class hcls, k.callKnown_init]
  have hsetUp := setUp_apply (c := c) (machine n) cls connection t (.inl ⟨rfl, rfl⟩)
    (.inl ⟨rfl, rfl⟩)
  exact Action.bind_apply_ok ((Action.bind_apply_ok hsetUp _).trans (ending_apply k)) _

/-- **A builder is made from the lists of another**, which are copied. -/
theorem call_class_copied (hcls : cls.Makes c.work.heap k) (n : Nat) (connection : Value)
    (t : Table) {i j : Nat} (hi : c.work.heap[i]? = some (.list clauses))
    (hj : c.work.heap[j]? = some (.list bindings)) :
    let b := fresh k cls connection t c.work.heap.size
    (machine (n + 2)).call (.cls cls) [connection, .table t, .list i, .list j] [] c =
      (.ok b.value, c.withHeap (planted c.work.heap b clauses bindings)) := by
  intro b
  rw [call_class hcls, k.callKnown_init_copied]
  have hsetUp := setUp_apply (machine n) cls connection t (.inr ⟨i, rfl, hi⟩) (.inr ⟨j, rfl, hj⟩)
  exact Action.bind_apply_ok ((Action.bind_apply_ok hsetUp _).trans (ending_apply k)) _

end Builder

/-! ### Builders that are derived -/

/-- The method of a relation that derives a builder of a kind. -/
def Kind.word : Kind → String
  | selector => "selector"
  | updater => "updater"
  | deleter => "deleter"
  | relation => "relation"

/-- The member of a relation with the class of the builders that are derived from it. -/
def Kind.link (k : Kind) : String := k.word ++ "_class"

/-- **A class of relations names the class** of the builders of a kind. -/
def Class.Hands (r : Class) (h : Heap) (k : Kind) (cls : Class) : Prop :=
  ∃ found, classMember? h r k.link = some found ∧
    (found = .defined (.cls cls) ∨ ∃ owner, found = .feature owner (.constant (.cls cls)))

namespace Builder

variable {r : Builder} {c : Course State} {k : Kind} {cls : Class} {kept : Part → List Value}
  {bounds : Edge → Value}

lemma Keeps.member_link (hr : r.Keeps c.work.heap kept bounds)
    (hlink : r.cls.Hands c.work.heap k cls) (m : Machine) :
    memberOf m r.value k.link c = (.ok (.cls cls), c) := by
  obtain ⟨found, hfound, hwhich⟩ := hlink
  have hname : k.link ∉ ownNames := by cases k <;> decide
  have hnone : (c.work.heap.attributes r.id).get? k.link = none := by
    rw [hr.get?, own?_of_notMem hname]
  have hrecorder : r.cls ≠ Recorder.cls := by
    refine hr.isKind.ne_recorder ?_
    cases r.kind <;> decide
  refine (member_of_class hrecorder hfound hnone).trans ?_
  obtain rfl | ⟨owner, rfl⟩ := hwhich <;> rfl

/-- **A builder is derived from a relation**: it starts with copies of what the relation keeps. -/
theorem derive_apply (hr : r.Keeps c.work.heap kept bounds) (hrelation : r.kind = .relation)
    (hk : k ≠ .relation) (hlink : r.cls.Hands c.work.heap k cls) (hcls : cls.Makes c.work.heap k)
    (n : Nat) :
    let b := fresh k cls r.connection r.table c.work.heap.size
    (machine (n + 4)).callMethod r.value k.word [] c =
      (.ok b.value, c.withHeap (planted c.work.heap b (kept .clauses) (kept .bindings))) := by
  intro b
  have hclauses : Part.clauses ∈ r.kind.parts := by cases r.kind <;> decide
  have hbindings : Part.bindings ∈ r.kind.parts := by cases r.kind <;> decide
  have hword : k.word ∈ libraryNames := by cases k <;> first | decide | exact absurd rfl hk
  have hoffers : r.kind.Offers "Relation" k.word := by
    rw [hrelation]
    intro h
    cases k <;> first | exact ⟨_, rfl⟩ | exact absurd rfl hk
  have hcopy : (machine (n + 3)).callMethod r.value "_copy_into" [.cls cls] c =
      (machine (n + 2)).call (.cls cls) [r.connection, .table r.table,
        .list (r.place .clauses), .list (r.place .bindings)] [] c := by
    rw [hr.callMethod (n + 2) (by decide) (r.kind.offers_common (by decide))]
    refine (Action.bind_apply_ok (hr.member_connection (machine (n + 1))) _).trans ?_
    refine (Action.bind_apply_ok (hr.member_schema (machine (n + 1))) _).trans ?_
    refine (Action.bind_apply_ok (hr.member_part (machine (n + 1)) hclauses) _).trans ?_
    exact Action.bind_apply_ok (hr.member_part (machine (n + 1)) hbindings) _
  have hderive : (machine (n + 4)).callMethod r.value k.word [] c =
      handOn k.link (machine (n + 3)) r.value c := by
    rw [hr.callMethod (n + 3) hword hoffers]
    cases k <;> first | rfl | exact absurd rfl hk
  rw [hderive]
  refine (Action.bind_apply_ok (hr.member_link hlink (machine (n + 2))) _).trans ?_
  rw [hcopy]
  exact call_class_copied hcls n r.connection r.table (hr.lists _ hclauses) (hr.lists _ hbindings)

end Builder

end PgSchema.Object
