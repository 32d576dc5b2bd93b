import PgSchema.Object.Library
import PgSchema.Proofs.Course.Inversion
import PgSchema.Session.Machine

/-!
Runs on the heap, members of objects, and calls of their methods.

Most of what the library does, it does to the heap: it looks at it, puts new objects at its end, and
replaces some of those that are there.  The rest of the course stays (`Course.withHeap`), and so do
all objects but those that are its own (`Changes`).

An object may be of a class of the library, or of one that a module builds on it (`Extends`).  As
long as the module leaves a name to the library, what the object has under the name is what the
class of the library has (`classMember?_of_extends`).  A call of such a method is a call of the
function of the library, one level deeper (`callMethod_apply`).
-/

namespace PgSchema

open Object (Heap State)

/-- A course with another heap. -/
def Course.withHeap (c : Course State) (h : Heap) : Course State :=
  { c with work := { c.work with heap := h } }

namespace Object

/-! ### Heaps -/

namespace Heap

variable {h : Heap} {id : Nat}

lemma items_of_list {items : List Value} (hid : h[id]? = some (.list items)) :
    h.items id = items := by
  rw [Heap.items, hid]

lemma attributes_of_instance {attributes : Entries Value}
    (hid : h[id]? = some (.attributes attributes)) : h.attributes id = attributes := by
  rw [Heap.attributes, hid]

lemma link?_of_instance {attributes : Entries Value}
    (hid : h[id]? = some (.attributes attributes)) : h.link? id = none := by
  rw [Heap.link?, hid]

end Heap

/-- **From one heap to a later one**, by what changes none but its own objects. -/
structure Changes (owned : List Nat) (h h' : Heap) : Prop where
  size : h.size ≤ h'.size
  others : ∀ i < h.size, i ∉ owned → h'[i]? = h[i]?

namespace Changes

variable {owned : List Nat} {h h' h'' : Heap}

lemma refl (owned : List Nat) (h : Heap) : Changes owned h h := ⟨Nat.le_refl _, fun _ _ _ => rfl⟩

lemma trans (hc : Changes owned h h') (hc' : Changes owned h' h'') : Changes owned h h'' where
  size := Nat.le_trans hc.size hc'.size
  others i hi hown :=
    (hc'.others i (Nat.lt_of_lt_of_le hi hc.size) hown).trans (hc.others i hi hown)

lemma push (owned : List Nat) (h : Heap) (o : Stored) : Changes owned h (h.push o) where
  size := by simp
  others i hi _ := Array.getElem?_push_lt hi ▸ (Array.getElem?_eq_getElem hi).symm

lemma set {id : Nat} (hid : id ∈ owned) (h : Heap) (o : Stored) :
    Changes owned h (h.setIfInBounds id o) where
  size := by simp
  others i _ hown := by
    have hne : id ≠ i := fun heq => hown (heq ▸ hid)
    rw [Array.getElem?_setIfInBounds_ne hne]

/-- What is new may be changed by what is behind it. -/
lemma fresh {new : List Nat} (hc : Changes owned h h') (hc' : Changes new h' h'')
    (hnew : ∀ i ∈ new, i ∈ owned ∨ h.size ≤ i) : Changes owned h h'' where
  size := Nat.le_trans hc.size hc'.size
  others i hi hown := by
    have hnot : i ∉ new := fun hmem =>
      (hnew i hmem).elim hown fun hle => absurd hi (Nat.not_lt.2 hle)
    rw [hc'.others i (Nat.lt_of_lt_of_le hi hc.size) hnot, hc.others i hi hown]

end Changes

/-! ### Runs -/

section Runs

variable {c : Course State} {α : Type}

lemma work_apply (c : Course State) :
    (Action.work : Run State) c = (.ok c.work, c) := rfl

lemma heap_apply (c : Course State) : heap c = (.ok c.work.heap, c) := rfl

@[simp] lemma heap_withHeap (c : Course State) (h : Heap) : (c.withHeap h).work.heap = h := rfl

@[simp] lemma withHeap_withHeap (c : Course State) (h h' : Heap) :
    (c.withHeap h).withHeap h' = c.withHeap h' := rfl

lemma newList_apply (items : List Value) (c : Course State) : newList items c =
    (.ok (.list c.work.heap.size), c.withHeap (c.work.heap.push (.list items))) := rfl

lemma newDict_apply (entries : List (Value × Value)) (c : Course State) : newDict entries c =
    (.ok (.dict c.work.heap.size), c.withHeap (c.work.heap.push (.dict entries))) := rfl

lemma newObject_apply (cls : Class) (attributes : Entries Value) (c : Course State) :
    newObject cls attributes c = (.ok (.object cls c.work.heap.size),
      c.withHeap (c.work.heap.push (.attributes attributes))) := rfl

lemma isTrue_apply (v : Value) (c : Course State) :
    isTrue v c = (.ok (holds c.work.heap v), c) := rfl

lemma setAttribute_apply {cls : Class} {id : Nat} {attributes : Entries Value}
    (hid : c.work.heap[id]? = some (.attributes attributes)) (name : String) (x : Value) :
    setAttribute (.object cls id) name x c = (.ok (),
      c.withHeap (c.work.heap.setIfInBounds id (.attributes (attributes.put name x)))) := by
  unfold setAttribute
  refine (Action.bind_apply_ok (heap_apply c) _).trans ?_
  rw [Heap.link?_of_instance hid, Heap.attributes_of_instance hid]
  rfl

/-- A value that has its items by itself. -/
lemma items_apply {m : Machine} {v : Value} {items : List Value}
    (hv : ownItems? c.work.heap v = some items) : m.items v c = (.ok items, c) := by
  rw [Machine.items, Action.bind_apply_ok (heap_apply c), hv]
  rfl

lemma showPlain_text (s : String) (c : Course State) :
    showPlain (.text s) c = (.ok s, c) := rfl

lemma each_showPlain (texts : List String) (c : Course State) :
    Action.each showPlain (texts.map .text) c = (.ok texts, c) := by
  induction texts with
  | nil => rfl
  | cons s texts ih =>
    rw [List.map_cons, Action.each, Action.bind_apply_ok (showPlain_text s c),
      Action.bind_apply_ok ih]
    rfl

end Runs

open Session (callKnown callValue machine)

/-! ### Classes -/

/-- **A class of the library, or one that modules build on it.** -/
inductive Class.Extends (title : String) : Class → Prop
  | library : Extends title (.known title)
  | module {base : Class} (h : Extends title base) (name : String) (members : Nat) :
      Extends title (.made name base members)

/-- The places of the members of the classes that modules define. -/
def Class.places : Class → List Nat
  | .made _ base members => members :: base.places
  | _ => []

/-- The modules leave a name to the library. -/
def Class.Leaves (h : Heap) (c : Class) (name : String) : Prop :=
  ∀ id ∈ c.places, (h.attributes id).get? name = none

/-- What an object has under a name that the modules leave to the library. -/
lemma classMember?_of_extends {h : Heap} {title name : String} {c : Class}
    (hc : c.Extends title) (hname : c.Leaves h name) :
    classMember? h c name = classMember? h (.known title) name := by
  induction hc with
  | library => rfl
  | @module base hbase title members ih =>
    have hown : ownMember? h name (.made title base members) = none := by
      have hnone := hname members List.mem_cons_self
      rw [ownMember?, hnone]
      rfl
    have hlater := ih fun id hid => hname id (List.mem_cons_of_mem _ hid)
    rw [classMember?, Class.lineage, List.findSome?_cons, hown]
    exact hlater

/-- A module has only values that it has defined. -/
lemma isProperty_of_extends {h : Heap} {title name : String} {c : Class} (hc : c.Extends title)
    (hlibrary : ∀ found, classMember? h (.known title) name = some found →
      found.isProperty = false) :
    ∀ found, classMember? h c name = some found → found.isProperty = false := by
  induction hc with
  | library => exact hlibrary
  | @module base hbase title members ih =>
    intro found hfound
    rw [classMember?, Class.lineage, List.findSome?_cons] at hfound
    cases hown : ownMember? h name (.made title base members) with
    | none =>
      rw [hown] at hfound
      exact ih found hfound
    | some own =>
      rw [hown] at hfound
      obtain rfl := Option.some.inj hfound
      obtain ⟨v, -, rfl⟩ := Option.map_eq_some_iff.1 hown
      rfl

lemma Class.Extends.isKind_eq_true {title : String} {c : Class} (hc : c.Extends title) :
    c.isKind title = true := by
  induction hc with
  | library =>
    rw [Class.isKind, Class.lineage]
    split
    · rename_i hroot
      rw [hroot]
      decide
    · exact List.contains_iff_mem.2 List.mem_cons_self
  | module _ _ _ ih =>
    rw [Class.isKind, Class.lineage, List.contains_cons]
    exact Bool.or_eq_true_iff.2 (.inr ih)

lemma Class.Extends.ne_recorder {title : String} {c : Class} (hc : c.Extends title)
    (htitle : title ≠ "Recorder") : c ≠ Recorder.cls := by
  cases hc with
  | library => exact fun heq => htitle (Class.known.inj heq)
  | module => exact fun heq => Class.noConfusion heq

/-! ### Members -/

variable {c : Course State} {m : Machine} {cls : Class} {id : Nat} {name : String}

/-- An attribute of an object. -/
lemma member_attribute {x : Value} (hcls : cls ≠ Recorder.cls)
    (hclass : ∀ found, classMember? c.work.heap cls name = some found → found.isProperty = false)
    (hx : (c.work.heap.attributes id).get? name = some x) :
    memberOf m (.object cls id) name c = (.ok x, c) := by
  unfold memberOf
  rw [Action.bind_apply_ok (heap_apply c)]
  dsimp only
  rw [if_neg hcls]
  cases hfound : classMember? c.work.heap cls name with
  | none =>
    dsimp only
    rw [hx]
    rfl
  | some found =>
    dsimp only
    rw [hclass found hfound, if_neg Bool.false_ne_true, hx]
    rfl

/-- A member that an object has from its class. -/
lemma member_of_class {found : Found} (hcls : cls ≠ Recorder.cls)
    (hfound : classMember? c.work.heap cls name = some found)
    (hnone : (c.work.heap.attributes id).get? name = none) :
    memberOf m (.object cls id) name c = found.onValue m (.object cls id) name c := by
  unfold memberOf
  rw [Action.bind_apply_ok (heap_apply c)]
  dsimp only
  rw [if_neg hcls, hfound]
  dsimp only
  rw [hnone]
  split <;> rfl

/-! ### Calls -/

/-- **A call of a method of the library**: the function runs, with the receiver in front. -/
lemma callMethod_apply {n : Nat} {v : Value} {owner : String} {arguments : List Value}
    (hv : (machine (n + 1)).member v name c = (.ok (.method v (.known owner name)), c)) :
    (machine (n + 1)).callMethod v name arguments c =
      callKnown (machine n) owner name (v :: arguments) [] c := by
  unfold Machine.callMethod
  rw [Action.bind_apply_ok hv]
  rfl

/-- **A list gets more items at its end.** -/
lemma callMethod_extend {n : Nat} {items : List Value}
    (hid : c.work.heap[id]? = some (.list items)) (more : List Value) :
    (machine (n + 2)).callMethod (.list id) "extend" [.tuple more] c =
      (.ok .null, c.withHeap (c.work.heap.setIfInBounds id (.list (items ++ more)))) := by
  have hmember : (machine (n + 2)).member (.list id) "extend" c =
      (.ok (.method (.list id) (.known "list" "extend")), c) := rfl
  rw [callMethod_apply hmember]
  change (Except.ok Value.null, c.withHeap
    (c.work.heap.setIfInBounds id (.list (c.work.heap.items id ++ more)))) = _
  rw [Heap.items_of_list hid]

end Object

end PgSchema
