import Mathlib.Logic.Function.Basic
import PgSchema.Proofs.Entries
import PgSchema.Proofs.Object.Runs

/-!
Builders on the heap.

A builder is an object with lists of its own: the predicates, the values that are bound in them, and
what its kind adds (`Builder`).  `Keeps` tells what stands there.  A method that narrows a builder
puts more at the end of one or two of these lists, or sets a bound, and nothing else on the heap is
changed.
-/

namespace PgSchema.Object

open Query (Conditions Selector Updater)
open Session (callKnown callValue machine)

/-! ### Kinds of builders -/

/-- What a builder keeps in lists. -/
inductive Part where
  | clauses
  | bindings
  | order
  | assignments
  deriving DecidableEq, Repr

/-- The name of the attribute with the list. -/
def Part.name : Part → String
  | clauses => "clauses"
  | bindings => "bindings"
  | order => "_order_by"
  | assignments => "_assignments"

/-- The bounds on the number of rows. -/
inductive Edge where
  | limit
  | offset
  deriving DecidableEq, Repr

/-- The method that sets the bound. -/
def Edge.text : Edge → String
  | limit => "limit"
  | offset => "offset"

/-- The name of the attribute with the bound. -/
def Edge.name (e : Edge) : String := "_" ++ e.text

/-- The kinds of builders. -/
inductive Kind where
  | selector
  | updater
  | deleter
  | relation
  deriving DecidableEq, Repr

namespace Kind

/-- The class of the library. -/
def title : Kind → String
  | selector => "Selector"
  | updater => "Updater"
  | deleter => "Deleter"
  | relation => "Relation"

/-- The lists that a builder of the kind keeps. -/
def parts : Kind → List Part
  | selector => [.clauses, .bindings, .order]
  | updater => [.clauses, .bindings, .assignments]
  | deleter | relation => [.clauses, .bindings]

/-- The bounds that it keeps. -/
def edges : Kind → List Edge
  | selector => [.limit, .offset]
  | _ => []

end Kind

/-- The names that a module leaves to the library: those of the methods of builders. -/
def libraryNames : List String :=
  ["__init__", "where", "in_", "where_clause", "column_sql", "_copy_into", "order_by", "limit",
   "offset", "set", "to_sql", "to_list", "first", "count", "exists", "execute", "selector",
   "updater", "deleter"]

/-- The names of the attributes that builders are given. -/
def ownNames : List String :=
  ["connection", "schema", "clauses", "bindings", "_order_by", "_assignments", "_limit", "_offset"]

/-- A builder: its class, its place, what it was made for, and the places of its lists. -/
structure Builder where
  kind : Kind
  cls : Class
  id : Nat
  connection : Value
  table : Table
  place : Part → Nat

namespace Builder

variable (b : Builder)

/-- The builder as a value. -/
def value : Value := .object b.cls b.id

/-- The places of the builder and of its lists. -/
def owned : List Nat := b.id :: b.kind.parts.map b.place

/-- The attributes of the builder. -/
def attributes (bounds : Edge → Value) : Entries Value :=
  ("connection", b.connection) :: ("schema", .table b.table) ::
    (b.kind.parts.map (fun p => (p.name, .list (b.place p))) ++
      b.kind.edges.map fun e => (e.name, bounds e))

/-- What the builder has under a name by itself. -/
def own? (bounds : Edge → Value) (name : String) : Option Value :=
  (b.attributes bounds).get? name

/-- **What a builder keeps on the heap**: the items of its lists, and its bounds. -/
structure Keeps (h : Heap) (kept : Part → List Value) (bounds : Edge → Value) : Prop where
  isKind : b.cls.Extends b.kind.title
  members : ∀ id ∈ b.cls.places, id < h.size ∧ id ∉ b.owned
  leaves : ∀ name ∈ libraryNames, b.cls.Leaves h name
  object : ∃ attributes, h[b.id]? = some (.attributes attributes) ∧
    ∀ name, attributes.get? name = b.own? bounds name
  lists : ∀ p ∈ b.kind.parts, h[b.place p]? = some (.list (kept p))
  distinct : ∀ p ∈ b.kind.parts, ∀ q ∈ b.kind.parts, b.place p = b.place q → p = q

variable {b} {h h' : Heap} {kept : Part → List Value} {bounds : Edge → Value} {name : String}

lemma own?_part {p : Part} (hp : p ∈ b.kind.parts) :
    b.own? bounds p.name = some (.list (b.place p)) := by
  unfold own? attributes
  revert hp
  cases b.kind <;> cases p <;> first | exact fun _ => rfl | exact fun hp => absurd hp (by decide)

lemma own?_edge {e : Edge} (he : e ∈ b.kind.edges) : b.own? bounds e.name = some (bounds e) := by
  unfold own? attributes
  revert he
  cases b.kind <;> cases e <;> first | exact fun _ => rfl | exact fun he => absurd he (by decide)

/-- A builder has nothing under other names. -/
lemma own?_of_notMem (hname : name ∉ ownNames) : b.own? bounds name = none := by
  refine List.lookup_eq_none_iff.2 fun x hx => bne_iff_ne.2 fun heq => hname ?_
  have hparts : ∀ p : Part, p.name ∈ ownNames := by intro p; cases p <;> decide
  have hedges : ∀ e : Edge, e.name ∈ ownNames := by intro e; cases e <;> decide
  rw [heq]
  rcases List.mem_cons.1 hx with rfl | hx
  · exact List.mem_cons_self
  · rcases List.mem_cons.1 hx with rfl | hx
    · exact List.mem_cons_of_mem _ List.mem_cons_self
    · rcases List.mem_append.1 hx with hx | hx
      · obtain ⟨p, -, rfl⟩ := List.mem_map.1 hx
        exact hparts p
      · obtain ⟨e, -, rfl⟩ := List.mem_map.1 hx
        exact hedges e

/-- A builder has no method of the library by itself. -/
lemma notMem_ownNames : ∀ name ∈ libraryNames, name ∉ ownNames := by decide

/-- A bound stands under its own name only. -/
lemma own?_update {e : Edge} (hname : name ≠ e.name) (x : Value) :
    b.own? (Function.update bounds e x) name = b.own? bounds name := by
  have hedges : ∀ l : List Edge,
      List.lookup name (l.map fun e' => (e'.name, Function.update bounds e x e')) =
        List.lookup name (l.map fun e' => (e'.name, bounds e')) := by
    intro l
    induction l with
    | nil => rfl
    | cons e' l ih =>
      rw [List.map_cons, List.map_cons, List.lookup_cons, List.lookup_cons, ih]
      by_cases he : e' = e
      · subst he
        rw [beq_false_of_ne hname]
      · rw [Function.update_of_ne he]
  unfold own? attributes Entries.get?
  rw [List.lookup_cons, List.lookup_cons, List.lookup_cons, List.lookup_cons, List.lookup_append,
    List.lookup_append, hedges]

lemma mem_owned_of_part {p : Part} (hp : p ∈ b.kind.parts) : b.place p ∈ b.owned :=
  List.mem_cons_of_mem _ (List.mem_map_of_mem hp)

namespace Keeps

lemma get? (hk : b.Keeps h kept bounds) (name : String) :
    (h.attributes b.id).get? name = b.own? bounds name := by
  obtain ⟨attributes, hid, hattributes⟩ := hk.object
  rw [Heap.attributes_of_instance hid]
  exact hattributes name

/-- The places of a builder are on the heap. -/
lemma lt_size (hk : b.Keeps h kept bounds) : ∀ id ∈ b.owned, id < h.size := by
  have hlt : ∀ {id : Nat} {o : Stored}, h[id]? = some o → id < h.size :=
    fun hid => (Array.getElem?_eq_some_iff.1 hid).1
  refine List.forall_mem_cons.2 ⟨?_, fun id hid => ?_⟩
  · obtain ⟨attributes, hid, -⟩ := hk.object
    exact hlt hid
  · obtain ⟨p, hp, rfl⟩ := List.mem_map.1 hid
    exact hlt (hk.lists p hp)

/-- The object and its lists are different things. -/
lemma place_ne (hk : b.Keeps h kept bounds) {p : Part} (hp : p ∈ b.kind.parts) :
    b.place p ≠ b.id := by
  intro heq
  obtain ⟨attributes, hid, -⟩ := hk.object
  have hlist := hk.lists p hp
  rw [heq, hid] at hlist
  cases hlist

/-- **Nothing else matters to a builder**: what changes other objects leaves what it keeps. -/
lemma of_changes (hk : b.Keeps h kept bounds) {owned : List Nat} (hc : Changes owned h h')
    (howned : ∀ id ∈ b.owned, id ∉ owned) (hplaces : ∀ id ∈ b.cls.places, id ∉ owned) :
    b.Keeps h' kept bounds := by
  have hsame : ∀ id ∈ b.owned, h'[id]? = h[id]? :=
    fun id hid => hc.others id (hk.lt_size id hid) (howned id hid)
  refine ⟨hk.isKind, fun id hid => ⟨?_, (hk.members id hid).2⟩, fun name hname id hid => ?_, ?_,
    fun p hp => ?_, hk.distinct⟩
  · exact Nat.lt_of_lt_of_le (hk.members id hid).1 hc.size
  · have hmember := hc.others id (hk.members id hid).1 (hplaces id hid)
    have hleaves := hk.leaves name hname id hid
    unfold Heap.attributes at hleaves ⊢
    rwa [hmember]
  · obtain ⟨attributes, hid, hattributes⟩ := hk.object
    exact ⟨attributes, (hsame b.id List.mem_cons_self).trans hid, hattributes⟩
  · exact (hsame _ (mem_owned_of_part hp)).trans (hk.lists p hp)

/-- New objects do not matter to a builder. -/
lemma push (hk : b.Keeps h kept bounds) (o : Stored) : b.Keeps (h.push o) kept bounds :=
  hk.of_changes (.push [] h o) (fun _ _ => List.not_mem_nil) fun _ _ => List.not_mem_nil

/-- A list of a builder gets other items. -/
lemma setPart (hk : b.Keeps h kept bounds) {p : Part} (hp : p ∈ b.kind.parts)
    (items : List Value) : b.Keeps (h.setIfInBounds (b.place p) (.list items))
      (Function.update kept p items) bounds := by
  have hne : ∀ {id : Nat}, id ≠ b.place p →
      (h.setIfInBounds (b.place p) (.list items))[id]? = h[id]? :=
    fun hid => Array.getElem?_setIfInBounds_ne (Ne.symm hid)
  refine ⟨hk.isKind, fun id hid => ⟨?_, (hk.members id hid).2⟩, fun name hname id hid => ?_, ?_,
    fun q hq => ?_, hk.distinct⟩
  · rw [Array.size_setIfInBounds]
    exact (hk.members id hid).1
  · have hplace : id ≠ b.place p := fun heq =>
      (hk.members id hid).2 (heq ▸ mem_owned_of_part hp)
    have hleaves := hk.leaves name hname id hid
    unfold Heap.attributes at hleaves ⊢
    rwa [hne hplace]
  · obtain ⟨attributes, hid, hattributes⟩ := hk.object
    exact ⟨attributes, (hne (hk.place_ne hp).symm).trans hid, hattributes⟩
  · by_cases hpq : q = p
    · subst hpq
      have hsize := hk.lt_size _ (mem_owned_of_part hq)
      rw [Array.getElem?_setIfInBounds_self_of_lt hsize, Function.update_self]
    · have hplace : b.place q ≠ b.place p := fun heq => hpq (hk.distinct q hq p hp heq)
      rw [hne hplace, Function.update_of_ne hpq]
      exact hk.lists q hq

/-- A bound of a builder is set. -/
lemma setEdge (hk : b.Keeps h kept bounds) {e : Edge} (he : e ∈ b.kind.edges) (x : Value) :
    ∃ attributes, h[b.id]? = some (.attributes attributes) ∧
      b.Keeps (h.setIfInBounds b.id (.attributes (attributes.put e.name x))) kept
        (Function.update bounds e x) := by
  obtain ⟨attributes, hid, hattributes⟩ := hk.object
  have hne : ∀ {id : Nat} (o : Stored), id ≠ b.id → (h.setIfInBounds b.id o)[id]? = h[id]? :=
    fun o hid => Array.getElem?_setIfInBounds_ne (Ne.symm hid)
  refine ⟨attributes, hid, hk.isKind, fun id hid => ⟨?_, (hk.members id hid).2⟩,
    fun name hname id hid => ?_, ⟨attributes.put e.name x, ?_, fun name => ?_⟩, fun p hp => ?_,
    hk.distinct⟩
  · rw [Array.size_setIfInBounds]
    exact (hk.members id hid).1
  · have hplace : id ≠ b.id := fun heq => (hk.members id hid).2 (heq ▸ List.mem_cons_self)
    have hleaves := hk.leaves name hname id hid
    unfold Heap.attributes at hleaves ⊢
    rwa [hne _ hplace]
  · exact Array.getElem?_setIfInBounds_self_of_lt (hk.lt_size _ List.mem_cons_self)
  · by_cases hname : name = e.name
    · subst hname
      rw [Entries.get?_put_self, own?_edge he, Function.update_self]
    · rw [Entries.get?_put_of_ne hname, hattributes, own?_update hname]
  · exact (hne _ (hk.place_ne hp)).trans (hk.lists p hp)

end Keeps

end Builder

end PgSchema.Object
