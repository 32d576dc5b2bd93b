import PgSchema.Proofs.Object.Making

/-!
Insertions on the heap.

An insertion is prepared when its object is made, and the object keeps the columns and the statement
from then on (`Readied.keeps`).  When a model is inserted, its attributes of the columns' names go
over the connection as values, behind the statement that is kept (`execute_apply`).
-/

namespace PgSchema.Object

open Query (Inserter)
open Session (callKnown machine)

/-- The names that a module leaves to the class of insertions. -/
def inserterNames : List String :=
  ["__init__", "connection", "columns", "_sql", "sql", "values_of", "execute"]

/-- **A class whose instances are insertions.** -/
structure Class.Prepares (cls : Class) (h : Heap) : Prop where
  isInserter : cls.Extends "Inserter"
  there : ∀ id ∈ cls.places, id < h.size
  leaves : ∀ name ∈ inserterNames, cls.Leaves h name

/-- An insertion as an object: its class, its place, its connection, and what was prepared. -/
structure Prepared where
  cls : Class
  id : Nat
  connection : Value
  inserter : Inserter

namespace Prepared

/-- The insertion as a value. -/
def value (p : Prepared) : Value := .object p.cls p.id

/-- What the insertion has by itself and is read from it. -/
def own (p : Prepared) : Entries Value :=
  [("connection", p.connection), ("columns", .tuple (p.inserter.columns.map .column)),
    ("_sql", .text p.inserter.text)]

/-- **What an insertion keeps on the heap.** -/
structure Keeps (p : Prepared) (h : Heap) : Prop where
  isInserter : p.cls.Extends "Inserter"
  members : ∀ id ∈ p.cls.places, id < h.size ∧ id ≠ p.id
  leaves : ∀ name ∈ inserterNames, p.cls.Leaves h name
  object : ∃ attributes, h[p.id]? = some (.attributes attributes) ∧
    ∀ name ∈ inserterNames, attributes.get? name = p.own.get? name

/-- What is changed is none of the insertion's things. -/
def Apart (p : Prepared) (owned : List Nat) : Prop :=
  p.id ∉ owned ∧ ∀ id ∈ p.cls.places, id ∉ owned

variable {p : Prepared} {c d : Course State} {name : String}

namespace Keeps

/-- **Nothing else matters to an insertion.** -/
lemma of_changes {h h' : Heap} (hk : p.Keeps h) {owned : List Nat} (hc : Changes owned h h')
    (hapart : p.Apart owned) : p.Keeps h' := by
  obtain ⟨attributes, hid, hattributes⟩ := hk.object
  have hlt : p.id < h.size := (Array.getElem?_eq_some_iff.1 hid).1
  refine ⟨hk.isInserter, fun id hid => ⟨?_, (hk.members id hid).2⟩, fun name hname id hid => ?_,
    attributes, (hc.others p.id hlt hapart.1).trans hid, hattributes⟩
  · exact Nat.lt_of_lt_of_le (hk.members id hid).1 hc.size
  · have hmember := hc.others id (hk.members id hid).1 (hapart.2 id hid)
    have hleaves := hk.leaves name hname id hid
    unfold Heap.attributes at hleaves ⊢
    rwa [hmember]

lemma ne_recorder (hk : p.Keeps c.work.heap) : p.cls ≠ Recorder.cls :=
  hk.isInserter.ne_recorder (by decide)

lemma get? (hk : p.Keeps c.work.heap) (hname : name ∈ inserterNames) :
    (c.work.heap.attributes p.id).get? name = p.own.get? name := by
  obtain ⟨attributes, hid, hattributes⟩ := hk.object
  rw [Heap.attributes_of_instance hid]
  exact hattributes name hname

/-- What an insertion has by itself. -/
lemma member_own (hk : p.Keeps c.work.heap) (hname : name ∈ inserterNames) {x : Value}
    (hx : p.own.get? name = some x)
    (hnone : classMember? c.work.heap (.known "Inserter") name = none) (m : Machine) :
    memberOf m p.value name c = (.ok x, c) := by
  refine member_attribute hk.ne_recorder (fun found hfound => ?_) ((hk.get? hname).trans hx)
  rw [classMember?_of_extends hk.isInserter (hk.leaves name hname), hnone] at hfound
  cases hfound

/-- What an insertion has from its class. -/
lemma member_feature (hk : p.Keeps c.work.heap) (hname : name ∈ inserterNames)
    (hx : p.own.get? name = none) {f : Feature}
    (hf : classMember? c.work.heap (.known "Inserter") name = some (.feature "Inserter" f))
    (m : Machine) :
    memberOf m p.value name c = (Found.feature "Inserter" f).onValue m p.value name c := by
  refine member_of_class hk.ne_recorder ?_ ((hk.get? hname).trans hx)
  rw [classMember?_of_extends hk.isInserter (hk.leaves name hname), hf]

/-- A method of an insertion is called. -/
lemma callMethod (hk : p.Keeps c.work.heap) (hname : name ∈ inserterNames)
    (hx : p.own.get? name = none) {f : Native}
    (hf : classMember? c.work.heap (.known "Inserter") name =
      some (.feature "Inserter" (.method f))) (n : Nat) (arguments : List Value) :
    (machine (n + 1)).callMethod p.value name arguments c =
      callKnown (machine n) "Inserter" name (p.value :: arguments) [] c :=
  callMethod_apply (hk.member_feature hname hx hf (machine n))

/-- The statement is the one that was prepared. -/
lemma member_sql (hk : p.Keeps c.work.heap) (n : Nat) :
    (machine (n + 2)).member p.value "sql" c = (.ok (.text p.inserter.text), c) := by
  refine (hk.member_feature (by decide) rfl rfl (machine (n + 1))).trans ?_
  exact hk.member_own (by decide) rfl rfl (machine n)

/-- The attributes of a model that are inserted. -/
lemma values_apply (hk : p.Keeps c.work.heap) (n : Nat) (model : Value) :
    (machine (n + 2)).callMethod p.value "values_of" [model] c =
      (Action.each (fun column => (machine (n + 1)).member model column.name)
        p.inserter.columns >>= newList) c := by
  have hcolumns : writtenColumns (machine (n + 1)) p.value c = (.ok p.inserter.columns, c) := by
    refine (Action.bind_apply_ok (hk.member_own (by decide) rfl rfl (machine n)) _).trans ?_
    refine congrArg (fun columns => (Except.ok columns, c)) ?_
    rw [List.filterMap_map]
    exact List.filterMap_some
  rw [hk.callMethod (by decide) rfl rfl]
  change ((writtenColumns _ _ >>= _) >>= _) c = _
  rw [Action.bind_assoc]
  exact Action.bind_apply_ok hcolumns _

end Keeps

/-! ### Models that are inserted -/

end Prepared

/-- **A statement is passed to a function of a connection**, with values that are found on the
way. -/
def passed (m : Machine) (f : Value) (text : String) (found : Run (List Value)) : Run Value := do
  let items ← found
  let values ← newList items
  m.call f [.text text, values] []

namespace Prepared

variable {p : Prepared} {c d : Course State}

/-- The attributes of a model that go with the statement. -/
def values (p : Prepared) (m : Machine) (model : Value) : Run (List Value) :=
  Action.each (fun column => m.member model column.name) p.inserter.columns

/-- What is done when a model is inserted. -/
lemma callKnown_execute (m : Machine) (self model : Value) :
    callKnown m "Inserter" "execute" [self, model] [] =
      m.member self "connection" >>= fun connection => m.member connection "insert" >>= fun f =>
        m.member self "sql" >>= fun text => m.callMethod self "values_of" [model] >>= fun values =>
          m.call f [text, values] [] := rfl

/-- **A model is inserted**: the statement that was prepared is passed to the connection, whatever
the model is, as long as the insertion is left alone when the method of the connection is looked
up. -/
theorem execute_apply (hk : p.Keeps c.work.heap) (n : Nat) (model : Value)
    (hlooked : ∀ f d, (machine (n + 3)).member p.connection "insert" c = (.ok f, d) →
      p.Keeps d.work.heap) :
    (machine (n + 4)).callMethod p.value "execute" [model] c =
      ((machine (n + 3)).member p.connection "insert" >>= fun f =>
        passed (machine (n + 3)) f p.inserter.text (p.values (machine (n + 2)) model)) c := by
  rw [hk.callMethod (by decide) rfl rfl, callKnown_execute]
  refine (Action.bind_apply_ok (hk.member_own (by decide) rfl rfl (machine (n + 2))) _).trans ?_
  rcases hf : (machine (n + 3)).member p.connection "insert" c with ⟨e | f, d⟩
  · rw [Action.bind_apply_error hf, Action.bind_apply_error hf]
  · have hk' := hlooked f d hf
    rw [Action.bind_apply_ok hf, Action.bind_apply_ok hf]
    refine (Action.bind_apply_ok (hk'.member_sql (n + 1)) _).trans ?_
    rw [Action.bind_apply_congr (hk'.values_apply (n + 1) model), Action.bind_assoc]
    rfl

/-! ### Insertions that are prepared -/

variable {cls : Class} {connection : Value} {t : Table} {given : OnConflict} {skip : Bool}
  {i : Inserter}

/-- The attributes of an insertion that is made. -/
def attributes (connection : Value) (t : Table) (given : OnConflict) (skip : Bool)
    (i : Inserter) : Entries Value :=
  [("connection", connection), ("schema", .table t), ("on_conflict", .policy given),
    ("skip_auto_id", .bool skip), ("policy", .policy i.policy),
    ("_policy_column", (i.declaredOn.map .column).getD .null),
    ("columns", .tuple (i.columns.map .column)), ("_sql", .text i.text)]

/-- What a new object has when its insertion is prepared. -/
def begun (connection : Value) (t : Table) (given : OnConflict) (skip : Bool) : Entries Value :=
  [("connection", connection), ("schema", .table t), ("on_conflict", .policy given),
    ("skip_auto_id", .bool skip)]

/-- What was prepared is given to the object. -/
def finish (self : Value) (i : Inserter) : Run Value := do
  setAttribute self "policy" (.policy i.policy)
  setAttribute self "_policy_column" ((i.declaredOn.map .column).getD .null)
  setAttribute self "columns" (.tuple (i.columns.map .column))
  setAttribute self "_sql" (.text i.text)
  return .null

/-- A call of a class comes as far as the insertion can be prepared. -/
lemma call_begun (hcls : cls.Prepares c.work.heap) (t : Table) (given : OnConflict) (skip : Bool)
    (n : Nat) (connection : Value) :
    (machine (n + 2)).call (.cls cls) [connection, .table t, .policy given, .bool skip] [] c =
      ((Action.check (Inserter.prepare t given skip) >>= finish (.object cls c.work.heap.size)) >>=
        fun _ => pure (.object cls c.work.heap.size))
        (c.withHeap (c.work.heap.grown (begun connection t given skip) [])) := by
  have hinit : initName ∈ inserterNames := by decide
  obtain ⟨f, hf⟩ : ∃ f, classMember? c.work.heap (.known "Inserter") initName =
      some (.feature "Inserter" (.method f)) := ⟨_, rfl⟩
  have hpolicy : ∀ d : Course State, policyOf (.policy given) d = (.ok given, d) := by
    intro d
    cases given <;> rfl
  rw [call_apply hcls.isInserter n _ rfl
    ((classMember?_of_extends hcls.isInserter (hcls.leaves _ hinit)).trans hf)]
  refine Action.bind_apply_congr ?_ _
  refine (Action.bind_apply_ok (setAttribute_grown cls "connection" connection) _).trans ?_
  refine (Action.bind_apply_ok (setAttribute_grown cls "schema" (.table t)) _).trans ?_
  refine (Action.bind_apply_ok (hpolicy _) _).trans ?_
  refine (Action.bind_apply_ok (setAttribute_grown cls "on_conflict" (.policy given)) _).trans ?_
  refine (Action.bind_apply_ok (setAttribute_grown cls "skip_auto_id" (.bool skip)) _).trans ?_
  refine (Action.bind_apply_ok (show asTable (machine n) "columns" (.table t) _ = (.ok t, _)
    from rfl) _).trans ?_
  exact Action.bind_apply_ok (isTrue_apply (.bool skip) _) _

/-- **An insertion is made** by a call of its class. -/
theorem call_inserter (hcls : cls.Prepares c.work.heap)
    (hi : Inserter.prepare t given skip = .ok i) (n : Nat) (connection : Value) :
    (machine (n + 2)).call (.cls cls) [connection, .table t, .policy given, .bool skip] [] c =
      (.ok (.object cls c.work.heap.size),
        c.withHeap (c.work.heap.grown (attributes connection t given skip i) [])) := by
  rw [call_begun hcls, hi]
  refine Action.bind_apply_ok (a := Value.null) ?_ _
  refine (Action.bind_apply_ok (setAttribute_grown cls "policy" (.policy i.policy)) _).trans ?_
  refine (Action.bind_apply_ok (setAttribute_grown cls "_policy_column" _) _).trans ?_
  refine (Action.bind_apply_ok (setAttribute_grown cls "columns" _) _).trans ?_
  exact Action.bind_apply_ok (setAttribute_grown cls "_sql" _) _

/-- **An insertion that cannot be prepared is not made**: the call fails with the same fault. -/
theorem call_inserter_error (hcls : cls.Prepares c.work.heap) {fault : Fault}
    (hi : Inserter.prepare t given skip = .error fault) (n : Nat) (connection : Value) :
    (machine (n + 2)).call (.cls cls) [connection, .table t, .policy given, .bool skip] [] c =
      (.error (.fault fault),
        c.withHeap (c.work.heap.grown (begun connection t given skip) [])) := by
  rw [call_begun hcls, hi]
  exact Action.bind_apply_error rfl _

/-- What was prepared is kept from the beginning. -/
lemma keeps_made {h : Heap} (hcls : cls.Prepares h) :
    (⟨cls, h.size, connection, i⟩ : Prepared).Keeps
      (h.grown (attributes connection t given skip i) []) where
  isInserter := hcls.isInserter
  members id hid := by
    have hlt := hcls.there id hid
    refine ⟨?_, Nat.ne_of_lt hlt⟩
    rw [Heap.size_grown]
    omega
  leaves name hname id hid := by
    have hleaves := hcls.leaves name hname id hid
    unfold Heap.attributes at hleaves ⊢
    rwa [h.getElem?_grown_old _ _ (hcls.there id hid)]
  object := by
    refine ⟨_, h.getElem?_grown_object _ _, fun name hname => ?_⟩
    simp only [inserterNames, List.mem_cons, List.not_mem_nil, or_false] at hname
    rcases hname with rfl | rfl | rfl | rfl | rfl | rfl | rfl <;> rfl

/-- **An insertion that was prepared** for a table, a policy and the numbers that are written, up to
a course of work. -/
inductive Readied (n : Nat) (t : Table) (given : OnConflict) (skip : Bool) :
    Prepared → Course State → Prop
  | made {cls : Class} {connection : Value} {i : Inserter} {c d : Course State}
      (hcls : cls.Prepares c.work.heap) (hi : Inserter.prepare t given skip = .ok i)
      (hrun : (machine (n + 2)).call (.cls cls) [connection, .table t, .policy given, .bool skip]
        [] c = (.ok (.object cls c.work.heap.size), d)) :
      Readied n t given skip ⟨cls, c.work.heap.size, connection, i⟩ d
  | meanwhile {p : Prepared} {c d : Course State} {owned : List Nat}
      (hp : Readied n t given skip p c) (hchanges : Changes owned c.work.heap d.work.heap)
      (hapart : p.Apart owned) : Readied n t given skip p d

namespace Readied

variable {n : Nat}

/-- **An insertion keeps what was prepared.** -/
theorem keeps (h : Readied n t given skip p c) : p.Keeps c.work.heap := by
  induction h with
  | @made cls connection i c d hcls hi hrun =>
    rw [call_inserter hcls hi] at hrun
    obtain rfl := congrArg Prod.snd hrun
    exact keeps_made hcls
  | meanwhile _ hchanges hapart ih => exact ih.of_changes hchanges hapart

/-- What was prepared depends on the table, the policy and the numbers that are written only. -/
lemma prepare_eq (h : Readied n t given skip p c) :
    Inserter.prepare t given skip = .ok p.inserter := by
  induction h with
  | made _ hi _ => exact hi
  | meanwhile _ _ _ ih => exact ih

end Readied

end Prepared

/-! ### Models that a connection creates -/

namespace Link

variable {c : Course State}

/-- An attribute of a model, as a connection takes it. -/
def attributeOf (m : Machine) (made : Value) (name : String) : Run Json := do
  let x ← m.member made name
  showValue x

/-- **A connection has a method from the library**, and its parts. -/
structure Serves (l : Link) (cls : Class) (id : Nat) (name : String) (h : Heap) : Prop where
  isConnection : cls.Extends Connection.owner
  leaves : cls.Leaves h name
  link : h[id]? = some (.link l)
  kept : l.kept.get? name = none

section Serves

variable {cls : Class} {id : Nat} {l : Link} {name : String}

/-- A method from the library is found. -/
lemma Serves.member (hl : l.Serves cls id name c.work.heap) {f : Native}
    (hf : classMember? c.work.heap (.known Connection.owner) name =
      some (.feature Connection.owner (.method f))) (n : Nat) :
    (machine (n + 1)).member (.object cls id) name c =
      (.ok (.method (.object cls id) (.known Connection.owner name)), c) := by
  have hnone : (c.work.heap.attributes id).get? name = none := by
    rw [Heap.attributes, hl.link]
    exact hl.kept
  exact member_of_class (hl.isConnection.ne_recorder (by decide))
    ((classMember?_of_extends hl.isConnection hl.leaves).trans hf) hnone

/-- The parts are found. -/
lemma Serves.of_apply (hl : l.Serves cls id name c.work.heap) :
    Link.of (.object cls id) c = (.ok l, c) := by
  unfold Link.of
  refine (Action.bind_apply_ok (heap_apply c) _).trans ?_
  dsimp only
  rw [Heap.link?, hl.link]
  rfl

/-- A connection creates a model at its site. -/
lemma callMethod_create (hl : l.Serves cls id "create_model" c.work.heap) (n : Nat) (t : Table)
    (factory : Value) :
    (machine (n + 1)).callMethod (.object cls id) "create_model" [.table t, factory] c =
      atSite l.site (l.connection.createModel t (attributeOf (machine n)) ofModel
        ((machine n).call factory [] [])) c := by
  rw [callMethod_apply (hl.member rfl n)]
  exact Action.bind_apply_ok hl.of_apply _

end Serves

/-- **A model is created by an insertion** that was prepared for the table; what follows, follows
behind it. -/
lemma createModel_eq (k : Connection) (t : Table) (attributes : Value → String → Run Json)
    (factory : Run Value) : ∃ rest : Value → Json → Run Value,
      k.createModel t attributes ofModel factory = factory >>= fun made =>
        Action.check (Inserter.prepare t .none false) >>= fun i =>
          (i.valuesOf (attributes made) >>= fun values => k.insert i.text (.list values)) >>=
            rest made := ⟨_, rfl⟩

end Link

end PgSchema.Object
