import Mathlib.Data.List.Forall2
import PgSchema.Proofs.Object.Inserters
import PgSchema.Proofs.Query.Blindness

/-!
Runs of one sequence of calls, step by step.

In a run builders and insertions are made, builders are narrowed and asked, and models are inserted
or created (`Step`).  Every object keeps what its calls have put in, whatever is done with others
(`Runs.stage`), so each step hands over a statement that these calls determine (`Runs.hands`).  Two
runs that differ in their values only hand over the same texts (`texts_ignore_values`).
-/

namespace PgSchema.Object

open Query (Inserter)
open Session (machine)

/-! ### Objects of a run -/

/-- An object of a run: a builder with the calls that it has got, or an insertion with what it was
prepared from. -/
inductive Thing where
  | builder (b : Builder) (calls : List Builder.Call)
  | insertion (p : Prepared) (t : Table) (given : OnConflict) (skip : Bool)

namespace Thing

/-- The class. -/
def cls : Thing → Class
  | builder b _ => b.cls
  | insertion p .. => p.cls

/-- The places that are its own. -/
def owned : Thing → List Nat
  | builder b _ => b.owned
  | insertion p .. => [p.id]

/-- What is changed is none of its things. -/
def Apart (x : Thing) (owned : List Nat) : Prop :=
  (∀ id ∈ x.owned, id ∉ owned) ∧ ∀ id ∈ x.cls.places, id ∉ owned

/-- It has become what it is. -/
def Stands (n : Nat) (c : Course State) : Thing → Prop
  | builder b calls => Builder.Lived n b calls c
  | insertion p t given skip => Prepared.Readied (n + 3) t given skip p c

/-- Objects of two runs that differ in their values only. -/
def Alike : Thing → Thing → Prop
  | builder b calls, builder b' calls' =>
    b.kind = b'.kind ∧ b.table = b'.table ∧ List.Forall₂ Builder.Call.Alike calls calls'
  | insertion _ t given skip, insertion _ t' given' skip' =>
    t = t' ∧ given = given' ∧ skip = skip'
  | _, _ => False

variable {n : Nat} {x : Thing} {c d : Course State}

lemma apart_nil (x : Thing) : x.Apart [] :=
  ⟨fun _ _ => List.not_mem_nil, fun _ _ => List.not_mem_nil⟩

lemma Stands.meanwhile (hx : x.Stands n c) {owned : List Nat}
    (hchanges : Changes owned c.work.heap d.work.heap) (hapart : x.Apart owned) :
    x.Stands n d := by
  cases x with
  | builder b calls => exact Builder.Lived.meanwhile hx hchanges hapart
  | insertion p t given skip =>
    exact Prepared.Readied.meanwhile hx hchanges ⟨hapart.1 p.id List.mem_cons_self, hapart.2⟩

/-- The places of an object are on the heap. -/
lemma Stands.lt_size (hx : x.Stands n c) :
    (∀ id ∈ x.owned, id < c.work.heap.size) ∧ ∀ id ∈ x.cls.places, id < c.work.heap.size := by
  cases x with
  | builder b calls =>
    have hk := Builder.Lived.holds hx
    exact ⟨hk.lt_size, fun id hid => (hk.members id hid).1⟩
  | insertion p t given skip =>
    have hk := Prepared.Readied.keeps hx
    refine ⟨List.forall_mem_singleton.2 ?_, fun id hid => (hk.members id hid).1⟩
    obtain ⟨attributes, hid, -⟩ := hk.object
    exact (Array.getElem?_eq_some_iff.1 hid).1

end Thing

/-- **Objects that have nothing in common**, each of which has become what it is. -/
structure Stage (n : Nat) (things : List Thing) (c : Course State) : Prop where
  stands : ∀ x ∈ things, x.Stands n c
  apart : ∀ (i j : Nat) (x y : Thing), i ≠ j → things[i]? = some x → things[j]? = some y →
    x.Apart y.owned

/-- What is done leaves objects alone. -/
def Untouched (things : List Thing) (c d : Course State) : Prop :=
  ∃ owned, Changes owned c.work.heap d.work.heap ∧ ∀ x ∈ things, x.Apart owned

namespace Stage

variable {n : Nat} {things : List Thing} {c d : Course State}

lemma untouched (hs : Stage n things c) (hd : Untouched things c d) : Stage n things d := by
  obtain ⟨owned, hchanges, hapart⟩ := hd
  exact ⟨fun x hx => (hs.stands x hx).meanwhile hchanges (hapart x hx), hs.apart⟩

/-- A new object, at the end of the heap. -/
lemma grow (hs : Stage n things c) {x : Thing} (hchanges : Changes [] c.work.heap d.work.heap)
    (hx : x.Stands n d) (hnew : ∀ id ∈ x.owned, c.work.heap.size ≤ id)
    (hcls : ∀ y ∈ things, ∀ id ∈ x.cls.places, id ∉ y.owned) : Stage n (things ++ [x]) d where
  stands := by
    refine List.forall_mem_append.2 ⟨fun y hy => ?_, List.forall_mem_singleton.2 hx⟩
    exact (hs.stands y hy).meanwhile hchanges y.apart_nil
  apart := by
    have hold : ∀ y ∈ things, x.Apart y.owned ∧ y.Apart x.owned := by
      intro y hy
      obtain ⟨howned, hplaces⟩ := (hs.stands y hy).lt_size
      refine ⟨⟨fun id hid hmem => ?_, hcls y hy⟩, fun id hid hmem => ?_, fun id hid hmem => ?_⟩
      · exact absurd (hnew id hid) (Nat.not_le.2 (howned id hmem))
      · exact absurd (hnew id hmem) (Nat.not_le.2 (howned id hid))
      · exact absurd (hnew id hmem) (Nat.not_le.2 (hplaces id hid))
    have hwhich : ∀ i y, (things ++ [x])[i]? = some y →
        things[i]? = some y ∨ i = things.length ∧ y = x := by
      intro i y hy
      rw [List.getElem?_append] at hy
      split at hy
      · exact .inl hy
      · rename_i hlt
        obtain ⟨hi, rfl⟩ := List.getElem?_eq_some_iff.1 hy
        rw [List.length_singleton] at hi
        exact .inr ⟨by omega, List.getElem_singleton _⟩
    intro i j y z hne hy hz
    rcases hwhich i y hy with hi | ⟨rfl, rfl⟩ <;> rcases hwhich j z hz with hj | ⟨rfl, rfl⟩
    · exact hs.apart i j y z hne hi hj
    · exact (hold y (List.mem_of_getElem? hi)).2
    · exact (hold z (List.mem_of_getElem? hj)).1
    · exact absurd rfl hne

/-- An object gets a call. -/
lemma turn (hs : Stage n things c) {i : Nat} {x y : Thing} (hi : things[i]? = some x)
    (hchanges : Changes x.owned c.work.heap d.work.heap) (hy : y.Stands n d)
    (howned : y.owned = x.owned) (hcls : y.cls = x.cls) : Stage n (things.set i y) d := by
  have hwhich : ∀ j z, (things.set i y)[j]? = some z →
      j = i ∧ z = y ∨ j ≠ i ∧ things[j]? = some z := by
    intro j z hz
    by_cases hij : i = j
    · subst hij
      rw [List.getElem?_set_self (List.getElem?_eq_some_iff.1 hi).1] at hz
      exact .inl ⟨rfl, (Option.some.inj hz).symm⟩
    · rw [List.getElem?_set_ne hij] at hz
      exact .inr ⟨Ne.symm hij, hz⟩
  refine ⟨fun z hz => ?_, fun j k z w hne hz hw => ?_⟩
  · obtain ⟨j, hj⟩ := List.mem_iff_getElem?.1 hz
    rcases hwhich j z hj with ⟨-, rfl⟩ | ⟨hne, hj⟩
    · exact hy
    · exact (hs.stands z (List.mem_of_getElem? hj)).meanwhile hchanges (hs.apart j i z x hne hj hi)
  · rcases hwhich j z hz with ⟨rfl, rfl⟩ | ⟨-, hj⟩ <;>
      rcases hwhich k w hw with ⟨rfl, rfl⟩ | ⟨-, hk⟩
    · exact absurd rfl hne
    · unfold Thing.Apart
      rw [howned, hcls]
      exact hs.apart j k x w hne hi hk
    · rw [howned]
      exact hs.apart j k z x hne hj hi
    · exact hs.apart j k z w hne hj hk

end Stage

/-! ### Steps -/

/-- What is done in a run.  Objects are known by their numbers. -/
inductive Step where
  /-- A builder is made by a call of its class. -/
  | make (kind : Kind) (cls : Class) (connection : Value) (t : Table)
  /-- A builder is derived from a relation. -/
  | derive (i : Nat) (r : Builder) (calls : List Builder.Call) (kind : Kind) (cls : Class)
  /-- A builder gets a call that narrows it. -/
  | narrow (i : Nat) (b : Builder) (calls : List Builder.Call) (call : Builder.Call)
    (arguments : List Value)
  /-- A builder is asked for something over its connection. -/
  | ask (i : Nat) (b : Builder) (calls : List Builder.Call) (what : Ask)
  /-- A relation is asked for something, by a selector of the class. -/
  | through (i : Nat) (r : Builder) (calls : List Builder.Call) (what : Ask) (cls : Class)
  /-- An insertion is prepared by a call of its class. -/
  | prepare (cls : Class) (connection : Value) (t : Table) (given : OnConflict) (skip : Bool)
    (inserter : Inserter)
  /-- A model is inserted. -/
  | insert (i : Nat) (p : Prepared) (model : Value)
  /-- A connection creates a model. -/
  | create (cls : Class) (id : Nat) (l : Link) (t : Table) (factory : Value)

namespace Step

/-- The call that is made. -/
def run (n : Nat) : Step → Run Value
  | make _ cls connection t => (machine (n + 5)).call (.cls cls) [connection, .table t] []
  | derive _ r _ kind _ => (machine (n + 5)).callMethod r.value kind.word []
  | narrow _ b _ call arguments => (machine (n + 5)).callMethod b.value call.name arguments
  | ask _ b _ what => (machine (n + 5)).callMethod b.value what.method []
  | through _ r _ what _ => (machine (n + 5)).callMethod r.value what.method []
  | prepare cls connection t given skip _ =>
    (machine (n + 5)).call (.cls cls) [connection, .table t, .policy given, .bool skip] []
  | insert _ p model => (machine (n + 5)).callMethod p.value "execute" [model]
  | create cls id _ t factory =>
    (machine (n + 5)).callMethod (.object cls id) "create_model" [.table t, factory]

/-- The step uses a connection. -/
def isRemote : Step → Bool
  | ask .. | through .. | insert .. | create .. => true
  | _ => false

/-- The class of a new object is none of the objects. -/
def Clear (things : List Thing) (cls : Class) : Prop :=
  ∀ x ∈ things, ∀ id ∈ cls.places, id ∉ x.owned

/-- **What a step needs**: its objects, their classes, and arguments of the right kind. -/
def Takes (things : List Thing) (c : Course State) (n : Nat) : Step → Prop
  | make kind cls _ _ => cls.Makes c.work.heap kind ∧ Clear things cls
  | derive i r calls kind cls =>
    things[i]? = some (.builder r calls) ∧ r.kind = .relation ∧ kind ≠ .relation ∧
      r.cls.Hands c.work.heap kind cls ∧ cls.Makes c.work.heap kind ∧ Clear things cls
  | narrow i b calls call arguments =>
    things[i]? = some (.builder b calls) ∧ call.Fits b c.work.heap ∧
      call.Given c.work.heap arguments
  | ask i b calls what => things[i]? = some (.builder b calls) ∧ what ∈ b.kind.asks
  | through i r calls what cls =>
    things[i]? = some (.builder r calls) ∧ r.kind = .relation ∧ (what = .all ∨ what = .count) ∧
      r.cls.Hands c.work.heap .selector cls ∧ cls.Makes c.work.heap .selector
  | prepare cls _ t given skip inserter =>
    cls.Prepares c.work.heap ∧ Inserter.prepare t given skip = .ok inserter ∧ Clear things cls
  | insert i p _ =>
    (∃ t given skip, things[i]? = some (.insertion p t given skip)) ∧
      ∀ f d, (machine (n + 4)).member p.connection "insert" c = (.ok f, d) → p.Keeps d.work.heap
  | create cls id l _ _ =>
    cls.Extends Connection.owner ∧ cls.Leaves c.work.heap "create_model" ∧
      c.work.heap[id]? = some (.link l) ∧ l.kept.get? "create_model" = none

/-- The objects after a step.  A new one is put at the end of a heap of the size. -/
def after (things : List Thing) (size : Nat) : Step → List Thing
  | make kind cls connection t => things ++ [.builder (.fresh kind cls connection t size) []]
  | derive _ r calls kind cls =>
    things ++ [.builder (.fresh kind cls r.connection r.table size) calls]
  | narrow i b calls call _ => things.set i (.builder b (calls ++ [call]))
  | prepare cls connection t given skip inserter =>
    things ++ [.insertion ⟨cls, size, connection, inserter⟩ t given skip]
  | _ => things

variable {n : Nat} {things : List Thing} {c d : Course State} {s : Step}
  {r : Except Failure Value}

/-- **What one step preserves.** -/
theorem stage_after (hs : Stage n things c) (htakes : s.Takes things c n)
    (hrun : s.run n c = (r, d)) (hremote : s.isRemote = true → Untouched things c d) :
    Stage n (s.after things c.work.heap.size) d := by
  cases s with
  | make kind cls connection t =>
    obtain ⟨hcls, hclear⟩ := htakes
    have hmade := Builder.call_class_apply hcls (n + 3) connection t
    obtain ⟨-, rfl⟩ := Prod.mk.inj (hrun.symm.trans hmade)
    refine hs.grow (c.work.heap.changes_grown _ _) ?_ Builder.le_of_mem_fresh hclear
    exact Builder.Lived.made hcls hmade
  | derive i r calls kind cls =>
    obtain ⟨hi, hrelation, hkind, hlink, hcls, hclear⟩ := htakes
    have hr : Builder.Lived n r calls c := hs.stands _ (List.mem_of_getElem? hi)
    have hmade := Builder.derive_apply hr.holds hrelation hkind hlink hcls (n + 1)
    obtain ⟨-, rfl⟩ := Prod.mk.inj (hrun.symm.trans hmade)
    refine hs.grow (c.work.heap.changes_grown _ _) ?_ Builder.le_of_mem_fresh hclear
    exact Builder.Lived.derived hr hrelation hkind hlink hcls hmade
  | narrow i b calls call arguments =>
    obtain ⟨hi, hfits, hgiven⟩ := htakes
    have hb : Builder.Lived n b calls c := hs.stands _ (List.mem_of_getElem? hi)
    obtain ⟨r', -, h, hturns, hchanges, -⟩ := Builder.turns_call hb.holds hfits hgiven n 0
    obtain ⟨-, rfl⟩ := Prod.mk.inj (hrun.symm.trans hturns)
    exact hs.turn hi hchanges (Builder.Lived.called hb hfits hgiven hrun) rfl rfl
  | prepare cls connection t given skip inserter =>
    obtain ⟨hcls, hprepare, hclear⟩ := htakes
    have hmade := Prepared.call_inserter hcls hprepare (n + 3) connection
    obtain ⟨-, rfl⟩ := Prod.mk.inj (hrun.symm.trans hmade)
    refine hs.grow (c.work.heap.changes_grown _ _) ?_
      (List.forall_mem_singleton.2 (Nat.le_refl _)) hclear
    exact Prepared.Readied.made hcls hprepare hmade
  | ask | through | insert | create => exact hs.untouched (hremote rfl)

end Step

/-! ### Runs -/

/-- The objects after steps, the last of which comes first. -/
def thingsOf : List (Step × Course State) → List Thing
  | [] => []
  | (s, c) :: earlier => s.after (thingsOf earlier) c.work.heap.size

/-- **A run**: steps, each with the course of work in which it was made, the last one first.
Between them, and on the way through a connection, anything may happen that leaves the objects
alone. -/
inductive Runs (n : Nat) : List (Step × Course State) → Course State → Prop
  | start (c : Course State) : Runs n [] c
  | step {s : Step} {earlier : List (Step × Course State)} {c d : Course State}
      {r : Except Failure Value} (h : Runs n earlier c) (htakes : s.Takes (thingsOf earlier) c n)
      (hrun : s.run n c = (r, d)) (hremote : s.isRemote = true → Untouched (thingsOf earlier) c d) :
      Runs n ((s, c) :: earlier) d
  | meanwhile {steps : List (Step × Course State)} {c d : Course State} (h : Runs n steps c)
      (hd : Untouched (thingsOf steps) c d) : Runs n steps d

namespace Runs

variable {n : Nat} {steps : List (Step × Course State)} {s : Step} {c d : Course State}

/-- **What a run preserves.** -/
theorem stage (h : Runs n steps c) : Stage n (thingsOf steps) c := by
  induction h with
  | start c => exact ⟨fun _ hx => absurd hx List.not_mem_nil, fun _ _ _ _ _ hx => nomatch hx⟩
  | step _ htakes hrun hremote ih => exact Step.stage_after ih htakes hrun hremote
  | meanwhile _ hd ih => exact ih.untouched hd

/-- Every step had what it needs. -/
lemma of_cons (h : Runs n ((s, c) :: steps) d) : Runs n steps c ∧ s.Takes (thingsOf steps) c n := by
  generalize hsteps : (s, c) :: steps = all at h
  induction h with
  | start => cases hsteps
  | step h htakes =>
    cases hsteps
    exact ⟨h, htakes⟩
  | meanwhile _ _ ih => exact ih hsteps

end Runs

/-! ### What is handed over -/

/-- What a step hands over to a connection. -/
inductive Handing where
  /-- Nothing, and the call is done, or it is refused. -/
  | nothing (done : Bool)
  /-- A text by a method of the connection, with so many values. -/
  | statement (via text : String) (count : Nat)

/-- A text with the number of its values, if there is one. -/
def Handing.of (via : String) : Except Fault (String × Nat) → Handing
  | .ok shape => .statement via shape.1 shape.2
  | .error _ => .nothing false

/-- The places that a step changes by itself. -/
def Step.changed : Step → List Nat
  | .narrow _ b _ _ _ => b.owned
  | _ => []

/-- **What a step hands over**, by the equation of its run.  The rest of the run has no text of its
own; only a model that is created is read back behind its insertion. -/
inductive Hands (n : Nat) : Step → Course State → Handing → Prop
  /-- Only the object itself is changed. -/
  | quiet {s : Step} {c : Course State} {r : Except Failure Value} {h : Heap} {done : Bool}
      (hremote : s.isRemote = false) (hrun : s.run n c = (r, c.withHeap h))
      (hchanges : Changes s.changed c.work.heap h) (hdone : r.toOption.isSome = done) :
      Hands n s c (.nothing done)
  /-- A change that changes nothing is refused. -/
  | refused {i : Nat} {b : Builder} {calls : List Builder.Call} {what : Ask} {c : Course State}
      (hrun : (Step.ask i b calls what).run n c =
        (.error (.fault (.noAssignments b.table.name)), c)) :
      Hands n (.ask i b calls what) c (.nothing false)
  | asked {i : Nat} {b : Builder} {calls : List Builder.Call} {what : Ask} {c : Course State}
      {text : String} {values : List Value}
      (hrun : (Step.ask i b calls what).run n c =
        (sent (machine (n + 4)) b.connection what.via (text, values) >>= fun answer =>
          what.reading (machine (n + 4)) b answer) c) :
      Hands n (.ask i b calls what) c (.statement what.via text values.length)
  | through {i : Nat} {r : Builder} {calls : List Builder.Call} {what : Ask} {cls : Class}
      {c : Course State} {h : Heap} {text : String} {values : List Value}
      (hchanges : Changes [] c.work.heap h)
      (hrun : (Step.through i r calls what cls).run n c =
        (sent (machine (n + 3)) r.connection what.via (text, values) >>= fun answer =>
          what.reading (machine (n + 3))
            (.fresh .selector cls r.connection r.table c.work.heap.size) answer) (c.withHeap h)) :
      Hands n (.through i r calls what cls) c (.statement what.via text values.length)
  /-- The values are found on the way. -/
  | inserted {i : Nat} {p : Prepared} {model : Value} {c : Course State}
      (hrun : (Step.insert i p model).run n c =
        ((machine (n + 4)).member p.connection "insert" >>= fun f =>
          passed (machine (n + 4)) f p.inserter.text (p.values (machine (n + 3)) model)) c) :
      Hands n (.insert i p model) c
        (.statement "insert" p.inserter.text p.inserter.columns.length)
  | created {cls : Class} {id : Nat} {l : Link} {t : Table} {factory : Value} {c : Course State}
      {i : Inserter} {rest : Value → Json → Run Value}
      (hi : Inserter.prepare t .none false = .ok i)
      (hrun : (Step.create cls id l t factory).run n c =
        atSite l.site ((machine (n + 4)).call factory [] [] >>= fun made =>
          (i.valuesOf (Link.attributeOf (machine (n + 4)) made) >>= fun values =>
            l.connection.insert i.text (.list values)) >>= rest made) c) :
      Hands n (.create cls id l t factory) c (.statement "insert" i.text i.columns.length)
  /-- There is no insertion for the table, and the model that was made is dropped. -/
  | uncreated {cls : Class} {id : Nat} {l : Link} {t : Table} {factory : Value}
      {c : Course State} {fault : Fault}
      (hi : Inserter.prepare t .none false = .error fault)
      (hrun : (Step.create cls id l t factory).run n c =
        atSite l.site ((machine (n + 4)).call factory [] [] >>= fun _ =>
          Action.fail (.fault fault)) c) :
      Hands n (.create cls id l t factory) c (.nothing false)

namespace Step

open Builder (draft)

/-- What a step hands over by the calls that its object has got. -/
def handing : Step → Handing
  | make .. | derive .. | prepare .. => .nothing true
  | narrow _ b _ call _ => .nothing (call.adds? b.table).isSome
  | ask _ b calls what =>
    .of what.via (((draft b.table calls).query b.kind b.table what).map Builder.shape)
  | through _ r calls what _ =>
    .of what.via (((draft r.table calls).query .selector r.table what).map Builder.shape)
  | insert _ p _ => .statement "insert" p.inserter.text p.inserter.columns.length
  | create _ _ _ t _ =>
    .of "insert" ((Inserter.prepare t .none false).map fun i => (i.text, i.columns.length))

variable {n : Nat} {things : List Thing} {c d : Course State} {s : Step}

/-- **The calls that an object has got determine what is handed over.** -/
theorem hands (hs : Stage n things c) (htakes : s.Takes things c n) : Hands n s c s.handing := by
  cases s with
  | make kind cls connection t =>
    have hmade := Builder.call_class_apply htakes.1 (n + 3) connection t
    exact .quiet rfl hmade (c.work.heap.changes_grown _ _) rfl
  | derive i r calls kind cls =>
    obtain ⟨hi, hrelation, hkind, hlink, hcls, -⟩ := htakes
    have hr : Builder.Lived n r calls c := hs.stands _ (List.mem_of_getElem? hi)
    have hmade := Builder.derive_apply hr.holds hrelation hkind hlink hcls (n + 1)
    exact .quiet rfl hmade (c.work.heap.changes_grown _ _) rfl
  | narrow i b calls call arguments =>
    obtain ⟨hi, hfits, hgiven⟩ := htakes
    have hb : Builder.Lived n b calls c := hs.stands _ (List.mem_of_getElem? hi)
    obtain ⟨r, hr, h, hturns, hchanges, -⟩ := Builder.turns_call hb.holds hfits hgiven n 0
    exact .quiet rfl hturns hchanges (by rw [hr, Option.isSome_map])
  | prepare cls connection t given skip inserter =>
    have hmade := Prepared.call_inserter htakes.1 htakes.2.1 (n + 3) connection
    exact .quiet rfl hmade (c.work.heap.changes_grown _ _) rfl
  | ask i b calls what =>
    obtain ⟨hi, hwhat⟩ := htakes
    have hb : Builder.Lived n b calls c := hs.stands _ (List.mem_of_getElem? hi)
    have hrun := Builder.ask_apply hb.holds (Builder.bounded_draft _ _) hwhat (n + 3)
    rw [handing]
    cases hquery : (draft b.table calls).query b.kind b.table what with
    | ok q =>
      rw [hquery] at hrun
      exact .asked hrun
    | error fault =>
      rw [hquery, Builder.Draft.fault_eq hquery] at hrun
      exact .refused hrun
  | through i r calls what cls =>
    obtain ⟨hi, hrelation, hwhat, hlink, hcls⟩ := htakes
    have hr : Builder.Lived n r calls c := hs.stands _ (List.mem_of_getElem? hi)
    obtain ⟨h, hchanges, hrun⟩ := Builder.through_apply hr hrelation hwhat hlink hcls
    rw [handing]
    rcases hwhat with rfl | rfl <;> exact .through hchanges hrun
  | insert i p model =>
    obtain ⟨⟨t, given, skip, hi⟩, hlooked⟩ := htakes
    have hp : Prepared.Readied (n + 3) t given skip p c := hs.stands _ (List.mem_of_getElem? hi)
    exact .inserted (Prepared.execute_apply hp.keeps (n + 1) model hlooked)
  | create cls id l t factory =>
    obtain ⟨hcls, hleaves, hlink, hkept⟩ := htakes
    have hrun := Link.callMethod_create ⟨hcls, hleaves, hlink, hkept⟩ (n + 4) t factory
    obtain ⟨rest, hrest⟩ := Link.createModel_eq l.connection t
      (Link.attributeOf (machine (n + 4))) ((machine (n + 4)).call factory [] [])
    rw [hrest] at hrun
    rw [handing]
    cases hprepare : Inserter.prepare t .none false with
    | ok i =>
      rw [hprepare] at hrun
      exact .created hprepare hrun
    | error fault =>
      rw [hprepare] at hrun
      exact .uncreated hprepare hrun

end Step

/-- **What a whole run hands over.** -/
theorem Runs.hands {n : Nat} {steps : List (Step × Course State)} {c : Course State}
    (h : Runs n steps c) : ∀ x ∈ steps, Hands n x.1 x.2 x.1.handing := by
  induction steps generalizing c with
  | nil => exact fun _ hx => absurd hx List.not_mem_nil
  | cons x steps ih =>
    obtain ⟨hearlier, htakes⟩ := h.of_cons
    exact List.forall_mem_cons.2 ⟨Step.hands hearlier.stage htakes, ih hearlier⟩

/-! ### Two runs -/

/-- **Steps that differ in their values only.**  The objects have the same numbers; classes,
connections, models and places may be others. -/
def Step.Alike : Step → Step → Prop
  | make kind _ _ t, make kind' _ _ t' => kind = kind' ∧ t = t'
  | derive i _ _ kind _, derive i' _ _ kind' _ => i = i' ∧ kind = kind'
  | narrow i _ _ call _, narrow i' _ _ call' _ => i = i' ∧ call.Alike call'
  | ask i _ _ what, ask i' _ _ what' => i = i' ∧ what = what'
  | through i _ _ what _, through i' _ _ what' _ => i = i' ∧ what = what'
  | prepare _ _ t given skip _, prepare _ _ t' given' skip' _ =>
    t = t' ∧ given = given' ∧ skip = skip'
  | insert i _ _, insert i' _ _ => i = i'
  | create _ _ _ t _, create _ _ _ t' _ => t = t'
  | _, _ => False

section Pairs

variable {n n' : Nat} {things things' : List Thing} {c c' : Course State} {s s' : Step}

/-- Objects with one number are alike. -/
lemma alike_getElem? (h : List.Forall₂ Thing.Alike things things') {i : Nat} {x y : Thing}
    (hx : things[i]? = some x) (hy : things'[i]? = some y) : x.Alike y := by
  obtain ⟨hi, rfl⟩ := List.getElem?_eq_some_iff.1 hx
  obtain ⟨hi', rfl⟩ := List.getElem?_eq_some_iff.1 hy
  exact h.get hi hi'

lemma alike_set (h : List.Forall₂ Thing.Alike things things') {x y : Thing} (hxy : x.Alike y)
    (i : Nat) : List.Forall₂ Thing.Alike (things.set i x) (things'.set i y) := by
  induction h generalizing i with
  | nil => exact .nil
  | cons hhead htail ih =>
    cases i with
    | zero => exact .cons hxy htail
    | succ i => exact .cons hhead (ih i)

lemma alike_grow (h : List.Forall₂ Thing.Alike things things') {x y : Thing} (hxy : x.Alike y) :
    List.Forall₂ Thing.Alike (things ++ [x]) (things' ++ [y]) :=
  List.rel_append h (.cons hxy .nil)

namespace Step.Alike

/-- **The objects stay alike.** -/
lemma after (hs : s.Alike s') (hthings : List.Forall₂ Thing.Alike things things')
    (htakes : s.Takes things c n) (htakes' : s'.Takes things' c' n') (size size' : Nat) :
    List.Forall₂ Thing.Alike (s.after things size) (s'.after things' size') := by
  cases s <;> cases s' <;> first | exact hs.elim | skip
  case make.make =>
    refine alike_grow hthings ?_
    exact ⟨hs.1, hs.2, .nil⟩
  case derive.derive i r calls kind cls i' r' calls' kind' cls' =>
    obtain ⟨rfl, rfl⟩ := hs
    obtain ⟨-, htable, hcalls⟩ := alike_getElem? hthings htakes.1 htakes'.1
    refine alike_grow hthings ?_
    exact ⟨rfl, htable, hcalls⟩
  case narrow.narrow i b calls call arguments i' b' calls' call' arguments' =>
    obtain ⟨rfl, hcall⟩ : i = i' ∧ call.Alike call' := hs
    obtain ⟨hkind, htable, hcalls⟩ := alike_getElem? hthings htakes.1 htakes'.1
    refine alike_set hthings ?_ i
    exact ⟨hkind, htable, List.rel_append hcalls (.cons hcall .nil)⟩
  case prepare.prepare =>
    refine alike_grow hthings ?_
    exact hs
  all_goals exact hthings

/-- **What is handed over does not show the values.** -/
lemma handing_eq (hs : s.Alike s') (hthings : List.Forall₂ Thing.Alike things things')
    (hstage : Stage n things c) (hstage' : Stage n' things' c')
    (htakes : s.Takes things c n) (htakes' : s'.Takes things' c' n') : s.handing = s'.handing := by
  cases s <;> cases s' <;> first | exact hs.elim | rfl | skip
  case narrow.narrow i b calls call arguments i' b' calls' call' arguments' =>
    obtain ⟨rfl, hcall⟩ : i = i' ∧ call.Alike call' := hs
    obtain ⟨-, htable, -⟩ := alike_getElem? hthings htakes.1 htakes'.1
    rw [Step.handing, Step.handing, ← htable]
    exact congrArg Handing.nothing (hcall.isSome_adds b.table)
  case ask.ask i b calls what i' b' calls' what' =>
    obtain ⟨rfl, rfl⟩ := hs
    obtain ⟨hkind, htable, hcalls⟩ := alike_getElem? hthings htakes.1 htakes'.1
    rw [Step.handing, Step.handing, ← hkind, ← htable,
      (Builder.alike_draft hcalls b.table).shape_query]
  case through.through i r calls what cls i' r' calls' what' cls' =>
    obtain ⟨rfl, rfl⟩ := hs
    obtain ⟨-, htable, hcalls⟩ := alike_getElem? hthings htakes.1 htakes'.1
    rw [Step.handing, Step.handing, ← htable,
      (Builder.alike_draft hcalls r.table).shape_query]
  case insert.insert i p model i' p' model' =>
    obtain rfl : i = i' := hs
    obtain ⟨⟨t, given, skip, hi⟩, -⟩ := htakes
    obtain ⟨⟨t', given', skip', hi'⟩, -⟩ := htakes'
    obtain ⟨rfl, rfl, rfl⟩ := alike_getElem? hthings hi hi'
    have hp : Prepared.Readied (n + 3) t given skip p c := hstage.stands _ (List.mem_of_getElem? hi)
    have hp' : Prepared.Readied (n' + 3) t given skip p' c' :=
      hstage'.stands _ (List.mem_of_getElem? hi')
    have hinserter := Except.ok.inj (hp.prepare_eq.symm.trans hp'.prepare_eq)
    rw [Step.handing, Step.handing, hinserter]
  case create.create cls id l t factory cls' id' l' t' factory' =>
    obtain rfl : t = t' := hs
    rfl

end Step.Alike

/-- The objects of two runs that differ in their values only, and what the steps hand over. -/
lemma alike_runs {steps steps' : List (Step × Course State)} (hrun : Runs n steps c)
    (hrun' : Runs n' steps' c') (halike : List.Forall₂ (fun x y => x.1.Alike y.1) steps steps') :
    List.Forall₂ Thing.Alike (thingsOf steps) (thingsOf steps') ∧
      steps.map (·.1.handing) = steps'.map (·.1.handing) := by
  induction halike generalizing c c' with
  | nil => exact ⟨.nil, rfl⟩
  | @cons x y steps steps' hstep _ ih =>
    obtain ⟨hearlier, htakes⟩ := hrun.of_cons
    obtain ⟨hearlier', htakes'⟩ := hrun'.of_cons
    obtain ⟨hthings, hhandings⟩ := ih hearlier hearlier'
    refine ⟨hstep.after hthings htakes htakes' _ _, ?_⟩
    rw [List.map_cons, List.map_cons, hhandings,
      hstep.handing_eq hthings hearlier.stage hearlier'.stage htakes htakes']

/-- **Texts do not show values.**  Two runs make the same calls, step by step, and differ in the
values only: then there is one list of what their steps hand over, with the same texts and the same
numbers of values. -/
theorem texts_ignore_values {steps steps' : List (Step × Course State)} (hrun : Runs n steps c)
    (hrun' : Runs n' steps' c') (halike : List.Forall₂ (fun x y => x.1.Alike y.1) steps steps') :
    ∃ handings : List Handing,
      List.Forall₂ (fun x handing => Hands n x.1 x.2 handing) steps handings ∧
        List.Forall₂ (fun x handing => Hands n' x.1 x.2 handing) steps' handings := by
  have hands : ∀ {n : Nat} {steps : List (Step × Course State)} {c : Course State},
      Runs n steps c → List.Forall₂ (fun x handing => Hands n x.1 x.2 handing) steps
        (steps.map (·.1.handing)) := by
    intro n steps c h
    rw [List.forall₂_map_right_iff, List.forall₂_same]
    exact h.hands
  refine ⟨steps.map (·.1.handing), hands hrun, ?_⟩
  rw [(alike_runs hrun hrun' halike).2]
  exact hands hrun'

end Pairs

/-- Steps that are made one after the other, with nothing between them. -/
def played (n : Nat) (c : Course State) : List Step → List (Step × Course State) × Course State
  | [] => ([], c)
  | s :: earlier =>
    let (steps, d) := played n c earlier
    ((s, d) :: steps, (s.run n d).2)

lemma played_cons (n : Nat) (c : Course State) (s : Step) (earlier : List Step) :
    (played n c (s :: earlier)).2 = (s.run n (played n c earlier).2).2 := rfl

/-- Steps that make a run. -/
def Plays (n : Nat) (c : Course State) (steps : List Step) : Prop :=
  Runs n (played n c steps).1 (played n c steps).2

lemma Plays.cons {n : Nat} {c : Course State} {s : Step} {earlier : List Step}
    (h : Plays n c earlier)
    (htakes : s.Takes (thingsOf (played n c earlier).1) (played n c earlier).2 n)
    (hremote : s.isRemote = true → Untouched (thingsOf (played n c earlier).1) (played n c earlier).2
      (played n c (s :: earlier)).2) : Plays n c (s :: earlier) := h.step htakes rfl hremote

lemma alike_played {n n' : Nat} {c c' : Course State} {steps steps' : List Step}
    (h : List.Forall₂ Step.Alike steps steps') :
    List.Forall₂ (fun x y => x.1.Alike y.1) (played n c steps).1 (played n' c' steps').1 := by
  induction h with
  | nil => exact .nil
  | cons hstep _ ih => exact .cons hstep ih

namespace Board

open Builder (fresh)

/-- A connection that writes down what it is used for. -/
def recorder : Value := .object Recorder.cls 0

/-- The scores of two runs. -/
def scores : Bool → List Value
  | false => [.int 7, .int 8]
  | true => [.null, .text "%s'; --"]

/-- The session, with a model that has one of the scores. -/
def opening (second : Bool) : Course State :=
  start.withHeap (heap.push (.attributes [("score", (scores second).getD 1 .null)]))

def asker : Builder := fresh .selector selector recorder table 5

def insertion : Inserter where
  table := table
  given := .none
  skipAutoId := false
  policy := .none
  declaredOn := none
  columns := [score]
  text := "INSERT INTO \"board\" (\"score\") VALUES (%s)"

def writer : Prepared := ⟨.known "Inserter", 11, recorder, insertion⟩

/-- The condition that is asked for. -/
def among (second : Bool) : Builder.Call :=
  .condition "score_in" (asks (.among false)) (scores second)

/-- A selector is made. -/
def making : Step := .make .selector selector recorder table

/-- It gets its condition. -/
def narrowing (second : Bool) : Step :=
  .narrow 0 asker [] (among second) [.tuple (scores second)]

lemma takes_making (second : Bool) : making.Takes [] (opening second) 0 := by
  have hselector : ∀ id ∈ selector.places, id < heap.size ∧ id ∉ [] := by decide
  exact ⟨makes_selector.of_changes (.push _ _ _) hselector,
    fun _ hx => absurd hx List.not_mem_nil⟩

lemma changes_making (second : Bool) :
    Changes [] heap (played 0 (opening second) [making]).2.work.heap := by
  have hmade : making.run 0 (opening second) = _ :=
    Builder.call_class_apply (takes_making second).1 3 recorder table
  rw [played_cons, show (played 0 (opening second) []).2 = opening second from rfl, hmade]
  have hopened : Changes [] heap (opening second).work.heap := .push _ _ _
  exact hopened.trans ((opening second).work.heap.changes_grown _ _)

lemma takes_narrowing (second : Bool) :
    (narrowing second).Takes (thingsOf (played 0 (opening second) [making]).1)
      (played 0 (opening second) [making]).2 0 := by
  have hselector : ∀ id ∈ selector.places, id < heap.size ∧ id ∉ [] := by decide
  have hfirst : (thingsOf (played 0 (opening second) [making]).1)[0]? =
      some (.builder asker []) := rfl
  exact ⟨hfirst, ⟨has_in.of_changes (changes_making second) hselector (by decide),
    isCondition_in⟩, .tuple (scores second), rfl, rfl⟩

/-- The number of its scores is asked for. -/
def asking (second : Bool) : Step := .ask 0 asker [among second] .count

/-- An insertion is prepared. -/
def preparing : Step := .prepare (.known "Inserter") recorder table .none false insertion

/-- A score is inserted. -/
def inserting : Step := .insert 1 writer (.object (.model "Board") 4)

/-- All steps, the last one first. -/
def steps (second : Bool) : List Step :=
  [inserting, preparing, asking second, narrowing second, making]

/-- What is recorded leaves the objects alone. -/
lemma untouched_push {things : List Thing} {c d : Course State} {o : Stored}
    (hd : d.work.heap = c.work.heap.push o) : Untouched things c d := by
  refine ⟨[], ?_, fun x _ => x.apart_nil⟩
  rw [hd]
  exact .push _ _ _

/-- The steps up to the question. -/
lemma plays_asking (second : Bool) :
    Plays 0 (opening second) [asking second, narrowing second, making] := by
  have hmade : Plays 0 (opening second) [making] :=
    Plays.cons (.start (opening second)) (takes_making second) nofun
  have hnarrowed := hmade.cons (takes_narrowing second) nofun
  have hfirst : (thingsOf (played 0 (opening second) [narrowing second, making]).1)[0]? =
      some (.builder asker [among second]) := rfl
  have hlisted : (played 0 (opening second) [asking second, narrowing second, making]).2.work.heap =
      (played 0 (opening second) [narrowing second, making]).2.work.heap.push
        (.list (scores second)) := by
    cases second <;> rfl
  exact hnarrowed.cons (s := asking second) ⟨hfirst, by decide⟩ fun _ => untouched_push hlisted

/-- The steps up to the insertion. -/
lemma plays_preparing (second : Bool) :
    Plays 0 (opening second) [preparing, asking second, narrowing second, making] :=
  (plays_asking second).cons (s := preparing)
    ⟨⟨.library, fun _ hid => absurd hid List.not_mem_nil,
      fun _ _ _ hid => absurd hid List.not_mem_nil⟩, rfl,
      fun _ _ _ hid => absurd hid List.not_mem_nil⟩ nofun

lemma member_recorder (c : Course State) : (machine 4).member recorder "insert" c =
    (.ok (.function (.noting "insert")), c) := rfl

lemma second_preparing (second : Bool) : (thingsOf (played 0 (opening second)
    [preparing, asking second, narrowing second, making]).1)[1]? =
      some (.insertion writer table .none false) := by
  cases second <;> rfl

lemma heap_inserting (second : Bool) :
    (played 0 (opening second)
        [inserting, preparing, asking second, narrowing second, making]).2.work.heap =
      (played 0 (opening second)
        [preparing, asking second, narrowing second, making]).2.work.heap.push
          (.list [(scores second).getD 1 .null]) := by
  cases second <;> rfl

lemma takes_inserting (second : Bool) :
    inserting.Takes
      (thingsOf (played 0 (opening second) [preparing, asking second, narrowing second, making]).1)
      (played 0 (opening second) [preparing, asking second, narrowing second, making]).2 0 := by
  have hsecond := second_preparing second
  refine ⟨⟨table, .none, false, hsecond⟩, fun f d hmember => ?_⟩
  have hwriter : Prepared.Readied 3 table .none false writer _ :=
    (plays_preparing second).stage.stands _ (List.mem_of_getElem? hsecond)
  obtain ⟨-, rfl⟩ := Prod.mk.inj ((member_recorder _).symm.trans hmember)
  exact hwriter.keeps

/-- **A run with these steps.** -/
lemma plays (second : Bool) : Plays 0 (opening second) (steps second) := by
  unfold steps
  exact (plays_preparing second).cons (takes_inserting second)
    fun _ => untouched_push (heap_inserting second)

/-- **Texts do not show numbers, texts with marks in them, or values that are missing.** -/
theorem texts_ignore_values_board : ∃ handings : List Handing,
    List.Forall₂ (fun x handing => Hands 0 x.1 x.2 handing)
        (played 0 (opening false) (steps false)).1 handings ∧
      List.Forall₂ (fun x handing => Hands 0 x.1 x.2 handing)
        (played 0 (opening true) (steps true)).1 handings := by
  have hsteps : List.Forall₂ Step.Alike (steps false) (steps true) :=
    .cons rfl (.cons ⟨rfl, rfl, rfl⟩ (.cons ⟨rfl, rfl⟩ (.cons ⟨rfl, rfl, rfl, rfl⟩
      (.cons ⟨rfl, rfl⟩ .nil))))
  exact texts_ignore_values (plays false) (plays true) (alike_played hsteps)

end Board

end PgSchema.Object
