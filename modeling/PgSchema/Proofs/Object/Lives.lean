import PgSchema.Proofs.Object.Making

/-!
Builders from the call that makes them to the call at hand.

A builder is made by a call of its class, or derived from a relation.  Then come the calls that
narrow it, in any number, and anything else may happen in between as long as it leaves the builder
alone (`Lived`).  All that the builder keeps by then is what these calls have put in
(`Lived.holds`).
-/

namespace PgSchema.Object.Builder

open Session (machine)

/-- What is changed is none of the builder's things. -/
def Apart (b : Builder) (owned : List Nat) : Prop :=
  (∀ id ∈ b.owned, id ∉ owned) ∧ ∀ id ∈ b.cls.places, id ∉ owned

/-- **A builder that has got calls**, up to a course of work.  One that was derived from a relation
has got the calls of the relation first. -/
inductive Lived (n : Nat) : Builder → List Call → Course State → Prop
  | made {kind : Kind} {cls : Class} {connection : Value} {t : Table} {c d : Course State}
      (hcls : cls.Makes c.work.heap kind)
      (hrun : (machine (n + 5)).call (.cls cls) [connection, .table t] [] c =
        (.ok (fresh kind cls connection t c.work.heap.size).value, d)) :
      Lived n (fresh kind cls connection t c.work.heap.size) [] d
  | derived {r : Builder} {calls : List Call} {kind : Kind} {cls : Class} {c d : Course State}
      (hr : Lived n r calls c) (hrelation : r.kind = .relation) (hkind : kind ≠ .relation)
      (hlink : r.cls.Hands c.work.heap kind cls) (hcls : cls.Makes c.work.heap kind)
      (hrun : (machine (n + 5)).callMethod r.value kind.word [] c =
        (.ok (fresh kind cls r.connection r.table c.work.heap.size).value, d)) :
      Lived n (fresh kind cls r.connection r.table c.work.heap.size) calls d
  | called {b : Builder} {calls : List Call} {c d : Course State} {call : Call}
      {arguments : List Value} {r : Except Failure Value} (hb : Lived n b calls c)
      (hfits : call.Fits b c.work.heap) (hgiven : call.Given c.work.heap arguments)
      (hrun : (machine (n + 5)).callMethod b.value call.name arguments c = (r, d)) :
      Lived n b (calls ++ [call]) d
  | meanwhile {b : Builder} {calls : List Call} {c d : Course State} {owned : List Nat}
      (hb : Lived n b calls c) (hchanges : Changes owned c.work.heap d.work.heap)
      (hapart : b.Apart owned) : Lived n b calls d

/-- A call that a builder of the kind can get. -/
def Call.Suits (k : Kind) : Call → Prop
  | .order .. | .bound .. => k = .selector
  | .assign .. => k = .updater
  | _ => True

namespace Lived

variable {n : Nat} {b : Builder} {calls : List Call} {c : Course State}

/-- A builder only gets calls that it takes: of its own kind, or of relations. -/
lemma fitted (h : Lived n b calls c) : ∀ call ∈ calls, ∃ (b' : Builder) (heap : Heap)
    (arguments : List Value), b'.table = b.table ∧ (b'.kind = b.kind ∨ b'.kind = .relation) ∧
      call.Fits b' heap ∧ call.Given heap arguments := by
  induction h with
  | made => exact fun _ hcall => absurd hcall List.not_mem_nil
  | derived _ hrelation _ _ _ _ ih =>
    intro call hcall
    obtain ⟨b', heap, arguments, htable, hkind, hfits, hgiven⟩ := ih call hcall
    exact ⟨b', heap, arguments, htable, .inr (hkind.elim (·.trans hrelation) fun h => h), hfits,
      hgiven⟩
  | @called b calls c d call arguments r hb hfits hgiven hrun ih =>
    refine List.forall_mem_append.2 ⟨ih, List.forall_mem_singleton.2 ?_⟩
    exact ⟨b, c.work.heap, arguments, rfl, .inl rfl, hfits, hgiven⟩
  | meanwhile _ _ _ ih => exact ih

/-- What a builder gets suits its kind. -/
lemma suits (h : Lived n b calls c) : ∀ call ∈ calls, call.Suits b.kind := by
  intro call hcall
  obtain ⟨b', heap, arguments, -, hkind, hfits, -⟩ := h.fitted call hcall
  have hsuits : call.Suits b'.kind := by cases call <;> first | exact trivial | exact hfits
  rcases hkind with hkind | hkind
  · rwa [hkind] at hsuits
  · -- a relation gets predicates only, and these suit every builder
    rw [hkind] at hsuits
    cases call <;> first | exact trivial | exact Kind.noConfusion hsuits

/-- What suits a relation puts predicates in, and nothing else. -/
lemma clause_of_mem_draft {t : Table} (hcalls : ∀ call ∈ calls, call.Suits .relation) :
    ∀ x ∈ draft t calls, ∃ text values, x.2 = .clause text values := by
  intro x hx
  obtain ⟨call, hmem, hentry⟩ := exists_of_mem_draft hx
  have hsuits := hcalls call hmem
  cases call with
  | condition | filter | among => exact ⟨_, _, (Option.some.inj hentry).symm⟩
  | order | assign | bound => exact Kind.noConfusion hsuits

/-- What a relation keeps is what it hands on. -/
lemma started_draft {t : Table} (hcalls : ∀ call ∈ calls, call.Suits .relation) :
    started ((draft t calls).kept .clauses) ((draft t calls).kept .bindings) =
      (draft t calls).kept ∧ unbounded = (draft t calls).bounds := by
  have hclauses := clause_of_mem_draft (t := t) hcalls
  have hnone : ∀ p, p = .order ∨ p = .assignments → (draft t calls).kept p = [] := by
    intro p hp
    refine List.flatMap_eq_nil_iff.2 fun x hx => ?_
    obtain ⟨text, values, hentry⟩ := hclauses x hx
    rw [hentry]
    obtain rfl | rfl := hp <;> rfl
  have hbound : ∀ e, (draft t calls).bound? e = none := by
    intro e
    refine List.getLast?_eq_none_iff.2 (Draft.pick_eq_nil fun x hx => ?_)
    obtain ⟨text, values, hentry⟩ := hclauses x hx
    rw [hentry]
    rfl
  refine ⟨funext fun p => ?_, funext fun e => ?_⟩
  · cases p with
    | clauses | bindings => rfl
    | order => exact (hnone .order (.inl rfl)).symm
    | assignments => exact (hnone .assignments (.inr rfl)).symm
  · rw [Draft.bounds, hbound]
    rfl

/-- **A builder keeps what its calls have put in.** -/
theorem holds (h : Lived n b calls c) : b.Holds c.work.heap (draft b.table calls) := by
  induction h with
  | @made kind cls connection t c d hcls hrun =>
    rw [call_class_apply hcls] at hrun
    obtain rfl := congrArg Prod.snd hrun
    have hstarted : started [] [] = Draft.kept [] := funext fun p => by cases p <;> rfl
    have hkeeps : (fresh kind cls connection t c.work.heap.size).Keeps _ (started [] [])
      unbounded := keeps_planted hcls
    rw [hstarted] at hkeeps
    exact hkeeps
  | @derived r calls kind cls c d hr hrelation hkind hlink hcls hrun ih =>
    rw [derive_apply ih hrelation hkind hlink hcls] at hrun
    obtain rfl := congrArg Prod.snd hrun
    have hsuits := hr.suits
    rw [hrelation] at hsuits
    obtain ⟨hkept, hbounds⟩ := started_draft (t := r.table) hsuits
    have hkeeps : (fresh kind cls r.connection r.table c.work.heap.size).Keeps _
      (started ((draft r.table calls).kept .clauses) ((draft r.table calls).kept .bindings))
      unbounded := keeps_planted hcls
    rw [hkept, hbounds] at hkeeps
    exact hkeeps
  | @called b calls c d call arguments r hb hfits hgiven hrun ih =>
    obtain ⟨r', -, heap, hturns, -, hkeeps⟩ := turns_call ih hfits hgiven n calls.length
    rw [hrun] at hturns
    obtain rfl := congrArg Prod.snd hturns
    rw [draft_snoc]
    exact hkeeps
  | meanwhile _ hchanges hapart ih => exact ih.of_changes hchanges hapart.1 hapart.2

end Lived

end PgSchema.Object.Builder

namespace PgSchema.Object

open Session (machine)

/-! ### Classes stay -/

section Classes

variable {owned : List Nat} {h h' : Heap} {cls : Class}

/-- What a class has depends on its members only. -/
lemma classMember?_congr (hplaces : ∀ id ∈ cls.places, h'.attributes id = h.attributes id)
    (name : String) : classMember? h' cls name = classMember? h cls name := by
  induction cls with
  | known title =>
    unfold classMember? Class.lineage
    split
    · rfl
    · cases Class.bases.lookup title <;> rfl
  | model => rfl
  | made title base members ih =>
    obtain ⟨hmembers, hbase⟩ := List.forall_mem_cons.1 hplaces
    have hown : ownMember? h' name (.made title base members) =
        ownMember? h name (.made title base members) := by
      rw [ownMember?, hmembers]
      rfl
    have hlater := ih hbase
    unfold classMember? at hlater ⊢
    rw [Class.lineage, List.findSome?_cons, List.findSome?_cons, hown, hlater]

/-- The members of a class are not changed by what changes other things. -/
lemma Changes.attributes_eq (hc : Changes owned h h') {id : Nat} (hid : id < h.size)
    (hnot : id ∉ owned) : h'.attributes id = h.attributes id := by
  rw [Heap.attributes, Heap.attributes, hc.others id hid hnot]

namespace Class

variable (hc : Changes owned h h') (hplaces : ∀ id ∈ cls.places, id < h.size ∧ id ∉ owned)

include hc hplaces

lemma Makes.of_changes {k : Kind} (hcls : cls.Makes h k) : cls.Makes h' k where
  isKind := hcls.isKind
  there id hid := Nat.lt_of_lt_of_le (hcls.there id hid) hc.size
  leaves name hname id hid := by
    rw [hc.attributes_eq (hplaces id hid).1 (hplaces id hid).2]
    exact hcls.leaves name hname id hid

lemma Hands.of_changes {k : Kind} {other : Class} (hcls : cls.Hands h k other) :
    cls.Hands h' k other := by
  obtain ⟨found, hfound, hwhich⟩ := hcls
  have hsame := classMember?_congr fun id hid =>
    hc.attributes_eq (hplaces id hid).1 (hplaces id hid).2
  exact ⟨found, (hsame _).trans hfound, hwhich⟩

/-- **A condition stays a method of a class**, as long as no function is changed. -/
lemma Has.of_changes (hfunctions : ∀ id ∈ owned, h.definition? id = none) {name : String}
    {s : Codegen.Statement} (hhas : cls.Has h name s) : cls.Has h' name s := by
  obtain ⟨id, d, parameter, hfound, hid, hd⟩ := hhas
  have hsame := classMember?_congr fun id hid =>
    hc.attributes_eq (hplaces id hid).1 (hplaces id hid).2
  have hlt : id < h.size := by
    by_contra hge
    rw [Heap.definition?, Array.getElem?_eq_none (Nat.not_lt.1 hge)] at hid
    cases hid
  have hnot : id ∉ owned := by
    intro hmem
    rw [hfunctions id hmem] at hid
    cases hid
  refine ⟨id, d, parameter, (hsame name).trans hfound, ?_, hd⟩
  rw [Heap.definition?, hc.others id hlt hnot]
  exact hid

end Class

end Classes

/-! ### A board of scores -/

namespace Board

open Builder
open Codegen (Test)

/-- The scores, as whole numbers. -/
def score : Column := ⟨"score", "score", .int, false, true, false, false, .none⟩

/-- A table of scores. -/
def table : Table where
  name := "board"
  columns := [score]
  modelName := "Board"
  modelModule := ""
  relationName := "BoardRelation"
  selectorName := "BoardSelector"
  updaterName := "BoardUpdater"
  deleterName := "BoardDeleter"
  inserterName := "BoardInserter"
  createStatement := ""
  indexStatements := []

/-- The statement of a condition on the scores. -/
def asks (test : Test) : Codegen.Statement := test.statement score

/-- The function of a condition with a parameter. -/
def function (name parameter : String) (test : Test) : Definition where
  callee := "Board." ++ name
  name
  doc := .null
  placed := 0
  parameters := [("self", none), (parameter, none)]
  rest := none
  named := []
  more := none
  body := (given? parameter (asks test)).toList.map fun e => .give (some e)

def selector : Class := .made "BoardSelector" (.known "Selector") 2

def relation : Class := .made "BoardRelation" (.known "Relation") 3

/-- The conditions of both classes. -/
def members : Entries Value :=
  [("score_gt", .function (.defined 0)), ("score_in", .function (.defined 1))]

/-- The heap of a module with a class of selectors and one of relations. -/
def heap : Heap :=
  #[.definition (function "score_gt" "score" (.compare .gt)),
    .definition (function "score_in" "values" (.among false)),
    .attributes members, .attributes (("selector_class", .cls selector) :: members)]

/-- A session with the module. -/
def start : Course State where
  work :=
    { world := ⟨[table], ⟨⟨[], none⟩, ⟨"2026-10-19", "00:00:00"⟩, []⟩⟩
      heap }

/-- The calls: a score above a value, and one of several. -/
def calls (v : Value) (values : List Value) : List Builder.Call :=
  [.condition "score_gt" (asks (.compare .gt)) [v],
    .condition "score_in" (asks (.among false)) values]

lemma isCondition_gt : Builder.Call.IsCondition table "score_gt" (asks (.compare .gt)) := by
  refine ⟨"", Codegen.comparison (Codegen.targetText table "") score .gt, ?_, rfl, rfl⟩
  decide

lemma isCondition_in : Builder.Call.IsCondition table "score_in" (asks (.among false)) := by
  refine ⟨"", Codegen.membership (Codegen.targetText table "") score false, ?_, rfl, rfl⟩
  decide

lemma has_gt : relation.Has heap "score_gt" (asks (.compare .gt)) :=
  ⟨0, _, "score", rfl, rfl, rfl, rfl, rfl, rfl, by decide, _, rfl, rfl⟩

lemma has_in : selector.Has heap "score_in" (asks (.among false)) :=
  ⟨1, _, "values", rfl, rfl, rfl, rfl, rfl, rfl, by decide, _, rfl, rfl⟩

lemma makes_relation : relation.Makes heap .relation where
  isKind := .module .library _ _
  there := by decide
  leaves := by
    intro name hname id hid
    obtain rfl := List.mem_singleton.1 hid
    revert name
    decide

lemma makes_selector : selector.Makes heap .selector where
  isKind := .module .library _ _
  there := by decide
  leaves := by
    intro name hname id hid
    obtain rfl := List.mem_singleton.1 hid
    revert name
    decide

lemma hands_selector : relation.Hands heap .selector selector :=
  ⟨.defined (.cls selector), rfl, .inl rfl⟩

/-- **A selector that was derived from a relation with a condition**, and has got another one. -/
theorem lived (v : Value) (values : List Value) : ∃ b c, b.kind = .selector ∧ b.table = table ∧
    b.connection = .null ∧ Lived 0 b (calls v values) c := by
  have hrelation : ∀ id ∈ relation.places, id < heap.size ∧ id ∉ [] := by decide
  have hselector : ∀ id ∈ selector.places, id < heap.size ∧ id ∉ [] := by decide
  -- the relation is made, and the module stays as it is
  let r := fresh .relation relation .null table 4
  have hmade := call_class_apply (c := start) makes_relation 3 .null table
  have hlived : Lived 0 r [] _ := .made makes_relation hmade
  have hgrown : Changes [] heap _ := heap.changes_grown (r.attributes unbounded)
    (r.kind.parts.map (started [] []))
  -- it gets its condition
  let call : Builder.Call := .condition "score_gt" (asks (.compare .gt)) [v]
  have hfits : call.Fits r _ := ⟨has_gt.of_changes hgrown hrelation (by decide), isCondition_gt⟩
  have hgiven : ∀ h : Heap, call.Given h [v] := fun _ => ⟨v, rfl, rfl⟩
  obtain ⟨result, -, h, hrun, hchanges, hkeeps⟩ := turns_call hlived.holds hfits (hgiven _) 0 0
  have hgot : Lived 0 r [call] _ := hlived.called hfits (hgiven _) hrun
  have hstays : Changes [] heap h := hgrown.fresh hchanges fun i hi => by
    revert i
    decide
  -- the selector is derived and gets its own
  have hlink := hands_selector.of_changes hstays hrelation
  have hcls := makes_selector.of_changes hstays hselector
  have hderived := Lived.derived hgot rfl (by decide) hlink hcls
    (derive_apply hkeeps rfl (by decide) hlink hcls 1)
  let call' : Builder.Call := .condition "score_in" (asks (.among false)) values
  have hgiven' : ∀ h : Heap, call'.Given h [.tuple values] :=
    fun _ => ⟨.tuple values, rfl, rfl⟩
  refine ⟨_, _, rfl, rfl, rfl,
    hderived.called (show call'.Fits _ _ from ⟨?_, isCondition_in⟩) (hgiven' _) rfl⟩
  exact has_in.of_changes (hstays.trans (h.changes_grown _ _)) hselector (by decide)

end Board

end PgSchema.Object
