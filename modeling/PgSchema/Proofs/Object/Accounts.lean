import Mathlib.Data.List.Induction
import PgSchema.Proofs.Object.Connections

/-!
Accounts of builders.

An account of a program tells which builders it has made, what each of them began with, and which
calls have been made on it since (`Account`).  Builders that keep what the account tells go on to do
so when others are made (`Kept.grow`), when one of them gets a call (`Kept.turn`), and when anything
else is done that changes nothing that is there (`Kept.later`).
-/

namespace PgSchema.Object

open Builder (Draft draft fresh started unbounded)

/-! ### What is handed on -/

namespace Builder

/-- What a draft hands on to the builders that are derived: its predicates. -/
def Draft.predicates (d : Draft) : Draft := d.filter (·.2.clause?.isSome)

variable (d : Draft)

lemma Draft.kept_predicates : d.predicates.kept = started (d.kept .clauses) (d.kept .bindings) := by
  funext p
  unfold Draft.predicates
  induction d with
  | nil => cases p <;> rfl
  | cons x d ih =>
    obtain ⟨i, e⟩ := x
    cases e <;> cases p <;> simp_all [Draft.kept_cons, Entry.clause?, Entry.items, started]

lemma Draft.bounded_predicates : d.predicates.Bounded := by
  intro x hx e hcount
  have hclause := (List.mem_filter.1 hx).2
  obtain ⟨i, entry⟩ := x
  cases entry with
  | clause => cases hcount
  | _ => cases hclause

lemma Draft.bounds_predicates : d.predicates.bounds = unbounded := by
  funext e
  have hnone : d.predicates.bound? e = none := by
    refine List.getLast?_eq_none_iff.2 (List.filterMap_eq_nil_iff.2 fun x hx => ?_)
    have hclause := (List.mem_filter.1 hx).2
    obtain ⟨i, entry⟩ := x
    cases entry with
    | clause => rfl
    | _ => cases hclause
  rw [Draft.bounds, hnone]
  rfl

variable {d} {c : Course State}

/-- The items that a call adds to a list. -/
def Call.items (t : Table) (p : Part) (call : Call) : List Value :=
  ((call.adds? t).map (·.items p)).getD []

/-- Calls put their items in, one after the other. -/
lemma kept_draft (t : Table) (p : Part) (calls : List Call) :
    (draft t calls).kept p = calls.flatMap (Call.items t p) := by
  induction calls using List.reverseRecOn with
  | nil => rfl
  | append_singleton calls call ih =>
    rw [draft_snoc, List.flatMap_append, List.flatMap_singleton, ← ih, Call.items]
    cases call.adds? t with
    | none => simp
    | some entry => exact Draft.kept_snoc _ _ _

/-- **A builder that is made from predicates** keeps them. -/
lemma holds_planted {h : Heap} {k : Kind} {cls : Class} (hcls : cls.Makes h k) (connection : Value)
    (t : Table) :
    let b := fresh k cls connection t h.size
    b.Holds (planted h b (d.kept .clauses) (d.kept .bindings)) d.predicates := by
  intro b
  have hkeeps : b.Keeps (planted h b (d.kept .clauses) (d.kept .bindings))
      (started (d.kept .clauses) (d.kept .bindings)) unbounded := keeps_planted hcls
  unfold Holds
  rwa [Draft.kept_predicates, Draft.bounds_predicates]

end Builder

/-! ### Accounts -/

/-- A builder of a program, with what it began with. -/
structure Begun where
  builder : Builder
  origin : Draft

/-- **What a program has done to builders**: those that it has made, in order, the registers that
hold them by their numbers, and the calls that were made on them, each with the number. -/
structure Account where
  members : List Begun := []
  names : String → Option Nat := fun _ => none
  log : List (Nat × Builder.Call) := []

namespace Account

/-- The calls that were made on a builder. -/
def calls (a : Account) (i : Nat) : List Builder.Call :=
  a.log.filterMap fun x => if x.1 = i then some x.2 else none

/-- **All that was put into a builder**: what it began with, and what its calls have added. -/
def draft (a : Account) (i : Nat) (m : Begun) : Draft :=
  m.origin ++ Builder.draft m.builder.table (a.calls i)

/-- **Builders that keep what the account tells**, on a heap that has grown from another.  No two of
them have anything in common, and all that they own is new. -/
structure Kept (base : Heap) (a : Account) (h : Heap) : Prop where
  grown : Changes [] base h
  holds : ∀ (i : Nat) (m : Begun), a.members[i]? = some m → m.builder.Holds h (a.draft i m)
  bounded : ∀ m ∈ a.members, m.origin.Bounded
  above : ∀ m ∈ a.members, ∀ id ∈ m.builder.owned, base.size ≤ id
  below : ∀ m ∈ a.members, ∀ id ∈ m.builder.cls.places, id < base.size
  apart : ∀ (i j : Nat) (m m' : Begun), i ≠ j → a.members[i]? = some m → a.members[j]? = some m' →
    ∀ id ∈ m.builder.owned, id ∉ m'.builder.owned
  logged : ∀ x ∈ a.log, x.1 < a.members.length

variable {a : Account} {base h h' : Heap} {i : Nat} {m : Begun} {call : Builder.Call}

lemma calls_snoc_self : ({ a with log := a.log ++ [(i, call)] } : Account).calls i =
    a.calls i ++ [call] := by simp [calls]

lemma calls_snoc_ne {j : Nat} (hne : j ≠ i) :
    ({ a with log := a.log ++ [(i, call)] } : Account).calls j = a.calls j := by
  simp [calls, Ne.symm hne]

/-- A call adds its entry at the end. -/
lemma draft_snoc : ({ a with log := a.log ++ [(i, call)] } : Account).draft i m =
    a.draft i m ++ ((call.adds? m.builder.table).map ((a.calls i).length, ·)).toList := by
  unfold draft
  rw [calls_snoc_self, Builder.draft_snoc, List.append_assoc]

lemma kept_draft (p : Part) : (a.draft i m).kept p =
    m.origin.kept p ++ (a.calls i).flatMap (Builder.Call.items m.builder.table p) := by
  rw [← Builder.kept_draft]
  exact List.flatMap_append

namespace Kept

variable (hk : a.Kept base h)

include hk

lemma bounded_draft (hi : a.members[i]? = some m) : (a.draft i m).Bounded := fun x hx e =>
  (List.mem_append.1 hx).elim (fun hx => hk.bounded m (List.mem_of_getElem? hi) x hx e)
    fun hx => Builder.bounded_draft _ _ x hx e

/-- New things do not matter to builders. -/
lemma later (hc : Changes [] h h') : a.Kept base h' where
  grown := hk.grown.trans hc
  holds i m hi := (hk.holds i m hi).of_changes hc (fun _ _ => List.not_mem_nil)
    fun _ _ => List.not_mem_nil
  bounded := hk.bounded
  above := hk.above
  below := hk.below
  apart := hk.apart
  logged := hk.logged

/-- **Another builder is made.** -/
lemma grow (hc : Changes [] h h') (hholds : m.builder.Holds h' m.origin)
    (hbounded : m.origin.Bounded) (habove : ∀ id ∈ m.builder.owned, h.size ≤ id)
    (hbelow : ∀ id ∈ m.builder.cls.places, id < base.size) :
    ({ a with members := a.members ++ [m] } : Account).Kept base h' := by
  have hlater := hk.later hc
  have hwhich : ∀ {i : Nat} {x : Begun}, (a.members ++ [m])[i]? = some x →
      a.members[i]? = some x ∨ i = a.members.length ∧ x = m := by
    intro i x hx
    rw [List.getElem?_append] at hx
    split at hx
    · exact .inl hx
    · rename_i hlt
      obtain ⟨hi, rfl⟩ := List.getElem?_eq_some_iff.1 hx
      rw [List.length_singleton] at hi
      exact .inr ⟨by omega, List.getElem_singleton _⟩
  have hnone : a.calls a.members.length = [] := by
    refine List.filterMap_eq_nil_iff.2 fun x hx => if_neg ?_
    exact Nat.ne_of_lt (hk.logged x hx)
  -- what the old ones own lies below what the new one owns
  have hold : ∀ {i : Nat} {x : Begun}, a.members[i]? = some x →
      ∀ id ∈ x.builder.owned, id < h.size := fun hi => (hk.holds _ _ hi).lt_size
  refine ⟨hlater.grown, fun i x hi => ?_, List.forall_mem_append.2 ⟨hk.bounded, ?_⟩,
    List.forall_mem_append.2 ⟨hk.above, ?_⟩, List.forall_mem_append.2 ⟨hk.below, ?_⟩,
    fun i j x y hne hi hj id hid hmem => ?_, fun x hx => ?_⟩
  · rcases hwhich hi with hi | ⟨rfl, rfl⟩
    · exact hlater.holds i x hi
    · change x.builder.Holds h' (x.origin ++ Builder.draft _ (a.calls a.members.length))
      rw [hnone]
      exact (List.append_nil x.origin).symm ▸ hholds
  · exact List.forall_mem_singleton.2 hbounded
  · exact List.forall_mem_singleton.2 fun id hid =>
      Nat.le_trans hk.grown.size (habove id hid)
  · exact List.forall_mem_singleton.2 hbelow
  · rcases hwhich hi with hfirst | ⟨rfl, rfl⟩ <;> rcases hwhich hj with hsecond | ⟨rfl, rfl⟩
    · exact hk.apart i j x y hne hfirst hsecond id hid hmem
    · exact absurd (habove id hmem) (Nat.not_le.2 (hold hfirst id hid))
    · exact absurd (habove id hid) (Nat.not_le.2 (hold hsecond id hmem))
    · exact hne rfl
  · rw [List.length_append]
    exact Nat.lt_add_right _ (hk.logged x hx)

/-- **One of the builders is changed**, and the others are not told of it. -/
lemma turn (hi : a.members[i]? = some m) (hc : Changes m.builder.owned h h')
    (log : List (Nat × Builder.Call)) (hlogged : ∀ x ∈ log, x.1 < a.members.length)
    (hholds : m.builder.Holds h' (({ a with log } : Account).draft i m))
    (hothers : ∀ j, j ≠ i → ({ a with log } : Account).calls j = a.calls j) :
    ({ a with log } : Account).Kept base h' where
  grown := hk.grown.fresh hc fun id hid => .inr (hk.above m (List.mem_of_getElem? hi) id hid)
  holds j x hj := by
    by_cases hne : j = i
    · subst hne
      obtain rfl := Option.some.inj (hi.symm.trans hj)
      exact hholds
    · unfold draft
      rw [hothers j hne]
      refine (hk.holds j x hj).of_changes hc (hk.apart j i x m hne hj hi) fun id hid hmem => ?_
      exact absurd (hk.above m (List.mem_of_getElem? hi) id hmem)
        (Nat.not_le.2 (hk.below x (List.mem_of_getElem? hj) id hid))
  bounded := hk.bounded
  above := hk.above
  below := hk.below
  apart := hk.apart
  logged := hlogged

end Kept

end Account

end PgSchema.Object
