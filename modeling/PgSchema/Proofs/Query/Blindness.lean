import Mathlib.Data.List.Forall2
import Mathlib.Data.Option.Basic
import PgSchema.Proofs.Object.Asking

/-!
Statements do not show values.

Two runs that differ only in the values that they give (`Call.Alike`) put the same texts together,
and hand them to their connections at the same places.  What differs goes behind the text, in a list
that is as long in both.
-/

namespace PgSchema.Object.Builder

open Query (Bound Conditions Selector Updater)

/-! ### What two runs have in common -/

/-- **Calls that differ in their values only.**  Collections are of one length, and a number of rows
is accepted in both runs, or in none. -/
def Call.Alike : Call → Call → Prop
  | .condition name s values, .condition name' s' values' =>
    name = name' ∧ s = s' ∧ values.length = values'.length
  | .filter clause values, .filter clause' values' =>
    clause = clause' ∧ values.length = values'.length
  | .among negated column values, .among negated' column' values' =>
    negated = negated' ∧ column = column' ∧ values.length = values'.length
  | .order column descending, .order column' descending' =>
    column = column' ∧ descending = descending'
  | .assign column _, .assign column' _ => column = column'
  | .bound e count, .bound e' count' => e = e' ∧
    (Selector.bound e.text count).toOption.isSome = (Selector.bound e.text count').toOption.isSome
  | _, _ => False

/-- Entries that differ in their values only. -/
def Entry.Alike : Entry → Entry → Prop
  | .clause text values, .clause text' values' => text = text' ∧ values.length = values'.length
  | .order text, .order text' => text = text'
  | .assignment column _, .assignment column' _ => column = column'
  | .bound e _, .bound e' _ => e = e'
  | _, _ => False

/-- **What is put in differs in its values only.** -/
lemma Call.Alike.adds {call call' : Call} (h : call.Alike call') (t : Table) :
    Option.Rel Entry.Alike (call.adds? t) (call'.adds? t) := by
  have hfound : ∀ {found : Option Column} {f f' : Column → Entry}, (∀ x, (f x).Alike (f' x)) →
      Option.Rel Entry.Alike (found.map f) (found.map f') := by
    intro found f f' hf
    cases found with
    | none => exact .none
    | some x => exact .some (hf x)
  cases call <;> cases call' <;> first | exact h.elim | skip
  case condition.condition =>
    obtain ⟨-, rfl, hlength⟩ := h
    exact .some ⟨by rw [hlength], hlength⟩
  case filter.filter => exact .some h
  case among.among =>
    obtain ⟨rfl, rfl, hlength⟩ := h
    exact .some ⟨by rw [hlength], hlength⟩
  case order.order =>
    obtain ⟨rfl, rfl⟩ := h
    exact hfound fun _ => rfl
  case assign.assign column x column' x' =>
    obtain rfl : column = column' := h
    exact hfound fun _ => rfl
  case bound.bound e count e' count' =>
    obtain ⟨rfl, hsome⟩ := h
    change Option.Rel _ (Option.map _ _) (Option.map _ _)
    revert hsome
    cases (Selector.bound e.text count).toOption <;>
      cases (Selector.bound e.text count').toOption <;> intro hsome
    · exact .none
    · cases hsome
    · cases hsome
    · exact .some rfl

/-- A call is accepted whatever its values are. -/
lemma Call.Alike.isSome_adds {call call' : Call} (h : call.Alike call') (t : Table) :
    (call.adds? t).isSome = (call'.adds? t).isSome := by
  have hadds := h.adds t
  revert hadds
  generalize call.adds? t = x, call'.adds? t = y
  rintro (_ | _) <;> rfl

/-- A reading of entries that their values do not change. -/
lemma map_pick_alike {α γ : Type} {calls calls' : List Call}
    (hcalls : List.Forall₂ Call.Alike calls calls') (t : Table) {f : Entry → Option α}
    {g : α → γ} (hf : ∀ e e' : Entry, e.Alike e' → (f e).map g = (f e').map g) :
    ((draft t calls).pick f).map (fun x => g x.2) =
      ((draft t calls').pick f).map fun x => g x.2 := by
  have hpicked : ∀ calls, ((draft t calls).pick f).map (fun x => g x.2) =
      calls.filterMap fun call => ((call.adds? t).bind f).map g := by
    intro calls
    have hmap := congrArg (List.map g) (map_pick_draft t calls f)
    rwa [List.map_map, List.map_filterMap] at hmap
  have hsame : ∀ {x y : Option Entry}, Option.Rel Entry.Alike x y →
      (x.bind f).map g = (y.bind f).map g := by
    rintro _ _ (⟨halike⟩ | _)
    · exact hf _ _ halike
    · rfl
  rw [hpicked, hpicked]
  induction hcalls with
  | nil => rfl
  | cons hcall _ ih =>
    rw [List.filterMap_cons, List.filterMap_cons, hsame (hcall.adds t), ih]

/-! ### Drafts -/

namespace Draft

/-- **Drafts that differ in their values only.** -/
structure Alike (d d' : Draft) : Prop where
  clauses : d.conditions.clauses = d'.conditions.clauses
  bindings : d.conditions.bindings.length = d'.conditions.bindings.length
  order : (d.pick Entry.order?).map (·.2) = (d'.pick Entry.order?).map (·.2)
  columns : (d.pick Entry.assignment?).map (·.2.1) = (d'.pick Entry.assignment?).map (·.2.1)
  bounds : ∀ e, (d.bound? e).isSome = (d'.bound? e).isSome

end Draft

/-- **Calls that differ in their values only leave such drafts.** -/
lemma alike_draft {calls calls' : List Call} (hcalls : List.Forall₂ Call.Alike calls calls')
    (t : Table) : (draft t calls).Alike (draft t calls') := by
  have hclause : ∀ e e' : Entry, e.Alike e' →
      e.clause?.map (fun x => (x.1, x.2.length)) = e'.clause?.map fun x => (x.1, x.2.length) := by
    intro e e' h
    cases e <;> cases e' <;> first | exact h.elim | rfl | skip
    obtain ⟨rfl, hlength⟩ := h
    exact congrArg (fun n => some (_, n)) hlength
  have horder : ∀ e e' : Entry, e.Alike e' →
      e.order?.map (fun text => text) = e'.order?.map fun text => text := by
    intro e e' h
    cases e <;> cases e' <;> first | exact h.elim | rfl | exact congrArg some h
  have hcolumn : ∀ e e' : Entry, e.Alike e' →
      e.assignment?.map (·.1) = e'.assignment?.map (·.1) := by
    intro e e' h
    cases e <;> cases e' <;> first | exact h.elim | rfl | exact congrArg some h
  have hbound : ∀ edge, ∀ e e' : Entry, e.Alike e' →
      (e.count? edge).map (fun _ => ()) = (e'.count? edge).map fun _ => () := by
    intro edge e e' h
    cases e <;> cases e' <;> first | exact h.elim | rfl | skip
    rename_i which count which' count'
    obtain rfl : which = which' := h
    by_cases hedge : which = edge
    · rw [Entry.count?, Entry.count?, if_pos hedge, if_pos hedge]
      rfl
    · rw [Entry.count?, Entry.count?, if_neg hedge, if_neg hedge]
  have hclauses := map_pick_alike hcalls t hclause
  refine ⟨?_, ?_, map_pick_alike hcalls t horder, map_pick_alike hcalls t hcolumn, fun e => ?_⟩
  · have htexts := congrArg (List.map Prod.fst) hclauses
    rwa [List.map_map, List.map_map] at htexts
  · have hlengths := congrArg (fun l => (l.map Prod.snd).sum) hclauses
    simpa [Draft.conditions, List.length_flatMap, Function.comp_def] using hlengths
  · have hlength := congrArg List.length (map_pick_alike hcalls t (hbound e))
    rw [List.length_map, List.length_map] at hlength
    unfold Draft.bound?
    refine Bool.eq_iff_iff.2 ?_
    rw [List.getLast?_isSome, List.getLast?_isSome, ← List.length_pos_iff, ← List.length_pos_iff,
      hlength]

/-- What of a statement does not depend on its values: the text, and their number. -/
def shape (q : Bound Value) : String × Nat := (q.1, q.2.length)

lemma shape_eq {q q' : Bound Value} (htext : q.1 = q'.1) (hlength : q.2.length = q'.2.length) :
    shape q = shape q' := Prod.ext htext hlength

namespace Draft.Alike

variable {d d' : Draft}

lemma whereText_eq (h : d.Alike d') : d.conditions.whereText = d'.conditions.whereText := by
  unfold Conditions.whereText
  rw [h.clauses]

lemma source_eq (h : d.Alike d') (t : Table) :
    (d.selector t).source = (d'.selector t).source := congrArg (_ ++ ·) h.whereText_eq

lemma boundText_eq {x y : Option Value} (h : x.isSome = y.isSome) (word : String) :
    Selector.boundText word x = Selector.boundText word y ∧ x.toList.length = y.toList.length := by
  cases x <;> cases y <;> first | exact ⟨rfl, rfl⟩ | cases h

/-- **A bound goes behind the text**, whatever it is. -/
lemma shape_render (h : d.Alike d') (t : Table) {x y : Option Value}
    (hlimit : x.isSome = y.isSome) :
    shape ((d.selector t).render x) = shape ((d'.selector t).render y) := by
  have hbound : ∀ e, ((d.bound? e).map (·.2)).isSome = ((d'.bound? e).map (·.2)).isSome := by
    intro e
    rw [Option.isSome_map, Option.isSome_map, h.bounds]
  have hlimit := boundText_eq hlimit "LIMIT"
  have hoffset := boundText_eq (hbound .offset) "OFFSET"
  have horder : (d.selector t).orderText = (d'.selector t).orderText := by
    unfold Selector.orderText
    rw [show (d.selector t).order = (d'.selector t).order from h.order]
  refine shape_eq ?_ ?_
  · change _ ++ (d.selector t).source ++ _ ++ _ ++ Selector.boundText _ ((d.bound? .offset).map _) =
      _ ++ (d'.selector t).source ++ _ ++ _ ++ Selector.boundText _ ((d'.bound? .offset).map _)
    rw [h.source_eq, horder, hlimit.1, hoffset.1]
    rfl
  · change (d.conditions.bindings ++ _ ++ Option.toList ((d.bound? .offset).map _)).length =
      (d'.conditions.bindings ++ _ ++ Option.toList ((d'.bound? .offset).map _)).length
    simp only [List.length_append]
    rw [h.bindings, hlimit.2, hoffset.2]

/-- New values for columns show the columns only. -/
lemma assignmentText_eq (u : Updater Value) : u.assignmentText =
    ", ".intercalate ((u.assignments.map (·.1)).map (· ++ " = " ++ Conditions.placeholder)) := by
  rw [List.map_map]
  rfl

lemma shape_updater (h : d.Alike d') (t : Table) :
    (d.updater t).statement.map shape = (d'.updater t).statement.map shape := by
  have hcolumns : (d.updater t).assignments.map (·.1) = (d'.updater t).assignments.map (·.1) := by
    change ((d.pick _).map _).map _ = ((d'.pick _).map _).map _
    rw [List.map_map, List.map_map]
    exact h.columns
  have hlength := congrArg List.length hcolumns
  rw [List.length_map, List.length_map] at hlength
  have hempty : (d.updater t).assignments.isEmpty = (d'.updater t).assignments.isEmpty := by
    rw [Bool.eq_iff_iff, List.isEmpty_iff_length_eq_zero, List.isEmpty_iff_length_eq_zero, hlength]
  have htext : (d.updater t).assignmentText = (d'.updater t).assignmentText := by
    rw [assignmentText_eq, assignmentText_eq, hcolumns]
  unfold Updater.statement
  rw [hempty]
  split
  · rfl
  · refine congrArg Except.ok (shape_eq ?_ ?_)
    · change _ ++ _ ++ (d.updater t).assignmentText ++ d.conditions.whereText = _
      rw [htext, h.whereText_eq]
      rfl
    · change (_ ++ d.conditions.bindings).length = (_ ++ d'.conditions.bindings).length
      rw [List.length_append, List.length_append, List.length_map, List.length_map, hlength,
        h.bindings]

/-- **The statements of such drafts** have one text, and as many values, or there is none of them
for one and the same reason. -/
lemma shape_statement (h : d.Alike d') (k : Kind) (t : Table) :
    (d.statement k t).map shape = (d'.statement k t).map shape := by
  have hselector : shape (d.selector t).statement = shape (d'.selector t).statement :=
    h.shape_render t (by
      change ((d.bound? .limit).map _).isSome = ((d'.bound? .limit).map _).isSome
      rw [Option.isSome_map, Option.isSome_map, h.bounds])
  cases k with
  | selector | relation => exact congrArg Except.ok hselector
  | deleter =>
    refine congrArg Except.ok (shape_eq ?_ h.bindings)
    exact congrArg (_ ++ ·) h.whereText_eq
  | updater => exact h.shape_updater t

/-- **What is asked in such drafts** does not show their values. -/
theorem shape_query (h : d.Alike d') (k : Kind) (t : Table) (ask : Ask) :
    (d.query k t ask).map shape = (d'.query k t ask).map shape := by
  cases ask with
  | all | execute => exact h.shape_statement k t
  | first => exact congrArg Except.ok (h.shape_render t rfl)
  | count => exact congrArg Except.ok (shape_eq (congrArg (_ ++ ·) (h.source_eq t)) h.bindings)
  | anyRow =>
    refine congrArg Except.ok (shape_eq ?_ h.bindings)
    change _ ++ (d.selector t).source ++ _ ++ _ = _
    rw [h.source_eq]
    rfl

end Draft.Alike

/-- Only a change that changes nothing is no statement. -/
lemma Draft.fault_eq {d : Draft} {k : Kind} {t : Table} {ask : Ask} {fault : Fault}
    (h : d.query k t ask = .error fault) : fault = .noAssignments t.name := by
  have hstatement : d.statement k t = .error fault → fault = .noAssignments t.name := by
    intro h
    cases k with
    | selector | relation | deleter => cases h
    | updater =>
      change (d.updater t).statement = .error fault at h
      unfold Updater.statement at h
      split at h
      · exact (Except.error.inj h).symm
      · cases h
  cases ask with
  | all | execute => exact hstatement h
  | first | count | anyRow => cases h

end PgSchema.Object.Builder
