import PgSchema.Proofs.Object.Asking
import PgSchema.Proofs.Query.Marks

/-!
Statements of builders, piece by piece.

What a builder sends is put together from pieces, and those that are not the same for all builders
come from its calls (`Draft.pieces`, `Draft.told_pieces`).  Their text is the text of the statement
(`Draft.chars_pieces`), and their values are its values (`Draft.bound_pieces`, `Draft.map_values`).
-/

namespace PgSchema.Object

open Query (Amount Bound Conditions Piece Selector Updater tableText)
open Query.Piece (chars chars_append chars_cons chars_listed glue listed)

/-- A piece of a statement, with the number of the call that it comes from. -/
abbrev Passage := Piece (Option Nat) Value

/-- The word in front of a bound. -/
def Edge.word : Edge → String
  | limit => "LIMIT"
  | offset => "OFFSET"

namespace Builder

/-! ### Statements in pieces -/

/-- A bound as a piece. -/
def edgePiece (e : Edge) (author : Option Nat) (count : Value) : Passage :=
  ⟨author, " " ++ e.word ++ " " ++ Conditions.placeholder, [count]⟩

/-- **An entry as a piece** of a statement. -/
def Entry.piece (i : Nat) : Entry → Passage
  | clause text values => ⟨some i, text, values⟩
  | order text => ⟨some i, text, []⟩
  | assignment column x => ⟨some i, column ++ " = " ++ Conditions.placeholder, [x]⟩
  | bound e count => edgePiece e (some i) count

namespace Draft

variable (d : Draft)

/-- The conditions in pieces. -/
def wherePieces : List Passage :=
  if (d.pick Entry.clause?).isEmpty then []
  else glue " WHERE " :: listed " AND " ((d.pick Entry.clause?).map fun x =>
    [glue "(", (Entry.clause x.2.1 x.2.2).piece x.1, glue ")"])

/-- The order in pieces. -/
def orderPieces : List Passage :=
  if (d.pick Entry.order?).isEmpty then []
  else glue " ORDER BY " ::
    listed ", " ((d.pick Entry.order?).map fun x => [(Entry.order x.2).piece x.1])

/-- The new values in pieces. -/
def assignmentPieces : List Passage :=
  listed ", " ((d.pick Entry.assignment?).map fun x => [(Entry.assignment x.2.1 x.2.2).piece x.1])

/-- A bound, with the call that it comes from. -/
def edge? (e : Edge) : Option (Option Nat × Value) := (d.bound? e).map fun x => (some x.1, x.2)

/-- The limit under which the first row is asked for.  It is no call's, unless the limit that was
set is as low. -/
def firstLimit : Option Nat × Value :=
  match d.bound? .limit with
  | none => (none, Amount.one)
  | some (i, count) => if Amount.exceedsOne count then (none, Amount.one) else (some i, count)

/-- A bound in pieces, if there is one. -/
def edgePieces (e : Edge) (found : Option (Option Nat × Value)) : List Passage :=
  found.toList.map fun x => edgePiece e x.1 x.2

/-- The selection in pieces, with a limit. -/
def selectPieces (t : Table) (limit : Option (Option Nat × Value)) : List Passage :=
  glue ("SELECT " ++ (d.selector t).columnList ++ " FROM " ++ tableText t) ::
    (d.wherePieces ++ d.orderPieces ++ edgePieces .limit limit ++
      edgePieces .offset (d.edge? .offset))

/-- What a builder renders, in pieces. -/
def statementPieces (k : Kind) (t : Table) : List Passage :=
  match k with
  | .selector | .relation => d.selectPieces t (d.edge? .limit)
  | .updater => glue ("UPDATE " ++ tableText t ++ " SET ") :: (d.assignmentPieces ++ d.wherePieces)
  | .deleter => glue ("DELETE FROM " ++ tableText t) :: d.wherePieces

/-- **What a builder sends, in pieces.** -/
def pieces (k : Kind) (t : Table) : Ask → List Passage
  | .all | .execute => d.statementPieces k t
  | .first => d.selectPieces t (some d.firstLimit)
  | .count => glue ("SELECT COUNT(*) AS " ++ Selector.countColumn ++ " FROM " ++ tableText t) ::
      d.wherePieces
  | .anyRow => glue ("SELECT EXISTS (SELECT 1 FROM " ++ tableText t) ::
      (d.wherePieces ++ [glue (") AS " ++ Selector.foundColumn)])

/-! ### The text of pieces -/

lemma chars_where : chars d.wherePieces = d.conditions.whereText.toList := by
  have hclause : ∀ x : Nat × String × List Value,
      chars [glue "(", (Entry.clause x.2.1 x.2.2).piece x.1, glue ")"] =
        ("(" ++ x.2.1 ++ ")").toList := by
    intro x
    simp [chars, glue, Entry.piece]
  unfold wherePieces Conditions.whereText conditions
  rw [List.isEmpty_map]
  split
  · rfl
  · rw [String.toList_append, List.map_map, chars_cons, chars_listed _ _ hclause]
    rfl

lemma chars_order (t : Table) : chars d.orderPieces = (d.selector t).orderText.toList := by
  have horder : ∀ x : Nat × String, chars [(Entry.order x.2).piece x.1] = x.2.toList :=
    fun x => List.append_nil _
  unfold orderPieces Selector.orderText selector
  rw [List.isEmpty_map]
  split
  · rfl
  · rw [String.toList_append, chars_cons, chars_listed _ _ horder]
    rfl

lemma chars_assignment (t : Table) :
    chars d.assignmentPieces = (d.updater t).assignmentText.toList := by
  have hassignment : ∀ x : Nat × String × Value,
      chars [(Entry.assignment x.2.1 x.2.2).piece x.1] =
        (x.2.1 ++ " = " ++ Conditions.placeholder).toList := fun x => List.append_nil _
  unfold assignmentPieces Updater.assignmentText updater
  rw [List.map_map, chars_listed _ _ hassignment]
  rfl

lemma chars_edge (e : Edge) (found : Option (Option Nat × Value)) :
    chars (edgePieces e found) = (Selector.boundText e.word (found.map (·.2))).toList := by
  cases found with
  | none => rfl
  | some x => exact List.append_nil _

lemma chars_select (t : Table) (limit : Option (Option Nat × Value)) :
    chars (d.selectPieces t limit) =
      ((d.selector t).render (limit.map (·.2))).1.toList := by
  have hoffset : (d.edge? .offset).map (·.2) = (d.selector t).offset := by
    rw [edge?, Option.map_map]
    rfl
  unfold selectPieces Selector.render Selector.source
  rw [chars_cons, chars_append, chars_append, chars_append, chars_where, chars_order d t,
    chars_edge, chars_edge, hoffset]
  simp only [String.toList_append, List.append_assoc, glue]
  rfl

lemma firstLimit_snd (t : Table) : d.firstLimit.2 = (d.selector t).firstLimit := by
  unfold firstLimit Selector.firstLimit selector
  cases d.bound? .limit with
  | none => rfl
  | some x =>
    change (ite (Amount.exceedsOne x.2 = true) _ _ : Option Nat × Value).2 = _
    rw [apply_ite Prod.snd]
    rfl

lemma chars_pieces {k : Kind} {t : Table} {ask : Ask} {q : Bound Value}
    (hq : d.query k t ask = .ok q) : chars (d.pieces k t ask) = q.1.toList := by
  have hlimit : (d.edge? .limit).map (·.2) = (d.selector t).limit := by
    rw [edge?, Option.map_map]
    rfl
  have hselect : chars (d.selectPieces t (d.edge? .limit)) =
      (d.selector t).statement.1.toList := by
    rw [chars_select, hlimit]
    rfl
  have hstatement : d.statement k t = .ok q → chars (d.statementPieces k t) = q.1.toList := by
    intro hq
    cases k with
    | selector | relation => exact hselect.trans (congrArg (·.1.toList) (Except.ok.inj hq))
    | updater =>
      unfold statement Updater.statement at hq
      change (if _ then _ else _) = _ at hq
      split at hq
      · cases hq
      · obtain rfl := Except.ok.inj hq
        have hpieces : d.statementPieces .updater t = glue ("UPDATE " ++ tableText t ++ " SET ") ::
            (d.assignmentPieces ++ d.wherePieces) := rfl
        rw [hpieces, chars_cons, chars_append, chars_assignment d t, chars_where]
        change ("UPDATE " ++ tableText t ++ " SET ").toList ++ _ = ("UPDATE " ++ tableText t ++
          " SET " ++ (d.updater t).assignmentText ++ d.conditions.whereText).toList
        simp only [String.toList_append, List.append_assoc]
    | deleter =>
      obtain rfl := Except.ok.inj hq
      have hpieces : d.statementPieces .deleter t =
          glue ("DELETE FROM " ++ tableText t) :: d.wherePieces := rfl
      rw [hpieces, chars_cons, chars_where]
      exact String.toList_append.symm
  cases ask with
  | all | execute => exact hstatement hq
  | first =>
    obtain rfl := Except.ok.inj hq
    change chars (d.selectPieces t (some d.firstLimit)) = _
    rw [chars_select, Option.map_some, firstLimit_snd d t]
    rfl
  | count =>
    obtain rfl := Except.ok.inj hq
    have hpieces : d.pieces k t .count = glue ("SELECT COUNT(*) AS " ++ Selector.countColumn ++
        " FROM " ++ tableText t) :: d.wherePieces := rfl
    rw [hpieces, chars_cons, chars_where]
    change ("SELECT COUNT(*) AS " ++ Selector.countColumn ++ " FROM " ++ tableText t).toList ++ _ =
      ("SELECT COUNT(*) AS " ++ Selector.countColumn ++ " FROM " ++
        (tableText t ++ d.conditions.whereText)).toList
    simp only [String.toList_append, List.append_assoc]
  | anyRow =>
    obtain rfl := Except.ok.inj hq
    have hpieces : d.pieces k t .anyRow = glue ("SELECT EXISTS (SELECT 1 FROM " ++ tableText t) ::
        (d.wherePieces ++ [glue (") AS " ++ Selector.foundColumn)]) := rfl
    have hend : chars [(glue (") AS " ++ Selector.foundColumn) : Passage)] =
        (") AS " ++ Selector.foundColumn).toList := List.append_nil _
    rw [hpieces, chars_cons, chars_append, chars_where, hend]
    change ("SELECT EXISTS (SELECT 1 FROM " ++ tableText t).toList ++ _ =
      ("SELECT EXISTS (SELECT 1 FROM " ++ (tableText t ++ d.conditions.whereText) ++ ") AS " ++
        Selector.foundColumn).toList
    simp only [String.toList_append, List.append_assoc]

/-! ### The values of pieces -/

/-- The values of the predicates, in the order of the calls. -/
def filtered : List (Value × Option Nat) :=
  (d.pick Entry.clause?).flatMap fun x => x.2.2.map (·, some x.1)

/-- The new values, in the order of the calls. -/
def assigned : List (Value × Option Nat) :=
  (d.pick Entry.assignment?).map fun x => (x.2.2, some x.1)

/-- The value of a bound. -/
def bounding (found : Option (Option Nat × Value)) : List (Value × Option Nat) :=
  found.toList.map fun x => (x.2, x.1)

/-- What a builder renders: new values come first, then the predicates, the limit and the offset. -/
def rendered (k : Kind) : List (Value × Option Nat) :=
  match k with
  | .selector | .relation =>
    d.filtered ++ bounding (d.edge? .limit) ++ bounding (d.edge? .offset)
  | .updater => d.assigned ++ d.filtered
  | .deleter => d.filtered

/-- **The values that a builder sends**, each with the number of its call. -/
def values (k : Kind) : Ask → List (Value × Option Nat)
  | .all | .execute => d.rendered k
  | .first => d.filtered ++ bounding (some d.firstLimit) ++ bounding (d.edge? .offset)
  | .count | .anyRow => d.filtered

open Query.Piece (bound)

lemma bound_listed {γ : Type} (sep : String) (l : List γ) {f : γ → List Passage}
    {given : γ → List (Value × Option Nat)} (h : ∀ x, (f x).flatMap bound = given x) :
    (listed sep (l.map f)).flatMap bound = l.flatMap given := by
  cases l with
  | nil => rfl
  | cons x l =>
    have hrest : ∀ y, (glue sep :: f y).flatMap bound = given y := h
    rw [List.map_cons, listed, List.flatMap_append, h, List.flatMap_map, List.flatMap_assoc,
      List.flatMap_cons]
    simp only [hrest]

lemma bound_where : d.wherePieces.flatMap bound = d.filtered := by
  have hclause : ∀ x : Nat × String × List Value,
      [glue "(", (Entry.clause x.2.1 x.2.2).piece x.1, glue ")"].flatMap bound =
        x.2.2.map (·, some x.1) := by
    intro x
    simp [bound, glue, Entry.piece]
  unfold wherePieces filtered
  split
  · rename_i hempty
    rw [List.isEmpty_iff.1 hempty]
    rfl
  · exact bound_listed _ _ hclause

lemma bound_order : d.orderPieces.flatMap bound = [] := by
  unfold orderPieces
  split
  · rfl
  · have hpiece : ∀ x : Nat × String, [(Entry.order x.2).piece x.1].flatMap bound = [] :=
      fun _ => rfl
    exact (bound_listed ", " _ hpiece).trans (List.flatMap_eq_nil_iff.2 fun _ _ => rfl)

lemma bound_assignment : d.assignmentPieces.flatMap bound = d.assigned := by
  have hpiece : ∀ x : Nat × String × Value,
      [(Entry.assignment x.2.1 x.2.2).piece x.1].flatMap bound = [(x.2.2, some x.1)] :=
    fun _ => rfl
  exact (bound_listed ", " _ hpiece).trans List.map_eq_flatMap.symm

lemma bound_edge (e : Edge) (found : Option (Option Nat × Value)) :
    (edgePieces e found).flatMap bound = bounding found := by
  cases found <;> rfl

lemma bound_select (t : Table) (limit : Option (Option Nat × Value)) :
    (d.selectPieces t limit).flatMap bound =
      d.filtered ++ bounding limit ++ bounding (d.edge? .offset) := by
  unfold selectPieces
  rw [List.flatMap_cons, List.flatMap_append, List.flatMap_append, List.flatMap_append, bound_where,
    bound_order, bound_edge, bound_edge, List.append_nil]
  rfl

/-- **The pieces have the values**, in their order. -/
lemma bound_pieces (k : Kind) (t : Table) (ask : Ask) :
    (d.pieces k t ask).flatMap bound = d.values k ask := by
  have hstatement : (d.statementPieces k t).flatMap bound = d.rendered k := by
    cases k with
    | selector | relation => exact d.bound_select t _
    | updater =>
      change (glue _ :: (d.assignmentPieces ++ d.wherePieces)).flatMap bound = _
      rw [List.flatMap_cons, List.flatMap_append, bound_where, bound_assignment]
      rfl
    | deleter => exact d.bound_where
  cases ask with
  | all | execute => exact hstatement
  | first => exact d.bound_select t _
  | count => exact d.bound_where
  | anyRow =>
    change (glue _ :: (d.wherePieces ++ [glue _])).flatMap bound = _
    rw [List.flatMap_cons, List.flatMap_append, bound_where]
    exact List.append_nil _

lemma map_filtered : d.filtered.map (·.1) = d.conditions.bindings := by
  unfold filtered conditions
  rw [List.map_flatMap]
  refine congrArg ((d.pick Entry.clause?).flatMap ·) (funext fun x => ?_)
  rw [List.map_map]
  exact List.map_id _

lemma map_bounding (found : Option (Option Nat × Value)) :
    (bounding found).map (·.1) = (found.map (·.2)).toList := by
  cases found <;> rfl

/-- The values of a statement are those of the calls. -/
lemma map_values {k : Kind} {t : Table} {ask : Ask} {q : Bound Value}
    (hq : d.query k t ask = .ok q) : (d.values k ask).map (·.1) = q.2 := by
  have hedge : ∀ e, (d.edge? e).map (·.2) = (d.bound? e).map (·.2) := by
    intro e
    rw [edge?, Option.map_map]
    rfl
  have hselect : ∀ limit : Option (Option Nat × Value),
      (d.filtered ++ bounding limit ++ bounding (d.edge? .offset)).map (·.1) =
        ((d.selector t).render (limit.map (·.2))).2 := by
    intro limit
    rw [List.map_append, List.map_append, map_filtered, map_bounding, map_bounding, hedge]
    rfl
  have hstatement : d.statement k t = .ok q → (d.rendered k).map (·.1) = q.2 := by
    intro hq
    cases k with
    | selector | relation =>
      obtain rfl := Except.ok.inj hq
      refine (hselect _).trans ?_
      rw [hedge]
      rfl
    | updater =>
      change (if _ then _ else _) = _ at hq
      split at hq
      · cases hq
      · obtain rfl := Except.ok.inj hq
        unfold rendered assigned
        rw [List.map_append, map_filtered, List.map_map]
        simp only [updater, List.map_map]
        rfl
    | deleter =>
      obtain rfl := Except.ok.inj hq
      exact d.map_filtered
  cases ask with
  | all | execute => exact hstatement hq
  | first =>
    obtain rfl := Except.ok.inj hq
    refine (hselect _).trans ?_
    rw [Option.map_some, firstLimit_snd d t]
    rfl
  | count | anyRow =>
    obtain rfl := Except.ok.inj hq
    exact d.map_filtered

end Draft

/-! ### Pieces and calls -/

/-- Pieces that are entries of a draft, unless they are no call's. -/
def Told (d : Draft) (ps : List Passage) : Prop :=
  ∀ p ∈ ps, ∀ i, p.author = some i → ∃ e, (i, e) ∈ d ∧ p = e.piece i

namespace Told

variable {d : Draft} {ps qs : List Passage}

lemma append (hp : Told d ps) (hq : Told d qs) : Told d (ps ++ qs) :=
  List.forall_mem_append.2 ⟨hp, hq⟩

lemma glue (d : Draft) (s : String) : Told d [Query.Piece.glue s] :=
  List.forall_mem_singleton.2 fun _ hi => nomatch hi

lemma piece {i : Nat} {e : Entry} (he : (i, e) ∈ d) : Told d [e.piece i] := by
  refine List.forall_mem_singleton.2 fun j hj => ?_
  have hi : (e.piece i).author = some i := by cases e <;> rfl
  obtain rfl := Option.some.inj (hi.symm.trans hj)
  exact ⟨e, he, rfl⟩

lemma listed (sep : String) {pss : List (List Passage)} (h : ∀ qs ∈ pss, Told d qs) :
    Told d (Query.Piece.listed sep pss) := by
  cases pss with
  | nil => exact fun _ hp => nomatch hp
  | cons qs pss =>
    obtain ⟨hqs, hrest⟩ := List.forall_mem_cons.1 h
    refine hqs.append fun p hp => ?_
    obtain ⟨rs, hrs, hp⟩ := List.mem_flatMap.1 hp
    exact (glue d sep).append (hrest rs hrs) p hp

end Told

namespace Draft

variable (d : Draft)

lemma told_where : Told d d.wherePieces := by
  unfold wherePieces
  split
  · exact fun _ hp => nomatch hp
  · refine (Told.glue d _).append (.listed _ fun ps hps => ?_)
    obtain ⟨⟨i, text, values⟩, hx, rfl⟩ := List.mem_map.1 hps
    obtain ⟨e, he, hclause⟩ := mem_pick hx
    cases e with
    | clause => cases hclause; exact (Told.glue d _).append ((Told.piece he).append (Told.glue d _))
    | _ => cases hclause

lemma told_order : Told d d.orderPieces := by
  unfold orderPieces
  split
  · exact fun _ hp => nomatch hp
  · refine (Told.glue d _).append (.listed _ fun ps hps => ?_)
    obtain ⟨⟨i, text⟩, hx, rfl⟩ := List.mem_map.1 hps
    obtain ⟨e, he, horder⟩ := mem_pick hx
    cases e with
    | order => cases horder; exact Told.piece he
    | _ => cases horder

lemma told_assignment : Told d d.assignmentPieces := by
  refine .listed _ fun ps hps => ?_
  obtain ⟨⟨i, column, x⟩, hx, rfl⟩ := List.mem_map.1 hps
  obtain ⟨e, he, hassignment⟩ := mem_pick hx
  cases e with
  | assignment => cases hassignment; exact Told.piece he
  | _ => cases hassignment

variable {d}

/-- A bound was set by the call that it is said to be from. -/
lemma mem_of_bound? {e : Edge} {i : Nat} {count : Value} (h : d.bound? e = some (i, count)) :
    (i, .bound e count) ∈ d := by
  obtain ⟨entry, he, hcount⟩ := mem_pick (List.mem_of_getLast? h)
  cases entry with
  | bound e' count' =>
    rw [Entry.count?] at hcount
    split at hcount
    · rename_i heq
      obtain rfl := Option.some.inj hcount
      rwa [heq] at he
    · cases hcount
  | _ => cases hcount

lemma told_edge {e : Edge} {found : Option (Option Nat × Value)}
    (h : ∀ i count, found = some (some i, count) → d.bound? e = some (i, count)) :
    Told d (edgePieces e found) := by
  cases found with
  | none => exact fun _ hp => nomatch hp
  | some x =>
    obtain ⟨author, count⟩ := x
    cases author with
    | none => exact List.forall_mem_singleton.2 fun _ hi => nomatch hi
    | some i => exact Told.piece (mem_of_bound? (h i count rfl))

lemma bound?_of_edge? {e : Edge} {i : Nat} {count : Value}
    (h : d.edge? e = some (some i, count)) : d.bound? e = some (i, count) := by
  obtain ⟨x, hx, heq⟩ := Option.map_eq_some_iff.1 h
  cases heq
  exact hx

lemma bound?_of_firstLimit {i : Nat} {count : Value} (h : d.firstLimit = (some i, count)) :
    d.bound? .limit = some (i, count) := by
  unfold firstLimit at h
  cases hbound : d.bound? .limit with
  | none =>
    rw [hbound] at h
    cases h
  | some x =>
    rw [hbound] at h
    dsimp only at h
    split at h <;> cases h
    rfl

lemma told_select (t : Table) {limit : Option (Option Nat × Value)}
    (h : ∀ i count, limit = some (some i, count) → d.bound? .limit = some (i, count)) :
    Told d (d.selectPieces t limit) :=
  (Told.glue d _).append (((d.told_where.append d.told_order).append (told_edge h)).append
    (told_edge fun _ _ => bound?_of_edge?))

/-- **The pieces of a statement are what the calls have put in.** -/
lemma told_pieces (k : Kind) (t : Table) (ask : Ask) : Told d (d.pieces k t ask) := by
  have hstatement : Told d (d.statementPieces k t) := by
    cases k with
    | selector | relation => exact told_select t fun _ _ => bound?_of_edge?
    | updater => exact (Told.glue d _).append (d.told_assignment.append d.told_where)
    | deleter => exact (Told.glue d _).append d.told_where
  cases ask with
  | all | execute => exact hstatement
  | first => exact told_select t fun i count h => bound?_of_firstLimit (Option.some.inj h)
  | count => exact (Told.glue d _).append d.told_where
  | anyRow => exact (Told.glue d _).append (d.told_where.append (Told.glue d _))

/-- What a question puts in by itself: the limit under which a first row is found. -/
def own : Ask → List Value
  | .first => [Amount.one]
  | _ => []

/-- **A value is a call's**, unless the question has put it in by itself. -/
lemma mem_own {k : Kind} {ask : Ask} {v : Value × Option Nat} (hv : v ∈ d.values k ask)
    (hnone : v.2 = none) : v.1 ∈ own ask := by
  have hfiltered : v ∉ d.filtered := by
    intro hmem
    obtain ⟨x, -, hmem⟩ := List.mem_flatMap.1 hmem
    obtain ⟨y, -, rfl⟩ := List.mem_map.1 hmem
    cases hnone
  have hassigned : v ∉ d.assigned := by
    intro hmem
    obtain ⟨x, -, rfl⟩ := List.mem_map.1 hmem
    cases hnone
  have hedge : ∀ e, v ∉ bounding (d.edge? e) := by
    intro e hmem
    obtain ⟨x, hx, rfl⟩ := List.mem_map.1 hmem
    obtain ⟨y, -, rfl⟩ := Option.map_eq_some_iff.1 (Option.mem_toList.1 hx)
    cases hnone
  have hrendered : v ∉ d.rendered k := by
    cases k with
    | selector | relation =>
      simp only [rendered, List.mem_append, not_or]
      exact ⟨⟨hfiltered, hedge _⟩, hedge _⟩
    | updater => exact fun hmem => (List.mem_append.1 hmem).elim hassigned hfiltered
    | deleter => exact hfiltered
  cases ask with
  | all | execute => exact absurd hv hrendered
  | count | anyRow => exact absurd hv hfiltered
  | first =>
    simp only [values, List.mem_append] at hv
    have hfirst := (hv.resolve_right (hedge _)).resolve_left hfiltered
    obtain rfl := List.mem_singleton.1 hfirst
    refine List.mem_singleton.2 ?_
    change d.firstLimit.1 = none at hnone
    change d.firstLimit.2 = _
    unfold firstLimit at hnone ⊢
    split at hnone
    · rfl
    · split at hnone
      · rename_i habove
        rw [if_pos habove]
      · cases hnone

end Draft

end Builder

end PgSchema.Object
