import PgSchema.Proofs.Schema.Identifier
import PgSchema.Proofs.Text.Decoding
import PgSchema.Query.Basic

/-!
Marks for values in a text.

A text that is put together from pieces is read from left to right, and each mark in it is told by
the pieces that its two characters come from (`marks`).  Pieces with as many marks as values are
`Aligned`: the marks of the whole text are those of the pieces, one after the other.  That no mark
comes about where two pieces meet needs that no piece begins with the second character of a mark.
-/

namespace PgSchema.Query

/-! ### Marks -/

section Marks

variable {α β : Type}

/-- **The marks of a text** from left to right, each with what its two characters come from. -/
def marks : List (Char × α) → List (α × α)
  | (c, a) :: (d, b) :: rest =>
    if c = '%' ∧ d = 's' then (a, b) :: marks rest else marks ((d, b) :: rest)
  | _ => []

/-- The number of marks in a text. -/
def markCount (s : String) : Nat := (marks (s.toList.map (·, ()))).length

/-- A text that does not begin with the second character of a mark. -/
def Clear (x : List (Char × α)) : Prop := ∀ e ∈ x.head?, e.1 ≠ 's'

lemma marks_cons {e : Char × α} (he : e.1 ≠ '%') (x : List (Char × α)) :
    marks (e :: x) = marks x := by
  cases x with
  | nil => rfl
  | cons f x =>
    rw [marks, if_neg fun h => he h.1]

/-- **Where a text is clear, no mark begins in front of it.** -/
lemma marks_append (x : List (Char × α)) {y : List (Char × α)} (hy : Clear y) :
    marks (x ++ y) = marks x ++ marks y := by
  induction x using marks.induct with
  | case1 c a d b rest h ih =>
    rw [List.cons_append, List.cons_append, marks, if_pos h, marks, if_pos h, ih]
    rfl
  | case2 c a d b rest h ih =>
    rw [List.cons_append, List.cons_append, marks, if_neg h, marks, if_neg h]
    exact ih
  | case3 x h =>
    cases x with
    | nil => rfl
    | cons e x =>
      cases x with
      | cons f x => exact absurd rfl (h e.1 e.2 f.1 f.2 x)
      | nil =>
        cases y with
        | nil => rfl
        | cons f y =>
          have hf : f.1 ≠ 's' := hy f rfl
          change marks ((e.1, e.2) :: (f.1, f.2) :: y) = _
          rw [marks, if_neg fun h => hf h.2]
          rfl

lemma marks_of_free {x : List (Char × α)} (hx : ∀ e ∈ x, e.1 ≠ '%') : marks x = [] := by
  induction x with
  | nil => rfl
  | cons e x ih =>
    obtain ⟨he, hx⟩ := List.forall_mem_cons.1 hx
    rw [marks_cons he, ih hx]

lemma marks_map (f : α → β) (x : List (Char × α)) :
    marks (x.map fun e => (e.1, f e.2)) = (marks x).map fun e => (f e.1, f e.2) := by
  induction x using marks.induct with
  | case1 c a d b rest h ih =>
    rw [List.map_cons, List.map_cons, marks, if_pos h, marks, if_pos h, ih]
    rfl
  | case2 c a d b rest h ih =>
    rw [List.map_cons, List.map_cons, marks, if_neg h, marks, if_neg h]
    exact ih
  | case3 x h =>
    cases x with
    | nil => rfl
    | cons e x =>
      cases x with
      | cons f x => exact absurd rfl (h e.1 e.2 f.1 f.2 x)
      | nil => rfl

/-- The marks of a text that comes from one place. -/
lemma marks_of_text (s : String) (a : α) :
    marks (s.toList.map (·, a)) = List.replicate (markCount s) (a, a) := by
  have hmap : s.toList.map (·, a) = (s.toList.map (·, ())).map fun e => (e.1, a) := by
    rw [List.map_map]
    rfl
  rw [hmap, marks_map fun _ => a, List.map_const']
  rfl

end Marks

/-! ### Texts without marks -/

/-- A text that begins with another character than the second one of a mark. -/
def Starts (s : String) : Prop := ∃ c ∈ s.toList.head?, c ≠ 's'

/-- A text without the first character of a mark. -/
def Free (s : String) : Prop := '%' ∉ s.toList

/-- A text that no mark begins or ends in. -/
def Plain (s : String) : Prop := Starts s ∧ Free s

instance : DecidablePred Starts := fun s =>
  decidable_of_iff (s.toList.head?.any (· ≠ 's')) (by simp [Starts, Option.any_eq_true])

instance : DecidablePred Free := fun s => inferInstanceAs (Decidable ('%' ∉ s.toList))

instance : DecidablePred Plain := fun s => inferInstanceAs (Decidable (Starts s ∧ Free s))

lemma Starts.append {s : String} (hs : Starts s) (t : String) : Starts (s ++ t) := by
  obtain ⟨c, hc, hne⟩ := hs
  obtain ⟨rest, htext⟩ := List.head?_eq_some_iff.1 hc
  refine ⟨c, ?_, hne⟩
  rw [String.toList_append, htext]
  rfl

lemma Free.append {s t : String} (hs : Free s) (ht : Free t) : Free (s ++ t) := by
  unfold Free
  rw [String.toList_append, List.mem_append]
  exact not_or.2 ⟨hs, ht⟩

lemma Plain.append {s t : String} (hs : Plain s) (ht : Free t) : Plain (s ++ t) :=
  ⟨hs.1.append t, hs.2.append ht⟩

lemma Free.intercalate {sep : String} (hsep : Free sep) {l : List String} (h : ∀ s ∈ l, Free s) :
    Free (sep.intercalate l) := by
  unfold Free
  rw [String.toList_intercalate]
  cases l with
  | nil => exact List.not_mem_nil
  | cons s l =>
    obtain ⟨hs, hl⟩ := List.forall_mem_cons.1 h
    rw [List.map_cons, Text.intercalate_cons, List.mem_append, List.flatMap_map]
    refine not_or.2 ⟨hs, fun hmem => ?_⟩
    obtain ⟨s', hs', hmem⟩ := List.mem_flatMap.1 hmem
    exact (List.mem_append.1 hmem).elim hsep (hl s' hs')

/-- **A quoted identifier is plain**, whatever else its name has. -/
lemma plain_quote {name : String} (h : Free name) : Plain (Identifier.quote name) := by
  have hdouble : ∀ {l : List Char}, '%' ∈ Identifier.double l → '%' ∈ l := by
    intro l
    induction l with
    | nil => exact fun hmem => hmem
    | cons c l ih =>
      intro hmem
      rw [Identifier.double] at hmem
      split at hmem
      · have hne : '%' ≠ Identifier.mark := by decide
        rw [List.mem_cons, List.mem_cons] at hmem
        exact List.mem_cons_of_mem _ (ih ((hmem.resolve_left hne).resolve_left hne))
      · exact (List.mem_cons.1 hmem).elim (fun heq => heq ▸ List.mem_cons_self)
          fun hmem => List.mem_cons_of_mem _ (ih hmem)
  have hmark : '%' ≠ Identifier.mark := by decide
  refine ⟨⟨Identifier.mark, ?_, by decide⟩, ?_⟩
  · rw [Identifier.toList_quote]
    rfl
  · unfold Free
    rw [Identifier.toList_quote, List.mem_cons, List.mem_append, List.mem_singleton]
    exact not_or.2 ⟨hmark, not_or.2 ⟨fun hmem => h (hdouble hmem), hmark⟩⟩

/-! ### Numbers of marks -/

lemma Starts.clear {α : Type} {s : String} (hs : Starts s) (a : α) :
    Clear (s.toList.map (·, a)) := by
  intro e he
  obtain ⟨c, hc, hne⟩ := hs
  rw [List.head?_map, hc] at he
  obtain rfl := Option.some.inj he
  exact hne

lemma markCount_append (s : String) {t : String} (ht : Starts t) :
    markCount (s ++ t) = markCount s + markCount t := by
  unfold markCount
  rw [String.toList_append, List.map_append, marks_append _ (ht.clear ()),
    List.length_append]

lemma markCount_of_free {s : String} (hs : Free s) : markCount s = 0 := by
  unfold markCount
  rw [marks_of_free fun e he => ?_]
  · rfl
  · obtain ⟨c, hc, rfl⟩ := List.mem_map.1 he
    exact fun heq => hs (heq ▸ hc)

/-- **As many marks as are asked for.** -/
lemma markCount_placeholders (n : Nat) : markCount (Conditions.placeholders n) = n := by
  have hrest : ∀ k : Nat, marks ((List.replicate k Conditions.placeholder).flatMap fun s =>
      (", ".toList ++ s.toList).map (·, ())) = List.replicate k ((), ()) := by
    intro k
    induction k with
    | zero => rfl
    | succ k ih =>
      rw [List.replicate_succ, List.flatMap_cons, List.replicate_succ, ← ih]
      rfl
  have hchars : (Conditions.placeholders n).toList =
      ", ".toList.intercalate ((List.replicate n Conditions.placeholder).map String.toList) := by
    rw [Conditions.placeholders, String.toList_intercalate]
  unfold markCount
  cases n with
  | zero => rfl
  | succ n =>
    rw [hchars, List.replicate_succ, List.map_cons, Text.intercalate_cons, List.flatMap_map,
      List.map_append, List.map_flatMap]
    change (marks (('%', ()) :: ('s', ()) :: _)).length = n + 1
    rw [marks, if_pos ⟨rfl, rfl⟩, List.length_cons]
    exact congrArg (·.length + 1) (hrest n) |>.trans (congrArg (· + 1) List.length_replicate)

/-! ### Pieces -/

/-- A piece of a statement, with the values that are bound in it, and who has given it. -/
structure Piece (α β : Type) where
  author : α
  text : String
  values : List β := []

namespace Piece

variable {α β : Type}

/-- The characters of a piece with its author. -/
def signed (p : Piece α β) : List (Char × α) := p.text.toList.map (·, p.author)

/-- The values of a piece with its author. -/
def bound (p : Piece α β) : List (β × α) := p.values.map (·, p.author)

/-- The text of pieces. -/
def chars (ps : List (Piece α β)) : List Char := ps.flatMap fun p => p.text.toList

lemma map_signed (ps : List (Piece α β)) : (ps.flatMap signed).map (·.1) = chars ps := by
  have hpiece : ∀ p : Piece α β, p.signed.map (·.1) = p.text.toList := by
    intro p
    rw [signed, List.map_map]
    exact List.map_id _
  simp only [List.map_flatMap, hpiece, chars]

/-- **Pieces with as many marks as values**, and in the same order. -/
structure Aligned (ps : List (Piece α β)) : Prop where
  clear : ∀ {x : List (Char × α)}, Clear x → Clear (ps.flatMap signed ++ x)
  marks_eq : marks (ps.flatMap signed) = (ps.flatMap bound).map fun v => (v.2, v.2)

namespace Aligned

lemma nil : Aligned ([] : List (Piece α β)) := ⟨fun hx => hx, rfl⟩

lemma append {ps qs : List (Piece α β)} (hp : Aligned ps) (hq : Aligned qs) :
    Aligned (ps ++ qs) where
  clear hx := by
    rw [List.flatMap_append, List.append_assoc]
    exact hp.clear (hq.clear hx)
  marks_eq := by
    have hclear : Clear (qs.flatMap signed) := by
      have hempty := hq.clear (x := []) (fun _ he => nomatch he)
      rwa [List.append_nil] at hempty
    rw [List.flatMap_append, marks_append _ hclear, hp.marks_eq, hq.marks_eq, List.flatMap_append,
      List.map_append]

lemma flatMap {γ : Type} {f : γ → List (Piece α β)} {l : List γ} (h : ∀ a ∈ l, Aligned (f a)) :
    Aligned (l.flatMap f) := by
  induction l with
  | nil => exact nil
  | cons a l ih =>
    obtain ⟨ha, hl⟩ := List.forall_mem_cons.1 h
    exact ha.append (ih hl)

/-- A piece with its values, which does not begin with the second character of a mark. -/
lemma single {p : Piece α β} (hstart : Starts p.text)
    (hcount : markCount p.text = p.values.length) : Aligned [p] := by
  obtain ⟨c, hc, hne⟩ := hstart
  obtain ⟨rest, htext⟩ := List.head?_eq_some_iff.1 hc
  refine ⟨fun {x} _ e he => ?_, ?_⟩
  · rw [List.flatMap_singleton, signed, htext] at he
    obtain rfl := Option.some.inj he
    exact hne
  · rw [List.flatMap_singleton, List.flatMap_singleton, signed, marks_of_text, hcount, bound,
      List.map_map, ← List.map_const']
    rfl

/-- A piece without values, and without marks. -/
lemma plain {p : Piece α β} (htext : Plain p.text) (hvalues : p.values = []) : Aligned [p] := by
  refine single htext.1 ?_
  rw [markCount_of_free htext.2, hvalues]
  rfl

end Aligned

/-- A piece that is none of the calls'. -/
def glue (s : String) : Piece (Option α) β := ⟨none, s, []⟩

/-- Pieces with a separator between them. -/
def listed (sep : String) : List (List (Piece (Option α) β)) → List (Piece (Option α) β)
  | [] => []
  | ps :: rest => ps ++ rest.flatMap fun qs => glue sep :: qs

lemma chars_append (ps qs : List (Piece α β)) : chars (ps ++ qs) = chars ps ++ chars qs :=
  List.flatMap_append

lemma chars_cons (p : Piece α β) (ps : List (Piece α β)) :
    chars (p :: ps) = p.text.toList ++ chars ps := List.flatMap_cons

/-- The text of pieces with a separator, piece by piece. -/
lemma chars_listed {γ : Type} (sep : String) (l : List γ) {f : γ → List (Piece (Option α) β)}
    {text : γ → String} (h : ∀ x, chars (f x) = (text x).toList) :
    chars (listed sep (l.map f)) = (sep.intercalate (l.map text)).toList := by
  rw [String.toList_intercalate, List.map_map]
  cases l with
  | nil => rfl
  | cons x l =>
    have hrest : ∀ y, chars (glue sep :: f y) = sep.toList ++ (text y).toList :=
      fun y => congrArg (sep.toList ++ ·) (h y)
    rw [List.map_cons, List.map_cons, listed, Text.intercalate_cons, chars_append, h,
      List.flatMap_map, List.flatMap_map, chars, List.flatMap_assoc]
    exact congrArg (_ ++ ·) (congrArg (l.flatMap ·) (funext hrest))

/-- A piece with its values in brackets, whatever it begins and ends with. -/
lemma Aligned.enclosed {p : Piece (Option α) β} (hcount : markCount p.text = p.values.length) :
    Aligned [glue "(", p, glue ")"] := by
  have hchars : [glue "(", p, glue ")"].flatMap signed =
      ('(', none) :: (p.signed ++ [(')', none)]) := by
    simp [List.flatMap_cons, glue, signed]
  have hbound : [glue "(", p, glue ")"].flatMap bound = p.bound := by
    simp [List.flatMap_cons, glue, bound]
  have hopen : ('(' : Char) ≠ '%' ∧ '(' ≠ 's' := by decide
  have hclose : (')' : Char) ≠ '%' ∧ ')' ≠ 's' := by decide
  constructor
  · intro x _ e he
    rw [hchars] at he
    obtain rfl := Option.some.inj he
    exact hopen.2
  · have hclear : Clear [(')', (none : Option α))] := by
      intro e he
      obtain rfl := Option.some.inj he
      exact hclose.2
    have hempty : marks [(')', (none : Option α))] = [] := rfl
    rw [hchars, marks_cons hopen.1, marks_append _ hclear, hempty, List.append_nil, hbound, signed,
      marks_of_text, hcount, bound, List.map_map, ← List.map_const']
    rfl

lemma Aligned.listed {sep : String} {pss : List (List (Piece (Option α) β))}
    (hsep : Aligned [(glue sep : Piece (Option α) β)]) (h : ∀ ps ∈ pss, Aligned ps) :
    Aligned (Piece.listed sep pss) := by
  cases pss with
  | nil => exact .nil
  | cons ps rest =>
    obtain ⟨hps, hrest⟩ := List.forall_mem_cons.1 h
    exact hps.append (.flatMap fun qs hqs => hsep.append (hrest qs hqs))

end Piece

end PgSchema.Query
