import Mathlib.Data.List.Infix
import Mathlib.Tactic.IntervalCases
import PgSchema.Proofs.Schema.Statement
import PgSchema.Proofs.Text.Basic

/-!
Where the statement of an index seems to name a table.

The text ` ON "name" (` shows whose an index is.  The names in the statement are quoted, and in a
quoted name no quote stands alone; but a text that is looked for anywhere in the statement may begin
inside of a quoted name, where a doubled quote passes for an opening one.  So the text of a table
occurs in the statement of its own indexes, and else just where a name of quotes stands in the name
of the other table or column, or where a name with a parenthesis lies across the two
(`ownerChars_infix_iff`).
-/

namespace PgSchema

namespace Identifier

/-! ### Doubled quotes -/

/-- Quotes in a row. -/
abbrev marks (k : Nat) : List Char := List.replicate k mark

variable {x y t r w s z : List Char} {d : Char}

lemma double_mark (x : List Char) : double (mark :: x) = mark :: mark :: double x := by
  rw [double, if_pos rfl]

lemma double_cons {c : Char} (hc : c ≠ mark) (x : List Char) : double (c :: x) = c :: double x := by
  rw [double, if_neg hc]

lemma double_append (x y : List Char) : double (x ++ y) = double x ++ double y := by
  induction x with
  | nil => rfl
  | cons c x ih =>
    by_cases hc : c = mark
    · rw [hc, List.cons_append, double_mark, double_mark, ih, List.cons_append, List.cons_append]
    · rw [List.cons_append, double_cons hc, double_cons hc, ih, List.cons_append]

lemma double_marks (k : Nat) : double (marks k) = marks (2 * k) := by
  induction k with
  | zero => rfl
  | succ k ih =>
    rw [marks, List.replicate_succ, double_mark, ih]
    rfl

lemma double_of_notMem (h : mark ∉ s) : double s = s := by
  induction s with
  | nil => rfl
  | cons c s ih =>
    rw [List.mem_cons, not_or] at h
    rw [double_cons (Ne.symm h.1), ih h.2]

/-- What begins with no quote begins inside of a quoted name, or behind it. -/
lemma infix_double (hd : d ≠ mark) (h : d :: w <:+: double x ++ mark :: r) :
    (∃ y, y <:+ x ∧ d :: w <+: double y ++ mark :: r) ∨ d :: w <:+: r := by
  have hmark : ∀ l, ¬ d :: w <+: mark :: l := fun l hl => hd (List.cons_prefix_cons.1 hl).1
  induction x with
  | nil => exact Or.inr ((List.infix_cons_iff.1 h).resolve_left (hmark _))
  | cons c x ih =>
    by_cases hc : c = mark
    · rw [hc, double_mark, List.cons_append, List.cons_append] at h
      have hin := (List.infix_cons_iff.1 ((List.infix_cons_iff.1 h).resolve_left
        (hmark _))).resolve_left (hmark _)
      exact (ih hin).imp_left fun ⟨y, hy, hw⟩ => ⟨y, hy.trans (List.suffix_cons _ _), hw⟩
    · have hcons := h
      rw [double_cons hc, List.cons_append] at hcons
      rcases List.infix_cons_iff.1 hcons with hfront | hin
      · refine Or.inl ⟨c :: x, List.suffix_refl _, ?_⟩
        rwa [double_cons hc, List.cons_append]
      · exact (ih hin).imp_left fun ⟨y, hy, hw⟩ => ⟨y, hy.trans (List.suffix_cons _ _), hw⟩

/-- Characters that are no quotes, at the front of a quoted name, are characters of the name. -/
lemma prefix_double_of_notMem (hs : mark ∉ s) (h : s ++ z <+: double y ++ mark :: r) :
    ∃ y', y = s ++ y' ∧ z <+: double y' ++ mark :: r := by
  induction s generalizing y with
  | nil => exact ⟨y, rfl, h⟩
  | cons c s ih =>
    rw [List.mem_cons, not_or] at hs
    cases y with
    | nil => exact absurd (List.cons_prefix_cons.1 h).1 (Ne.symm hs.1)
    | cons c' y =>
      by_cases hc : c' = mark
      · rw [hc, double_mark] at h
        exact absurd (List.cons_prefix_cons.1 h).1 (Ne.symm hs.1)
      · rw [double_cons hc] at h
        obtain ⟨rfl, hrest⟩ := List.cons_prefix_cons.1 h
        obtain ⟨y', rfl, hz⟩ := ih hs.2 hrest
        exact ⟨y', rfl, hz⟩

/-- Characters that are no quotes, behind which a quoted name ends, are characters of that name. -/
lemma double_prefix_of_notMem (hs : mark ∉ s) (h : double t ++ mark :: w <+: s ++ z) :
    ∃ t', t = s ++ t' ∧ double t' ++ mark :: w <+: z := by
  induction s generalizing t with
  | nil => exact ⟨t, rfl, h⟩
  | cons c s ih =>
    rw [List.mem_cons, not_or] at hs
    cases t with
    | nil => exact absurd (List.cons_prefix_cons.1 h).1 hs.1
    | cons c' t =>
      by_cases hc : c' = mark
      · rw [hc, double_mark] at h
        exact absurd (List.cons_prefix_cons.1 h).1 hs.1
      · rw [double_cons hc] at h
        obtain ⟨rfl, hrest⟩ := List.cons_prefix_cons.1 h
        obtain ⟨t', rfl, hw⟩ := ih hs.2 hrest
        exact ⟨t', rfl, hw⟩

/-- **A quoted name that seems to begin inside of another** consists of quotes, or the other ends
with it. -/
lemma quoted_inside (hr : r.head? ≠ some mark)
    (h : mark :: (double t ++ mark :: w) <+: double y ++ mark :: r) :
    (∃ k y', t = marks k ∧ y = marks (k + 1) ++ y' ∧ w <+: double y' ++ mark :: r) ∨
      ∃ k t', t = marks k ++ t' ∧ y = marks k ∧ double t' ++ mark :: w <+: r := by
  have hend : ∀ l, ¬ mark :: l <+: r := by
    rintro l ⟨rest, rfl⟩
    exact hr rfl
  induction t generalizing y with
  | nil =>
    cases y with
    | nil => exact absurd (List.cons_prefix_cons.1 h).2 (hend _)
    | cons c y =>
      by_cases hc : c = mark
      · subst hc
        rw [double_mark] at h
        exact Or.inl ⟨0, y, rfl, rfl,
          (List.cons_prefix_cons.1 (List.cons_prefix_cons.1 h).2).2⟩
      · rw [double_cons hc] at h
        exact absurd (List.cons_prefix_cons.1 h).1 (Ne.symm hc)
  | cons a t ih =>
    by_cases ha : a = mark
    · subst ha
      rw [double_mark] at h
      cases y with
      | nil => exact absurd (List.cons_prefix_cons.1 h).2 (hend _)
      | cons c y =>
        by_cases hc : c = mark
        · subst hc
          rw [double_mark] at h
          have hrest := (List.cons_prefix_cons.1 (List.cons_prefix_cons.1 h).2).2
          rcases ih hrest with ⟨k, y', rfl, rfl, hw⟩ | ⟨k, t', rfl, rfl, hw⟩
          · exact Or.inl ⟨k + 1, y', rfl, rfl, hw⟩
          · exact Or.inr ⟨k + 1, t', rfl, rfl, hw⟩
        · rw [double_cons hc] at h
          exact absurd (List.cons_prefix_cons.1 h).1 (Ne.symm hc)
    · cases y with
      | nil => exact Or.inr ⟨0, a :: t, rfl, rfl, (List.cons_prefix_cons.1 h).2⟩
      | cons c y =>
        rw [double_cons ha] at h
        by_cases hc : c = mark
        · rw [hc, double_mark] at h
          exact absurd (List.cons_prefix_cons.1 (List.cons_prefix_cons.1 h).2).1 ha
        · rw [double_cons hc] at h
          exact absurd (List.cons_prefix_cons.1 h).1 (Ne.symm hc)

end Identifier

namespace Table

open Identifier

variable {t n u c : List Char}

/-! ### Names that pose as tables -/

/-- The text that shows whose an index is. -/
def ownerChars (t : List Char) : List Char :=
  " ON ".toList ++ (mark :: (double t ++ mark :: " (".toList))

/-- **A name of quotes** that stands in another name as the name of a table would. -/
def Poses (t x : List Char) : Prop :=
  ∃ k, t = marks k ∧ " ON ".toList ++ (marks (k + 1) ++ " (".toList) <:+: x

/-- **A name with a parenthesis** that stands across the name of a table and that of a column. -/
def Spans (t u c : List Char) : Prop :=
  ∃ k i, t = marks k ++ (" (".toList ++ marks i) ∧ " ON ".toList ++ marks k <:+ u ∧
    marks i ++ " (".toList <+: c

lemma infix_double_of_poses {x : List Char} (h : Poses t x) : ownerChars t <:+: double x := by
  obtain ⟨k, rfl, p, q, rfl⟩ := h
  refine ⟨double p, double q, ?_⟩
  rw [double_append, double_append, double_append, double_append, double_marks,
    double_of_notMem (s := " ON ".toList) (by decide),
    double_of_notMem (s := " (".toList) (by decide), ownerChars, double_marks]
  have hmarks : marks (2 * (k + 1)) = mark :: (marks (2 * k) ++ [mark]) := by
    rw [marks, Nat.mul_succ, List.replicate_succ, List.replicate_succ']
  rw [hmarks]
  simp only [List.append_assoc, List.cons_append, List.nil_append]

/-- What stands behind the name of an index. -/
def tailChars (u c : List Char) : List Char :=
  " ON ".toList ++ (mark :: (double u ++ mark :: (" (".toList ++
    (mark :: (double c ++ mark :: ")".toList)))))

lemma infix_tail_of_spans (h : Spans t u c) : ownerChars t <:+: tailChars u c := by
  obtain ⟨k, i, rfl, ⟨p, rfl⟩, q, rfl⟩ := h
  refine ⟨" ON ".toList ++ (mark :: double p), double q ++ mark :: ")".toList, ?_⟩
  have hmarks : ∀ (m : Nat) (l : List Char), marks m ++ mark :: l = mark :: (marks m ++ l) := by
    intro m l
    have hcons : marks m ++ [mark] = mark :: marks m := by
      rw [marks, ← List.replicate_succ', List.replicate_succ]
    rw [← List.singleton_append, ← List.append_assoc, hcons]
    rfl
  have hon : double " ON ".toList = " ON ".toList := double_of_notMem (by decide)
  have hopen : double " (".toList = " (".toList := double_of_notMem (by decide)
  simp only [ownerChars, tailChars, double_append, double_marks, hon, hopen, List.append_assoc,
    List.cons_append, hmarks]

/-! ### Where the text occurs -/

/-- Inside of a quoted name: a name of quotes poses in it, or it ends with what the table's name
begins with. -/
lemma ownerChars_inside {x r : List Char} (hr : r.head? ≠ some mark)
    (h : ownerChars t <:+: double x ++ mark :: r) :
    Poses t x ∨
      (∃ k t', t = marks k ++ t' ∧ " ON ".toList ++ marks k <:+ x ∧
        double t' ++ mark :: " (".toList <+: r) ∨
      ownerChars t <:+: r := by
  rcases infix_double (d := ' ') (by decide) h with ⟨y, hy, hfront⟩ | hin
  · obtain ⟨y', rfl, hquoted⟩ := prefix_double_of_notMem (s := " ON ".toList) (by decide) hfront
    rcases quoted_inside hr hquoted with ⟨k, z, rfl, rfl, hopen⟩ | ⟨k, t', rfl, rfl, hend⟩
    · rw [← List.append_nil " (".toList] at hopen
      obtain ⟨z', rfl, -⟩ := prefix_double_of_notMem (by decide) hopen
      obtain ⟨p, rfl⟩ := hy
      refine Or.inl ⟨k, rfl, p, z', ?_⟩
      simp only [List.append_assoc]
    · exact Or.inr (Or.inl ⟨k, t', rfl, hy, hend⟩)
  · exact Or.inr (Or.inr hin)

lemma mark_mem_ownerChars (t : List Char) : mark ∈ ownerChars t :=
  List.mem_append_right _ List.mem_cons_self

/-- In the name of the column, and behind it. -/
lemma ownerChars_column (h : ownerChars t <:+: double c ++ mark :: ")".toList) : Poses t c := by
  have hnot : ∀ l : List Char, mark ∈ l → ¬ l <:+: ")".toList := fun l hl hin =>
    absurd (hin.subset hl) (by decide)
  rcases ownerChars_inside (by decide) h with h | ⟨k, t', -, -, hend⟩ | hin
  · exact h
  · exact absurd hend.isInfix (hnot _ (List.mem_append_right _ List.mem_cons_self))
  · exact absurd hin (hnot _ (mark_mem_ownerChars t))

/-- A name that ends with the name of the table, and goes on in that of the column. -/
lemma spans_of_front {k : Nat} {t' : List Char} (hu : " ON ".toList ++ marks k <:+ u)
    (h : double t' ++ mark :: " (".toList <+:
      " (".toList ++ (mark :: (double c ++ mark :: ")".toList))) : Spans (marks k ++ t') u c := by
  obtain ⟨t'', rfl, hquote⟩ := double_prefix_of_notMem (by decide) h
  cases t'' with
  | nil =>
    have hopen := (List.cons_prefix_cons.1 hquote).2
    rw [← List.append_nil " (".toList] at hopen
    obtain ⟨c', rfl, -⟩ := prefix_double_of_notMem (by decide) hopen
    exact ⟨k, 0, rfl, hu, c', rfl⟩
  | cons a t'' =>
    by_cases ha : a = mark
    · subst ha
      rw [double_mark] at hquote
      rcases quoted_inside (by decide) (List.cons_prefix_cons.1 hquote).2 with
        ⟨i, c', rfl, rfl, hopen⟩ | ⟨i, t', -, -, hend⟩
      · rw [← List.append_nil " (".toList] at hopen
        obtain ⟨c'', rfl, -⟩ := prefix_double_of_notMem (by decide) hopen
        refine ⟨k, i + 1, rfl, hu, c'', ?_⟩
        simp only [List.append_assoc]
      · exact absurd (hend.subset (List.mem_append_right _ List.mem_cons_self)) (by decide)
    · rw [double_cons ha] at hquote
      exact absurd (List.cons_prefix_cons.1 hquote).1 ha

/-- Before a quote there is no room for the text, where no blank has the right letter behind it. -/
lemma ownerChars_skip {s l : List Char} (hs : ¬ [' ', 'O'] <:+: s ++ [mark])
    (h : ownerChars t <:+: s ++ mark :: l) : ownerChars t <:+: l := by
  induction s with
  | nil =>
    exact (List.infix_cons_iff.1 h).resolve_left fun hfront =>
      absurd (List.cons_prefix_cons.1 hfront).1 (by decide)
  | cons a s ih =>
    refine ih (fun hin => hs (hin.trans (List.suffix_cons _ _).isInfix)) ?_
    refine (List.infix_cons_iff.1 h).resolve_left fun hfront => hs ?_
    obtain ⟨rfl, hrest⟩ := List.cons_prefix_cons.1 hfront
    cases s with
    | nil => exact absurd (List.cons_prefix_cons.1 hrest).1 (by decide)
    | cons b s =>
      obtain ⟨rfl, -⟩ := List.cons_prefix_cons.1 hrest
      exact ⟨[], s ++ [mark], rfl⟩

/-- The name of a table, behind its opening quote, is that of the table. -/
lemma eq_of_double_front {r : List Char} (hr : r.head? ≠ some mark)
    (h : double t ++ mark :: " (".toList <+: double u ++ mark :: r) : t = u := by
  obtain ⟨rest, hrest⟩ := h
  rw [List.append_assoc, List.cons_append] at hrest
  have hmark : (" (".toList ++ rest).head? ≠ some mark := by simp [mark, Text.doubleMark]
  have hread := body?_double hmark t
  rw [hrest, body?_double hr, Option.some.injEq, Prod.mk.injEq] at hread
  exact hread.1.symm

/-- Behind the name of the index. -/
lemma ownerChars_tail (h : ownerChars t <:+: tailChars u c) :
    t = u ∨ Poses t u ∨ Poses t c ∨ Spans t u c := by
  by_cases hfront : ownerChars t <+: tailChars u c
  · have hquote := (List.prefix_append_right_inj _).1 hfront
    exact Or.inl (eq_of_double_front (not_mark rfl (by decide) _)
      (List.cons_prefix_cons.1 hquote).2)
  · have hbehind : ownerChars t <:+: "ON ".toList ++ (mark :: (double u ++ mark ::
        (" (".toList ++ (mark :: (double c ++ mark :: ")".toList))))) :=
      (List.infix_cons_iff.1 h).resolve_left hfront
    rcases ownerChars_inside (not_mark rfl (by decide) _) (ownerChars_skip (by decide) hbehind) with
      hposes | ⟨k, t', rfl, hu, hend⟩ | hcolumn
    · exact Or.inr (Or.inl hposes)
    · exact Or.inr (Or.inr (Or.inr (spans_of_front hu hend)))
    · exact Or.inr (Or.inr (Or.inl (ownerChars_column (ownerChars_skip (by decide) hcolumn))))

/-- The characters of the statement that creates an index on a column of a table. -/
def statementChars (n u c : List Char) : List Char :=
  "CREATE INDEX IF NOT EXISTS ".toList ++ (mark :: (double n ++ mark :: tailChars u c))

lemma infix_quoted (front x rest : List Char) : x <:+: front ++ (mark :: (x ++ rest)) :=
  ⟨front ++ [mark], rest, by simp⟩

lemma infix_behind {x rest : List Char} (front name : List Char) (h : x <:+: rest) :
    x <:+: front ++ (mark :: (name ++ mark :: rest)) :=
  ((((h.trans (List.suffix_cons _ _).isInfix).trans (List.suffix_append _ _).isInfix).trans
    (List.suffix_cons _ _).isInfix)).trans (List.suffix_append _ _).isInfix

lemma double_infix_tail (u c : List Char) :
    double u <:+: tailChars u c ∧ double c <:+: tailChars u c := by
  unfold tailChars
  exact ⟨infix_quoted _ _ _, infix_behind _ _ (infix_quoted _ _ _)⟩

lemma owner_prefix_tail (u c : List Char) : ownerChars u <+: tailChars u c := by
  refine ⟨mark :: (double c ++ mark :: ")".toList), ?_⟩
  simp only [ownerChars, tailChars, List.append_assoc, List.cons_append]

/-- **Where the text of a table occurs** in the statement of an index, if the name of the index does
not end as if a table were to follow. -/
theorem ownerChars_infix_iff (hn : ∀ k, ¬ " ON ".toList ++ marks k <:+ n) :
    ownerChars t <:+: statementChars n u c ↔
      t = u ∨ Poses t n ∨ Poses t u ∨ Poses t c ∨ Spans t u c := by
  have htail : ∀ {x}, x <:+: tailChars u c → x <:+: statementChars n u c := fun h =>
    infix_behind _ _ h
  constructor
  · intro h
    rcases ownerChars_inside (not_mark rfl (by decide) _) (ownerChars_skip (by decide) h) with
      hposes | ⟨k, t', -, hends, -⟩ | hin
    · exact Or.inr (Or.inl hposes)
    · exact absurd hends (hn k)
    · rcases ownerChars_tail hin with h | h | h | h
      · exact Or.inl h
      · exact Or.inr (Or.inr (Or.inl h))
      · exact Or.inr (Or.inr (Or.inr (Or.inl h)))
      · exact Or.inr (Or.inr (Or.inr (Or.inr h)))
  · rintro (rfl | h | h | h | h)
    · exact htail (owner_prefix_tail t c).isInfix
    · exact (infix_double_of_poses h).trans (infix_quoted _ _ _)
    · exact htail ((infix_double_of_poses h).trans (double_infix_tail u c).1)
    · exact htail ((infix_double_of_poses h).trans (double_infix_tail u c).2)
    · exact htail (infix_tail_of_spans h)

/-! ### Names of indexes -/

/-- What begins before a character that it does not have ends before it. -/
lemma prefix_of_separated {p a b : List Char} {sep : Char} (hp : sep ∉ p)
    (h : p <+: a ++ sep :: b) : p <+: a := by
  induction a generalizing p with
  | nil =>
    cases p with
    | nil => exact List.prefix_refl _
    | cons x p => exact absurd (List.cons_prefix_cons.1 h).1 fun hx => hp (by simp [hx])
  | cons y a ih =>
    cases p with
    | nil => exact List.nil_prefix
    | cons x p =>
      obtain ⟨rfl, hrest⟩ := List.cons_prefix_cons.1 h
      exact List.cons_prefix_cons.2 ⟨rfl, ih (fun hx => hp (List.mem_cons_of_mem _ hx)) hrest⟩

/-- What occurs around a character that it does not have occurs on one of its sides. -/
lemma infix_of_separated {p a b : List Char} {sep : Char} (hp : sep ∉ p)
    (h : p <:+: a ++ sep :: b) : p <:+: a ∨ p <:+: b := by
  induction a with
  | nil =>
    rcases List.infix_cons_iff.1 h with h | h
    · exact Or.inl (prefix_of_separated (a := []) hp h).isInfix
    · exact Or.inr h
  | cons y a ih =>
    rcases List.infix_cons_iff.1 h with h | h
    · exact Or.inl (prefix_of_separated (a := y :: a) hp h).isInfix
    · exact (ih h).imp_left fun h => h.trans (List.suffix_cons _ _).isInfix

lemma takeBytes_prefix (budget : Nat) (l : List Char) : Text.takeBytes budget l <+: l := by
  induction l generalizing budget with
  | nil => exact List.nil_prefix
  | cons c l ih =>
    rw [Text.takeBytes]
    split
    · exact List.cons_prefix_cons.2 ⟨rfl, ih _⟩
    · exact List.nil_prefix

lemma exists_of_mem_digest {table : String} {columns : List String} {x : Char}
    (h : x ∈ (Index.digest table columns).toList) : ∃ d, d < 16 ∧ x = Nat.digitChar d := by
  simp only [Index.digest, String.toList_ofList] at h
  obtain ⟨b, -, hb⟩ := List.mem_flatMap.1 (List.mem_of_mem_take h)
  exact Text.mem_hexDigits hb

/-- A digest has no blanks and no quotes. -/
lemma mem_digest {table : String} {columns : List String} {x : Char}
    (h : x ∈ (Index.digest table columns).toList) : x ≠ ' ' ∧ x ≠ mark := by
  obtain ⟨d, hd, rfl⟩ := exists_of_mem_digest h
  interval_cases d <;> decide

/-- The name of an index: what fits of the readable part, a line, and the digest. -/
lemma exists_toList_name (table column : String) : ∃ front : List Char,
    front <+: "idx".toList ++ '_' :: (table.toList ++ '_' :: column.toList) ∧
      (Index.name Index.defaultStart table [column]).toList =
        front ++ '_' :: (Index.digest table [column]).toList := by
  refine ⟨Text.takeBytes (Index.maxBytes - (Index.digest table [column]).length - 1)
    (Index.readable Index.defaultStart table [column]).toList, ?_, ?_⟩
  · have hreadable : (Index.readable Index.defaultStart table [column]).toList =
        "idx".toList ++ '_' :: (table.toList ++ '_' :: column.toList) := by
      simp [Index.readable, Index.defaultStart]
    rw [← hreadable]
    exact takeBytes_prefix _ _
  · simp [Index.name]

lemma name_not_ends (table column : String) (k : Nat) :
    ¬ " ON ".toList ++ marks k <:+ (Index.name Index.defaultStart table [column]).toList := by
  obtain ⟨front, -, hname⟩ := exists_toList_name table column
  rintro ⟨p, hp⟩
  rw [hname] at hp
  have hsplit : (p ++ " ON".toList) ++ ' ' :: marks k =
      front ++ '_' :: (Index.digest table [column]).toList := by
    rw [← hp, List.append_assoc]
    rfl
  -- the last character is on the one side a blank or a quote, and on the other a digit or the line
  have hlast := congrArg List.getLast? hsplit
  rw [List.getLast?_append_cons, List.getLast?_append_cons,
    List.getLast?_eq_some_getLast (List.cons_ne_nil _ _),
    List.getLast?_eq_some_getLast (List.cons_ne_nil _ _), Option.some.injEq] at hlast
  have hleft := List.getLast_mem (List.cons_ne_nil ' ' (marks k))
  have hright := List.getLast_mem (List.cons_ne_nil '_' (Index.digest table [column]).toList)
  rw [← hlast] at hright
  generalize (' ' :: marks k).getLast _ = x at hleft hright
  have hx : x = ' ' ∨ x = mark :=
    (List.mem_cons.1 hleft).imp_right List.eq_of_mem_replicate
  rcases List.mem_cons.1 hright with rfl | hdigest
  · exact absurd hx (by decide)
  · exact hx.elim (mem_digest hdigest).1 (mem_digest hdigest).2

/-- A name of quotes that poses in the name of an index poses in that of the table or the column. -/
lemma poses_of_name {table column : String}
    (h : Poses t (Index.name Index.defaultStart table [column]).toList) :
    Poses t table.toList ∨ Poses t column.toList := by
  obtain ⟨front, hfront, hname⟩ := exists_toList_name table column
  obtain ⟨k, ht, hin⟩ := h
  have hline : '_' ∉ " ON ".toList ++ (marks (k + 1) ++ " (".toList) := by
    simp [marks, List.mem_replicate, mark, Text.doubleMark]
  have hblank : ' ' ∈ " ON ".toList ++ (marks (k + 1) ++ " (".toList) :=
    List.mem_append_left _ (by decide)
  rw [hname] at hin
  rcases infix_of_separated hline hin with hin | hin
  · rcases infix_of_separated hline (hin.trans hfront.isInfix) with hin | hin
    · exact absurd (hin.subset hblank) (by decide)
    · exact (infix_of_separated hline hin).imp (fun h => ⟨k, ht, h⟩) fun h => ⟨k, ht, h⟩
  · exact absurd rfl (mem_digest (hin.subset hblank)).1

end Table

end PgSchema
