import PgSchema.Proofs.Source.Literals
import PgSchema.Source.Statement

/-!
Literals that are written without escapes.

A text that is put between marks as it is need not be read as it is.  A long literal, between three
marks, ends too early just if three marks stand in a row in it and no backslash takes one of them
away (`stands_long_iff`).  A short one ends where it was written to end and stands for its text just
if the text has no mark, no line end, and no backslash but in front of a character that begins no
escape (`stands_short_iff`).
-/

namespace PgSchema.Source

open Text (singleMark doubleMark)

/-! ### Line ends in one form -/

section LineEnds

variable {back cs : List Char}

lemma return_notMem_oneLineEnd (cs : List Char) : '\r' ∉ oneLineEnd cs := by
  fun_induction oneLineEnd cs with
  | case1 cs ih => simpa using ih
  | case2 cs _ ih => simpa using ih
  | case3 c cs _ hc ih =>
    rw [List.mem_cons, not_or]
    exact ⟨fun h => hc h.symm, ih⟩
  | case4 => exact List.not_mem_nil

lemma length_oneLineEnd_le (cs : List Char) : (oneLineEnd cs).length ≤ cs.length := by
  fun_induction oneLineEnd cs with
  | case1 cs ih => exact Nat.succ_le_succ (Nat.le_succ_of_le ih)
  | case2 cs _ ih => exact Nat.succ_le_succ ih
  | case3 c cs _ _ ih => exact Nat.succ_le_succ ih
  | case4 => exact Nat.le_refl 0

lemma oneLineEnd_cons {c : Char} (hc : c ≠ '\r') (cs : List Char) :
    oneLineEnd (c :: cs) = c :: oneLineEnd cs := by
  rw [oneLineEnd]
  · exact fun _ heq _ => hc heq
  · exact hc

/-- Texts that stand next to each other keep to themselves, if the second one begins with no line
end. -/
lemma oneLineEnd_append (front : List Char) (hback : back.head? ≠ some '\n') :
    oneLineEnd (front ++ back) = oneLineEnd front ++ oneLineEnd back := by
  fun_induction oneLineEnd front with
  | case1 cs ih => rw [List.cons_append, List.cons_append, oneLineEnd, ih, List.cons_append]
  | case2 cs hcs ih =>
    have hnext : ∀ rest, cs ++ back ≠ '\n' :: rest := by
      intro rest heq
      cases cs with
      | nil => exact hback (by rw [List.nil_append] at heq; rw [heq]; rfl)
      | cons c cs => exact hcs cs (by rw [(List.cons.inj heq).1])
    rw [List.cons_append, oneLineEnd, ih, List.cons_append]
    exact hnext
  | case3 c cs h hc ih =>
    rw [List.cons_append, oneLineEnd, ih, List.cons_append]
    · exact fun _ heq _ => hc heq
    · exact hc
  | case4 => rw [List.nil_append, List.nil_append]

end LineEnds

/-! ### Literals that stand -/

/-- **A literal stands** in a text: a reader who comes to it takes all of it for one token, and
nothing behind it.  A text with a null character in it is not read at all. -/
structure Stands (literal : String) : Prop where
  legible : '\x00' ∉ literal.toList
  reads : ∀ (l : Lexer) (rest : List Char), l.rest = oneLineEnd literal.toList ++ rest →
    l.readToken = l.emit .text (oneLineEnd literal.toList) rest

/-- **What a literal denotes** as it stands in a text. -/
def Denotes (literal s : String) : Prop :=
  Literal.piece (String.ofList (oneLineEnd literal.toList)) = .ok (.text s)

/-- A module with a null character is refused. -/
lemma readModule_null {text : String} (h : '\x00' ∈ text.toList) :
    readModule text = .error (.badArgument "source code string cannot contain null bytes") :=
  if_pos h

/-! ### Long literals -/

/-- Three marks stand in a row, and no backslash takes one of them away. -/
def hasTriple : List Char → Bool
  | [] => false
  | '\\' :: _ :: cs => hasTriple cs
  | c :: cs => [doubleMark, doubleMark, doubleMark].isPrefixOf (c :: cs) || hasTriple cs

/-- Behind a text and a full stop, three marks are none of the text. -/
lemma isPrefixOf_triple (cs rest : List Char) :
    [doubleMark, doubleMark, doubleMark].isPrefixOf (cs ++ '.' :: rest) =
      [doubleMark, doubleMark, doubleMark].isPrefixOf cs := by
  have hstop : (doubleMark == '.') = false := by decide
  match cs with
  | [] => simp [List.isPrefixOf, hstop]
  | [a] => simp [List.isPrefixOf, hstop]
  | [a, b] => simp [List.isPrefixOf, hstop]
  | a :: b :: c :: cs => simp [List.isPrefixOf]

/-- **A long literal ends at the marks that it was closed with** just if there is no triple before
them. -/
lemma closeText_long (cs read rest : List Char) :
    closeText doubleMark true read
        (cs ++ '.' :: doubleMark :: doubleMark :: doubleMark :: rest) =
      .ok (read.reverse ++ (cs ++ ['.', doubleMark, doubleMark, doubleMark]), rest) ↔
    hasTriple cs = false := by
  fun_induction hasTriple cs generalizing read with
  | case1 => simp [closeText, List.isPrefixOf, doubleMark]
  | case2 d cs ih =>
    rw [List.cons_append, List.cons_append, closeText, ← ih (d :: '\\' :: read)]
    simp
  | case3 c cs hpair ih =>
    by_cases hback : c = '\\'
    · -- a backslash at the end takes away the full stop, and no mark
      subst hback
      cases cs with
      | nil => simp [closeText, List.isPrefixOf, hasTriple, doubleMark]
      | cons d cs => exact (hpair d cs rfl rfl).elim
    · rw [List.cons_append, closeText, ← List.cons_append, isPrefixOf_triple]
      · cases hopens : [doubleMark, doubleMark, doubleMark].isPrefixOf (c :: cs) with
        | true =>
          rw [Bool.true_and, if_pos rfl, Bool.true_or]
          refine iff_of_false (fun h => ?_) Bool.true_eq_false.mp
          have hlength := congrArg (List.length ∘ Prod.fst) (Except.ok.inj h)
          simp at hlength
        | false =>
          rw [Bool.and_false, if_neg Bool.false_ne_true, Bool.false_or, ← ih (c :: read)]
          simp
      · exact fun _ _ heq _ => hback heq

/-- A character that neither marks a text nor takes another one away. -/
def IsLetter (c : Char) : Prop := c ∉ [doubleMark, '\\', '\r', '\x00']

instance (c : Char) : Decidable (IsLetter c) := inferInstanceAs (Decidable (c ∉ _))

/-- Letters are passed over. -/
lemma closeText_letters {front : List Char} (hfront : ∀ c ∈ front, IsLetter c)
    (read rest : List Char) :
    closeText doubleMark true read (front ++ rest) =
      closeText doubleMark true (front.reverse ++ read) rest := by
  induction front generalizing read with
  | nil => rfl
  | cons c front ih =>
    obtain ⟨hc, hfront⟩ := List.forall_mem_cons.1 hfront
    simp only [IsLetter, List.mem_cons, List.not_mem_nil, or_false, not_or] at hc
    rw [List.cons_append, closeText]
    · have hopens : [doubleMark, doubleMark, doubleMark].isPrefixOf (c :: (front ++ rest)) =
          false := by simp [List.isPrefixOf, Ne.symm hc.1]
      rw [hopens, Bool.and_false, if_neg Bool.false_ne_true]
      simp [ih hfront]
    · exact fun _ _ heq _ => hc.2.1 heq

/-- What begins with no backslash has a triple at its front or behind it. -/
lemma hasTriple_cons {c : Char} (hc : c ≠ '\\') (cs : List Char) :
    hasTriple (c :: cs) =
      ([doubleMark, doubleMark, doubleMark].isPrefixOf (c :: cs) || hasTriple cs) := by
  rw [hasTriple]
  exact fun _ _ heq _ => hc heq

lemma hasTriple_lineEnd {c : Char} (hc : c = '\n' ∨ c = '\r') (cs : List Char) :
    hasTriple (c :: cs) = hasTriple cs := by
  rcases hc with rfl | rfl <;> exact hasTriple_cons (by decide) cs

/-- What is no line end is at the front in any form of line ends. -/
lemma isPrefixOf_oneLineEnd {w : List Char} (hw : ∀ c ∈ w, c ≠ '\n' ∧ c ≠ '\r') (cs : List Char) :
    w.isPrefixOf (oneLineEnd cs) = w.isPrefixOf cs := by
  induction w generalizing cs with
  | nil => rw [List.isPrefixOf_nil_left, List.isPrefixOf_nil_left]
  | cons a w ih =>
    obtain ⟨⟨hline, hreturn⟩, hw⟩ := List.forall_mem_cons.1 hw
    fun_cases oneLineEnd cs with
    | case1 cs =>
      rw [List.isPrefixOf, List.isPrefixOf, beq_false_of_ne hline, beq_false_of_ne hreturn]
      rfl
    | case2 cs =>
      rw [List.isPrefixOf, List.isPrefixOf, beq_false_of_ne hline, beq_false_of_ne hreturn]
      rfl
    | case3 c cs => rw [List.isPrefixOf, List.isPrefixOf, ih hw]
    | case4 => rfl

/-- A carriage return is a line end, with a new line behind it or without. -/
lemma exists_oneLineEnd_return (cs : List Char) :
    ∃ behind, oneLineEnd ('\r' :: cs) = '\n' :: behind ∧
      hasTriple behind = hasTriple (oneLineEnd cs) := by
  cases cs with
  | nil => exact ⟨[], rfl, rfl⟩
  | cons c cs =>
    by_cases hc : c = '\n'
    · refine ⟨oneLineEnd cs, by rw [hc, oneLineEnd], ?_⟩
      rw [hc, oneLineEnd_cons (by decide), hasTriple_lineEnd (.inl rfl)]
    · refine ⟨oneLineEnd (c :: cs), ?_, rfl⟩
      rw [oneLineEnd]
      exact fun _ heq => hc (List.cons.inj heq).1

/-- Line ends in another form make no triple. -/
lemma hasTriple_oneLineEnd (cs : List Char) : hasTriple (oneLineEnd cs) = hasTriple cs := by
  fun_induction hasTriple cs with
  | case1 => rfl
  | case2 d cs ih =>
    rw [oneLineEnd_cons (by decide)]
    by_cases hd : d = '\r'
    · obtain ⟨behind, hbehind, hsame⟩ := exists_oneLineEnd_return cs
      rw [hd, hbehind, hasTriple, hsame, ih]
    · rw [oneLineEnd_cons hd, hasTriple, ih]
  | case3 c cs hpair ih =>
    by_cases hreturn : c = '\r'
    · obtain ⟨behind, hbehind, hsame⟩ := exists_oneLineEnd_return cs
      rw [hreturn, ← hasTriple_cons (by decide), hasTriple_lineEnd (.inr rfl), hbehind,
        hasTriple_lineEnd (.inl rfl), hsame, ih]
    · by_cases hback : c = '\\'
      · subst hback
        cases cs with
        | nil => rfl
        | cons d cs => exact (hpair d cs rfl rfl).elim
      · have hopens := isPrefixOf_oneLineEnd
          (w := [doubleMark, doubleMark, doubleMark]) (by decide) (c :: cs)
        rw [oneLineEnd_cons hreturn] at hopens ⊢
        rw [hasTriple_cons hback, ih, hopens]

section Long

variable {literal : String} {front name : List Char}

/-- A long literal in one form of line ends. -/
lemma oneLineEnd_long (hfront : ∀ c ∈ front, IsLetter c)
    (hliteral : literal.toList = doubleMark :: doubleMark :: doubleMark :: (front ++
      (doubleMark :: name ++ [doubleMark] ++ ['.', doubleMark, doubleMark, doubleMark]))) :
    oneLineEnd literal.toList = doubleMark :: doubleMark :: doubleMark :: (front ++
      (oneLineEnd (doubleMark :: name ++ [doubleMark]) ++
        ['.', doubleMark, doubleMark, doubleMark])) := by
  have hreturn : '\r' ∉ front := fun h => hfront _ h (by decide)
  rw [hliteral, oneLineEnd_cons (by decide), oneLineEnd_cons (by decide),
    oneLineEnd_cons (by decide), oneLineEnd_append _ (by simp [doubleMark]),
    oneLineEnd_eq_self hreturn, oneLineEnd_append _ (by simp)]
  rfl

/-- **A long literal stands** if and only if no triple is in it, and no null character. -/
theorem stands_long_iff (hfront : ∀ c ∈ front, IsLetter c)
    (hliteral : literal.toList = doubleMark :: doubleMark :: doubleMark :: (front ++
      (doubleMark :: name ++ [doubleMark] ++ ['.', doubleMark, doubleMark, doubleMark]))) :
    Stands literal ↔ '\x00' ∉ name ∧ hasTriple (doubleMark :: name ++ [doubleMark]) = false := by
  have hnull : '\x00' ∉ literal.toList ↔ '\x00' ∉ name := by
    have hnone : '\x00' ∉ front := fun h => hfront _ h (by decide)
    rw [hliteral]
    simp [hnone, doubleMark]
  have hreads : ∀ (l : Lexer) (rest : List Char), l.rest = oneLineEnd literal.toList ++ rest →
      (l.readToken = l.emit .text (oneLineEnd literal.toList) rest ↔
        hasTriple (doubleMark :: name ++ [doubleMark]) = false) := by
    intro l rest hl
    rw [oneLineEnd_long hfront hliteral] at hl ⊢
    let written := oneLineEnd (doubleMark :: name ++ [doubleMark])
    have hclose := closeText_long written front.reverse rest
    rw [hasTriple_oneLineEnd] at hclose
    have hrest : l.rest = doubleMark :: doubleMark :: doubleMark ::
        (front ++ (written ++ '.' :: doubleMark :: doubleMark :: doubleMark :: rest)) := by
      rw [hl]
      simp [written]
    have htripled : [doubleMark, doubleMark].isPrefixOf (doubleMark :: doubleMark ::
        (front ++ (written ++ '.' :: doubleMark :: doubleMark :: doubleMark :: rest))) = true := rfl
    refine (readToken_text (.inr rfl) hrest htripled
      (front ++ (written ++ ['.', doubleMark, doubleMark, doubleMark])) rest).trans ?_
    rw [if_pos rfl, List.drop_succ_cons, List.drop_succ_cons, List.drop_zero,
      closeText_letters hfront, ← hclose, List.reverse_reverse, List.append_nil]
  constructor
  · intro h
    exact ⟨hnull.1 h.legible, (hreads ⟨_, 1, true, [], []⟩ [] (List.append_nil _).symm).1
      (h.reads _ [] (List.append_nil _).symm)⟩
  · rintro ⟨hname, htriple⟩
    exact ⟨hnull.2 hname, fun l rest hl => (hreads l rest hl).2 htriple⟩

end Long

/-! ### Escapes -/

/-- A character that stands for something else behind a backslash. -/
def BeginsEscape (c : Char) : Prop :=
  (Literal.letterEscapes.lookup c).isSome ∨ (Literal.codeWidths.lookup c).isSome ∨
    Literal.isOctal c ∨ c = 'N'

instance (c : Char) : Decidable (BeginsEscape c) := by unfold BeginsEscape; infer_instance

/-- A backslash stands for itself in front of what begins no escape. -/
lemma escape_eq {c : Char} (hc : ¬ BeginsEscape c) (at_ : Nat) (rest : List Char) :
    Literal.escape at_ (c :: rest) = .ok (['\\', c], 1) := by
  simp only [BeginsEscape, not_or, Bool.not_eq_true, Option.isSome_eq_false_iff,
    Option.isNone_iff_eq_none] at hc
  obtain ⟨hletter, hcode, hoctal, hname⟩ := hc
  simp [Literal.escape, hletter, hcode, hoctal, hname]

/-- **A backslash** stands for itself where nothing is behind it or nothing that begins an escape.
Otherwise it stands for one character at most, together with some that are behind it. -/
lemma escape_cases {at_ used : Nat} {cs value : List Char}
    (h : Literal.escape at_ cs = .ok (value, used)) :
    (cs = [] ∧ value = ['\\'] ∧ used = 0) ∨
      (∃ c rest, cs = c :: rest ∧ ¬ BeginsEscape c ∧ value = ['\\', c] ∧ used = 1) ∨
      cs ≠ [] ∧ value.length ≤ 1 ∧ 1 ≤ used := by
  cases cs with
  | nil =>
    obtain ⟨rfl, rfl⟩ := Prod.mk.inj (Except.ok.inj h)
    exact .inl ⟨rfl, rfl, rfl⟩
  | cons c rest =>
    by_cases hc : BeginsEscape c
    · refine .inr (.inr ⟨List.cons_ne_nil c rest, ?_⟩)
      simp only [Literal.escape] at h
      split at h
      · next hletter =>
        obtain ⟨rfl, rfl⟩ := Prod.mk.inj (Except.ok.inj h)
        obtain ⟨front, back, hsplit, -⟩ := List.lookup_eq_some_iff.1 hletter
        have hshort : ∀ e ∈ Literal.letterEscapes, e.2.length ≤ 1 := by decide
        exact ⟨hshort _ (by rw [hsplit]; exact List.mem_append_right _ List.mem_cons_self),
          Nat.le_refl 1⟩
      · split_ifs at h
        obtain ⟨rfl, rfl⟩ := Prod.mk.inj (Except.ok.inj h)
        exact ⟨Nat.le_refl 1, Nat.le_add_left 1 _⟩
      · next hletter hcode =>
        split_ifs at h with hoctal hname
        · obtain ⟨rfl, rfl⟩ := Prod.mk.inj (Except.ok.inj h)
          refine ⟨Nat.le_refl 1, ?_⟩
          rw [List.take_succ_cons, List.takeWhile_cons_of_pos hoctal]
          exact Nat.le_add_left 1 _
        · split at h
          · split_ifs at h
            split at h
            · obtain ⟨rfl, rfl⟩ := Prod.mk.inj (Except.ok.inj h)
              exact ⟨Nat.le_refl 1, Nat.le_add_left 1 _⟩
            · cases h
          · cases h
        · exact absurd hc (by simp [BeginsEscape, hletter, hcode, hoctal, hname])
    · rw [escape_eq hc] at h
      obtain ⟨rfl, rfl⟩ := Prod.mk.inj (Except.ok.inj h)
      exact .inr (.inl ⟨c, rest, rfl, hc, rfl, rfl⟩)

/-- **Every backslash stands for itself**: what is behind it begins no escape. -/
def Quiet (cs : List Char) : Prop :=
  ∀ front c rest, cs = front ++ '\\' :: c :: rest → ¬ BeginsEscape c

section Quiet

variable {c : Char} {cs : List Char}

lemma Quiet.cons (hc : c ≠ '\\') (h : Quiet cs) : Quiet (c :: cs) := by
  intro front d rest heq
  cases front with
  | nil => exact absurd (List.cons.inj heq).1 hc
  | cons e front => exact h front d rest (List.cons.inj heq).2

lemma Quiet.backslash (hc : ¬ BeginsEscape c) (h : Quiet cs) :
    Quiet ('\\' :: c :: cs) := by
  have hback : c ≠ '\\' := fun heq => hc (heq ▸ by decide)
  intro front d rest heq
  cases front with
  | nil => exact (List.cons.inj (List.cons.inj heq).2).1 ▸ hc
  | cons e front => exact h.cons hback front d rest (List.cons.inj heq).2

/-- **Escapes replaced make a text shorter**, unless there are none. -/
lemma unescape_length {at_ skip : Nat} {done found : List Char}
    (h : Literal.unescape at_ done skip cs = .ok found) :
    found.length ≤ done.length + (cs.length - skip) ∧
      (found.length = done.length + (cs.length - skip) →
        found = done.reverse ++ cs.drop skip ∧ Quiet (cs.drop skip)) := by
  induction cs generalizing at_ skip done with
  | nil =>
    obtain rfl : done.reverse = found := by
      cases skip <;> exact Except.ok.inj h
    refine ⟨by simp, fun _ => ⟨by simp, fun front c rest heq => ?_⟩⟩
    rw [List.drop_nil] at heq
    exact absurd heq.symm (by simp)
  | cons c cs ih =>
    cases skip with
    | succ skip =>
      rw [Literal.unescape] at h
      rw [List.length_cons, Nat.succ_sub_succ, List.drop_succ_cons]
      exact ih h
    | zero =>
      by_cases hc : c = '\\'
      · subst hc
        rw [Literal.unescape] at h
        rcases hescape : Literal.escape at_ cs with e | ⟨value, used⟩
        · rw [hescape] at h
          cases h
        · rw [hescape] at h
          obtain ⟨hle, heq⟩ := ih h
          rw [List.length_append, List.length_reverse] at hle heq
          rw [Nat.sub_zero, List.length_cons, List.drop_zero]
          rcases escape_cases hescape with ⟨rfl, rfl, rfl⟩ | ⟨d, rest, rfl, hd, rfl, rfl⟩ |
            ⟨hcs, hvalue, hused⟩
          · simp only [List.length_cons, List.length_nil] at hle heq
            refine ⟨by omega, fun hlength => ⟨?_, fun front d rest hsplit => ?_⟩⟩
            · rw [(heq (by omega)).1]
              simp
            · have hshort := congrArg List.length hsplit
              simp only [List.length_cons, List.length_append, List.length_nil] at hshort
              omega
          · simp only [List.length_cons, List.length_nil] at hle heq ⊢
            refine ⟨by omega, fun hlength => ?_⟩
            obtain ⟨hfound, hquiet⟩ := heq (by omega)
            refine ⟨?_, hquiet.backslash hd⟩
            rw [hfound]
            simp
          · have hpos := List.length_pos_iff.2 hcs
            exact ⟨by omega, fun hlength => absurd hlength (by omega)⟩
      · rw [Literal.unescape] at h
        · obtain ⟨hle, heq⟩ := ih h
          rw [List.length_cons] at hle heq
          rw [Nat.sub_zero, List.length_cons, List.drop_zero]
          refine ⟨by omega, fun hlength => ?_⟩
          obtain ⟨hfound, hquiet⟩ := heq (by omega)
          refine ⟨?_, hquiet.cons hc⟩
          rw [hfound]
          simp
        · exact hc

/-- Where every backslash stands for itself, there is nothing to be replaced. -/
lemma unescape_quiet (h : Quiet cs) (at_ : Nat) (done : List Char) :
    Literal.unescape at_ done 0 cs = .ok (done.reverse ++ cs) := by
  fun_induction hasTriple cs generalizing at_ done with
  | case1 => simp [Literal.unescape]
  | case2 d cs ih =>
    have hescape := escape_eq (h [] d cs rfl) at_ cs
    have hrest : Quiet cs := fun front c rest heq =>
      h ('\\' :: d :: front) c rest (by rw [heq]; rfl)
    rw [Literal.unescape, hescape]
    change Literal.unescape _ _ 1 (d :: cs) = _
    rw [Literal.unescape, ih hrest]
    simp
  | case3 c cs hpair ih =>
    by_cases hc : c = '\\'
    · subst hc
      cases cs with
      | nil => simp [Literal.unescape, Literal.escape, bind, Except.bind]
      | cons d cs => exact (hpair d cs rfl rfl).elim
    · rw [Literal.unescape, ih fun front d rest heq => h (c :: front) d rest (by rw [heq]; rfl)]
      · simp
      · exact hc

/-! ### Short literals -/

/-- A text that is closed has got at least the marks that close it. -/
lemma length_le_of_closeText {mark : Char} {tripled : Bool} {read text rest : List Char}
    (h : closeText mark tripled read cs = .ok (text, rest)) :
    read.length + (if tripled then 3 else 1) ≤ text.length := by
  fun_induction closeText mark tripled read cs with
  | case1 => cases h
  | case2 read c cs ih =>
    refine Nat.le_trans (Nat.add_le_add_right ?_ _) (ih h)
    exact Nat.le_add_right read.length 2
  | case3 read c cs _ htriple =>
    obtain ⟨rfl, -⟩ := Prod.mk.inj (Except.ok.inj h)
    rw [(Bool.and_eq_true_iff.1 htriple).1]
    simp
  | case4 read cs _ _ hsingle =>
    obtain ⟨rfl, -⟩ := Prod.mk.inj (Except.ok.inj h)
    cases tripled <;> simp_all
  | case5 => cases h
  | case6 read c cs _ _ _ _ ih =>
    exact Nat.le_trans (Nat.add_le_add_right (Nat.le_add_right read.length 1) _) (ih h)

lemma getLast?_cons_of_ne {a : Char} (hc : c ≠ a) (cs : List Char) :
    (c :: cs).getLast? = some a ↔ cs.getLast? = some a := by
  cases cs with
  | nil => simp [hc]
  | cons d cs => rw [List.getLast?_cons_cons]

/-- **A short literal ends at the mark that it was closed with** just if there is neither a mark nor
a line end before it, and no backslash that takes it away. -/
lemma closeText_short (hquiet : Quiet cs) (read rest : List Char) :
    closeText doubleMark false read (cs ++ doubleMark :: rest) =
      .ok (read.reverse ++ (cs ++ [doubleMark]), rest) ↔
    doubleMark ∉ cs ∧ '\n' ∉ cs ∧ cs.getLast? ≠ some '\\' := by
  fun_induction hasTriple cs generalizing read with
  | case1 => simp [closeText, doubleMark]
  | case2 d cs ih =>
    have hd := hquiet [] d cs rfl
    have hne : ∀ c, BeginsEscape c → c ≠ d := fun c hc heq => hd (heq ▸ hc)
    have hlast : ('\\' :: d :: cs).getLast? = some '\\' ↔ cs.getLast? = some '\\' := by
      rw [List.getLast?_cons_cons, getLast?_cons_of_ne (hne _ (by decide)).symm]
    have hmark : doubleMark ∉ '\\' :: d :: cs ↔ doubleMark ∉ cs := by
      rw [List.mem_cons, List.mem_cons, or_iff_right (by decide),
        or_iff_right (hne _ (by decide))]
    have hline : '\n' ∉ '\\' :: d :: cs ↔ '\n' ∉ cs := by
      rw [List.mem_cons, List.mem_cons, or_iff_right (by decide),
        or_iff_right (hne _ (by decide))]
    rw [hmark, hline, ne_eq, hlast, ← ne_eq,
      ← ih (fun front c rest heq => hquiet ('\\' :: d :: front) c rest (by rw [heq]; rfl))
        (d :: '\\' :: read), List.cons_append, List.cons_append, closeText]
    simp
  | case3 c cs hpair ih =>
    by_cases hback : c = '\\'
    · -- the backslash at the end takes away the mark
      subst hback
      cases cs with
      | cons d cs => exact (hpair d cs rfl rfl).elim
      | nil =>
        refine iff_of_false (fun h => ?_) (by simp)
        rw [List.cons_append, List.nil_append, closeText] at h
        have hlength := length_le_of_closeText h
        simp at hlength
    · have hstep : ∀ behind, closeText doubleMark false read (c :: behind) =
          if c = doubleMark then .ok ((doubleMark :: read).reverse, behind)
          else if c = '\n' then .error (c :: read).reverse
          else closeText doubleMark false (c :: read) behind := by
        intro behind
        rw [closeText]
        · simp
        · exact fun _ _ heq _ => hback heq
      rw [List.cons_append, hstep]
      by_cases hmark : c = doubleMark
      · refine iff_of_false (fun h => ?_) fun h => h.1 (by rw [hmark]; exact List.mem_cons_self)
        rw [if_pos hmark] at h
        have hlength := congrArg (List.length ∘ Prod.fst) (Except.ok.inj h)
        simp at hlength
      · rw [if_neg hmark]
        by_cases hline : c = '\n'
        · refine iff_of_false (fun h => ?_) fun h => h.2.1 (by rw [hline]; exact List.mem_cons_self)
          rw [if_pos hline] at h
          cases h
        · rw [if_neg hline, List.mem_cons, List.mem_cons, or_iff_right (Ne.symm hmark),
            or_iff_right (Ne.symm hline), ne_eq, getLast?_cons_of_ne hback, ← ne_eq,
            ← ih (fun front d rest heq => hquiet (c :: front) d rest (by rw [heq]; rfl))
              (c :: read)]
          simp

end Quiet

/-- **A text that is its own literal**, between two marks. -/
structure Plain (cs : List Char) : Prop where
  inner : ∀ c ∈ [doubleMark, '\n', '\r', '\x00'], c ∉ cs
  quiet : Quiet cs
  closed : cs.getLast? ≠ some '\\'

/-- What stands between two marks is part of the literal, and all of it just if nothing else is
taken for the marks. -/
lemma inside_short (cs : List Char) :
    (Literal.inside (doubleMark :: (cs ++ [doubleMark]))).length ≤ cs.length ∧
      ((Literal.inside (doubleMark :: (cs ++ [doubleMark]))).length = cs.length →
        Literal.inside (doubleMark :: (cs ++ [doubleMark])) = cs ∧
          ¬ ([doubleMark, doubleMark].isPrefixOf (cs ++ [doubleMark]) ∧
            5 ≤ (cs ++ [doubleMark]).length)) := by
  rw [Literal.inside]
  split_ifs with hlong
  · have hlength := hlong.2
    simp only [List.length_append, List.length_singleton, List.length_take, List.length_drop]
      at hlength ⊢
    exact ⟨by omega, fun h => absurd h (by omega)⟩
  · have htake : (cs ++ [doubleMark]).take ((cs ++ [doubleMark]).length - 1) = cs := by simp
    rw [htake]
    exact ⟨Nat.le_refl _, fun _ => ⟨rfl, hlong⟩⟩

/-- **What a literal without letters stands for** is no longer than what is between its marks, and
is that if it is as long. -/
lemma piece_length {cs : List Char} {s : String}
    (hletters : Tree.textLetters (String.ofList cs) = [])
    (h : Literal.piece (String.ofList cs) = .ok (.text s)) :
    s.toList.length ≤ (Literal.inside cs).length ∧
      (s.toList.length = (Literal.inside cs).length →
        s.toList = Literal.inside cs ∧ Quiet (Literal.inside cs)) := by
  simp only [Literal.piece, hletters, List.length_nil, List.drop_zero, String.toList_ofList,
    List.not_mem_nil, if_false, false_or] at h
  split_ifs at h with hraw
  · cases hunescape : Literal.unescape 0 [] 0 (Literal.inside cs) with
    | error e =>
      rw [hunescape] at h
      cases h
    | ok found =>
      rw [hunescape] at h
      obtain rfl : String.ofList found = s := Literal.Piece.text.inj (Except.ok.inj h)
      have hlength := unescape_length hunescape
      rw [List.length_nil, Nat.zero_add, Nat.sub_zero] at hlength
      rw [String.toList_ofList]
      exact hlength
  · obtain rfl : String.ofList (Literal.inside cs) = s :=
      Literal.Piece.text.inj (Except.ok.inj h)
    rw [String.toList_ofList]
    refine ⟨Nat.le_refl _, fun _ => ⟨rfl, fun front c rest heq => (hraw ?_).elim⟩⟩
    rw [heq]
    exact List.mem_append_right _ List.mem_cons_self

section Short

variable {literal name : String}

/-- A short literal in one form of line ends. -/
lemma oneLineEnd_short {cs : List Char}
    (hliteral : literal.toList = doubleMark :: (cs ++ [doubleMark])) :
    oneLineEnd literal.toList = doubleMark :: (oneLineEnd cs ++ [doubleMark]) := by
  rw [hliteral, oneLineEnd_cons (by decide), oneLineEnd_append _ (by decide)]
  rfl

/-- A short literal that stands for what is between its marks has nothing in it that is read as
anything else. -/
lemma Stands.plain (hstands : Stands literal) (hdenotes : Denotes literal name)
    (hliteral : literal.toList = doubleMark :: (name.toList ++ [doubleMark])) :
    Plain name.toList := by
  have hends := oneLineEnd_short hliteral
  rw [Denotes, hends] at hdenotes
  have hlength := length_oneLineEnd_le name.toList
  obtain ⟨hpiece, hsame⟩ := piece_length (textLetters_mark (.inr rfl) _) hdenotes
  obtain ⟨hinside, hwhole⟩ := inside_short (oneLineEnd name.toList)
  obtain ⟨hbody, hshort⟩ := hwhole (by omega)
  rw [hbody] at hsame
  obtain ⟨hself, hquiet⟩ := hsame (by rw [hbody] at hpiece; omega)
  have hreturn : '\r' ∉ name.toList := hself ▸ return_notMem_oneLineEnd name.toList
  rw [← hself] at hquiet hends hshort
  have hread := hstands.reads ⟨oneLineEnd literal.toList, 1, true, [], []⟩ []
    (List.append_nil _).symm
  rw [hends] at hread
  cases hopens : [doubleMark, doubleMark].isPrefixOf (name.toList ++ [doubleMark]) with
  | true =>
    -- three marks at the front are closed by three more
    obtain ⟨inside, hopening⟩ := List.isPrefixOf_iff_prefix.1 hopens
    rw [← hopening] at hread hopens
    have hclose := (readToken_text (.inr rfl) rfl hopens inside []).1 hread
    have hthree := length_le_of_closeText hclose
    refine (hshort ⟨hopening ▸ hopens, ?_⟩).elim
    rw [← hopening, List.length_append]
    exact Nat.add_le_add_left hthree 2
  | false =>
    have hclose := (readToken_text (.inr rfl) rfl hopens (name.toList ++ [doubleMark]) []).1 hread
    obtain ⟨hmark, hline, hclosed⟩ := (closeText_short hquiet [] []).1 hclose
    have hnull : '\x00' ∉ name.toList := fun h => hstands.legible (by rw [hliteral]; simp [h])
    exact ⟨by simp [hmark, hline, hreturn, hnull], hquiet, hclosed⟩

namespace Plain

variable (h : Plain name.toList)

include h

/-- A plain text is the same in one form of line ends. -/
lemma oneLineEnd_literal (hliteral : literal.toList = doubleMark :: (name.toList ++ [doubleMark])) :
    oneLineEnd literal.toList = literal.toList := by
  rw [oneLineEnd_short hliteral, oneLineEnd_eq_self (h.inner '\r' (by simp)), hliteral]

/-- It does not begin with marks. -/
lemma opens (hname : name ≠ "") (rest : List Char) :
    [doubleMark, doubleMark].isPrefixOf (name.toList ++ doubleMark :: rest) = false := by
  have hmark := h.inner doubleMark List.mem_cons_self
  obtain ⟨c, cs, hcs⟩ := List.exists_cons_of_ne_nil
    (fun hnil => hname (String.toList_eq_nil_iff.1 hnil))
  rw [hcs] at hmark ⊢
  rw [List.mem_cons, not_or] at hmark
  simp [List.isPrefixOf, hmark.1]

/-- **A plain text stands** between two marks. -/
lemma stands (hname : name ≠ "")
    (hliteral : literal.toList = doubleMark :: (name.toList ++ [doubleMark])) :
    Stands literal := by
  refine ⟨?_, fun l rest hl => ?_⟩
  · have hnull := h.inner '\x00' (by simp)
    rw [hliteral]
    simp [hnull, doubleMark]
  · rw [h.oneLineEnd_literal hliteral, hliteral] at hl ⊢
    have hrest : l.rest = doubleMark :: (name.toList ++ doubleMark :: rest) := by
      rw [hl, List.cons_append, List.append_assoc, List.singleton_append]
    have hclose := (closeText_short h.quiet [] rest).2
      ⟨h.inner doubleMark List.mem_cons_self, h.inner '\n' (by simp), h.closed⟩
    exact (readToken_text (.inr rfl) hrest (h.opens hname rest) _ rest).2 hclose

/-- **What stands between the marks** is what the literal denotes. -/
lemma denotes (hname : name ≠ "")
    (hliteral : literal.toList = doubleMark :: (name.toList ++ [doubleMark])) :
    Denotes literal name := by
  have hinside : Literal.inside (doubleMark :: (name.toList ++ [doubleMark])) = name.toList := by
    rw [Literal.inside, h.opens hname]
    simp
  rw [Denotes, h.oneLineEnd_literal hliteral, hliteral]
  simp only [Literal.piece, textLetters_mark (.inr rfl), List.length_nil, List.drop_zero,
    String.toList_ofList, List.not_mem_nil, if_false, false_or, hinside,
    unescape_quiet h.quiet, List.reverse_nil, List.nil_append, String.ofList_toList, ite_self]

end Plain

/-- **A short literal stands for what is between its marks** if and only if that is plain. -/
theorem stands_short_iff (hname : name ≠ "")
    (hliteral : literal.toList = doubleMark :: (name.toList ++ [doubleMark])) :
    Stands literal ∧ Denotes literal name ↔ Plain name.toList :=
  ⟨fun ⟨hstands, hdenotes⟩ => hstands.plain hdenotes hliteral,
    fun h => ⟨h.stands hname hliteral, h.denotes hname hliteral⟩⟩

end Short

/-! ### Literals with escapes -/

/-- A character that stands in no literal: it is escaped, and no escape is made of it. -/
lemma notMem_literal {c : Char} (hc : c = '\r' ∨ c = '\x00') (s : String) :
    c ∉ (Text.literal s).toList := by
  have hmark := markOf_cases s.toList
  have hself : c ≠ Text.markOf s.toList := by
    rcases hmark with h | h <;> rcases hc with rfl | rfl <;> rw [h] <;> decide
  intro h
  rw [toList_literal, List.mem_cons, or_iff_right hself, List.mem_append, List.mem_singleton,
    or_iff_left hself, List.mem_flatMap] at h
  obtain ⟨d, -, hd⟩ := h
  rcases literalChar_cases hmark d with ⟨hplain, -⟩ | ⟨letter, width, hescape, hletter⟩
  · obtain rfl : c = d := List.mem_singleton.1 (hplain ▸ hd)
    have hescaped : Text.literalChar (Text.markOf s.toList) c ≠ [c] := by
      rcases hmark with h | h <;> rcases hc with rfl | rfl <;> rw [h] <;> decide
    exact hescaped hplain
  · rw [hescape, List.mem_cons, List.mem_cons] at hd
    obtain rfl | rfl | hdigit := hd
    · rcases hc with h | h <;> cases h
    · rcases hletter with ⟨h, -⟩ | ⟨-, h, -⟩ <;> rcases hc with rfl | rfl <;> cases h
    · have hdigit := Text.isSome_of_mem_hexDigits hdigit
      rcases hc with rfl | rfl <;> cases hdigit

/-- **A literal with escapes stands**, whatever its text is. -/
theorem stands_literal {s : String} (hs : s ≠ "") : Stands (Text.literal s) := by
  have hself : oneLineEnd (Text.literal s).toList = (Text.literal s).toList :=
    oneLineEnd_eq_self (notMem_literal (.inl rfl) s)
  refine ⟨notMem_literal (.inr rfl) s, fun l rest hl => ?_⟩
  rw [hself] at hl ⊢
  rw [readToken_literal hs hl, Lexer.emit, lineEnds_literal, Nat.add_zero, String.ofList_toList]

end PgSchema.Source
