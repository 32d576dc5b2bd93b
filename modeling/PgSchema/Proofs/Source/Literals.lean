import Mathlib.Data.List.Basic
import Mathlib.Data.List.TakeWhile
import PgSchema.Proofs.Text.Basic
import PgSchema.Source.Lexer
import PgSchema.Source.Literal

/-!
The literal of a text, read back.

A character of a text stands in a literal as it is, or as a backslash with a letter and digits
(`literalChar_cases`).  A reader that looks for the mark at the end passes over both
(`readToken_literal`), and a reader that replaces the escapes finds the character again
(`piece_literal`).
-/

namespace PgSchema.Source

open Text (IsInner hexDigits hexStep literal literalChar literalChars markOf singleMark doubleMark)

/-! ### Characters inside a literal -/

/-- A letter with a number of digits behind it stands for a character. -/
def Escapes (letter : Char) (width : Nat) (c : Char) : Prop :=
  (Literal.letterEscapes.lookup letter = some [c] ∧ width = 0) ∨
    Literal.letterEscapes.lookup letter = none ∧
      Literal.codeWidths.lookup letter = some width ∧ c.toNat < 16 ^ width

lemma toNat_le_lastCode (c : Char) : c.toNat ≤ Literal.lastCode := by
  rcases c.valid with h | ⟨-, h⟩
  · exact Nat.le_trans (Nat.le_of_lt h) (by decide)
  · exact Nat.lt_succ_iff.1 h

/-- **A character inside a literal** is itself, and is nothing that a reader of literals knows, or
it is an escape. -/
lemma literalChar_cases {mark : Char} (hmark : mark = singleMark ∨ mark = doubleMark) (c : Char) :
    (literalChar mark c = [c] ∧ c ≠ mark ∧ c ≠ '\\' ∧ c ≠ '\n') ∨
      ∃ letter width, literalChar mark c = '\\' :: letter :: hexDigits width c.toNat ∧
        Escapes letter width c := by
  unfold literalChar
  split_ifs with hself hline hreturn htab hprint hbyte hshort
  · refine .inr ⟨c, 0, rfl, .inl ⟨?_, rfl⟩⟩
    rcases hmark with rfl | rfl <;> rcases hself with rfl | rfl <;> rfl
  · exact .inr ⟨'n', 0, rfl, .inl ⟨hline ▸ rfl, rfl⟩⟩
  · exact .inr ⟨'r', 0, rfl, .inl ⟨hreturn ▸ rfl, rfl⟩⟩
  · exact .inr ⟨'t', 0, rfl, .inl ⟨htab ▸ rfl, rfl⟩⟩
  · exact .inl ⟨rfl, fun h => hself (.inl h), fun h => hself (.inr h), hline⟩
  · exact .inr ⟨'x', 2, rfl, .inr ⟨rfl, rfl, hbyte⟩⟩
  · exact .inr ⟨'u', 4, rfl, .inr ⟨rfl, rfl, hshort⟩⟩
  · refine .inr ⟨'U', 8, rfl, .inr ⟨rfl, rfl, ?_⟩⟩
    exact Nat.lt_of_le_of_lt (toNat_le_lastCode c) (by decide)

lemma markOf_cases (cs : List Char) : markOf cs = singleMark ∨ markOf cs = doubleMark := by
  unfold markOf
  split_ifs
  · exact .inr rfl
  · exact .inl rfl

section Characters

variable {mark : Char}

/-! ### Where a literal ends -/

lemma IsInner.ne {c : Char} (h : IsInner c) (hmark : mark = singleMark ∨ mark = doubleMark) :
    c ≠ mark ∧ c ≠ '\\' ∧ c ≠ '\n' := by
  simp only [IsInner, List.mem_cons, List.not_mem_nil, or_false, not_or] at h
  obtain ⟨hback, hsingle, hdouble, hline⟩ := h
  refine ⟨?_, hback, hline⟩
  rcases hmark with rfl | rfl
  · exact hsingle
  · exact hdouble

/-- Characters that are no mark, no backslash and no line end are passed over. -/
lemma closeText_append {cs : List Char} (h : ∀ c ∈ cs, c ≠ mark ∧ c ≠ '\\' ∧ c ≠ '\n')
    (read rest : List Char) :
    closeText mark false read (cs ++ rest) = closeText mark false (cs.reverse ++ read) rest := by
  induction cs generalizing read with
  | nil => rfl
  | cons c cs ih =>
    obtain ⟨⟨hmark, hback, hline⟩, hcs⟩ := List.forall_mem_cons.1 h
    have hstep : closeText mark false read (c :: (cs ++ rest)) =
        closeText mark false (c :: read) (cs ++ rest) := by
      rw [closeText]
      · simp [hmark, hline]
      · exact fun _ _ h => (hback h).elim
    rw [List.cons_append, hstep, ih hcs, List.reverse_cons, List.append_assoc]
    rfl

/-- A character of a literal is passed over. -/
lemma closeText_literalChar (hmark : mark = singleMark ∨ mark = doubleMark) (c : Char)
    (read rest : List Char) : closeText mark false read (literalChar mark c ++ rest) =
      closeText mark false ((literalChar mark c).reverse ++ read) rest := by
  rcases literalChar_cases hmark c with ⟨hplain, hc⟩ | ⟨letter, width, hescape, -⟩
  · rw [hplain]
    exact closeText_append (List.forall_mem_singleton.2 hc) read rest
  · rw [hescape, List.cons_append, List.cons_append, closeText,
      closeText_append fun d hd => IsInner.ne (Text.isInner_of_mem_hexDigits hd) hmark]
    simp

/-- The text of a literal is passed over, up to its mark. -/
lemma closeText_literal (hmark : mark = singleMark ∨ mark = doubleMark) (cs read rest : List Char) :
    closeText mark false read (cs.flatMap (literalChar mark) ++ mark :: rest) =
      .ok (read.reverse ++ (cs.flatMap (literalChar mark) ++ [mark]), rest) := by
  induction cs generalizing read with
  | nil =>
    have hback : mark ≠ '\\' := by rcases hmark with rfl | rfl <;> decide
    rw [List.flatMap_nil, List.nil_append, closeText]
    · simp
    · exact fun _ _ h => (hback h).elim
  | cons c cs ih =>
    rw [List.flatMap_cons, List.append_assoc, closeText_literalChar hmark, ih]
    simp

/-- A literal that holds something does not begin like a long one. -/
lemma not_mark_of_literal (hmark : mark = singleMark ∨ mark = doubleMark) {cs : List Char}
    (hcs : cs ≠ []) (rest : List Char) :
    [mark, mark].isPrefixOf (cs.flatMap (literalChar mark) ++ rest) = false := by
  obtain ⟨c, cs, rfl⟩ := List.exists_cons_of_ne_nil hcs
  have hback : mark ≠ '\\' := by rcases hmark with rfl | rfl <;> decide
  rw [List.flatMap_cons]
  rcases literalChar_cases hmark c with ⟨hplain, hne, -⟩ | ⟨letter, width, hescape, -⟩
  · simp [hplain, List.isPrefixOf, hne.symm]
  · simp [hescape, List.isPrefixOf, hback]

/-! ### What a literal stands for -/

/-- An escape stands for its character. -/
lemma escape_of_escapes {letter c : Char} {width : Nat} (h : Escapes letter width c) (at_ : Nat)
    (rest : List Char) :
    Literal.escape at_ (letter :: (hexDigits width c.toNat ++ rest)) = .ok ([c], width + 1) := by
  rcases h with ⟨hletter, rfl⟩ | ⟨hletter, hwidth, hlt⟩
  · simp only [Literal.escape, hletter]
  · have hdigits : ((hexDigits width c.toNat ++ rest).take width).takeWhile
        (fun d => (Text.hexValue? d).isSome) = hexDigits width c.toNat := by
      rw [List.take_left' (Text.length_hexDigits width _), List.takeWhile_eq_self_iff]
      exact fun d => Text.isSome_of_mem_hexDigits
    have hvalue : Literal.valueOf 16 (hexDigits width c.toNat) = c.toNat :=
      Text.foldl_hexDigits_of_lt hlt
    have hcharacter : Literal.character c.toNat = c := by
      simp only [Literal.character, Char.ofNat_toNat, if_true]
    simp only [Literal.escape, hletter, hwidth, hdigits, hvalue, hcharacter,
      Text.length_hexDigits, lt_irrefl, if_false, gt_iff_lt, Nat.not_lt.2 (toNat_le_lastCode c)]

/-- Characters that are used up. -/
lemma unescape_skip (cs rest : List Char) (at_ : Nat) (done : List Char) :
    ∃ next, Literal.unescape at_ done cs.length (cs ++ rest) =
      Literal.unescape next done 0 rest := by
  induction cs generalizing at_ with
  | nil => exact ⟨at_, rfl⟩
  | cons c cs ih =>
    rw [List.length_cons, List.cons_append, Literal.unescape]
    exact ih _

/-- **Every character of a text is found again** in its literal. -/
lemma unescape_literal (hmark : mark = singleMark ∨ mark = doubleMark) (cs : List Char) (at_ : Nat)
    (done : List Char) :
    Literal.unescape at_ done 0 (cs.flatMap (literalChar mark)) = .ok (done.reverse ++ cs) := by
  induction cs generalizing at_ done with
  | nil => simp [Literal.unescape]
  | cons c cs ih =>
    rw [List.flatMap_cons]
    rcases literalChar_cases hmark c with ⟨hplain, -, hback, -⟩ | ⟨letter, width, hescape, h⟩
    · rw [hplain, List.singleton_append, Literal.unescape, ih]
      · simp
      · exact hback
    · rw [hescape, List.cons_append, List.cons_append, Literal.unescape, escape_of_escapes h]
      have hused : width + 1 = (letter :: hexDigits width c.toNat).length := by
        rw [List.length_cons, Text.length_hexDigits]
      obtain ⟨next, hskip⟩ := unescape_skip (letter :: hexDigits width c.toNat)
        (cs.flatMap (literalChar mark)) _ ([c].reverse ++ done)
      rw [List.cons_append, ← hused] at hskip
      exact hskip.trans ((ih _ _).trans (by simp))

/-- What stands between the marks of a literal. -/
lemma inside_literal (hmark : mark = singleMark ∨ mark = doubleMark) (cs : List Char) :
    Literal.inside (mark :: (cs.flatMap (literalChar mark) ++ [mark])) =
      cs.flatMap (literalChar mark) := by
  have hlong : ¬ ([mark, mark].isPrefixOf (cs.flatMap (literalChar mark) ++ [mark]) ∧
      (cs.flatMap (literalChar mark) ++ [mark]).length ≥ 5) := by
    rintro ⟨hbegin, hlength⟩
    rcases eq_or_ne cs [] with rfl | hcs
    · exact absurd hlength (by simp)
    · rw [not_mark_of_literal hmark hcs] at hbegin
      cases hbegin
  rw [Literal.inside, if_neg hlong, List.length_append, List.length_singleton,
    Nat.add_sub_cancel, List.take_left]

end Characters

lemma toList_literal (s : String) : (literal s).toList =
    markOf s.toList :: (s.toList.flatMap (literalChar (markOf s.toList)) ++ [markOf s.toList]) := by
  rw [literal, String.toList_ofList, literalChars, List.cons_append]

/-- No letters stand before a mark. -/
lemma textLetters_mark {mark : Char} (hmark : mark = singleMark ∨ mark = doubleMark)
    (cs : List Char) : Tree.textLetters (String.ofList (mark :: cs)) = [] := by
  rw [Tree.textLetters, String.toList_ofList, List.takeWhile_cons_of_neg, List.map_nil]
  rcases hmark with rfl | rfl <;> decide

/-- **The literal of a text stands for the text**. -/
lemma piece_literal (s : String) : Literal.piece (literal s) = .ok (.text s) := by
  have hmark := markOf_cases s.toList
  have hletters : Tree.textLetters (literal s) = [] := textLetters_mark hmark _
  have hbody : Literal.inside ((literal s).toList.drop 0) =
      s.toList.flatMap (literalChar (markOf s.toList)) := by
    rw [List.drop_zero, toList_literal, inside_literal hmark]
  have hraw : '\\' ∉ s.toList.flatMap (literalChar (markOf s.toList)) →
      s.toList.flatMap (literalChar (markOf s.toList)) = s.toList := by
    intro h
    have hplain : ∀ c ∈ s.toList, literalChar (markOf s.toList) c = [c] := by
      intro c hc
      refine (literalChar_cases hmark c).elim (·.1) fun ⟨letter, width, hescape, _⟩ => ?_
      exact (h (List.mem_flatMap.2 ⟨c, hc, hescape ▸ List.mem_cons_self⟩)).elim
    rw [List.flatMap_congr hplain]
    simp
  simp only [Literal.piece, hletters, List.length_nil, hbody, List.not_mem_nil, if_false, false_or]
  split_ifs with h
  · rw [unescape_literal hmark]
    simp
  · rw [hraw h, String.ofList_toList]

/-- A text without carriage returns has its line ends in one form. -/
lemma oneLineEnd_eq_self (h : '\r' ∉ cs) : oneLineEnd cs = cs := by
  fun_induction oneLineEnd cs with
  | case1 cs ih => exact absurd List.mem_cons_self h
  | case2 cs _ ih => exact absurd List.mem_cons_self h
  | case3 c cs _ hc ih => rw [ih fun hcs => h (List.mem_cons_of_mem c hcs)]
  | case4 => rfl

/-- A literal stands on one line. -/
lemma lineEnds_literal (s : String) : lineEnds (literal s).toList = 0 := by
  have hmark := markOf_cases s.toList
  have hline : markOf s.toList ≠ '\n' := by rcases hmark with h | h <;> rw [h] <;> decide
  refine List.count_eq_zero.2 fun h => ?_
  rw [toList_literal, List.mem_cons, List.mem_append, List.mem_singleton, List.mem_flatMap] at h
  obtain h | ⟨c, -, hc⟩ | h := h
  · exact hline h.symm
  · rcases literalChar_cases hmark c with ⟨hplain, -, -, hne⟩ | ⟨letter, width, hescape, hletter⟩
    · rw [hplain, List.mem_singleton] at hc
      exact hne hc.symm
    · rw [hescape, List.mem_cons, List.mem_cons] at hc
      obtain h | rfl | h := hc
      · cases h
      · rcases hletter with ⟨h, -⟩ | ⟨h, -⟩ <;> cases h
      · exact (IsInner.ne (Text.isInner_of_mem_hexDigits h) hmark).2.2 rfl
  · exact hline h.symm

/-- A mark begins a text. -/
lemma readToken_mark {mark : Char} (hmark : mark = singleMark ∨ mark = doubleMark) {l : Lexer}
    {cs : List Char} (hl : l.rest = mark :: cs) : l.readToken = l.readText [] (mark :: cs) := by
  have hstart : textStart? (mark :: cs) = some [] := by
    rcases hmark with rfl | rfl <;> rfl
  have hother : ¬ (mark = ' ' ∨ mark = '\t' ∨ mark = '\x0c') ∧ mark ≠ '#' ∧ mark ≠ '\n' ∧
      mark ≠ '\\' := by
    rcases hmark with rfl | rfl <;> decide
  simp only [Lexer.readToken, hl, hstart, hother, if_false, List.length_nil, List.drop_zero]

/-- A token is known by its text and by what stands behind it. -/
lemma Lexer.emit_inj {l : Lexer} {sort : TokenSort} {text text' rest rest' : List Char}
    (h : l.emit sort text rest = l.emit sort text' rest') : text = text' ∧ rest = rest' := by
  obtain ⟨htokens, hbehind⟩ := Lexeme.tokens.inj h
  exact ⟨String.ofList_injective (Token.mk.inj (List.head_eq_of_cons_eq htokens)).2.1,
    (Lexer.mk.inj hbehind).1⟩

/-- **What is read of a text that begins with a mark**, or with three. -/
lemma readToken_text {mark : Char} (hmark : mark = singleMark ∨ mark = doubleMark) {l : Lexer}
    {cs : List Char} {tripled : Bool} (hl : l.rest = mark :: cs)
    (htripled : [mark, mark].isPrefixOf cs = tripled) (inside rest : List Char) :
    l.readToken = l.emit .text ((if tripled then [mark, mark, mark] else [mark]) ++ inside) rest ↔
      closeText mark tripled [] (cs.drop (if tripled then 2 else 0)) = .ok (inside, rest) := by
  have hlength : (if tripled then [mark, mark, mark] else [mark]).length - 1 =
      if tripled then 2 else 0 := by cases tripled <;> rfl
  rw [readToken_mark hmark hl]
  simp only [Lexer.readText, htripled, hlength, List.nil_append]
  rcases closeText mark tripled [] _ with read | ⟨inside', rest'⟩
  · exact iff_of_false (fun h => Lexeme.noConfusion h) fun h => by cases h
  · constructor
    · intro h
      obtain ⟨htext, hrest⟩ := Lexer.emit_inj h
      rw [List.append_cancel_left htext, hrest]
    · rintro ⟨⟩
      rfl

/-- **What stands between two marks is one token**, if the mark at its end is where a reader looks
for it. -/
lemma readToken_closed {mark : Char} (hmark : mark = singleMark ∨ mark = doubleMark)
    {body : List Char} {l : Lexer} {rest : List Char}
    (hclose : closeText mark false [] (body ++ mark :: rest) = .ok (body ++ [mark], rest))
    (hlong : [mark, mark].isPrefixOf (body ++ mark :: rest) = false)
    (hends : lineEnds (mark :: (body ++ [mark])) = 0)
    (hl : l.rest = mark :: (body ++ mark :: rest)) :
    l.readToken = .tokens [l.token .text (String.ofList (mark :: (body ++ [mark])))]
      { l with rest, isLineStart := false } := by
  have hread : l.readToken = l.emit .text (mark :: (body ++ [mark])) rest :=
    (readToken_text hmark hl hlong (body ++ [mark]) rest).2 hclose
  rw [hread, Lexer.emit, hends, Nat.add_zero]

/-- **A literal is one token**, whatever stands behind it. -/
lemma readToken_literal {s : String} (hs : s ≠ "") {l : Lexer} {rest : List Char}
    (hl : l.rest = (literal s).toList ++ rest) :
    l.readToken = .tokens [l.token .text (literal s)] { l with rest, isLineStart := false } := by
  have hmark := markOf_cases s.toList
  have hends := lineEnds_literal s
  rw [toList_literal] at hl hends
  have hcs : s.toList ≠ [] := by simpa using hs
  have hclose := closeText_literal hmark s.toList [] rest
  rw [literal, literalChars, List.cons_append]
  refine readToken_closed hmark hclose (not_mark_of_literal hmark hcs _) hends ?_
  rw [hl, List.cons_append, List.append_assoc, List.singleton_append]

end PgSchema.Source
