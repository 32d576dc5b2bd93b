import Mathlib.Tactic.IntervalCases
import PgSchema.Proofs.Source.Literals

/-!
Words of a text, read one after the other.

A word is one token if what stands behind it does not run into it (`Word.Stands`).  So a line of
such words is read as their tokens (`reads_line`), behind the token for its depth if it is deeper
than the line before.
-/

namespace PgSchema.Source

open Text (doubleMark isIdentifierChar isIdentifierStart literal markOf singleMark)

/-- What is said of the characters in a list is decided at these, and not at every character. -/
instance (priority := 1100) decidableForallMem {p : Char → Prop} [DecidablePred p]
    (cs : List Char) : Decidable (∀ c ∈ cs, p c) :=
  List.decidableBAll p cs

/-! ### Steps of the lexer -/

namespace Lexer

variable {l l' l'' : Lexer} {ts ts' : List Token}

/-- How many steps a lexer has before it at most: a line begins with a step of its own. -/
def weight (l : Lexer) : Nat := 2 * l.rest.length + if l.isLineStart then 1 else 0

/-- **Tokens are read** between two places of a text. -/
def Reads (l : Lexer) (ts : List Token) (l' : Lexer) : Prop :=
  ∃ steps, steps + l'.weight ≤ l.weight ∧
    ∀ n found, lex (n + steps) l found = lex n l' (ts.reverse ++ found)

namespace Reads

lemma refl (l : Lexer) : l.Reads [] l := ⟨0, by omega, fun _ _ => rfl⟩

lemma of_next (h : l.next = .tokens ts l') (hw : l'.weight < l.weight) : l.Reads ts l' := by
  refine ⟨1, by omega, fun n found => ?_⟩
  rw [lex, h]

lemma trans (h : l.Reads ts l') (h' : l'.Reads ts' l'') : l.Reads (ts ++ ts') l'' := by
  obtain ⟨k, hk, hlex⟩ := h
  obtain ⟨k', hk', hlex'⟩ := h'
  refine ⟨k' + k, by omega, fun n found => ?_⟩
  rw [← Nat.add_assoc, hlex, hlex', List.reverse_append, List.append_assoc]

/-- What is read up to the end of a text. -/
lemma lex_eq (h : l.Reads ts l') {ending : Ending} (hend : l'.next = .ended ending)
    (hflaw : ending.flaw = none) :
    lex (l.weight + 1) l [] = (({ l' with rest := [] } : Lexer).token .finish "" :: ts.reverse,
      ending) := by
  obtain ⟨k, hk, hlex⟩ := h
  obtain ⟨n, hn⟩ : ∃ n, l.weight + 1 = n + 1 + k := ⟨l.weight - k, by omega⟩
  rw [hn, hlex, List.append_nil, lex, hend]
  simp only [hflaw]

end Reads

end Lexer

/-! ### Words -/

/-- A word as it stands in a line. -/
inductive Word where
  | blank
  | name (s : String)
  | keyword (s : String)
  | text (s : String)
  | mark (s : String)
  | opening (c : Char)
  | closing (c : Char)

/-- A text is a name. -/
def IsIdentifier (s : String) : Prop :=
  ∃ c cs, s.toList = c :: cs ∧ isIdentifierStart c = true ∧ ∀ d ∈ cs, isIdentifierChar d = true

lemma isIdentifier_iff {s : String} : IsIdentifier s ↔
    s.toList.head?.any isIdentifierStart = true ∧ s.toList.tail.all isIdentifierChar = true := by
  unfold IsIdentifier
  cases s.toList <;> simp

instance : DecidablePred IsIdentifier := fun _ => decidable_of_iff _ isIdentifier_iff.symm

lemma IsIdentifier.append {s t : String} (hs : IsIdentifier s)
    (ht : t.toList.all isIdentifierChar = true) : IsIdentifier (s ++ t) := by
  obtain ⟨c, cs, hc, hstart, hcs⟩ := hs
  refine ⟨c, cs ++ t.toList, by rw [String.toList_append, hc]; rfl, hstart, fun d hd => ?_⟩
  exact (List.mem_append.1 hd).elim (hcs d) (List.all_eq_true.1 ht d)

/-- A text is read as a literal, whatever stands behind it. -/
structure IsLiteral (s : String) : Prop where
  filled : s ≠ ""
  readToken : ∀ (l : Lexer) (rest : List Char), l.rest = s.toList ++ rest →
    l.readToken = .tokens [l.token .text s] { l with rest, isLineStart := false }
  plain : ∀ c ∈ s.toList, c ≠ '\r' ∧ c ≠ '\x00'

/-- The characters that a name does not run into. -/
def separators : List Char := [' ', '(', ')', '[', ']', ',', ':', '.', '-', '\n']

namespace Word

/-- A word as it is written. -/
def chars : Word → List Char
  | blank => [' ']
  | name s | keyword s | text s | mark s => s.toList
  | opening c | closing c => [c]

/-- The token of a word, with a number of brackets open before it. -/
def tokens (line level : Nat) : Word → List Token
  | blank => []
  | name s => [{ sort := .name, text := s, line, level }]
  | text s => [{ sort := .text, text := s, line, level }]
  | keyword s | mark s => [{ sort := .mark, text := s, line, level }]
  | opening c => [{ sort := .mark, text := String.singleton c, line, level := level + 1 }]
  | closing c => [{ sort := .mark, text := String.singleton c, line, level := level - 1 }]

/-- The brackets that are open behind a word. -/
def opened (line : Nat) (around : List (Char × Nat)) : Word → List (Char × Nat)
  | opening c => (c, line) :: around
  | closing _ => around.tail
  | _ => around

/-- **A word stands by itself** inside open brackets and before a character. -/
def Stands (around : List (Char × Nat)) (next : Char) : Word → Prop
  | blank => True
  | name s => IsIdentifier s ∧ s ∉ keywords ∧ next ∈ separators
  | keyword s => s ∈ keywords ∧ next ∈ separators
  | text s => IsLiteral s
  | mark s => s = "->" ∨ s ∈ [",", ":", "."] ∧ next ∉ ['.', '='] ∧ next.isDigit = false
  | opening c => c ∈ ['(', '['] ∧ around.length < mostBrackets
  | closing c => c ∈ [')', ']'] ∧
      ∃ opening, around.head? = some opening ∧ brackets.lookup opening.1 = some c

/-- The character that words begin with, before the end of a line. -/
def next (ws : List Word) : Char := ((ws.flatMap chars).head?).getD '\n'

/-- The words of a line stand by themselves, and all brackets are closed at its end. -/
def StandAll (line : Nat) : List (Char × Nat) → List Word → Prop
  | around, [] => around = []
  | around, w :: ws => w.Stands around (next ws) ∧ StandAll line (w.opened line around) ws

/-- The tokens of words inside open brackets. -/
def allTokens (line : Nat) : List (Char × Nat) → List Word → List Token
  | _, [] => []
  | around, w :: ws => w.tokens line around.length ++ allTokens line (w.opened line around) ws

lemma exists_rest (ws : List Word) (rest : List Char) :
    ∃ more, ws.flatMap chars ++ '\n' :: rest = next ws :: more := by
  unfold next
  cases ws.flatMap chars with
  | nil => exact ⟨rest, rfl⟩
  | cons c cs => exact ⟨cs ++ '\n' :: rest, rfl⟩

end Word

/-! ### Characters of names -/

lemma isNameChar_of_isIdentifierChar {c : Char} (h : isIdentifierChar c = true) :
    isNameChar c = true := by
  unfold isNameChar
  by_cases hbasic : c.toNat < 0x80
  · rw [isIdentifierChar, isIdentifierStart, if_pos hbasic, if_pos hbasic] at h
    simp only [Bool.or_eq_true, decide_eq_true_eq] at h
    rcases h with (h | h) | h
    · simp [Char.isAlphanum, h]
    · simp [h]
    · simp [Char.isAlphanum, h]
  · simp [Nat.le_of_not_lt hbasic]

lemma isDigit_of_isIdentifierStart {c : Char} (h : isIdentifierStart c = true) :
    c.isDigit = false := by
  refine Bool.eq_false_iff.2 fun hdigit => ?_
  obtain ⟨hlow, hhigh⟩ : 48 ≤ c.toNat ∧ c.toNat ≤ 57 := by
    simpa [Char.isDigit, UInt32.le_iff_toNat_le] using hdigit
  have hother : ∀ n, 48 ≤ n → n ≤ 57 → isIdentifierStart (Char.ofNat n) = false := by
    intro n hlow hhigh
    interval_cases n <;> decide
  have hc := hother c.toNat hlow hhigh
  rw [Char.ofNat_toNat, h] at hc
  cases hc

/-- A character of a name is no separator, no mark of a text and no blank. -/
lemma not_mem_of_isNameChar {c : Char} (h : isNameChar c = true) :
    c ∉ separators ++ [singleMark, doubleMark, '\t', '\x0c', '#', '\\', '\r', '\x00'] := by
  have hall : (separators ++ [singleMark, doubleMark, '\t', '\x0c', '#', '\\', '\r',
      '\x00']).all (fun c => !isNameChar c) = true := by decide
  intro hc
  have := List.all_eq_true.1 hall c hc
  rw [h] at this
  cases this

lemma isIdentifier_of_mem_keywords : ∀ s ∈ keywords, IsIdentifier s := by
  decide

/-- No text begins in a name, or behind it. -/
lemma textStart?_name {cs : List Char} (hcs : ∀ c ∈ cs, isNameChar c = true) {next : Char}
    (hnext : next ∈ separators) (rest : List Char) : textStart? (cs ++ next :: rest) = none := by
  have hmarks : ∀ c ∈ next :: cs, ¬ (c = singleMark ∨ c = doubleMark) := by
    have hseparators : ∀ c ∈ separators, ¬ (c = singleMark ∨ c = doubleMark) := by decide
    refine List.forall_mem_cons.2 ⟨hseparators next hnext, fun c hc hmark => ?_⟩
    refine not_mem_of_isNameChar (hcs c hc) (List.mem_append_right _ ?_)
    rcases hmark with rfl | rfl <;> decide
  have hletters : ∀ c ∈ separators, ∀ word ∈ textLetters, c.toLower ∉ word.toList := by decide
  refine List.findSome?_eq_none_iff.2 fun n _ => ?_
  dsimp only
  rcases Nat.lt_or_ge cs.length n with hn | hn
  · -- the letters would have the separator among them
    obtain ⟨k, rfl⟩ : ∃ k, n = cs.length + (k + 1) := ⟨n - cs.length - 1, by omega⟩
    have htake : next.toLower ∈ (String.ofList (((cs ++ next :: rest).take
        (cs.length + (k + 1))).map Char.toLower)).toList := by
      rw [String.toList_ofList, List.take_length_add_append, List.take_succ_cons]
      exact List.mem_map.2 ⟨next, by simp, rfl⟩
    split
    · exact if_neg fun h => hletters next hnext _ h.2 htake
    · rfl
  · obtain ⟨c, hc, more, hdrop⟩ : ∃ c ∈ next :: cs, ∃ more,
        (cs ++ next :: rest).drop n = c :: more := by
      rw [List.drop_append_of_le_length hn]
      cases hrest : cs.drop n with
      | nil => exact ⟨next, List.mem_cons_self, rest, rfl⟩
      | cons c more =>
        have hc : c ∈ cs := List.mem_of_mem_drop (hrest ▸ List.mem_cons_self)
        exact ⟨c, List.mem_cons_of_mem _ hc, _, rfl⟩
    rw [hdrop]
    exact if_neg fun h => hmarks c hc h.1

/-! ### Literals -/

/-- A character of a literal is printed. -/
lemma plain_of_mem_literalChar {mark c d : Char} (hmark : mark = singleMark ∨ mark = doubleMark)
    (hd : d ∈ Text.literalChar mark c) : d ≠ '\r' ∧ d ≠ '\x00' := by
  have hdigits : ∀ width n, ∀ d ∈ Text.hexDigits width n, d ≠ '\r' ∧ d ≠ '\x00' := by
    intro width n d hd
    obtain ⟨k, hk, rfl⟩ := Text.mem_hexDigits hd
    interval_cases k <;> decide
  have hescape : ∀ letter width n, letter ≠ '\r' ∧ letter ≠ '\x00' →
      d ∈ '\\' :: letter :: Text.hexDigits width n → d ≠ '\r' ∧ d ≠ '\x00' := by
    intro letter width n hletter hd
    rw [List.mem_cons, List.mem_cons] at hd
    rcases hd with rfl | rfl | hd
    · decide
    · exact hletter
    · exact hdigits width n d hd
  unfold Text.literalChar at hd
  split_ifs at hd with hself hline hreturn htab hprint hbyte hshort
  · have hc : c ≠ '\r' ∧ c ≠ '\x00' := by
      rcases hself with rfl | rfl
      · rcases hmark with rfl | rfl <;> decide
      · decide
    exact hescape c 0 0 hc hd
  · exact hescape 'n' 0 0 (by decide) hd
  · exact hescape 'r' 0 0 (by decide) hd
  · exact hescape 't' 0 0 (by decide) hd
  · rw [List.mem_singleton] at hd
    subst hd
    constructor <;> rintro rfl <;> cases hprint
  · exact hescape 'x' 2 _ (by decide) hd
  · exact hescape 'u' 4 _ (by decide) hd
  · exact hescape 'U' 8 _ (by decide) hd

/-- The literal of a text is read as one. -/
lemma isLiteral_literal {s : String} (hs : s ≠ "") : IsLiteral (literal s) where
  filled := by
    rw [Ne, ← String.toList_eq_nil_iff, toList_literal]
    exact List.cons_ne_nil _ _
  readToken := fun l rest hl => readToken_literal hs hl
  plain := by
    have hmark := markOf_cases s.toList
    have hplain : markOf s.toList ≠ '\r' ∧ markOf s.toList ≠ '\x00' := by
      rcases hmark with h | h <;> rw [h] <;> decide
    intro c hc
    rw [toList_literal, List.mem_cons, List.mem_append, List.mem_singleton, List.mem_flatMap] at hc
    rcases hc with rfl | ⟨d, -, hc⟩ | rfl
    · exact hplain
    · exact plain_of_mem_literalChar hmark hc
    · exact hplain

lemma toList_quoted (s : String) :
    ("\"" ++ s ++ "\"").toList = doubleMark :: (s.toList ++ [doubleMark]) := by
  rw [String.toList_append, String.toList_append]
  rfl

section Quoted

variable {s : String} (hs : IsIdentifier s)

include hs

lemma IsIdentifier.isNameChar : ∀ c ∈ s.toList, isNameChar c = true := by
  obtain ⟨c, cs, hs, hstart, hcs⟩ := hs
  rw [hs]
  refine List.forall_mem_cons.2 ⟨isNameChar_of_isIdentifierChar ?_, fun d hd =>
    isNameChar_of_isIdentifierChar (hcs d hd)⟩
  rw [isIdentifierChar, hstart, Bool.true_or]

/-- The characters of a name mean nothing between quotes. -/
lemma IsIdentifier.inner : ∀ c ∈ s.toList, c ≠ doubleMark ∧ c ≠ '\\' ∧ c ≠ '\n' := by
  intro c hc
  have hother := not_mem_of_isNameChar (hs.isNameChar c hc)
  refine ⟨?_, ?_, ?_⟩ <;> rintro rfl <;> exact hother (by decide)

/-- A name behind a quote does not begin with one. -/
lemma IsIdentifier.not_long (rest : List Char) :
    [doubleMark, doubleMark].isPrefixOf (s.toList ++ rest) = false := by
  have hinner := hs.inner
  obtain ⟨c, cs, hlist, -⟩ := hs
  have hc := (hinner c (hlist ▸ List.mem_cons_self)).1
  simp [hlist, List.isPrefixOf, hc.symm]

/-- A name between quotes is read as a literal. -/
lemma isLiteral_quoted : IsLiteral ("\"" ++ s ++ "\"") where
  filled := by
    rw [Ne, ← String.toList_eq_nil_iff, toList_quoted]
    exact List.cons_ne_nil _ _
  readToken := fun l rest hl => by
    have hclose : closeText doubleMark false [] (s.toList ++ doubleMark :: rest) =
        .ok (s.toList ++ [doubleMark], rest) := by
      rw [closeText_append hs.inner, List.append_nil, closeText]
      · simp
      · exact fun _ _ h => absurd h (by decide)
    have hends : lineEnds (doubleMark :: (s.toList ++ [doubleMark])) = 0 := by
      refine List.count_eq_zero.2 fun h => ?_
      rw [List.mem_cons, List.mem_append, List.mem_singleton] at h
      rcases h with h | h | h
      · cases h
      · exact (hs.inner _ h).2.2 rfl
      · cases h
    rw [toList_quoted, List.cons_append, List.append_assoc, List.singleton_append] at hl
    have hread := readToken_closed (.inr rfl) hclose (hs.not_long _) hends hl
    rw [← toList_quoted, String.ofList_toList] at hread
    exact hread
  plain := by
    intro d hd
    rw [toList_quoted, List.mem_cons, List.mem_append, List.mem_singleton] at hd
    rcases hd with rfl | hd | rfl
    · decide
    · have hother := not_mem_of_isNameChar (hs.isNameChar d hd)
      constructor <;> rintro rfl <;> exact hother (by decide)
    · decide

/-- A name between quotes stands for itself. -/
lemma piece_quoted : Literal.piece ("\"" ++ s ++ "\"") = .ok (.text s) := by
  have hletters : Tree.textLetters ("\"" ++ s ++ "\"") = [] := by
    rw [← String.ofList_toList (s := "\"" ++ s ++ "\""), toList_quoted]
    exact textLetters_mark (.inr rfl) _
  have hbody : Literal.inside (("\"" ++ s ++ "\"").toList.drop 0) = s.toList := by
    rw [List.drop_zero, toList_quoted, Literal.inside, hs.not_long]
    simp
  have hraw : '\\' ∉ s.toList := fun h => (hs.inner _ h).2.1 rfl
  simp only [Literal.piece, hletters, List.length_nil, hbody, List.not_mem_nil, if_false, false_or]
  rw [if_pos hraw, String.ofList_toList]

end Quoted

/-! ### Words in a line -/

/-- A word that stands by itself is printed. -/
lemma Word.Stands.plain {w : Word} {around : List (Char × Nat)} {next : Char}
    (h : w.Stands around next) : ∀ c ∈ w.chars, c ≠ '\r' ∧ c ≠ '\x00' := by
  have hname : ∀ {s : String}, IsIdentifier s → ∀ c ∈ s.toList, c ≠ '\r' ∧ c ≠ '\x00' := by
    intro s hs c hc
    have hother := not_mem_of_isNameChar (hs.isNameChar c hc)
    constructor <;> rintro rfl <;> exact hother (by decide)
  cases w with
  | blank => decide
  | name s => exact hname h.1
  | keyword s => exact hname (isIdentifier_of_mem_keywords _ h.1)
  | text s => exact IsLiteral.plain h
  | mark s =>
    have hmarks : ∀ s ∈ ["->", ",", ":", "."], ∀ c ∈ s.toList, c ≠ '\r' ∧ c ≠ '\x00' := by decide
    exact hmarks s (List.mem_cons.2 (h.imp_right And.left))
  | opening c =>
    have hmarks : ∀ c ∈ ['(', '['], ∀ d ∈ [c], d ≠ '\r' ∧ d ≠ '\x00' := by decide
    exact hmarks c h.1
  | closing c =>
    have hmarks : ∀ c ∈ [')', ']'], ∀ d ∈ [c], d ≠ '\r' ∧ d ≠ '\x00' := by decide
    exact hmarks c h.1

/-- A word that stands by itself has a character. -/
lemma Word.Stands.chars_ne_nil {w : Word} {around : List (Char × Nat)} {next : Char}
    (h : w.Stands around next) : w.chars ≠ [] := by
  have hfilled : ∀ {s : String}, IsIdentifier s → s.toList ≠ [] := by
    rintro s ⟨c, cs, hs, -⟩
    rw [hs]
    exact List.cons_ne_nil _ _
  cases w with
  | blank | opening | closing => exact List.cons_ne_nil _ _
  | name s => exact hfilled h.1
  | keyword s => exact hfilled (isIdentifier_of_mem_keywords _ h.1)
  | text s => exact mt String.toList_eq_nil_iff.1 (IsLiteral.filled h)
  | mark s =>
    have hmarks : ∀ s ∈ ["->", ",", ":", "."], s.toList ≠ [] := by decide
    exact hmarks s (List.mem_cons.2 (h.imp_right And.left))

lemma Word.StandAll.plain {line : Nat} {ws : List Word} {around : List (Char × Nat)}
    (h : Word.StandAll line around ws) : ∀ c ∈ ws.flatMap Word.chars, c ≠ '\r' ∧ c ≠ '\x00' := by
  induction ws generalizing around with
  | nil => exact fun _ hc => (List.not_mem_nil hc).elim
  | cons w ws ih =>
    intro c hc
    rw [List.flatMap_cons, List.mem_append] at hc
    exact hc.elim (h.1.plain c) (ih h.2 c)

namespace Lexer

variable {l : Lexer} {next : Char} {rest : List Char}

/-- A name or a keyword is one token. -/
lemma readToken_word {s : String} {c : Char} {cs : List Char} (hs : s.toList = c :: cs)
    (hstart : isIdentifierStart c = true) (hcs : ∀ d ∈ cs, isIdentifierChar d = true)
    (hnext : next ∈ separators) (hl : l.rest = s.toList ++ next :: rest) :
    l.readToken = .tokens
      [{ sort := if s ∈ keywords then .mark else .name, text := s, line := l.line,
         level := l.opened.length }]
      { l with rest := next :: rest, isLineStart := false } := by
  have hchars : ∀ d ∈ s.toList, isNameChar d = true := by
    rw [hs]
    refine List.forall_mem_cons.2 ⟨isNameChar_of_isIdentifierChar ?_, fun d hd =>
      isNameChar_of_isIdentifierChar (hcs d hd)⟩
    rw [isIdentifierChar, hstart, Bool.true_or]
  have hlnext : isNameChar next = false := by
    refine Bool.eq_false_iff.2 fun h => not_mem_of_isNameChar h (List.mem_append_left _ hnext)
  have hc := not_mem_of_isNameChar (hchars c (hs ▸ List.mem_cons_self))
  simp only [separators, List.cons_append, List.nil_append, List.mem_cons, List.not_mem_nil,
    or_false, not_or] at hc
  have hnametext : isNameChar c = true := hchars c (hs ▸ List.mem_cons_self)
  have htext := textStart?_name hchars hnext rest
  have hread : l.readToken = l.readName := by
    rw [hs, List.cons_append] at hl htext
    simp only [readToken, hl, htext, hc, isDigit_of_isIdentifierStart hstart, hnametext,
      or_false, if_false, if_true, Bool.false_eq_true]
  have hword : l.rest.takeWhile isNameChar = s.toList := by
    rw [hl, List.takeWhile_append_of_pos hchars, List.takeWhile_cons_of_neg (by simp [hlnext]),
      List.append_nil]
  have hbehind : l.rest.dropWhile isNameChar = next :: rest := by
    rw [hl, List.dropWhile_append_of_pos hchars, List.dropWhile_cons_of_neg (by simp [hlnext])]
  have hstray : strayIn? s.toList = none := by
    rw [hs, strayIn?, hstart]
    simpa using hcs
  have hends : lineEnds s.toList = 0 := by
    refine List.count_eq_zero.2 fun h => ?_
    exact not_mem_of_isNameChar (hchars _ h) (by decide)
  have hline : l.lineHere = l.line := by
    rw [lineHere, hl, hs]
    rfl
  rw [hread, readName, hword, hbehind, hstray, ite_self]
  simp only [emit, token, hends, hline, String.ofList_toList, Nat.add_zero]

/-- A mark is read. -/
lemma readToken_mark {c : Char} (hc : c ∈ ['(', ')', '[', ']', ',', ':', '.', '-'])
    (hnext : c = '.' → next.isDigit = false) (hl : l.rest = c :: next :: rest) :
    l.readToken = l.readMark c (next :: rest) := by
  have hmarks : ∀ c ∈ ['(', ')', '[', ']', ',', ':', '.', '-'], c ∈ separators ∧
      ¬ (c = ' ' ∨ c = '\t' ∨ c = '\x0c') ∧ c ≠ '#' ∧ c ≠ '\n' ∧ c ≠ '\\' ∧
        c.isDigit = false ∧ isNameChar c = false := by decide
  obtain ⟨hseparator, hblank, hcomment, hline, hback, hdigit, hname⟩ := hmarks c hc
  have htext : textStart? (c :: next :: rest) = none :=
    textStart?_name (fun _ h => (List.not_mem_nil h).elim) hseparator (next :: rest)
  have hfraction : ¬ (c = '.' ∧ Numeral.startsWithDigit (next :: rest) = true) := by
    rintro ⟨hc, h⟩
    rw [Numeral.startsWithDigit, hnext hc] at h
    cases h
  simp only [readToken, hl, htext, hblank, hcomment, hline, hback, hdigit, hname, hfraction,
    if_false, Bool.false_eq_true]

/-- A bracket or a separator is a mark of its own. -/
lemma find?_longMarks {c : Char} (hc : c ∈ ['(', ')', '[', ']', ',', ':', '.'])
    (hnext : c ∈ [':', '.'] → next ∉ ['.', '=']) :
    longMarks.find? (fun m => m.toList.isPrefixOf (c :: next :: rest)) = none := by
  have hlong : ∀ m ∈ longMarks, ∀ c ∈ ['(', ')', '[', ']', ',', ':', '.'],
      m.toList.take 2 ∈ [[c, '.'], [c, '=']] ∧ c ∈ [':', '.'] ∨
        m.toList.head?.any (· ≠ c) = true := by decide
  refine List.find?_eq_none.2 fun m hm hprefix => ?_
  obtain ⟨behind, hbehind⟩ := List.isPrefixOf_iff_prefix.1 hprefix
  rcases hlong m hm c hc with ⟨htake, hmark⟩ | hhead
  · have hnext := hnext hmark
    cases hchars : m.toList with
    | nil => simp [hchars] at htake
    | cons e ds =>
      cases ds with
      | nil => simp [hchars] at htake
      | cons d ds =>
        simp only [hchars, List.cons_append, List.cons.injEq] at hbehind
        simp_all
  · cases hchars : m.toList with
    | nil => simp [hchars] at hhead
    | cons e ds =>
      simp_all

/-- A word is taken as its tokens, up to the character behind it. -/
def TakesWord (l : Lexer) (w : Word) (next : Char) (rest : List Char) : Prop :=
  l.readToken = .tokens (w.tokens l.line l.opened.length)
    { l with rest := next :: rest, opened := w.opened l.line l.opened, isLineStart := false }

lemma lineHere_of_rest {w : Word} (hl : l.rest = w.chars ++ next :: rest) :
    l.lineHere = l.line := by
  rw [lineHere, hl]
  simp

lemma takesWord_mark {s : String} (hw : (Word.mark s).Stands l.opened next)
    (hl : l.rest = (Word.mark s).chars ++ next :: rest) :
    l.TakesWord (.mark s) next rest := by
  have hhere := lineHere_of_rest hl
  rcases hw with rfl | ⟨hs, hnext, hdigit⟩
  · have hl : l.rest = '-' :: '>' :: next :: rest := hl
    have hlong : longMarks.find? (fun m => m.toList.isPrefixOf ('-' :: '>' :: next :: rest)) =
        some "->" := rfl
    rw [TakesWord, readToken_mark (by decide) (by decide) hl, readMark, hlong]
    simp only [emit, token, hhere]
    rfl
  · have hmarks : [",", ":", "."] = [',', ':', '.'].map fun c => String.ofList [c] := rfl
    obtain ⟨c, hc, rfl⟩ := List.mem_map.1 (hmarks ▸ hs)
    have hplain : ∀ c ∈ [',', ':', '.'], c ∈ ['(', ')', '[', ']', ',', ':', '.', '-'] ∧
        c ∈ ['(', ')', '[', ']', ',', ':', '.'] ∧ brackets.lookup c = none ∧
          brackets.any (·.2 = c) = false ∧ Text.isPrintable c = true ∧ c ≠ '\n' := by decide
    obtain ⟨hmark, hshort, hopening, hclosing, hprint, hline⟩ := hplain c hc
    rw [Word.chars, String.toList_ofList, List.singleton_append] at hl
    rw [TakesWord, readToken_mark hmark (fun _ => hdigit) hl, readMark,
      find?_longMarks hshort fun _ => hnext, hopening, hclosing, hprint]
    simp only [emit, token, hhere, lineEnds, List.count_singleton]
    simp [hline, Word.tokens, Word.opened]

lemma takesWord_opening {c : Char} (hw : (Word.opening c).Stands l.opened next)
    (hl : l.rest = (Word.opening c).chars ++ next :: rest) :
    l.TakesWord (.opening c) next rest := by
  obtain ⟨hc, hlength⟩ := hw
  have hplain : ∀ c ∈ ['(', '['], c ∈ ['(', ')', '[', ']', ',', ':', '.', '-'] ∧
      c ∈ ['(', ')', '[', ']', ',', ':', '.'] ∧ c ∉ [':', '.'] ∧ c ≠ '.' ∧
        (brackets.lookup c).isSome = true ∧ c ≠ '\n' := by decide
  obtain ⟨hmark, hshort, hother, hpoint, hopening, hline⟩ := hplain c hc
  rw [TakesWord, readToken_mark hmark (fun h => (hpoint h).elim) hl, readMark,
    find?_longMarks hshort fun h => (hother h).elim]
  simp only [hopening, if_true, ge_iff_le, Nat.not_le.2 hlength, if_false, emit, token, lineEnds,
    List.count_singleton]
  simp [hline, Word.tokens, Word.opened, lineHere, hl, Word.chars]

lemma takesWord_closing {c : Char} (hw : (Word.closing c).Stands l.opened next)
    (hl : l.rest = (Word.closing c).chars ++ next :: rest) :
    l.TakesWord (.closing c) next rest := by
  obtain ⟨hc, opening, hopening, hpair⟩ := hw
  have hplain : ∀ c ∈ [')', ']'], c ∈ ['(', ')', '[', ']', ',', ':', '.', '-'] ∧
      c ∈ ['(', ')', '[', ']', ',', ':', '.'] ∧ c ∉ [':', '.'] ∧ c ≠ '.' ∧
        brackets.lookup c = none ∧ brackets.any (·.2 = c) = true ∧ c ≠ '\n' := by decide
  obtain ⟨hmark, hshort, hother, hpoint, hno, hclosing, hline⟩ := hplain c hc
  obtain ⟨others, hopened⟩ : ∃ others, l.opened = opening :: others := by
    cases hl : l.opened with
    | nil => rw [hl] at hopening; cases hopening
    | cons first others => rw [hl] at hopening; exact ⟨others, by rw [Option.some.inj hopening]⟩
  rw [TakesWord, readToken_mark hmark (fun h => (hpoint h).elim) hl, readMark,
    find?_longMarks hshort fun h => (hother h).elim]
  simp only [hno, hclosing, hopened, hpair, emit, token, lineEnds, List.count_singleton]
  simp [hline, Word.tokens, Word.opened, lineHere, hl, Word.chars]

/-- A word is taken that stands by itself. -/
lemma takesWord {w : Word} (hw : w.Stands l.opened next) (hbegin : l.isLineStart = false)
    (hl : l.rest = w.chars ++ next :: rest) : l.TakesWord w next rest := by
  cases w with
  | blank =>
    rw [Word.chars, List.singleton_append] at hl
    rw [TakesWord, readToken, hl]
    simp [Word.opened, hbegin, Word.tokens]
  | name s =>
    obtain ⟨⟨c, cs, hs, hstart, hcs⟩, hword, hsep⟩ := hw
    rw [TakesWord, readToken_word hs hstart hcs hsep hl, if_neg hword]
    rfl
  | keyword s =>
    obtain ⟨hword, hsep⟩ := hw
    obtain ⟨c, cs, hs, hstart, hcs⟩ := isIdentifier_of_mem_keywords _ hword
    rw [TakesWord, readToken_word hs hstart hcs hsep hl, if_pos hword]
    rfl
  | text s =>
    rw [TakesWord, hw.readToken l (next :: rest) hl, token, lineHere_of_rest hl]
    rfl
  | mark s => exact takesWord_mark hw hl
  | opening c => exact takesWord_opening hw hl
  | closing c => exact takesWord_closing hw hl

/-- **A word is read** that stands by itself. -/
lemma reads_word {w : Word} (hw : w.Stands l.opened next) (hbegin : l.isLineStart = false)
    (hl : l.rest = w.chars ++ next :: rest) :
    l.Reads (w.tokens l.line l.opened.length)
      { l with rest := next :: rest, opened := w.opened l.line l.opened } := by
  have hnext : l.next = l.readToken := by rw [Lexer.next, hbegin]; rfl
  have hread := takesWord hw hbegin hl
  refine .of_next (hnext.trans (hread.trans (by rw [hbegin]))) ?_
  have hpos := List.length_pos_iff.2 hw.chars_ne_nil
  simp only [weight, hl, hbegin, List.length_append, Bool.false_eq_true, if_false]
  omega

/-! ### Lines -/

/-- **The words of a line are read**, up to its end. -/
lemma reads_words {ws : List Word} {around : List (Char × Nat)}
    (hws : Word.StandAll l.line around ws) (hbegin : l.isLineStart = false)
    (hopened : l.opened = around) (hl : l.rest = ws.flatMap Word.chars ++ '\n' :: rest) :
    l.Reads (Word.allTokens l.line around ws) { l with rest := '\n' :: rest, opened := [] } := by
  induction ws generalizing l around with
  | nil =>
    obtain rfl : around = [] := hws
    have hsame : ({ l with rest := '\n' :: rest, opened := [] } : Lexer) = l := by
      rw [← hopened]
      exact congrArg (fun rest => { l with rest }) hl.symm
    rw [hsame]
    exact .refl l
  | cons w ws ih =>
    obtain ⟨hw, hws⟩ := hws
    obtain ⟨more, hmore⟩ := Word.exists_rest ws rest
    have hl' : l.rest = w.chars ++ Word.next ws :: more := by
      rw [hl, List.flatMap_cons, List.append_assoc, hmore]
    have hread := reads_word (hopened ▸ hw) hbegin hl'
    rw [hopened] at hread
    refine hread.trans (ih hws hbegin rfl ?_)
    exact hmore.symm

/-- **A line of words is read**, behind the token for its depth. -/
lemma reads_line {ws : List Word} (hws : Word.StandAll l.line [] ws)
    (hbegin : l.isLineStart = false) (hopened : l.opened = [])
    (hl : l.rest = ws.flatMap Word.chars ++ '\n' :: rest) :
    l.Reads (Word.allTokens l.line [] ws ++ [{ sort := .newline, line := l.line }])
      { l with rest, line := l.line + 1, isLineStart := true } := by
  have hend : ({ l with rest := '\n' :: rest, opened := [] } : Lexer).Reads
      [{ sort := .newline, line := l.line }]
      { l with rest, line := l.line + 1, isLineStart := true } := by
    refine .of_next ?_ ?_
    · rw [next, hbegin]
      simp [readToken, endLine, token, lineHere, hopened]
    · simp only [weight, hbegin, List.length_cons, if_true, if_false, Bool.false_eq_true]
      omega
  exact (reads_words hws hbegin hopened hl).trans hend

/-- The depth of a line that begins with blanks. -/
lemma measure_blanks {c : Char} (hc : c ∉ depthChars) (cs : List Char) (n : Nat) (d : Depth)
    (hl : l.rest = List.replicate n ' ' ++ c :: cs) :
    measure (n + 1) d 0 l = .ok ((d.1 + n, d.2 + n), { l with rest := c :: cs }) := by
  induction n generalizing d l with
  | zero =>
    obtain ⟨hblank, htab, hfeed, hback, -⟩ : c ≠ ' ' ∧ c ≠ '\t' ∧ c ≠ '\x0c' ∧ c ≠ '\\' ∧
        c ≠ '\n' := by simpa [depthChars] using hc
    have hl : l.rest = c :: cs := hl
    rw [measure, hl]
    · simp only [deeper?, hblank, htab, hfeed, if_false, if_true, Nat.add_zero]
      rw [← hl]
  | succ n ih =>
    rw [List.replicate_succ, List.cons_append] at hl
    rw [measure, hl]
    have hstep := @ih { l with rest := List.replicate n ' ' ++ c :: cs } (d.1 + 1, d.2 + 1) rfl
    rw [Nat.add_assoc, Nat.add_comm 1 n, Nat.add_assoc, Nat.add_comm 1 n] at hstep
    exact hstep

/-- The beginning of a line of words. -/
lemma startLine_blanks {n : Nat} {c : Char} (hc : c ∉ '#' :: depthChars) {cs : List Char}
    (hopened : l.opened = []) (hl : l.rest = List.replicate n ' ' ++ c :: cs) :
    l.startLine = ({ l with rest := c :: cs } : Lexer).atDepth (n, n) := by
  obtain ⟨hcomment, hdepth⟩ := not_or.1 (mt List.mem_cons.2 hc)
  have htake : (l.rest.takeWhile (· ∈ depthChars)).length = n := by
    rw [hl, List.takeWhile_append_of_pos, List.takeWhile_cons_of_neg (by simpa using hdepth),
      List.append_nil, List.length_replicate]
    intro d hd
    rw [List.eq_of_mem_replicate hd]
    rfl
  have hline : c ≠ '\n' := fun h => hdepth (by rw [h]; decide)
  rw [startLine, htake, measure_blanks hdepth cs n (0, 0) hl]
  simp only [Nat.zero_add]
  split
  · rename_i h
    exact (hcomment (List.cons.inj h).1).elim
  · rename_i h
    exact (hline (List.cons.inj h).1).elim
  · exact if_pos (by rw [hopened]; rfl)

/-- A line begins that is as deep as the text. -/
lemma reads_flush {c : Char} {cs : List Char} (hbegin : l.isLineStart = true)
    (hopened : l.opened = []) (hdepths : l.depths = []) (hc : c ∉ '#' :: depthChars)
    (hl : l.rest = c :: cs) : l.Reads [] { l with isLineStart := false } := by
  refine .of_next ?_ ?_
  · rw [next, hbegin, if_pos rfl, startLine_blanks (n := 0) hc hopened hl, atDepth]
    simp [hdepths, ← hl]
  · simp only [weight, hbegin, if_true, if_false, Bool.false_eq_true]
    omega

/-- **A deeper line begins** with a token. -/
lemma reads_indent {n : Nat} {c : Char} {cs : List Char} (hbegin : l.isLineStart = true)
    (hopened : l.opened = []) {m : Nat} (hdepth : l.depths.headD (0, 0) = (m, m)) (hdeeper : m < n)
    (hdepths : l.depths.length + 2 ≤ mostDepths) (hc : c ∉ '#' :: depthChars)
    (hl : l.rest = List.replicate n ' ' ++ c :: cs) :
    l.Reads [{ sort := .indent, line := l.line }]
      { l with rest := c :: cs, isLineStart := false, depths := (n, n) :: l.depths } := by
  have hstart : l.next = .tokens [{ sort := .indent, line := l.line }]
      { l with rest := c :: cs, isLineStart := false, depths := (n, n) :: l.depths } := by
    rw [next, hbegin, if_pos rfl, startLine_blanks hc hopened hl, atDepth]
    simp only [hdepth]
    rw [if_neg (by omega), if_pos hdeeper, if_neg (by omega), if_neg (by omega)]
    simp [token, lineHere, hopened]
  refine .of_next hstart ?_
  simp only [weight, hbegin, hl, List.length_append, if_true, if_false, Bool.false_eq_true]
  omega

/-- **The lines are left** at the end of the text. -/
lemma reads_dedents (hbegin : l.isLineStart = true) (hopened : l.opened = []) (hl : l.rest = [])
    (hdepths : ∀ d ∈ l.depths, 0 < d.1) :
    l.Reads (List.replicate l.depths.length { sort := .dedent, line := l.line - 1 })
      { l with isLineStart := false, depths := [] } := by
  have hleave : ∀ ds : List Depth, (∀ d ∈ ds, 0 < d.1) → leave (0, 0) ds = (ds.length, []) := by
    intro ds hds
    induction ds with
    | nil => rfl
    | cons d ds ih =>
      obtain ⟨hd, hds⟩ := List.forall_mem_cons.1 hds
      rw [leave, if_pos hd, ih hds, List.length_cons]
  have hmeasure : measure 1 (0, 0) 0 l = .ok ((0, 0), l) := by
    rw [measure, hl]
    rfl
  have hstart : l.startLine = l.atDepth (0, 0) := by
    rw [startLine, hl]
    simp only [List.takeWhile_nil, List.length_nil, Nat.zero_add, hmeasure, hl, hopened,
      List.isEmpty_nil, if_true]
  have hhere : l.lineHere = l.line - 1 := by rw [lineHere, hl]; rfl
  have hnext : l.next = .tokens
      (List.replicate l.depths.length { sort := .dedent, line := l.line - 1 })
      { l with isLineStart := false, depths := [] } := by
    rw [next, hbegin, if_pos rfl, hstart, atDepth]
    cases hds : l.depths with
    | nil => simp
    | cons d ds =>
      have hd : 0 < d.1 := hdepths d (hds ▸ List.mem_cons_self)
      simp only [List.headD_cons]
      rw [if_neg (by omega), if_neg (by omega), hleave (d :: ds) (hds ▸ hdepths)]
      simp [token, hhere, hopened]
  refine .of_next hnext ?_
  simp only [weight, hbegin, if_true, if_false, Bool.false_eq_true]
  omega

end Lexer

/-! ### Nested lines -/

namespace Nested

/-- Lines from a level on, each of which is a level deeper than the one before. -/
def chars (level : Nat) : List (List Word) → List Char
  | [] => []
  | ws :: rest =>
    List.replicate (4 * level) ' ' ++ (ws.flatMap Word.chars ++ '\n' :: chars (level + 1) rest)

/-- The tokens of nested lines. -/
def tokens (level : Nat) : List (List Word) → List Token
  | [] => []
  | ws :: rest =>
    (if level = 0 then [] else [{ sort := .indent, line := level + 1 }]) ++
      (Word.allTokens (level + 1) [] ws ++ [{ sort := .newline, line := level + 1 }]) ++
        tokens (level + 1) rest

/-- The depths of the lines around. -/
def depths : Nat → List Depth
  | 0 => []
  | level + 1 => (4 * (level + 1), 4 * (level + 1)) :: depths level

/-- The words of a line stand by themselves, and the line does not begin like another one. -/
def Stands (level : Nat) : List (List Word) → Prop
  | [] => True
  | ws :: rest =>
    (Word.StandAll (level + 1) [] ws ∧ Word.next ws ∉ '#' :: Lexer.depthChars) ∧
      Stands (level + 1) rest

variable {level : Nat} {lines : List (List Word)}

lemma headD_depths (level : Nat) : (depths level).headD (0, 0) = (4 * level, 4 * level) := by
  cases level <;> rfl

lemma length_depths (level : Nat) : (depths level).length = level := by
  induction level with
  | zero => rfl
  | succ level ih => rw [depths, List.length_cons, ih]

lemma pos_of_mem_depths {d : Depth} (h : d ∈ depths level) : 0 < d.1 := by
  induction level with
  | zero => cases h
  | succ level ih =>
    rcases List.mem_cons.1 h with rfl | h
    · exact Nat.mul_pos (by decide) (Nat.succ_pos level)
    · exact ih h

/-- **Nested lines are read**, line by line. -/
lemma reads (hlines : Stands (level + 1) lines)
    (hlength : level + lines.length + 1 ≤ Lexer.mostDepths) {l : Lexer}
    (hbegin : l.isLineStart = true) (hopened : l.opened = []) (hline : l.line = level + 2)
    (hdepths : l.depths = depths level) (hl : l.rest = chars (level + 1) lines) :
    l.Reads (tokens (level + 1) lines)
      { l with rest := [], line := level + 2 + lines.length
               depths := depths (level + lines.length) } := by
  induction lines generalizing level l with
  | nil =>
    have hsame :
        ({ l with rest := [], line := level + 2, depths := depths level } : Lexer) = l := by
      rw [← hline, ← hdepths]
      exact congrArg (fun rest => { l with rest }) hl.symm
    exact hsame ▸ .refl l
  | cons ws rest ih =>
    obtain ⟨⟨hws, hfirst⟩, hrest⟩ := hlines
    obtain ⟨more, hmore⟩ := Word.exists_rest ws (chars (level + 2) rest)
    have hl' : l.rest = List.replicate (4 * (level + 1)) ' ' ++ Word.next ws :: more := by
      rw [hl, chars, hmore]
    rw [List.length_cons] at hlength
    let begun : Lexer := { l with
      rest := Word.next ws :: more, isLineStart := false, depths := depths (level + 1) }
    let ended : Lexer := { begun with
      rest := chars (level + 2) rest, line := l.line + 1, isLineStart := true }
    have hindent : l.Reads [{ sort := .indent, line := l.line }] begun := by
      have h := Lexer.reads_indent hbegin hopened (by rw [hdepths, headD_depths])
        (show 4 * level < 4 * (level + 1) by omega)
        (by rw [hdepths, length_depths]; omega) hfirst hl'
      rw [hdepths] at h
      exact h
    have hwords : begun.Reads
        (Word.allTokens l.line [] ws ++ [{ sort := .newline, line := l.line }]) ended :=
      Lexer.reads_line (hline ▸ hws) rfl hopened hmore.symm
    have hnext : ended.Reads (tokens (level + 2) rest) { ended with
        rest := [], line := level + 3 + rest.length, depths := depths (level + 1 + rest.length) } :=
      ih hrest (by omega) rfl hopened (congrArg (· + 1) hline) rfl rfl
    have hall := (hindent.trans hwords).trans hnext
    rw [hline] at hall
    have hend : level + 2 + (ws :: rest).length = level + 3 + rest.length := by
      rw [List.length_cons]
      omega
    have hdepth : level + (ws :: rest).length = level + 1 + rest.length := by
      rw [List.length_cons]
      omega
    rw [hend, hdepth, tokens, if_neg (Nat.succ_ne_zero level)]
    have hsame : ({ l with rest := [], line := level + 3 + rest.length
                           depths := depths (level + 1 + rest.length) } : Lexer) =
        { ended with rest := [], line := level + 3 + rest.length
                     depths := depths (level + 1 + rest.length) } := by
      dsimp only [ended, begun]
      rw [hbegin]
    rw [hsame]
    exact hall

/-- Nested lines are printed. -/
lemma Stands.plain (h : Stands level lines) :
    ∀ c ∈ chars level lines, c ≠ '\r' ∧ c ≠ '\x00' := by
  induction lines generalizing level with
  | nil => exact fun _ hc => (List.not_mem_nil hc).elim
  | cons ws rest ih =>
    intro c hc
    rw [chars, List.mem_append, List.mem_append, List.mem_cons] at hc
    rcases hc with hc | hc | rfl | hc
    · rw [List.eq_of_mem_replicate hc]
      decide
    · exact h.1.1.plain c hc
    · decide
    · exact ih h.2 c hc

lemma getLast?_chars (level : Nat) {lines : List (List Word)} (h : lines ≠ []) :
    (chars level lines).getLast? = some '\n' := by
  induction lines generalizing level with
  | nil => exact (h rfl).elim
  | cons ws rest ih =>
    rw [chars, List.getLast?_append, List.getLast?_append]
    cases rest with
    | nil => rfl
    | cons => rw [List.getLast?_cons, ih (level + 1) (List.cons_ne_nil _ _)]; rfl

end Nested

/-- **The tokens of nested lines.** -/
theorem tokensOf_nested {ws : List Word} {lines : List (List Word)}
    (hlines : Nested.Stands 0 (ws :: lines)) (hlength : lines.length + 1 ≤ Lexer.mostDepths) :
    tokensOf (String.ofList (Nested.chars 0 (ws :: lines))) =
      { all := (Nested.tokens 0 (ws :: lines) ++
          List.replicate lines.length ({ sort := .dedent, line := lines.length + 1 } : Token) ++
            [({ sort := .finish, line := lines.length + 1 } : Token)]).toArray
        ending := {} } := by
  have hplain := hlines.plain
  obtain ⟨⟨hws, hfirst⟩, hlines⟩ := hlines
  obtain ⟨more, hmore⟩ := Word.exists_rest ws (Nested.chars 1 lines)
  let start : Lexer := { rest := Nested.chars 0 (ws :: lines) }
  let begun : Lexer := { start with isLineStart := false }
  let next : Lexer := { rest := Nested.chars 1 lines, line := 2 }
  let behind : Lexer :=
    { rest := [], line := lines.length + 2, depths := Nested.depths lines.length }
  have hstart : start.Reads [] begun := Lexer.reads_flush rfl rfl rfl hfirst hmore
  have hwords : begun.Reads (Word.allTokens 1 [] ws ++ [{ sort := .newline, line := 1 }]) next :=
    Lexer.reads_line hws rfl rfl rfl
  have hnested : next.Reads (Nested.tokens 1 lines) behind := by
    have hcount : 0 + 2 + lines.length = lines.length + 2 := by omega
    have h : next.Reads (Nested.tokens (0 + 1) lines)
        { next with rest := [], line := 0 + 2 + lines.length
                    depths := Nested.depths (0 + lines.length) } :=
      Nested.reads hlines (by omega) rfl rfl rfl rfl rfl
    rw [hcount, Nat.zero_add lines.length] at h
    exact h
  have hdedents : behind.Reads
      (List.replicate lines.length { sort := .dedent, line := lines.length + 1 })
      { behind with isLineStart := false, depths := [] } := by
    have h : behind.Reads (List.replicate (Nested.depths lines.length).length _) _ :=
      Lexer.reads_dedents rfl rfl rfl fun d hd => Nested.pos_of_mem_depths hd
    rw [Nested.length_depths] at h
    exact h
  have hlex := (((hstart.trans hwords).trans hnested).trans hdedents).lex_eq rfl rfl
  have hcs : plainLines (String.ofList (Nested.chars 0 (ws :: lines))) =
      Nested.chars 0 (ws :: lines) := by
    unfold plainLines
    simp only [String.toList_ofList, oneLineEnd_eq_self fun h => (hplain _ h).1 rfl,
      Nested.getLast?_chars 0 (List.cons_ne_nil ws lines), if_true]
  unfold tokensOf
  rw [hcs]
  dsimp only
  have hlex' : lex (2 * (Nested.chars 0 (ws :: lines)).length + 2) start [] = _ := hlex
  rw [hlex']
  simp only [List.reverse_cons, List.reverse_reverse]
  rfl

end PgSchema.Source
