import Mathlib.Tactic.SplitIfs
import PgSchema.Proofs.Codegen.Tests
import PgSchema.Proofs.Schema.Identifier
import PgSchema.Proofs.Text.Decoding
import PgSchema.Query.Basic

/-!
Conditions read back from their text.

The text of conditions is a row of predicates in brackets, with `AND` between them.  A reader that
knows nothing but this grammar finds in it what each predicate says (`readWhere?_whereText`): the
column, whatever its name is, the test, and the number of values.
-/

namespace PgSchema

/-! ### Tests as they are written -/

namespace Codegen.Test

open Query (Conditions)

/-- The tests that a predicate can make. -/
def all : List Test :=
  [.compare .eq, .compare .notEq, .compare .lt, .compare .le, .compare .gt, .compare .ge,
    .absent false, .absent true, .among false, .among true]

/-- The word behind a column by which a test is told. -/
def word : Test → String
  | compare k => " " ++ k.operator ++ " %s"
  | absent negated => absence negated
  | among negated => if negated then " NOT IN (" else " IN ("

/-- What stands behind the word. -/
def ending (n : Nat) : Test → String
  | among _ => Conditions.placeholders n ++ ")"
  | _ => ""

/-- A test of a column with so many values as a predicate. -/
def clause (column : String) (n : Nat) : Test → String
  | compare k => Identifier.quote column ++ " " ++ k.operator ++ " %s"
  | absent negated => Identifier.quote column ++ absence negated
  | among negated => Conditions.memberClause negated (Identifier.quote column) n

/-- The test takes so many values. -/
def Takes (n : Nat) : Test → Prop
  | compare _ => n = 1
  | absent _ => n = 0
  | among _ => True

/-- Only of an empty collection, a predicate does not name the column. -/
lemma clause_eq (column : String) {test : Test} {n : Nat}
    (hn : ∀ negated, test = among negated → n ≠ 0) :
    test.clause column n = Identifier.quote column ++ (test.word ++ test.ending n) := by
  cases test with
  | compare k => simp [clause, word, ending, String.append_assoc]
  | absent negated => simp [clause, word, ending]
  | among negated =>
    have hne := hn negated rfl
    cases negated <;> simp [clause, word, ending, Conditions.memberClause, hne, String.append_assoc]

end Codegen.Test

namespace Query

open Codegen (Test)
open Identifier (mark)
open IndexStatement (afterWord?)

/-! ### Predicates -/

/-- **What a predicate says**: that no row is meant, that every row is, or a test of a column with
so many values. -/
inductive Predicate where
  | never
  | always
  | tests (column : String) (test : Test) (count : Nat)
  deriving DecidableEq, Repr

namespace Predicate

/-- A test of a column with so many values, as a predicate says it.  Of an empty collection it does
not say the column. -/
def of (column : String) (test : Test) (count : Nat) : Predicate :=
  match test with
  | .among negated =>
    if count = 0 then (if negated then always else never) else tests column test count
  | _ => tests column test count

/-- The number of values. -/
def count : Predicate → Nat
  | tests _ _ n => n
  | _ => 0

/-- How a predicate is written. -/
def text : Predicate → String
  | never => Conditions.never
  | always => Conditions.always
  | tests column test n => test.clause column n

/-- The number of values is one that the test takes and shows. -/
def Fits : Predicate → Prop
  | tests _ test n => test.Takes n ∧ ∀ negated, test = .among negated → n ≠ 0
  | _ => True

variable (column : String) (test : Test) (n : Nat)

@[simp] lemma count_of : (of column test n).count = n := by
  unfold of
  split
  · split_ifs with hn <;> simp_all [count]
  · rfl

@[simp] lemma text_of : (of column test n).text = test.clause column n := by
  unfold of
  split
  · split_ifs with hn <;> simp_all [text, Test.clause, Conditions.memberClause]
  · rfl

variable {column test n}

lemma fits_of (h : test.Takes n) : (of column test n).Fits := by
  unfold of
  split
  · split_ifs with hn
    · trivial
    · trivial
    · exact ⟨h, fun _ _ => hn⟩
  · rename_i hne
    exact ⟨h, fun negated heq => absurd heq (hne negated)⟩

/-- **Predicates say the same** of tests that are the same, up to the column of an empty
collection. -/
lemma of_eq_of_iff {column' : String} {test' : Test} {n' : Nat} :
    of column test n = of column' test' n' ↔ test = test' ∧ n = n' ∧
      (column = column' ∨ n = 0 ∧ ∃ negated, test = .among negated) := by
  cases test with
  | compare | absent =>
    cases test' with
    | compare | absent => simp [of, and_comm (a := column = column'), and_assoc]
    | among => simp only [of]; split_ifs <;> simp
  | among negated =>
    cases test' with
    | compare | absent => simp only [of]; split_ifs <;> simp
    | among negated' =>
      cases n <;> cases n' <;> cases negated <;> cases negated' <;>
        simp [of, and_comm (a := column = column')]

end Predicate

/-! ### The reader -/

/-- The marks for further values, counted, and the text behind them. -/
def moreMarks : List Char → Nat × List Char
  | ',' :: ' ' :: '%' :: 's' :: rest => ((moreMarks rest).1 + 1, (moreMarks rest).2)
  | cs => (0, cs)

/-- A list of marks up to its bracket, counted, and the text behind it. -/
def readMarks? (cs : List Char) : Option (Nat × List Char) := do
  let rest ← afterWord? Conditions.placeholder.toList cs
  let rest' ← afterWord? ")".toList (moreMarks rest).2
  return ((moreMarks rest).1 + 1, rest')

/-- The number of values of a test, and the text behind them. -/
def readCount? : Test → List Char → Option (Nat × List Char)
  | .compare _, cs => some (1, cs)
  | .absent _, cs => some (0, cs)
  | .among _, cs => readMarks? cs

/-- The test whose word is at the front of a text, and the text behind the word. -/
def readWord? (cs : List Char) : Option (Test × List Char) :=
  Test.all.findSome? fun test => (afterWord? test.word.toList cs).map (test, ·)

/-- The predicate at the front of a text, and the text behind it. -/
def readPredicate? (cs : List Char) : Option (Predicate × List Char) :=
  match afterWord? Conditions.never.toList cs, afterWord? Conditions.always.toList cs with
  | some rest, _ => some (.never, rest)
  | none, some rest => some (.always, rest)
  | none, none => do
    let (column, rest) ← Identifier.read? cs
    let (test, rest) ← readWord? rest
    let (n, rest) ← readCount? test rest
    return (.tests column test n, rest)

/-- The predicate in brackets at the front of a text, and the text behind it. -/
def readBracketed? (cs : List Char) : Option (Predicate × List Char) := do
  let (p, rest) ← readPredicate? (← afterWord? "(".toList cs)
  return (p, ← afterWord? ")".toList rest)

/-- Predicates in brackets with `AND` between them, so many at most, up to the end of a text. -/
def readConjunction? : Nat → List Char → Option (List Predicate)
  | 0, _ => none
  | n + 1, cs => do
    let (p, rest) ← readBracketed? cs
    if rest = [] then return [p]
    let ps ← readConjunction? n (← afterWord? " AND ".toList rest)
    return p :: ps

/-- **What a text of conditions says**, predicate by predicate. -/
def readWhere? (s : String) : Option (List Predicate) :=
  if s = "" then some [] else do
    let cs ← afterWord? " WHERE ".toList s.toList
    readConjunction? cs.length cs

/-! ### Reading what is written -/

@[simp] lemma afterWord?_append (word rest : List Char) :
    afterWord? word (word ++ rest) = some rest := by
  simp [afterWord?]

lemma moreMarks_flatMap (n : Nat) (rest : List Char) :
    moreMarks ((List.replicate n Conditions.placeholder).flatMap
      (fun s => ", ".toList ++ s.toList) ++ ')' :: rest) = (n, ')' :: rest) := by
  induction n with
  | zero => rfl
  | succ n ih =>
    have hmark : ∀ cs : List Char, moreMarks (", ".toList ++ Conditions.placeholder.toList ++ cs) =
        ((moreMarks cs).1 + 1, (moreMarks cs).2) := fun _ => rfl
    rw [List.replicate_succ, List.flatMap_cons, List.append_assoc, hmark, ih]

/-- As many marks are read as are written. -/
lemma readMarks?_placeholders {n : Nat} (hn : n ≠ 0) (rest : List Char) :
    readMarks? ((Conditions.placeholders n ++ ")").toList ++ rest) = some (n, rest) := by
  obtain ⟨m, rfl⟩ := Nat.exists_eq_succ_of_ne_zero hn
  have hchars : (Conditions.placeholders (m + 1) ++ ")").toList ++ rest =
      Conditions.placeholder.toList ++ ((List.replicate m Conditions.placeholder).flatMap
        (fun s => ", ".toList ++ s.toList) ++ ')' :: rest) := by
    rw [String.toList_append, Conditions.placeholders, String.toList_intercalate,
      List.replicate_succ, List.map_cons, Text.intercalate_cons, List.flatMap_map]
    simp
  rw [hchars, readMarks?, afterWord?_append, Option.bind_eq_bind, Option.bind_some,
    moreMarks_flatMap]
  rfl

/-- **A test is told by its word.** -/
lemma readWord?_word (test : Test) (rest : List Char) :
    readWord? (test.word.toList ++ rest) = some (test, rest) := by
  cases test with
  | compare k => cases k <;> rfl
  | absent negated | among negated => cases negated <;> rfl

lemma readCount?_ending {test : Test} {n : Nat} (hn : test.Takes n)
    (hne : ∀ negated, test = .among negated → n ≠ 0) (rest : List Char) :
    readCount? test ((test.ending n).toList ++ rest) = some (n, rest) := by
  cases test with
  | compare k => exact congrArg (fun m => some (m, rest)) hn.symm
  | absent negated => exact congrArg (fun m => some (m, rest)) hn.symm
  | among negated => exact readMarks?_placeholders (hne negated rfl) rest

/-- **A predicate is read back**, with the text behind it. -/
theorem readPredicate?_text {p : Predicate} (hp : p.Fits) (rest : List Char) :
    readPredicate? (p.text.toList ++ rest) = some (p, rest) := by
  cases p with
  | never => rfl
  | always => rfl
  | tests column test n =>
    obtain ⟨hn, hne⟩ := hp
    have hchars : (Predicate.tests column test n).text.toList ++ rest =
        (Identifier.quote column).toList ++
          (test.word.toList ++ ((test.ending n).toList ++ rest)) := by
      simp [Predicate.text, Test.clause_eq column hne]
    have hspace : ∃ tail, test.word.toList = ' ' :: tail := by
      cases test with
      | compare k => cases k <;> exact ⟨_, rfl⟩
      | absent negated | among negated => cases negated <;> exact ⟨_, rfl⟩
    have hword : (test.word.toList ++ ((test.ending n).toList ++ rest)).head? ≠ some mark := by
      obtain ⟨tail, htail⟩ := hspace
      rw [htail]
      exact fun heq => absurd (Option.some.inj heq) (by decide)
    have hquote : (Identifier.quote column).toList = mark :: (Identifier.double column.toList ++
      [mark]) := Identifier.toList_quote column
    have hnever : ∀ cs, afterWord? Conditions.never.toList (mark :: cs) = none := fun _ => rfl
    have halways : ∀ cs, afterWord? Conditions.always.toList (mark :: cs) = none := fun _ => rfl
    have hread := Identifier.read?_quote hword column
    rw [hchars]
    rw [hquote, List.cons_append] at hread ⊢
    simp only [readPredicate?, hnever, halways, hread, readWord?_word, readCount?_ending hn hne,
      Option.bind_eq_bind, Option.bind_some, Option.pure_def]

/-- A predicate in brackets, as it is written. -/
def bracketed (p : Predicate) : List Char := "(".toList ++ (p.text.toList ++ ")".toList)

lemma readBracketed?_bracketed {p : Predicate} (hp : p.Fits) (rest : List Char) :
    readBracketed? (bracketed p ++ rest) = some (p, rest) := by
  rw [readBracketed?, bracketed, List.append_assoc, List.append_assoc, afterWord?_append]
  simp only [Option.bind_eq_bind, Option.bind_some, readPredicate?_text hp, afterWord?_append,
    Option.pure_def]

/-- **A conjunction is read back**: by induction on the predicates behind the first one. -/
lemma readConjunction?_bracketed {p : Predicate} {ps : List Predicate} (hp : ∀ q ∈ p :: ps, q.Fits)
    {n : Nat} (hn : ps.length < n) :
    readConjunction? n (bracketed p ++ ps.flatMap fun q => " AND ".toList ++ bracketed q) =
      some (p :: ps) := by
  induction ps generalizing p n with
  | nil =>
    obtain ⟨m, rfl⟩ := Nat.exists_eq_succ_of_ne_zero (Nat.ne_of_gt hn)
    have hread := readBracketed?_bracketed (hp p List.mem_cons_self) []
    rw [List.append_nil] at hread
    rw [List.flatMap_nil, List.append_nil, readConjunction?, hread]
    rfl
  | cons q ps ih =>
    obtain ⟨m, rfl⟩ := Nat.exists_eq_succ_of_ne_zero (Nat.ne_of_gt (Nat.zero_lt_of_lt hn))
    obtain ⟨hfirst, hrest⟩ := List.forall_mem_cons.1 hp
    have hlater := ih hrest (Nat.lt_of_succ_lt_succ hn)
    have hne : ∀ cs, " AND ".toList ++ cs ≠ [] :=
      fun cs heq => absurd (List.append_eq_nil_iff.1 heq).1 (by decide)
    rw [readConjunction?, readBracketed?_bracketed hfirst]
    simp only [Option.bind_eq_bind, Option.bind_some, List.flatMap_cons, List.append_assoc,
      if_neg (hne _), afterWord?_append, hlater, Option.pure_def]

/-- **Conditions are read back from their text.** -/
theorem readWhere?_whereText {β : Type} {c : Conditions β} {ps : List Predicate}
    (hps : ∀ p ∈ ps, p.Fits) (hc : c.clauses = ps.map Predicate.text) :
    readWhere? c.whereText = some ps := by
  cases ps with
  | nil => simp [readWhere?, Conditions.whereText, hc]
  | cons p ps =>
    have hchars : c.whereText.toList = " WHERE ".toList ++
        (bracketed p ++ ps.flatMap fun q => " AND ".toList ++ bracketed q) := by
      simp [Conditions.whereText, hc, String.toList_intercalate, Text.intercalate_cons, bracketed,
        List.flatMap_map]
    have hne : c.whereText ≠ "" := by
      intro heq
      rw [heq] at hchars
      cases hchars
    have hlength : ps.length < (bracketed p ++
        ps.flatMap fun q => " AND ".toList ++ bracketed q).length := by
      have hpos : 0 < (bracketed p).length := by simp [bracketed]
      have hrest := Text.length_le_flatMap (f := fun q => " AND ".toList ++ bracketed q)
        (fun q => by simp) ps
      rw [List.length_append]
      omega
    rw [readWhere?, if_neg hne, hchars, afterWord?_append]
    exact readConjunction?_bracketed hps hlength

/-- A column whose name looks like the end of a predicate. -/
example : readWhere? " WHERE (\"a\"\") AND (\"\"b\" IS NULL) AND (1 = 1)" =
    some [.tests "a\") AND (\"b" (.absent false) 0, .always] := by
  decide +kernel

end Query

end PgSchema
