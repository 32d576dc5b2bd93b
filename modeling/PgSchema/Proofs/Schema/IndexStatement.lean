import Mathlib.Data.List.TakeWhile
import PgSchema.Proofs.Schema.Identifier
import PgSchema.Schema.Identifier

/-!
The name of an index, read back from a statement.

A statement that creates an index begins with words, each with blanks behind it (`IsHead`), and
then has the quoted name.  The reader finds a name if and only if the statement is of that form and
the name is as long as it can be (`name?_eq_some_iff`); so it finds what `Index.create` writes
(`name?_create`).
-/

namespace PgSchema.IndexStatement

open Identifier (double mark quote toList_quote undouble?_double undouble?_eq_some_iff)
open Text (isBlank)

/-! ### Words and blanks -/

/-- Words in a row, each with one blank behind it at least. -/
inductive Spaced : List String → List Char → Prop
  | nil : Spaced [] []
  | cons (word : String) (blanks : List Char) {words : List String} {cs : List Char} :
    blanks ≠ [] → (∀ c ∈ blanks, isBlank c = true) → Spaced words cs →
      Spaced (word :: words) (word.toList ++ (blanks ++ cs))

/-- **The head of a statement** that creates an index. -/
def IsHead (cs : List Char) : Prop :=
  ∃ unique ∈ [[], ["UNIQUE"]], ∃ condition ∈ [[], ["IF", "NOT", "EXISTS"]],
    Spaced ("CREATE" :: unique ++ "INDEX" :: condition) cs

/-- No blank is in front. -/
def IsSolid (cs : List Char) : Prop := ∀ c ∈ cs.head?, isBlank c = false

lemma isSolid_dropWhile (cs : List Char) : IsSolid (cs.dropWhile isBlank) := by
  intro c hc
  simpa [Option.mem_def.1 hc] using List.head?_dropWhile_not isBlank cs

lemma dropWhile_of_isSolid {blanks cs : List Char} (h : ∀ c ∈ blanks, isBlank c = true)
    (hcs : IsSolid cs) : (blanks ++ cs).dropWhile isBlank = cs := by
  rw [List.dropWhile_append_of_pos h]
  cases cs with
  | nil => rfl
  | cons c cs => exact List.dropWhile_cons_of_neg (by simp [hcs c rfl])

lemma Spaced.append {words words' : List String} {cs cs' : List Char} (h : Spaced words cs)
    (h' : Spaced words' cs') : Spaced (words ++ words') (cs ++ cs') := by
  induction h with
  | nil => exact h'
  | cons word blanks hsome hblank _ ih =>
    rw [List.append_assoc, List.append_assoc]
    exact .cons word _ hsome hblank ih

lemma Spaced.exists_append {words words' : List String} {cs : List Char}
    (h : Spaced (words ++ words') cs) :
    ∃ front back, cs = front ++ back ∧ Spaced words front ∧ Spaced words' back := by
  induction words generalizing cs with
  | nil => exact ⟨[], cs, rfl, .nil, h⟩
  | cons word words ih =>
    cases h with
    | cons _ blanks hsome hblank h =>
      obtain ⟨front, back, rfl, hfront, hback⟩ := ih h
      exact ⟨_, back, by simp only [List.append_assoc], .cons word _ hsome hblank hfront, hback⟩

lemma afterKeyword?_eq_some_iff {word : String} {cs rest : List Char} :
    afterKeyword? word cs = some rest ↔ IsSolid rest ∧
      ∃ blanks, blanks ≠ [] ∧ (∀ c ∈ blanks, isBlank c = true) ∧
        cs = word.toList ++ (blanks ++ rest) := by
  rw [afterKeyword?, Option.bind_eq_some_iff]
  constructor
  · rintro ⟨tail, htail, hrest⟩
    rw [afterWord?, Option.ite_none_right_eq_some, List.isPrefixOf_iff_prefix] at htail
    obtain ⟨⟨tail', rfl⟩, htail⟩ := htail
    rw [List.drop_left, Option.some.injEq] at htail
    subst htail
    cases tail' with
    | nil => cases hrest
    | cons c tail =>
      rw [afterBlanks?, Option.ite_none_right_eq_some, Option.some.injEq] at hrest
      obtain ⟨hc, rfl⟩ := hrest
      refine ⟨isSolid_dropWhile tail, c :: tail.takeWhile isBlank, List.cons_ne_nil _ _, ?_, ?_⟩
      · exact List.forall_mem_cons.2 ⟨hc, fun d hd => List.mem_takeWhile_imp hd⟩
      · rw [List.cons_append, List.takeWhile_append_dropWhile]
  · rintro ⟨hsolid, blanks, hsome, hblank, rfl⟩
    refine ⟨blanks ++ rest, ?_, ?_⟩
    · rw [afterWord?, if_pos (List.isPrefixOf_iff_prefix.2 (List.prefix_append _ _)),
        List.drop_left]
    · cases blanks with
      | nil => exact absurd rfl hsome
      | cons c blanks =>
        obtain ⟨hc, hblank⟩ := List.forall_mem_cons.1 hblank
        rw [List.cons_append, afterBlanks?, if_pos hc, dropWhile_of_isSolid hblank hsolid]

/-- Words that begin with no blank. -/
def AreWords (words : List String) : Prop :=
  ∀ word ∈ words, word.toList.head?.any (fun c => !isBlank c) = true

instance (words : List String) : Decidable (AreWords words) :=
  inferInstanceAs (Decidable (∀ word ∈ words, _))

lemma AreWords.isSolid {words : List String} (h : AreWords words) {word : String}
    (hword : word ∈ words) (cs : List Char) : IsSolid (word.toList ++ cs) := by
  have hfirst := h word hword
  cases hchars : word.toList with
  | nil => simp [hchars] at hfirst
  | cons c rest => simpa [hchars, IsSolid] using hfirst

lemma Spaced.isSolid_append {words : List String} {cs rest : List Char} (h : Spaced words cs)
    (hwords : AreWords words) (hrest : IsSolid rest) : IsSolid (cs ++ rest) := by
  cases h with
  | nil => exact hrest
  | cons word _ _ _ _ =>
    rw [List.append_assoc]
    exact hwords.isSolid List.mem_cons_self _

lemma spaced_of_foldlM {words : List String} {cs rest : List Char}
    (h : words.foldlM (fun cs word => afterKeyword? word cs) cs = some rest) :
    ∃ head, Spaced words head ∧ cs = head ++ rest := by
  induction words generalizing cs with
  | nil => exact ⟨[], .nil, Option.some.inj h⟩
  | cons word words ih =>
    rw [List.foldlM_cons, Option.bind_eq_bind, Option.bind_eq_some_iff] at h
    obtain ⟨tail, htail, h⟩ := h
    obtain ⟨-, blanks, hsome, hblank, rfl⟩ := afterKeyword?_eq_some_iff.1 htail
    obtain ⟨head, hhead, rfl⟩ := ih h
    exact ⟨_, .cons word _ hsome hblank hhead, by simp only [List.append_assoc]⟩

lemma foldlM_of_spaced {words : List String} {head rest : List Char} (h : Spaced words head)
    (hwords : AreWords words) (hrest : IsSolid rest) :
    words.foldlM (fun cs word => afterKeyword? word cs) (head ++ rest) = some rest := by
  induction h with
  | nil => rfl
  | cons word blanks hsome hblank h ih =>
    have hwords' : AreWords _ := fun w hw => hwords w (List.mem_cons_of_mem _ hw)
    rw [List.foldlM_cons, afterKeyword?_eq_some_iff.2 ⟨h.isSolid_append hwords' hrest, _, hsome,
      hblank, by rw [List.append_assoc, List.append_assoc]⟩]
    exact ih hwords'

/-- The rest of a text behind a word, and behind more words if they are there. -/
def afterClause? (word : String) (optional : List String) (cs : List Char) : Option (List Char) :=
  (afterKeyword? word cs).map (skipKeywords optional)

lemma spaced_of_afterClause? {word : String} {optional : List String} {cs rest : List Char}
    (h : afterClause? word optional cs = some rest) :
    ∃ taken ∈ [[], optional], ∃ head, Spaced (word :: taken) head ∧ cs = head ++ rest := by
  obtain ⟨tail, htail, rfl⟩ := Option.map_eq_some_iff.1 h
  obtain ⟨-, blanks, hsome, hblank, rfl⟩ := afterKeyword?_eq_some_iff.1 htail
  rw [skipKeywords]
  cases hskip : optional.foldlM (fun cs word => afterKeyword? word cs) tail with
  | none =>
    refine ⟨[], List.mem_cons_self, _, .cons word _ hsome hblank .nil, ?_⟩
    simp only [Option.getD_none, List.append_assoc, List.nil_append]
  | some rest =>
    obtain ⟨head, hhead, rfl⟩ := spaced_of_foldlM hskip
    refine ⟨optional, List.mem_cons_of_mem _ List.mem_cons_self, _,
      .cons word _ hsome hblank hhead, ?_⟩
    simp only [Option.getD_some, List.append_assoc]

lemma afterClause?_of_spaced {word first : String} {more taken : List String}
    {head rest : List Char} (htaken : taken ∈ [[], first :: more]) (h : Spaced (word :: taken) head)
    (hwords : AreWords (first :: more)) (hrest : IsSolid rest)
    (hother : first.toList.isPrefixOf rest = false) :
    afterClause? word (first :: more) (head ++ rest) = some rest := by
  cases h with
  | cons _ blanks hsome hblank hskipped =>
    rename_i skipped
    have hword (hsolid : IsSolid (skipped ++ rest)) :
        afterKeyword? word (word.toList ++ (blanks ++ skipped) ++ rest) = some (skipped ++ rest) :=
      afterKeyword?_eq_some_iff.2
        ⟨hsolid, blanks, hsome, hblank, by rw [List.append_assoc, List.append_assoc]⟩
    rcases List.mem_pair.1 htaken with rfl | rfl
    · cases hskipped
      rw [afterClause?, hword hrest, Option.map_some, List.nil_append, skipKeywords,
        List.foldlM_cons, afterKeyword?, afterWord?, hother]
      rfl
    · rw [afterClause?, hword (hskipped.isSolid_append hwords hrest), Option.map_some,
        skipKeywords, foldlM_of_spaced hskipped hwords hrest, Option.getD_some]

/-! ### The quoted name -/

/-- Nothing in the text behind a name can make the name longer: a quote that follows it is the
last. -/
def Ends (rest : List Char) : Prop := ∀ more, rest = mark :: more → mark ∉ more

lemma ends_of_head? {rest : List Char} (h : rest.head? ≠ some mark) : Ends rest := by
  rintro more rfl
  exact absurd rfl h

lemma quotedBody?_cons {c : Char} (hc : c ≠ mark) (rest : List Char) :
    quotedBody? (c :: rest) = (quotedBody? rest).map (c :: ·) := by
  cases rest <;> simp [quotedBody?, hc]

lemma quotedBody?_eq_none_iff {cs : List Char} : quotedBody? cs = none ↔ mark ∉ cs := by
  fun_induction quotedBody? cs with
  | case1 => simp
  | case2 => simp
  | case3 => simp
  | case4 => simp
  | case5 => simp
  | case6 c rest hc ih => simp [ih, Ne.symm hc]

lemma quotedBody?_mark {rest : List Char} (h : Ends rest) :
    quotedBody? (mark :: rest) = some [] := by
  cases rest with
  | nil => simp [quotedBody?]
  | cons d rest =>
    by_cases hd : d = mark
    · subst hd
      simp [quotedBody?, quotedBody?_eq_none_iff.2 (h rest rfl)]
    · simp [quotedBody?, hd]

lemma quotedBody?_double {rest : List Char} (h : Ends rest) (name : List Char) :
    quotedBody? (double name ++ mark :: rest) = some (double name) := by
  induction name with
  | nil => exact quotedBody?_mark h
  | cons c name ih =>
    by_cases hc : c = mark
    · subst hc
      simp [double, quotedBody?, ih]
    · simp [double, hc, quotedBody?_cons hc, ih]

lemma exists_of_quotedBody? {cs body : List Char} (h : quotedBody? cs = some body) :
    ∃ name rest, body = double name ∧ cs = double name ++ mark :: rest ∧ Ends rest := by
  fun_induction quotedBody? cs generalizing body with
  | case1 => cases h
  | case2 rest body' hbody ih =>
    obtain ⟨name, rest, rfl, rfl, hends⟩ := ih hbody
    cases h
    exact ⟨mark :: name, rest, by simp [double], by simp [double], hends⟩
  | case3 rest hnone ih =>
    cases h
    refine ⟨[], mark :: rest, rfl, rfl, fun more hmore => ?_⟩
    cases hmore
    exact quotedBody?_eq_none_iff.1 hnone
  | case4 d rest hd =>
    cases h
    exact ⟨[], d :: rest, rfl, rfl, ends_of_head? (by simpa using hd)⟩
  | case5 =>
    cases h
    exact ⟨[], [], rfl, rfl, ends_of_head? (by simp)⟩
  | case6 c rest hc ih =>
    obtain ⟨body, hbody, rfl⟩ := Option.map_eq_some_iff.1 h
    obtain ⟨name, rest, rfl, rfl, hends⟩ := ih hbody
    exact ⟨c :: name, rest, by simp [double, hc], by simp [double, hc], hends⟩

/-- The quoted name at the front of a text, behind its quotes. -/
def named? (cs : List Char) : Option String :=
  ((quotedName? cs).bind Identifier.undouble?).map String.ofList

lemma named?_eq_some_iff {cs : List Char} {n : String} :
    named? cs = some n ↔ ∃ rest, cs = (quote n).toList ++ rest ∧ Ends rest := by
  simp only [named?, Option.map_eq_some_iff, Option.bind_eq_some_iff, undouble?_eq_some_iff]
  constructor
  · rintro ⟨name, ⟨body, hbody, rfl⟩, rfl⟩
    cases cs with
    | nil => cases hbody
    | cons c cs =>
      rw [quotedName?, Option.ite_none_right_eq_some] at hbody
      obtain ⟨rfl, hbody⟩ := hbody
      obtain ⟨name', rest, hname, rfl, hends⟩ := exists_of_quotedBody? hbody
      refine ⟨rest, ?_, hends⟩
      rw [toList_quote, String.toList_ofList, hname, List.cons_append, List.append_assoc]
      rfl
  · rintro ⟨rest, rfl, hends⟩
    refine ⟨n.toList, ⟨double n.toList, ?_, rfl⟩, String.ofList_toList⟩
    rw [toList_quote, List.cons_append, List.append_assoc, quotedName?, if_pos rfl]
    exact quotedBody?_double hends n.toList

/-- Whatever follows a quoted name, some name is found. -/
lemma exists_named? (n : String) (rest : List Char) :
    ∃ found, named? ((quote n).toList ++ rest) = some found := by
  cases h : quotedBody? (double n.toList ++ mark :: rest) with
  | none => simp [quotedBody?_eq_none_iff] at h
  | some body =>
    obtain ⟨name, rest', rfl, -, -⟩ := exists_of_quotedBody? h
    refine ⟨String.ofList name, ?_⟩
    rw [toList_quote, List.cons_append, List.append_assoc, named?, quotedName?, if_pos rfl]
    simp [h, undouble?_double]

/-! ### Statements -/

/-- The rest of a text behind the head of a statement that creates an index. -/
def afterHead? (cs : List Char) : Option (List Char) :=
  (afterClause? "CREATE" ["UNIQUE"] cs).bind (afterClause? "INDEX" ["IF", "NOT", "EXISTS"])

lemma name?_eq (statement : String) :
    name? statement = (afterHead? (Text.trim statement.toList)).bind named? := by
  simp only [name?, afterHead?, afterClause?, named?, Option.bind_eq_bind, Option.pure_def,
    Option.bind_assoc, Option.map_eq_bind, Option.bind_some, Function.comp_def]

lemma isHead_of_afterHead? {cs rest : List Char} (h : afterHead? cs = some rest) :
    ∃ head, IsHead head ∧ cs = head ++ rest := by
  obtain ⟨tail, htail, hrest⟩ := Option.bind_eq_some_iff.1 h
  obtain ⟨unique, hunique, front, hfront, rfl⟩ := spaced_of_afterClause? htail
  obtain ⟨condition, hcondition, back, hback, rfl⟩ := spaced_of_afterClause? hrest
  exact ⟨front ++ back, ⟨unique, hunique, condition, hcondition, hfront.append hback⟩,
    (List.append_assoc _ _ _).symm⟩

lemma afterHead?_of_isHead {head rest : List Char} (h : IsHead head)
    (hrest : rest.head? = some mark) : afterHead? (head ++ rest) = some rest := by
  obtain ⟨unique, hunique, condition, hcondition, h⟩ := h
  obtain ⟨front, back, rfl, hfront, hback⟩ := h.exists_append
  obtain ⟨more, rfl⟩ := List.head?_eq_some_iff.1 hrest
  have hindex : (back ++ mark :: more).head? = some 'I' := by
    cases hback
    rfl
  have hsolid {c : Char} (hc : isBlank c = false) {cs : List Char} (hcs : cs.head? = some c) :
      IsSolid cs := fun d hd => Option.some.inj (hcs.symm.trans hd) ▸ hc
  rw [afterHead?, List.append_assoc, Option.bind_eq_some_iff]
  refine ⟨back ++ mark :: more, ?_, ?_⟩
  · obtain ⟨tail, htail⟩ := List.head?_eq_some_iff.1 hindex
    exact afterClause?_of_spaced hunique hfront (by decide) (hsolid (by decide) hindex)
      (by rw [htail]; rfl)
  · exact afterClause?_of_spaced hcondition hback (by decide) (hsolid (by decide) rfl) rfl

/-- **A name is found if and only if the statement has the form** of one that creates an index, and
it is the longest that can be read there. -/
theorem name?_eq_some_iff {statement n : String} :
    name? statement = some n ↔ ∃ head rest, IsHead head ∧
      Text.trim statement.toList = head ++ ((quote n).toList ++ rest) ∧ Ends rest := by
  rw [name?_eq, Option.bind_eq_some_iff]
  constructor
  · rintro ⟨behind, hbehind, hn⟩
    obtain ⟨head, hhead, htrim⟩ := isHead_of_afterHead? hbehind
    obtain ⟨rest, rfl, hends⟩ := named?_eq_some_iff.1 hn
    exact ⟨head, rest, hhead, htrim, hends⟩
  · rintro ⟨head, rest, hhead, htrim, hends⟩
    refine ⟨_, ?_, named?_eq_some_iff.2 ⟨rest, rfl, hends⟩⟩
    rw [htrim]
    exact afterHead?_of_isHead hhead (by rw [toList_quote]; rfl)

/-- In a statement that creates an index some name is found, whatever stands behind the name. -/
lemma exists_name? {statement n : String} {head rest : List Char} (hhead : IsHead head)
    (htrim : Text.trim statement.toList = head ++ ((quote n).toList ++ rest)) :
    ∃ found, name? statement = some found := by
  rw [name?_eq, htrim, afterHead?_of_isHead hhead (by rw [toList_quote]; rfl), Option.bind_some]
  exact exists_named? n rest

/-! ### The statements that are written -/

section Written

variable (table : String) (columns : List String)

/-- What stands behind the name in a statement that creates an index. -/
def createTail : List Char :=
  " ON ".toList ++ ((Identifier.quote table).toList ++ (" (".toList ++
    ((", ".intercalate (columns.map Identifier.quote)).toList ++ ")".toList)))

lemma toList_create (given : String) :
    (Index.create table columns given).toList = "CREATE INDEX IF NOT EXISTS ".toList ++
      ((Identifier.quote (if given = "" then Index.name Index.defaultStart table columns
        else given)).toList ++ createTail table columns) := by
  unfold Index.create createTail
  rw [String.toList_append, String.toList_append, String.toList_append, String.toList_append,
    String.toList_append, String.toList_append]
  rw [List.append_assoc, List.append_assoc, List.append_assoc, List.append_assoc,
    List.append_assoc]

lemma head?_createTail : (createTail table columns).head? = some ' ' := rfl

lemma createTail_eq : createTail table columns =
    (" ON ".toList ++ ((Identifier.quote table).toList ++
      (" (".toList ++ (", ".intercalate (columns.map Identifier.quote)).toList))) ++ [')'] := by
  unfold createTail
  rw [List.append_assoc, List.append_assoc, List.append_assoc]
  rfl

lemma trim_of_edges {c d : Char} (hc : isBlank c = false) (hd : isBlank d = false)
    (cs : List Char) : Text.trim (c :: (cs ++ [d])) = c :: (cs ++ [d]) := by
  simp [Text.trim, Text.trimBy, hc, hd]

lemma trim_create (given : String) :
    Text.trim (Index.create table columns given).toList =
      (Index.create table columns given).toList := by
  rw [toList_create, createTail_eq, ← List.append_assoc, ← List.append_assoc]
  exact trim_of_edges (c := 'C') (d := ')') (by decide) (by decide) _

end Written

lemma isHead_create : IsHead "CREATE INDEX IF NOT EXISTS ".toList := by
  have hblank : ∀ c ∈ [' '], isBlank c = true := List.forall_mem_singleton.2 rfl
  have hspaced : ∀ words : List String,
      Spaced words (words.flatMap fun word => word.toList ++ [' ']) := by
    intro words
    induction words with
    | nil => exact .nil
    | cons word words ih =>
      rw [List.flatMap_cons, List.append_assoc]
      exact .cons word _ (List.cons_ne_nil _ _) hblank ih
  exact ⟨[], List.mem_cons_self, _, List.mem_cons_of_mem _ List.mem_cons_self, hspaced _⟩

/-- **The name of an index is read back** from the statement that creates it. -/
theorem name?_create (table : String) (columns : List String) (given : String) :
    name? (Index.create table columns given) =
      some (if given = "" then Index.name Index.defaultStart table columns else given) :=
  name?_eq_some_iff.2 ⟨_, createTail table columns, isHead_create,
    (trim_create table columns given).trans (toList_create table columns given),
    ends_of_head? (by rw [head?_createTail]; decide)⟩

theorem name_create (table : String) (columns : List String) :
    name (Index.create table columns "") = .ok (Index.name Index.defaultStart table columns) := by
  simp only [name, name?_create, if_true]

/-- **The names of indexes are read exactly.**  The name is read from each statement that is
written, and from each text that is a head, a quoted name and a rest that begins with no quote.
Where a name is read there is a head with that name behind it; all other texts are refused. -/
theorem name_reads_statements :
    (∀ table columns given, name (Index.create table columns given) =
      .ok (if given = "" then Index.name Index.defaultStart table columns else given)) ∧
    (∀ statement head n rest, IsHead head → rest.head? ≠ some mark →
      Text.trim statement.toList = head ++ ((quote n).toList ++ rest) →
        name statement = .ok n) ∧
    ∀ statement,
      (∃ n head rest, name statement = .ok n ∧ IsHead head ∧
        Text.trim statement.toList = head ++ ((quote n).toList ++ rest)) ∨
      (∃ fault, name statement = .error fault ∧ fault.sort = .argument) ∧
        ¬ ∃ n head rest, IsHead head ∧
          Text.trim statement.toList = head ++ ((quote n).toList ++ rest) := by
  refine ⟨fun table columns given => ?_, fun statement head n rest hhead hrest htrim => ?_,
    fun statement => ?_⟩
  · rw [name, name?_create]
  · rw [name, name?_eq_some_iff.2 ⟨head, rest, hhead, htrim, ends_of_head? hrest⟩]
  · cases h : name? statement with
    | some n =>
      obtain ⟨head, rest, hhead, htrim, -⟩ := name?_eq_some_iff.1 h
      exact .inl ⟨n, head, rest, by rw [name, h], hhead, htrim⟩
    | none =>
      refine .inr ⟨⟨_, by rw [name, h], rfl⟩, fun ⟨n, head, rest, hhead, htrim⟩ => ?_⟩
      obtain ⟨found, hfound⟩ := exists_name? hhead htrim
      rw [h] at hfound
      cases hfound

/-- With blanks of several kinds, and a name that reads like the text around names. -/
theorem name_reads_statements_spread :
    IsHead "CREATE  UNIQUE\tINDEX\n".toList ∧ " ON t".toList.head? ≠ some mark ∧
      Text.trim " CREATE  UNIQUE\tINDEX\n\"a\"\" ON \"\"b\" ON t\n".toList =
        "CREATE  UNIQUE\tINDEX\n".toList ++ ((quote "a\" ON \"b").toList ++ " ON t".toList) ∧
      name " CREATE  UNIQUE\tINDEX\n\"a\"\" ON \"\"b\" ON t\n" = .ok "a\" ON \"b" := by
  have hspace : isBlank ' ' = true := rfl
  have htab : isBlank '\t' = true := rfl
  have hline : isBlank '\n' = true := rfl
  have hhead : IsHead "CREATE  UNIQUE\tINDEX\n".toList := by
    refine ⟨["UNIQUE"], by simp, [], by simp, ?_⟩
    exact .cons "CREATE" [' ', ' '] (List.cons_ne_nil _ _) (by simp [hspace])
      (.cons "UNIQUE" ['\t'] (List.cons_ne_nil _ _) (by simp [htab])
        (.cons "INDEX" ['\n'] (List.cons_ne_nil _ _) (by simp [hline]) .nil))
  have hrest : " ON t".toList.head? ≠ some mark := by decide
  have htrim : Text.trim " CREATE  UNIQUE\tINDEX\n\"a\"\" ON \"\"b\" ON t\n".toList =
      "CREATE  UNIQUE\tINDEX\n".toList ++ ((quote "a\" ON \"b").toList ++ " ON t".toList) := rfl
  exact ⟨hhead, hrest, htrim, name_reads_statements.2.1 _ _ _ _ hhead hrest htrim⟩

end PgSchema.IndexStatement
