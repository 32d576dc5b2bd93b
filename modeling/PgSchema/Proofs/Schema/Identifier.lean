import Mathlib.Data.List.Basic
import Mathlib.Tactic.Lemma
import PgSchema.Schema.Identifier

/-!
Quoted identifiers, alone and at the front of a text.

An identifier shows where it ends, whatever its name is, unless another quote follows it:
`read?_quote` reads it back together with the text behind it, and `quote_append_inj` says that two
texts with an identifier at the front are equal only if the identifiers are.  A text alone is read
if and only if it is a quoted name (`unquote_eq_ok_iff`).
-/

namespace PgSchema

namespace Identifier

/-! ### Names behind their quotes -/

/-- The name of an identifier behind its opening quote, and the text behind its closing one. -/
def body? : List Char → Option (List Char × List Char)
  | [] => none
  | c :: rest =>
    if c = mark then
      match rest with
      | d :: rest' =>
        if d = mark then (body? rest').map fun (name, tail) => (mark :: name, tail)
        else some ([], rest)
      | [] => some ([], [])
    else (body? rest).map fun (name, tail) => (c :: name, tail)

/-- The identifier at the front of a text, and the text behind it. -/
def read? : List Char → Option (String × List Char)
  | c :: rest =>
    if c = mark then (body? rest).map fun (name, tail) => (String.ofList name, tail) else none
  | [] => none

lemma toList_quote (name : String) :
    (quote name).toList = mark :: (double name.toList ++ [mark]) := by
  simp [quote]

lemma body?_cons {c : Char} (hc : c ≠ mark) (rest : List Char) :
    body? (c :: rest) = (body? rest).map fun (name, tail) => (c :: name, tail) := by
  cases rest <;> simp [body?, hc]

lemma undouble?_cons {c : Char} (hc : c ≠ mark) (rest : List Char) :
    undouble? (c :: rest) = (undouble? rest).map (c :: ·) := by
  cases rest <;> simp [undouble?, hc]

lemma body?_double {rest : List Char} (h : rest.head? ≠ some mark) (name : List Char) :
    body? (double name ++ mark :: rest) = some (name, rest) := by
  induction name with
  | nil =>
    cases rest with
    | nil => simp [double, body?]
    | cons d rest =>
      have hd : d ≠ mark := by simpa using h
      simp [double, body?, hd]
  | cons c name ih =>
    by_cases hc : c = mark
    · subst hc
      simp [double, body?, ih]
    · simp [double, hc, body?_cons hc, ih]

/-- **An identifier is read back**, with the text behind it. -/
theorem read?_quote {rest : List Char} (h : rest.head? ≠ some mark) (name : String) :
    read? ((quote name).toList ++ rest) = some (name, rest) := by
  have e : (quote name).toList ++ rest = mark :: (double name.toList ++ mark :: rest) := by
    simp [toList_quote]
  rw [e]
  simp [read?, body?_double h]

theorem quote_append_inj {a b : String} {x y : List Char} (hx : x.head? ≠ some mark)
    (hy : y.head? ≠ some mark) (h : (quote a).toList ++ x = (quote b).toList ++ y) :
    a = b ∧ x = y := by
  have e := read?_quote hx a
  rw [h, read?_quote hy b] at e
  simpa [eq_comm] using e

lemma undouble?_double (name : List Char) : undouble? (double name) = some name := by
  induction name with
  | nil => rfl
  | cons c name ih =>
    by_cases hc : c = mark
    · subst hc
      simp [double, undouble?, ih]
    · simp [double, hc, undouble?_cons hc, ih]

/-! ### Quoted names and no other texts -/

lemma eq_double_of_undouble? {cs name : List Char} (h : undouble? cs = some name) :
    cs = double name := by
  fun_induction undouble? cs generalizing name with
  | case1 => rw [← Option.some.inj h, double]
  | case2 rest ih =>
    obtain ⟨name, hname, rfl⟩ := Option.map_eq_some_iff.1 h
    rw [double, if_pos rfl, ← ih hname]
  | case3 => cases h
  | case4 => cases h
  | case5 c rest hc ih =>
    obtain ⟨name, hname, rfl⟩ := Option.map_eq_some_iff.1 h
    rw [double, if_neg hc, ← ih hname]

/-- Bodies in which each quote is doubled, and these only, are read. -/
lemma undouble?_eq_some_iff {cs name : List Char} :
    undouble? cs = some name ↔ cs = double name :=
  ⟨eq_double_of_undouble?, fun h => h ▸ undouble?_double name⟩

lemma between?_eq_some_iff {cs body : List Char} :
    between? cs = some body ↔ cs = mark :: (body ++ [mark]) := by
  cases cs with
  | nil => simp [between?]
  | cons c rest =>
    rw [between?, Option.ite_none_right_eq_some, Option.some.injEq, List.cons.injEq, and_assoc]
    refine and_congr_right fun _ => ⟨fun ⟨hlast, hbody⟩ => ?_, ?_⟩
    · rw [← hbody]
      exact (List.dropLast_append_getLast? mark hlast).symm
    · rintro rfl
      exact ⟨List.getLast?_concat, List.dropLast_concat⟩

/-- A text is read as a name only if it is that name quoted. -/
theorem unquote_eq_ok_iff {text name : String} : unquote text = .ok name ↔ text = quote name := by
  rw [← String.toList_inj, toList_quote, ← between?_eq_some_iff, unquote]
  cases hbody : between? text.toList with
  | none => simp
  | some body =>
    rw [Option.some.injEq, ← undouble?_eq_some_iff]
    dsimp only
    cases hname : undouble? body with
    | none => simp
    | some cs => simp [← String.toList_inj]

lemma sort_of_unquote_eq_error {text : String} {fault : Fault} (h : unquote text = .error fault) :
    fault.sort = .argument := by
  unfold unquote at h
  split at h
  · cases h
    rfl
  · split at h <;> cases h
    rfl

/-- **To quote and to read a quoted name undo each other**, nothing but quoted names is read, and
in front of a text that begins with no quote a quoted name ends in one place only. -/
theorem quoting_exact :
    (∀ name, unquote (quote name) = .ok name) ∧
    (∀ text, (∃ name, unquote text = .ok name ∧ quote name = text) ∨
      (∃ fault, unquote text = .error fault ∧ fault.sort = .argument) ∧
        ∀ name, quote name ≠ text) ∧
    ∀ (a b x y : String), x.toList.head? ≠ some mark → y.toList.head? ≠ some mark →
      quote a ++ x = quote b ++ y → a = b ∧ x = y := by
  refine ⟨fun name => unquote_eq_ok_iff.2 rfl, fun text => ?_, fun a b x y hx hy h => ?_⟩
  · cases h : unquote text with
    | ok name => exact .inl ⟨name, rfl, (unquote_eq_ok_iff.1 h).symm⟩
    | error fault =>
      refine .inr ⟨⟨fault, rfl, sort_of_unquote_eq_error h⟩, fun name hname => ?_⟩
      rw [unquote_eq_ok_iff.2 hname.symm] at h
      cases h
  · rw [← String.toList_inj, String.toList_append, String.toList_append] at h
    exact (quote_append_inj hx hy h).imp_right String.toList_inj.1

/-- With a name that ends in quotes, where those of the name and the one around it stand side by
side. -/
theorem quoting_exact_marks :
    " ON".toList.head? ≠ some mark ∧ (" O" ++ "N").toList.head? ≠ some mark ∧
      quote "a\"\"" ++ " ON" = quote ("a" ++ "\"\"") ++ (" O" ++ "N") ∧
      ("a\"\"" = "a" ++ "\"\"" ∧ " ON" = " O" ++ "N") :=
  ⟨by decide, by decide, by decide,
    quoting_exact.2.2 _ _ _ _ (by decide) (by decide) (by decide)⟩

end Identifier

end PgSchema
