import PgSchema.Proofs.Query.Insertions
import PgSchema.Proofs.Query.Marks

/-!
Statements as the driver takes them.

In a statement that is sent with values, every percent sign has to begin a place for a value or to
be doubled (`places?`).  Identifiers are written as they are, so the places of an insertion are
those for its values if and only if no name in it has a single percent sign (`holes?_text_iff`).
-/

namespace PgSchema.Query

open Identifier (mark double quote)
open Piece (chars chars_append chars_cons chars_listed glue listed)

/-! ### The rules of the driver -/

/-- What the driver makes of the rest of a statement, behind a percent sign or not. -/
def scan? : Bool → List Char → Option (List (Option Char))
  | false, [] => some []
  | true, [] => none
  | false, c :: rest =>
    if c = '%' then scan? true rest else (scan? false rest).map (some c :: ·)
  | true, c :: rest =>
    if c = 's' then (scan? false rest).map (none :: ·)
    else if c = '%' then (scan? false rest).map (some '%' :: ·)
    else none

/-- **A statement as the driver takes it**: characters, and places for values.  A percent sign
begins a place or is doubled, or else the statement is refused. -/
def places? (cs : List Char) : Option (List (Option Char)) := scan? false cs

/-- The number of places for values in a statement that is not refused. -/
def holes? (cs : List Char) : Option Nat := (places? cs).map (·.count none)

/-- **A name with doubled percent signs only.** -/
def Doubled (name : String) : Prop := holes? name.toList = some 0

instance : DecidablePred Doubled := fun name =>
  inferInstanceAs (Decidable (holes? name.toList = some 0))

/-- A text that continues no percent sign in front of it. -/
def Breaks (cs : List Char) : Prop := ∀ c ∈ cs.head?, c ≠ '%' ∧ c ≠ 's'

section Rules

variable {x y : List Char}

lemma scan?_of_breaks (hy : Breaks y) : scan? true y = none := by
  cases y with
  | nil => rfl
  | cons c rest =>
    obtain ⟨hpercent, hs⟩ := hy c rfl
    rw [scan?, if_neg hs, if_neg hpercent]

/-- The texts are taken one after the other, by induction on the first one. -/
lemma scan?_append (b : Bool) (hy : scan? b x = none → Breaks y) :
    scan? b (x ++ y) = (scan? b x).bind fun a => (scan? false y).map (a ++ ·) := by
  have hmap : ∀ (o : Option Char) (a : Option (List (Option Char))),
      (a.bind fun a => (scan? false y).map (a ++ ·)).map (o :: ·) =
        (a.map (o :: ·)).bind fun a => (scan? false y).map (a ++ ·) := by
    intro o a
    cases a <;> cases scan? false y <;> rfl
  induction x generalizing b with
  | nil =>
    cases b with
    | false =>
      rw [List.nil_append]
      cases h : scan? false y <;> simp [scan?]
    | true => exact scan?_of_breaks (hy rfl)
  | cons c x ih =>
    rw [List.cons_append]
    cases b with
    | false =>
      by_cases hc : c = '%'
      · rw [scan?, if_pos hc] at hy
        rw [scan?, if_pos hc, scan?, if_pos hc]
        exact ih true hy
      · rw [scan?, if_neg hc, Option.map_eq_none_iff] at hy
        rw [scan?, if_neg hc, scan?, if_neg hc, ih false hy, hmap]
    | true =>
      by_cases hs : c = 's'
      · rw [scan?, if_pos hs, Option.map_eq_none_iff] at hy
        rw [scan?, if_pos hs, scan?, if_pos hs, ih false hy, hmap]
      · by_cases hc : c = '%'
        · rw [scan?, if_neg hs, if_pos hc, Option.map_eq_none_iff] at hy
          rw [scan?, if_neg hs, if_pos hc, scan?, if_neg hs, if_pos hc, ih false hy, hmap]
        · rw [scan?, if_neg hs, if_neg hc, scan?, if_neg hs, if_neg hc]
          rfl

/-- **Texts are taken one after the other**, if a percent sign at the end of the first one is not
continued by the second one. -/
lemma places?_append (hy : places? x = none → Breaks y) :
    places? (x ++ y) = (places? x).bind fun a => (places? y).map (a ++ ·) :=
  scan?_append false hy

lemma places?_append_of_some {a b : List (Option Char)} (hx : places? x = some a)
    (hy : places? y = some b) : places? (x ++ y) = some (a ++ b) := by
  have hnone : places? x = none → Breaks y := by
    rw [hx]
    exact fun h => nomatch h
  rw [places?_append hnone, hx, hy]
  rfl

/-- **The places of two texts are those of each.** -/
lemma holes?_append (hy : holes? x = none → Breaks y) {n : Nat} :
    holes? (x ++ y) = some n ↔ ∃ i j, holes? x = some i ∧ holes? y = some j ∧ i + j = n := by
  unfold holes? at hy ⊢
  rw [Option.map_eq_none_iff] at hy
  rw [places?_append hy]
  cases places? x with
  | none => simp
  | some a =>
    cases places? y with
    | none => simp
    | some b => simp

lemma exists_chars {a : List (Option Char)} (ha : none ∉ a) : ∃ t : List Char, a = t.map some := by
  induction a with
  | nil => exact ⟨[], rfl⟩
  | cons o a ih =>
    rw [List.mem_cons, not_or] at ha
    obtain ⟨c, rfl⟩ := Option.ne_none_iff_exists'.1 (Ne.symm ha.1)
    obtain ⟨t, rfl⟩ := ih ha.2
    exact ⟨c :: t, rfl⟩

/-- **A statement without places** is a text of characters. -/
lemma holes?_eq_zero_iff :
    holes? x = some 0 ↔ ∃ t : List Char, places? x = some (t.map some) := by
  unfold holes?
  rw [Option.map_eq_some_iff]
  constructor
  · rintro ⟨a, ha, hcount⟩
    obtain ⟨t, rfl⟩ := exists_chars (List.count_eq_zero.1 hcount)
    exact ⟨t, ha⟩
  · rintro ⟨t, ht⟩
    refine ⟨t.map some, ht, ?_⟩
    rw [List.count_eq_zero]
    simp

/-- A text without percent signs is taken as it is. -/
lemma places?_of_free (hx : '%' ∉ x) : places? x = some (x.map some) := by
  induction x with
  | nil => rfl
  | cons c x ih =>
    rw [List.mem_cons, not_or] at hx
    have hrest := ih hx.2
    unfold places? at hrest ⊢
    rw [scan?, if_neg (Ne.symm hx.1), hrest]
    rfl

lemma holes?_of_free (hx : '%' ∉ x) : holes? x = some 0 :=
  holes?_eq_zero_iff.2 ⟨x, places?_of_free hx⟩

/-- Doubled quotes change no places, by induction on the name. -/
lemma count_scan?_double (b : Bool) (cs : List Char) :
    (scan? b (double cs ++ [mark])).map (·.count none) = (scan? b cs).map (·.count none) := by
  have hmark : mark ≠ '%' ∧ mark ≠ 's' := by decide
  have hsome : ∀ (c : Char) (a : Option (List (Option Char))),
      (a.map (some c :: ·)).map (·.count none) = a.map (·.count none) := by
    intro c a
    cases a <;> simp
  have hnone : ∀ a : Option (List (Option Char)),
      (a.map (none :: ·)).map (·.count none) = (a.map (·.count none)).map (· + 1) := by
    intro a
    cases a <;> simp
  induction cs generalizing b with
  | nil => cases b <;> rfl
  | cons c cs ih =>
    by_cases hc : c = mark
    · subst hc
      rw [double, if_pos rfl, List.cons_append, List.cons_append]
      cases b with
      | false =>
        rw [scan?, if_neg hmark.1, scan?, if_neg hmark.1, scan?, if_neg hmark.1, hsome, hsome,
          hsome, ih]
      | true => rw [scan?, if_neg hmark.2, if_neg hmark.1, scan?, if_neg hmark.2, if_neg hmark.1]
    · rw [double, if_neg hc, List.cons_append]
      cases b with
      | false =>
        rw [scan?, scan?]
        split
        · exact ih true
        · rw [hsome, hsome, ih]
      | true =>
        rw [scan?, scan?]
        split
        · rw [hnone, hnone, ih]
        · split
          · rw [hsome, hsome, ih]
          · rfl

/-- **The places of an identifier are those of its name.** -/
lemma holes?_quote (name : String) : holes? (quote name).toList = holes? name.toList := by
  have hmark : mark ≠ '%' := by decide
  unfold holes? places?
  rw [Identifier.toList_quote, scan?, if_neg hmark, ← count_scan?_double false name.toList]
  cases scan? false (double name.toList ++ [mark]) <;> simp

lemma breaks_quote (name : String) : Breaks (quote name).toList := by
  rw [Identifier.toList_quote]
  rintro c hc
  obtain rfl := Option.some.inj hc
  decide

end Rules

/-! ### The places of pieces -/

section Pieces

variable {β : Type} {ps : List (Piece (Option String) β)}

/-- **A piece of a statement that is sent with values**: an identifier, by its name, or a text of
the program with places for its values. -/
structure Piece.Sent (p : Piece (Option String) β) : Prop where
  breaks : Breaks p.text.toList
  named : ∀ name, p.author = some name → p.text = quote name ∧ p.values = []
  places : p.author = none → holes? p.text.toList = some p.values.length

/-- A text of the program without percent signs. -/
lemma sent_glue {s : String} (hs : Starts s) (hfree : Free s) :
    (glue s : Piece (Option String) β).Sent where
  breaks c hc := by
    obtain ⟨c', hc', hne⟩ := hs
    obtain rfl := Option.some.inj (hc.symm.trans hc')
    exact ⟨fun heq => hfree (heq ▸ List.mem_of_head? hc), hne⟩
  named name hname := nomatch hname
  places _ := holes?_of_free hfree

/-- An identifier as a piece. -/
def namedPiece (name : String) : Piece (Option String) β := ⟨some name, quote name, []⟩

lemma sent_named (name : String) : (namedPiece name : Piece (Option String) β).Sent where
  breaks := breaks_quote name
  named name' hname := by
    obtain rfl := Option.some.inj hname
    exact ⟨rfl, rfl⟩
  places hnone := nomatch hnone

lemma breaks_chars (hps : ∀ p ∈ ps, p.Sent) : Breaks (chars ps) := by
  induction ps with
  | nil => exact fun c hc => nomatch hc
  | cons p ps ih =>
    obtain ⟨hp, hps⟩ := List.forall_mem_cons.1 hps
    rw [chars_cons]
    intro c hc
    cases htext : p.text.toList with
    | nil =>
      rw [htext, List.nil_append] at hc
      exact ih hps c hc
    | cons d rest =>
      rw [htext] at hc
      exact hp.breaks c (by rw [htext]; exact hc)

/-- **There are places for the values at least.** -/
lemma Piece.Sent.le_holes {p : Piece (Option String) β} (hp : p.Sent) {k : Nat}
    (hk : holes? p.text.toList = some k) : p.values.length ≤ k := by
  cases hauthor : p.author with
  | none =>
    rw [hp.places hauthor] at hk
    exact Nat.le_of_eq (Option.some.inj hk)
  | some name =>
    rw [(hp.named name hauthor).2]
    exact Nat.zero_le k

lemma length_le_holes (hps : ∀ p ∈ ps, p.Sent) {k : Nat} (hk : holes? (chars ps) = some k) :
    (ps.flatMap Piece.values).length ≤ k := by
  induction ps generalizing k with
  | nil => exact Nat.zero_le k
  | cons p ps ih =>
    obtain ⟨hp, hps⟩ := List.forall_mem_cons.1 hps
    rw [chars_cons, holes?_append fun _ => breaks_chars hps] at hk
    obtain ⟨i, j, hi, hj, rfl⟩ := hk
    have hfirst := hp.le_holes hi
    have hlater := ih hps hj
    rw [List.flatMap_cons, List.length_append]
    omega

/-- **A statement has the places of its values and no other** if and only if all its names have
doubled percent signs only. -/
theorem holes?_chars_iff (hps : ∀ p ∈ ps, p.Sent) :
    holes? (chars ps) = some (ps.flatMap Piece.values).length ↔
      ∀ name ∈ ps.filterMap Piece.author, Doubled name := by
  induction ps with
  | nil => simp [chars, holes?, places?, scan?]
  | cons p ps ih =>
    obtain ⟨hp, hps⟩ := List.forall_mem_cons.1 hps
    have hfirst : holes? p.text.toList = some p.values.length ↔
        ∀ name ∈ p.author.toList, Doubled name := by
      cases hauthor : p.author with
      | none => simp [hp.places hauthor]
      | some name =>
        obtain ⟨htext, hvalues⟩ := hp.named name hauthor
        rw [htext, hvalues, holes?_quote]
        simp [Doubled]
    have hnames : (∀ name ∈ (p :: ps).filterMap Piece.author, Doubled name) ↔
        (∀ name ∈ p.author.toList, Doubled name) ∧
          ∀ name ∈ ps.filterMap Piece.author, Doubled name := by
      cases hauthor : p.author <;> simp [hauthor]
    rw [hnames, ← hfirst, ← ih hps, chars_cons, holes?_append fun _ => breaks_chars hps,
      List.flatMap_cons, List.length_append]
    constructor
    · rintro ⟨i, j, hi, hj, hsum⟩
      -- no part has fewer places than values, so none can have more
      have hle := hp.le_holes hi
      have hle' := length_le_holes hps hj
      obtain rfl : i = p.values.length := by omega
      obtain rfl : j = (ps.flatMap Piece.values).length := by omega
      exact ⟨hi, hj⟩
    · rintro ⟨hi, hj⟩
      exact ⟨_, _, hi, hj, rfl⟩

lemma sent_append {qs : List (Piece (Option String) β)} (hps : ∀ p ∈ ps, p.Sent)
    (hqs : ∀ p ∈ qs, p.Sent) : ∀ p ∈ ps ++ qs, p.Sent := by
  intro p hp
  exact (List.mem_append.1 hp).elim (hps p) (hqs p)

section Listed

variable {γ : Type} {sep : String} {f : γ → List (Piece (Option String) β)}

lemma sent_listed (hsep : Starts sep) (hfree : Free sep) (l : List γ)
    (h : ∀ x ∈ l, ∀ p ∈ f x, p.Sent) : ∀ p ∈ listed sep (l.map f), p.Sent := by
  cases l with
  | nil => exact fun p hp => nomatch hp
  | cons x l =>
    obtain ⟨hx, hl⟩ := List.forall_mem_cons.1 h
    rw [List.map_cons, listed, List.flatMap_map]
    refine sent_append hx fun p hp => ?_
    obtain ⟨y, hy, hp⟩ := List.mem_flatMap.1 hp
    obtain rfl | hp := List.mem_cons.1 hp
    · exact sent_glue hsep hfree
    · exact hl y hy p hp

lemma author_listed (l : List γ) : (listed sep (l.map f)).filterMap Piece.author =
    l.flatMap fun x => (f x).filterMap Piece.author := by
  cases l with
  | nil => rfl
  | cons x l =>
    rw [List.map_cons, listed, List.flatMap_map, List.filterMap_append, List.filterMap_flatMap,
      List.flatMap_cons]
    rfl

lemma values_listed (l : List γ) : (listed sep (l.map f)).flatMap Piece.values =
    l.flatMap fun x => (f x).flatMap Piece.values := by
  cases l with
  | nil => rfl
  | cons x l =>
    rw [List.map_cons, listed, List.flatMap_map, List.flatMap_append, List.flatMap_assoc,
      List.flatMap_cons]
    rfl

end Listed

end Pieces

/-! ### The places of an insertion -/

/-- A piece of an insertion, with the columns whose values have their places in it. -/
abbrev Fragment := Piece (Option String) String

/-- The names of columns with commas between them. -/
def namePieces (names : List String) : List Fragment :=
  listed ", " (names.map fun name => [namedPiece name])

/-- The places for values. -/
def valuesPiece (columns : List String) : Fragment where
  author := none
  text :=
    if columns = [] then " DEFAULT VALUES"
    else ") VALUES (" ++ Conditions.placeholders columns.length ++ ")"
  values := columns

namespace Conflict

/-- The names in what is said about a row in conflict. -/
def names : Conflict → List String
  | fails => []
  | skips target => target.toList
  | writes target assignments => target :: assignments.flatMap fun p => [p.1, p.2]

/-- The column that a conflict is about, in pieces. -/
def targetPieces (target : String) : List Fragment :=
  [glue " ON CONFLICT (", namedPiece target, glue ") DO "]

/-- What is said about a row in conflict, in pieces. -/
def pieces : Conflict → List Fragment
  | fails => []
  | skips none => [glue " ON CONFLICT DO NOTHING"]
  | skips (some target) => targetPieces target ++ [glue "NOTHING"]
  | writes target assignments => targetPieces target ++ glue "UPDATE SET " ::
      listed ", " (assignments.map fun p => [namedPiece p.1, glue " = EXCLUDED.", namedPiece p.2])

end Conflict

namespace Insertion

variable (s : Insertion)

/-- The names in an insertion. -/
def names : List String := s.table :: s.columns ++ (s.conflict.names ++ s.returning.toList)

/-- What stands in front of the places. -/
def openPieces : List Fragment :=
  [glue "INSERT INTO ", namedPiece s.table] ++
    if s.columns = [] then [] else glue " (" :: namePieces s.columns

/-- What stands behind the places. -/
def restPieces : List Fragment :=
  s.conflict.pieces ++ match s.returning with
    | some name => [glue " RETURNING ", namedPiece name]
    | none => []

/-- **An insertion in pieces.** -/
def pieces : List Fragment := s.openPieces ++ valuesPiece s.columns :: s.restPieces

lemma chars_names (names : List String) :
    chars (namePieces names) = (", ".intercalate (names.map quote)).toList :=
  chars_listed ", " names fun _ => List.append_nil _

lemma chars_conflict (r : Conflict) : chars r.pieces = r.text.toList := by
  have htarget : ∀ target, chars (Conflict.targetPieces target) =
      (Conflict.targetText target).toList := by
    intro target
    simp [Conflict.targetPieces, Conflict.targetText, chars, glue, namedPiece]
  cases r with
  | fails => rfl
  | skips target =>
    cases target with
    | none => rfl
    | some target =>
      rw [Conflict.pieces, Conflict.text, chars_append, htarget, String.toList_append]
      rfl
  | writes target assignments =>
    have hrow : chars (listed ", " (assignments.map fun p =>
        ([namedPiece p.1, glue " = EXCLUDED.", namedPiece p.2] : List Fragment))) =
          (", ".intercalate (assignments.map assignmentText)).toList := by
      refine chars_listed ", " assignments fun p => ?_
      simp [assignmentText, chars, glue, namedPiece]
    rw [Conflict.pieces, Conflict.text, chars_append, htarget, chars_cons, hrow,
      String.toList_append, String.toList_append, List.append_assoc]
    rfl

/-- **The pieces have the text of the insertion.** -/
lemma chars_pieces : chars s.pieces = s.text.toList := by
  have hrest : chars s.restPieces =
      s.conflict.text.toList ++ (returningText s.returning).toList := by
    unfold restPieces
    rw [chars_append, chars_conflict]
    cases s.returning with
    | none => rfl
    | some name => simp [returningText, chars, glue, namedPiece]
  have hopen : chars s.openPieces ++ (valuesPiece s.columns).text.toList =
      ("INSERT INTO " ++ quote s.table ++ columnsText s.columns).toList := by
    unfold openPieces valuesPiece columnsText
    by_cases h : s.columns = []
    · rw [if_pos h, if_pos h, if_pos h]
      simp [chars, glue, namedPiece]
    · rw [if_neg h, if_neg h, if_neg h, chars_append, chars_cons (glue " ("), chars_names]
      simp [chars, glue, namedPiece]
  rw [pieces, chars_append, chars_cons, ← List.append_assoc, hopen, hrest]
  simp only [text, String.toList_append, List.append_assoc]

/-! ### What the pieces are -/

lemma sent_names (names : List String) : ∀ p ∈ namePieces names, p.Sent :=
  sent_listed (by decide) (by decide) names fun name _ p hp => by
    obtain rfl := List.mem_singleton.1 hp
    exact sent_named name

lemma sent_conflict (r : Conflict) : ∀ p ∈ r.pieces, p.Sent := by
  have hglue : ∀ {text : String}, Starts text → Free text →
      ∀ p ∈ [(glue text : Fragment)], p.Sent := by
    intro text hstarts hfree p hp
    obtain rfl := List.mem_singleton.1 hp
    exact sent_glue hstarts hfree
  have htarget : ∀ target, ∀ p ∈ Conflict.targetPieces target, p.Sent := by
    intro target p hp
    simp only [Conflict.targetPieces, List.mem_cons, List.not_mem_nil, or_false] at hp
    obtain rfl | rfl | rfl := hp
    · exact sent_glue (by decide) (by decide)
    · exact sent_named target
    · exact sent_glue (by decide) (by decide)
  cases r with
  | fails => exact fun p hp => nomatch hp
  | skips target =>
    cases target with
    | none => exact hglue (by decide) (by decide)
    | some target => exact sent_append (htarget target) (hglue (by decide) (by decide))
  | writes target assignments =>
    refine sent_append (htarget target) fun p hp => ?_
    obtain rfl | hp := List.mem_cons.1 hp
    · exact sent_glue (by decide) (by decide)
    · refine sent_listed (by decide) (by decide) assignments (fun q _ p hp => ?_) p hp
      simp only [List.mem_cons, List.not_mem_nil, or_false] at hp
      obtain rfl | rfl | rfl := hp
      · exact sent_named q.1
      · exact sent_glue (by decide) (by decide)
      · exact sent_named q.2

lemma sent_open : ∀ p ∈ s.openPieces, p.Sent := by
  refine sent_append (fun p hp => ?_) ?_
  · simp only [List.mem_cons, List.not_mem_nil, or_false] at hp
    obtain rfl | rfl := hp
    · exact sent_glue (by decide) (by decide)
    · exact sent_named s.table
  · split
    · exact fun p hp => nomatch hp
    · intro p hp
      obtain rfl | hp := List.mem_cons.1 hp
      · exact sent_glue (by decide) (by decide)
      · exact sent_names s.columns p hp

lemma sent_rest : ∀ p ∈ s.restPieces, p.Sent := by
  refine sent_append (sent_conflict s.conflict) ?_
  cases s.returning with
  | none => exact fun p hp => nomatch hp
  | some name =>
    intro p hp
    simp only [List.mem_cons, List.not_mem_nil, or_false] at hp
    obtain rfl | rfl := hp
    · exact sent_glue (by decide) (by decide)
    · exact sent_named name

/-- The places of so many values with commas between them. -/
def rowPlaces (n : Nat) : List (Option Char) :=
  (", ".toList.map some).intercalate (List.replicate n [none])

/-- **The places for values**, as the driver takes them. -/
def valuesPlaces (n : Nat) : List (Option Char) :=
  if n = 0 then " DEFAULT VALUES".toList.map some
  else ") VALUES (".toList.map some ++ (rowPlaces n ++ ")".toList.map some)

lemma places?_placeholders (n : Nat) :
    places? (Conditions.placeholders n).toList = some (rowPlaces n) := by
  have hmark : places? Conditions.placeholder.toList = some [none] := rfl
  have hmore : ∀ k : Nat, places? ((List.replicate k Conditions.placeholder).flatMap fun s =>
      ", ".toList ++ s.toList) =
        some ((List.replicate k [none]).flatMap (", ".toList.map some ++ ·)) := by
    intro k
    induction k with
    | zero => rfl
    | succ k ih =>
      have hfirst : places? (", ".toList ++ Conditions.placeholder.toList) =
          some (", ".toList.map some ++ [none]) := rfl
      rw [List.replicate_succ, List.replicate_succ, List.flatMap_cons, List.flatMap_cons]
      exact places?_append_of_some hfirst ih
  unfold Conditions.placeholders rowPlaces
  rw [String.toList_intercalate]
  cases n with
  | zero => rfl
  | succ k =>
    rw [List.replicate_succ, List.replicate_succ, List.map_cons, Text.intercalate_cons,
      Text.intercalate_cons, List.flatMap_map]
    exact places?_append_of_some hmark (hmore k)

lemma places?_values (columns : List String) :
    places? (valuesPiece columns).text.toList = some (valuesPlaces columns.length) := by
  unfold valuesPiece valuesPlaces
  by_cases h : columns = []
  · subst h
    exact places?_of_free (by decide)
  · have hne : columns.length ≠ 0 := mt List.length_eq_zero_iff.1 h
    have hopen : places? ") VALUES (".toList = some (") VALUES (".toList.map some) :=
      places?_of_free (by decide)
    have hclose : places? ")".toList = some (")".toList.map some) := places?_of_free (by decide)
    rw [if_neg hne]
    dsimp only
    rw [if_neg h, String.toList_append, String.toList_append, List.append_assoc]
    exact places?_append_of_some hopen
      (places?_append_of_some (places?_placeholders columns.length) hclose)

lemma count_map_some (t : List Char) : (t.map some).count none = 0 :=
  List.count_eq_zero.2 (by simp)

/-- **There are as many places as values.** -/
lemma count_valuesPlaces (n : Nat) : (valuesPlaces n).count none = n := by
  have hmore : ∀ k : Nat, ((List.replicate k [none]).flatMap
      (", ".toList.map some ++ ·)).count none = k := by
    intro k
    induction k with
    | zero => rfl
    | succ k ih =>
      rw [List.replicate_succ, List.flatMap_cons, List.count_append, List.count_append,
        count_map_some, ih]
      simp [Nat.add_comm]
  unfold valuesPlaces rowPlaces
  cases n with
  | zero => rfl
  | succ k =>
    rw [if_neg (Nat.succ_ne_zero k), List.replicate_succ, Text.intercalate_cons,
      List.count_append, List.count_append, List.count_append, hmore, count_map_some,
      count_map_some]
    simp [Nat.add_comm]

lemma sent_values (columns : List String) : (valuesPiece columns).Sent where
  breaks := by
    unfold valuesPiece
    dsimp only
    intro c hc
    split at hc
    · obtain rfl := Option.some.inj hc
      decide
    · rw [String.toList_append, String.toList_append] at hc
      obtain rfl := Option.some.inj hc
      decide
  named name hname := nomatch hname
  places _ := by
    rw [holes?, places?_values, Option.map_some, count_valuesPlaces]
    rfl

lemma sent_pieces : ∀ p ∈ s.pieces, p.Sent := by
  refine sent_append s.sent_open fun p hp => ?_
  obtain rfl | hp := List.mem_cons.1 hp
  · exact sent_values s.columns
  · exact s.sent_rest p hp

lemma author_names (names : List String) : (namePieces names).filterMap Piece.author = names := by
  rw [namePieces, author_listed]
  exact List.flatMap_singleton' names

lemma author_open : s.openPieces.filterMap Piece.author = s.table :: s.columns := by
  unfold openPieces
  by_cases h : s.columns = []
  · rw [if_pos h, h]
    rfl
  · have hmore : (glue " (" :: namePieces s.columns).filterMap Piece.author = s.columns :=
      author_names s.columns
    rw [if_neg h, List.filterMap_append, hmore]
    rfl

lemma author_rest : s.restPieces.filterMap Piece.author =
    s.conflict.names ++ s.returning.toList := by
  have hconflict : s.conflict.pieces.filterMap Piece.author = s.conflict.names := by
    cases s.conflict with
    | fails => rfl
    | skips target => cases target <;> rfl
    | writes target assignments =>
      rw [Conflict.pieces, List.filterMap_append, List.filterMap_cons_none rfl, author_listed]
      rfl
  unfold restPieces
  rw [List.filterMap_append, hconflict]
  cases s.returning <;> rfl

lemma author_pieces : s.pieces.filterMap Piece.author = s.names := by
  rw [pieces, List.filterMap_append, author_open, List.filterMap_cons_none rfl, author_rest]
  rfl

lemma values_names (names : List String) : (namePieces names).flatMap Piece.values = [] := by
  rw [namePieces, values_listed]
  exact List.flatMap_eq_nil_iff.2 fun _ _ => rfl

lemma values_open : s.openPieces.flatMap Piece.values = [] := by
  unfold openPieces
  by_cases h : s.columns = []
  · rw [if_pos h]
    rfl
  · have hmore : (glue " (" :: namePieces s.columns).flatMap Piece.values = [] :=
      values_names s.columns
    rw [if_neg h, List.flatMap_append, hmore]
    rfl

lemma values_rest : s.restPieces.flatMap Piece.values = [] := by
  have hconflict : s.conflict.pieces.flatMap Piece.values = [] := by
    cases s.conflict with
    | fails => rfl
    | skips target => cases target <;> rfl
    | writes target assignments =>
      rw [Conflict.pieces, List.flatMap_append, List.flatMap_cons, values_listed]
      exact List.flatMap_eq_nil_iff.2 fun _ _ => rfl
  unfold restPieces
  rw [List.flatMap_append, hconflict]
  cases s.returning <;> rfl

lemma values_pieces : s.pieces.flatMap Piece.values = s.columns := by
  rw [pieces, List.flatMap_append, values_open, List.flatMap_cons, values_rest, List.append_nil]
  rfl

/-- **The places of an insertion** are those for its values and no other, if and only if its names
have doubled percent signs only. -/
theorem holes?_text_iff :
    holes? s.text.toList = some s.columns.length ↔ ∀ name ∈ s.names, Doubled name := by
  have hiff := holes?_chars_iff s.sent_pieces
  rwa [s.chars_pieces, s.values_pieces, s.author_pieces] at hiff

/-- **The places of an insertion stand in a row**, as many as there are columns, and there is no
other place in front of them or behind them. -/
theorem places?_text (hs : ∀ name ∈ s.names, Doubled name) : ∃ front back : List Char,
    places? s.text.toList =
      some (front.map some ++ (valuesPlaces s.columns.length ++ back.map some)) := by
  -- neither what stands in front of the places nor what stands behind them has a place
  have hopen : holes? (chars s.openPieces) = some 0 := by
    have hiff := holes?_chars_iff s.sent_open
    rw [values_open, author_open] at hiff
    exact hiff.2 fun name hname => hs name (List.mem_append_left _ hname)
  have hrest : holes? (chars s.restPieces) = some 0 := by
    have hiff := holes?_chars_iff s.sent_rest
    rw [values_rest, author_rest] at hiff
    exact hiff.2 fun name hname => hs name (List.mem_append_right _ hname)
  obtain ⟨front, hfront⟩ := holes?_eq_zero_iff.1 hopen
  obtain ⟨back, hback⟩ := holes?_eq_zero_iff.1 hrest
  refine ⟨front, back, ?_⟩
  rw [← chars_pieces, pieces, chars_append, chars_cons]
  exact places?_append_of_some hfront
    (places?_append_of_some (places?_values s.columns) hback)

end Insertion

/-- **The names in a prepared insertion** are those of the table, of the columns that are written,
and of the key. -/
lemma Inserter.mem_names_said (i : Inserter) {name : String} : name ∈ i.said.names ↔
    name = i.table.name ∨ name ∈ i.columns.map Column.columnName ∨
      name ∈ (i.table.primaryKey?.map Column.columnName).toList := by
  have hconflict : ∀ name ∈ (conflictOf i.table i.policy i.columns).names,
      name ∈ i.columns.map Column.columnName ∨
        name ∈ (i.table.primaryKey?.map Column.columnName).toList := by
    intro name hname
    unfold conflictOf at hname
    split at hname
    · cases hname
    · rename_i key hpolicy hkey
      rw [hkey]
      have hall : name = key.columnName ∨ ∃ c ∈ overwritten key i.columns, name = c.columnName := by
        unfold Conflict.assigning replacements at hname
        split at hname
        · exact Or.inl (List.mem_singleton.1 hname)
        · rw [Conflict.names, List.flatMap_map] at hname
          obtain rfl | hname := List.mem_cons.1 hname
          · exact Or.inl rfl
          · obtain ⟨c, hc, hname⟩ := List.mem_flatMap.1 hname
            exact Or.inr ⟨c, hc, by simpa using hname⟩
      obtain rfl | ⟨c, hc, rfl⟩ := hall
      · exact Or.inr (by simp)
      · exact Or.inl (List.mem_map_of_mem (List.mem_filter.1 hc).1)
    · cases hname
  have hnames : i.said.names = i.table.name :: i.columns.map Column.columnName ++
      ((conflictOf i.table i.policy i.columns).names ++
        (i.table.primaryKey?.map Column.columnName).toList) := rfl
  rw [hnames, List.mem_append, List.mem_append, List.mem_cons, or_assoc]
  constructor
  · rintro (h | h | h | h)
    · exact Or.inl h
    · exact Or.inr (Or.inl h)
    · exact Or.inr (hconflict name h)
    · exact Or.inr (Or.inr h)
  · rintro (h | h | h)
    · exact Or.inl h
    · exact Or.inr (Or.inl h)
    · exact Or.inr (Or.inr (Or.inr h))

end PgSchema.Query
