import Mathlib.Data.List.Infix
import Mathlib.Tactic.IntervalCases
import Mathlib.Tactic.Lemma
import PgSchema.Text.Literal
import PgSchema.Text.Lowercase
import PgSchema.Text.Normal.Form
import PgSchema.Text.Uppercase
import PgSchema.Text.Words

/-!
Texts that begin with others, and texts that have others in them; numbers in hexadecimal digits;
normal forms; and names in snake case and in capitals.

What is written as hexadecimal digits is read back from them (`foldl_hexDigits`), and no digit is a
mark, a backslash or the end of a line.  In the normal form of a name that ends with basic
characters they stay as they are, and the form of what stands before them is the same without them
(`form_append`).

Of basic characters a name in snake case has only those that are no capitals
(`isSmall_of_mem_snake`), and such names are told apart in capitals as well (`upper_inj`).  Beyond
the basic characters neither holds: a sharp s is two letters in capitals.
-/

namespace PgSchema.Text

lemma begins_iff {start whole : String} :
    begins start whole = true ↔ start.toList <+: whole.toList :=
  List.isPrefixOf_iff_prefix

lemma begins_append (start rest : String) : begins start (start ++ rest) = true := by
  rw [begins_iff, String.toList_append]
  exact List.prefix_append _ _

lemma begins_append_of_begins {start whole : String} (h : begins start whole = true)
    (rest : String) : begins start (whole ++ rest) = true := by
  rw [begins_iff] at h ⊢
  rw [String.toList_append]
  exact h.trans (List.prefix_append _ _)

/-- A text that starts with another character does not begin with a text. -/
lemma not_begins {start whole : String} {c d : Char} (hs : start.toList.head? = some c)
    (hw : whole.toList.head? = some d) (h : c ≠ d) : begins start whole = false := by
  obtain ⟨cs, hcs⟩ := List.head?_eq_some_iff.1 hs
  obtain ⟨ds, hds⟩ := List.head?_eq_some_iff.1 hw
  rw [begins, hcs, hds]
  simp [List.isPrefixOf, h]

lemma occursIn_iff {part whole : List Char} : occursIn part whole = true ↔ part <:+: whole := by
  induction whole with
  | nil => simp [occursIn]
  | cons c whole ih => simp [occursIn, ih, List.infix_cons_iff]

lemma occurs_iff {part whole : String} : occurs part whole = true ↔ part.toList <:+: whole.toList :=
  occursIn_iff

/-! ### Hexadecimal digits -/

/-- A number behind one more digit. -/
def hexStep (n : Nat) (c : Char) : Nat := 16 * n + (hexValue? c).getD 0

/-- A character that means nothing to a reader of literals. -/
def IsInner (c : Char) : Prop := c ∉ ['\\', singleMark, doubleMark, '\n']

lemma hexValue?_digitChar {d : Nat} (hd : d < 16) : hexValue? (Nat.digitChar d) = some d := by
  interval_cases d <;> rfl

lemma isInner_digitChar {d : Nat} (hd : d < 16) : IsInner (Nat.digitChar d) := by
  unfold IsInner
  interval_cases d <;> decide

lemma length_hexDigits (width n : Nat) : (hexDigits width n).length = width := by
  induction width generalizing n with
  | zero => rfl
  | succ width ih => rw [hexDigits, List.length_append, ih, List.length_singleton]

lemma mem_hexDigits {width n : Nat} {c : Char} (h : c ∈ hexDigits width n) :
    ∃ d, d < 16 ∧ c = Nat.digitChar d := by
  induction width generalizing n with
  | zero => cases h
  | succ width ih =>
    rw [hexDigits, List.mem_append, List.mem_singleton] at h
    rcases h with h | rfl
    · exact ih h
    · exact ⟨n % 16, Nat.mod_lt n (by decide), rfl⟩

lemma isInner_of_mem_hexDigits {width n : Nat} {c : Char} (h : c ∈ hexDigits width n) :
    IsInner c := by
  obtain ⟨d, hd, rfl⟩ := mem_hexDigits h
  exact isInner_digitChar hd

lemma isSome_of_mem_hexDigits {width n : Nat} {c : Char} (h : c ∈ hexDigits width n) :
    (hexValue? c).isSome = true := by
  obtain ⟨d, hd, rfl⟩ := mem_hexDigits h
  rw [hexValue?_digitChar hd]
  rfl

/-- **Digits are read back**: their value is the number, as far as there are digits for it. -/
lemma foldl_hexDigits (width n m : Nat) :
    (hexDigits width n).foldl hexStep m = 16 ^ width * m + n % 16 ^ width := by
  induction width generalizing n with
  | zero => simp [hexDigits, Nat.mod_one]
  | succ width ih =>
    rw [hexDigits, List.foldl_append, ih, List.foldl_cons, List.foldl_nil, hexStep,
      hexValue?_digitChar (Nat.mod_lt n (by decide)), Option.getD_some, Nat.pow_succ',
      Nat.mod_mul, Nat.mul_add, ← Nat.mul_assoc]
    omega

/-- The value of a number's digits, if there are enough of them. -/
lemma foldl_hexDigits_of_lt {width n : Nat} (h : n < 16 ^ width) :
    (hexDigits width n).foldl hexStep 0 = n := by
  rw [foldl_hexDigits, Nat.mul_zero, Nat.zero_add, Nat.mod_eq_of_lt h]

end PgSchema.Text

/-! ### Normal forms -/

namespace PgSchema.Text.Normal

/-- The codes are those of basic characters. -/
def AreBasic (codes : List Nat) : Prop := ∀ code ∈ codes, code < basicCount

section Codes

variable {codes : List Nat} {code : Nat}

lemma weight_of_basic (h : code < basicCount) : weight code = 0 :=
  if_pos (Nat.lt_trans h (by decide))

lemma composed?_of_basic (h : code < basicCount) (letter : Nat) : composed? letter code = none :=
  if_pos (Nat.lt_trans h (by decide))

lemma place_of_basic (h : code < basicCount) (done : List Nat) : place code done = code :: done := by
  cases done with
  | nil => rfl
  | cons c cs => rw [place, if_neg fun hweight => hweight.1 (weight_of_basic h)]

lemma flatMap_spelled (h : AreBasic codes) : codes.flatMap spelled = codes := by
  induction codes with
  | nil => rfl
  | cons code codes ih =>
    obtain ⟨hcode, hcodes⟩ := List.forall_mem_cons.1 h
    rw [List.flatMap_cons, ih hcodes, spelled, if_pos hcode]
    rfl

/-- Basic characters are no marks, and stay behind what they stand behind. -/
lemma ordered_append (h : AreBasic codes) (front : List Nat) :
    ordered (front ++ codes) = ordered front ++ codes := by
  have hfold : ∀ done : List Nat,
      codes.foldl (fun done c => place c done) done = codes.reverse ++ done := by
    induction codes with
    | nil => exact fun _ => rfl
    | cons code codes ih =>
      obtain ⟨hcode, hcodes⟩ := List.forall_mem_cons.1 h
      intro done
      rw [List.foldl_cons, place_of_basic hcode, ih hcodes, List.reverse_cons, List.append_assoc]
      rfl
  rw [ordered, ordered, List.foldl_append, hfold, List.reverse_append, List.reverse_reverse]

/-- Basic characters are not composed with anything before them. -/
lemma compose_basic (h : AreBasic codes) (letter : Nat) (marks : List Nat) :
    compose letter marks codes = letter :: marks.reverse ++ codes := by
  induction codes generalizing letter marks with
  | nil => rw [compose, List.append_nil]
  | cons code codes ih =>
    obtain ⟨hcode, hcodes⟩ := List.forall_mem_cons.1 h
    simp only [compose, composed?_of_basic hcode, weight_of_basic hcode, ite_self, if_true,
      ih hcodes, List.reverse_nil]
    rfl

/-- Either a character is composed with the letter before it, or it stays; what comes behind it does
not matter for that. -/
lemma compose_cons (letter c : Nat) (marks : List Nat) :
    (∃ whole, ∀ cs, compose letter marks (c :: cs) = compose whole marks cs) ∨
      ∀ cs, compose letter marks (c :: cs) =
        if weight c = 0 then letter :: marks.reverse ++ compose c [] cs
        else compose letter (c :: marks) cs := by
  cases marks with
  | nil =>
    cases hwhole : composed? letter c with
    | some whole => exact .inl ⟨whole, fun cs => by simp [compose, hwhole]⟩
    | none => exact .inr fun cs => by simp [compose, hwhole]
  | cons m marks =>
    by_cases hblocked : (weight m = 0 || weight m ≥ weight c) = true
    · exact .inr fun cs => by simp only [compose, hblocked, if_true]
    · cases hwhole : composed? letter c with
      | some whole =>
        exact .inl ⟨whole, fun cs => by simp only [compose, hblocked, hwhole]; rfl⟩
      | none => exact .inr fun cs => by simp only [compose, hblocked, hwhole]; rfl

lemma compose_append (h : AreBasic codes) (letter : Nat) (marks front : List Nat) :
    compose letter marks (front ++ codes) = compose letter marks front ++ codes := by
  induction front generalizing letter marks with
  | nil => rw [List.nil_append, compose_basic h, compose]
  | cons c front ih =>
    rw [List.cons_append]
    obtain ⟨whole, hstep⟩ | hstep := compose_cons letter c marks
    · rw [hstep, hstep, ih]
    · rw [hstep, hstep]
      split_ifs
      · rw [ih, List.append_assoc]
      · exact ih _ _

end Codes

/-- **Basic characters at the end** of a name stay as they are. -/
lemma form_append (s : String) {t : String} (h : ∀ c ∈ t.toList, c.toNat < basicCount) :
    form (s ++ t) = form s ++ t := by
  have hbasic : AreBasic (t.toList.map Char.toNat) := by
    intro code hcode
    obtain ⟨c, hc, rfl⟩ := List.mem_map.1 hcode
    exact h c hc
  have hchars : (t.toList.map Char.toNat).map Char.ofNat = t.toList := by
    rw [List.map_map]
    exact (List.map_congr_left fun c _ => Char.ofNat_toNat c).trans (List.map_id _)
  have hcodes : ∀ u : String, u.toList.flatMap (fun c => spelled c.toNat) =
      (u.toList.map Char.toNat).flatMap spelled := by
    intro u
    rw [List.flatMap_map]
  have hall : t.toList.all (fun c => c.toNat < basicCount) = true := by simpa using h
  unfold form
  rw [String.toList_append, List.all_append, hall, Bool.and_true, List.flatMap_append, hcodes t,
    flatMap_spelled hbasic, ordered_append hbasic]
  split
  · rfl
  · cases hfront : ordered (s.toList.flatMap fun c => spelled c.toNat) with
    | nil =>
      rw [List.nil_append]
      cases ht : t.toList.map Char.toNat with
      | nil =>
        have hempty : t = "" := String.toList_eq_nil_iff.1 (List.map_eq_nil_iff.1 ht)
        rw [hempty]
        rfl
      | cons c cs =>
        rw [ht] at hbasic hchars
        dsimp only
        rw [compose_basic fun code hcode => hbasic code (List.mem_cons_of_mem _ hcode),
          List.reverse_nil, List.singleton_append, hchars, String.ofList_toList, String.empty_append]
    | cons c cs =>
      dsimp only [List.cons_append]
      rw [compose_append hbasic, List.map_append, hchars, String.ofList_append,
        String.ofList_toList]

end PgSchema.Text.Normal

namespace PgSchema.Text

open Text.Normal (basicCount)

/-! ### Letters -/

/-- A basic character that is no capital. -/
def IsSmall (c : Char) : Prop := c.toNat < basicCount ∧ c.toLower = c

lemma toNat_toLower (c : Char) :
    c.toLower.toNat = if 65 ≤ c.toNat ∧ c.toNat ≤ 90 then c.toNat + 32 else c.toNat := by
  have hiff : (c.val ≥ 'A'.val ∧ c.val ≤ 'Z'.val) ↔ 65 ≤ c.toNat ∧ c.toNat ≤ 90 := Iff.rfl
  unfold Char.toLower
  split_ifs with hcapital hrange hrange
  · have hle := hrange.2
    have hshift : ('a'.val - 'A'.val).toNat = 32 := by decide
    rw [Char.toNat] at hle
    show (c.val + ('a'.val - 'A'.val)).toNat = c.val.toNat + 32
    rw [UInt32.toNat_add, hshift]
    omega
  · exact absurd (hiff.1 hcapital) hrange
  · exact absurd (hiff.2 hrange) hcapital
  · rfl

lemma toNat_toUpper (c : Char) :
    c.toUpper.toNat = if 97 ≤ c.toNat ∧ c.toNat ≤ 122 then c.toNat - 32 else c.toNat := by
  have hiff : ('a'.val ≤ c.val ∧ c.val ≤ 'z'.val) ↔ 97 ≤ c.toNat ∧ c.toNat ≤ 122 := Iff.rfl
  -- the difference of the codes is negative, and wraps around
  have hshift : ('A'.val - 'a'.val).toNat = 2 ^ 32 - 32 := by decide
  unfold Char.toUpper
  split_ifs with hsmall hrange hrange
  · obtain ⟨hle, hge⟩ := hrange
    rw [Char.toNat] at hle hge
    show (c.val + ('A'.val - 'a'.val)).toNat = c.val.toNat - 32
    rw [UInt32.toNat_add, hshift]
    omega
  · exact absurd (hiff.1 hsmall) hrange
  · exact absurd (hiff.2 hrange) hsmall
  · rfl

lemma isSmall_toLower {c : Char} (h : c.toNat < basicCount) : IsSmall c.toLower := by
  unfold basicCount at h
  constructor
  · rw [toNat_toLower, basicCount]
    split_ifs <;> omega
  · refine Char.toNat_inj.1 ?_
    rw [toNat_toLower, toNat_toLower]
    split_ifs <;> omega

namespace IsSmall

variable {c : Char}

lemma toUpper_lt (h : IsSmall c) : c.toUpper.toNat < basicCount := by
  obtain ⟨hlt, -⟩ := h
  rw [toNat_toUpper]
  split_ifs <;> omega

lemma toLower_toUpper (h : IsSmall c) : c.toUpper.toLower = c := by
  have hcode := congrArg Char.toNat h.2
  rw [toNat_toLower] at hcode
  refine Char.toNat_inj.1 ?_
  rw [toNat_toLower, toNat_toUpper]
  split_ifs at * <;> omega

end IsSmall

/-! ### Names -/

/-- Basic characters are made small one by one. -/
lemma lowerFrom_of_basic {cs : List Char} (h : ∀ c ∈ cs, c.toNat < basicCount)
    (before : List Char) : lowerFrom before cs = cs.map Char.toLower := by
  induction cs generalizing before with
  | nil => rfl
  | cons c cs ih =>
    obtain ⟨hc, hcs⟩ := List.forall_mem_cons.1 h
    have hne : c ≠ 'Σ' := by
      rintro rfl
      exact absurd hc (by decide)
    have hchar : lowerChar c = [c.toLower] := if_pos hc
    rw [lowerFrom, lowerAt, if_neg hne, hchar, ih hcs, List.map_cons, List.singleton_append]

/-- **Snake case has no capitals**, as far as a name has basic characters only. -/
lemma isSmall_of_mem_snake {name : String} (h : ∀ c ∈ name.toList, c.toNat < basicCount) :
    ∀ c ∈ (snake name).toList, IsSmall c := by
  have hmarked : ∀ cs : List Char, (∀ c ∈ cs, c.toNat < basicCount) →
      ∀ c ∈ markWords cs, c.toNat < basicCount := by
    intro cs hcs c hc
    obtain ⟨d, hd, hc⟩ := List.mem_flatMap.1 hc
    split_ifs at hc
    · rcases List.mem_pair.1 hc with rfl | rfl
      · decide
      · exact hcs _ hd
    · rw [List.mem_singleton.1 hc]
      exact hcs d hd
  unfold snake
  cases hname : name.toList with
  | nil => exact fun c hc => absurd hc List.not_mem_nil
  | cons first rest =>
    rw [hname] at h
    obtain ⟨hfirst, hrest⟩ := List.forall_mem_cons.1 h
    have hall : ∀ c ∈ first :: markWords rest, c.toNat < basicCount :=
      List.forall_mem_cons.2 ⟨hfirst, hmarked rest hrest⟩
    intro c hc
    change c ∈ (lower (String.ofList (first :: markWords rest))).toList at hc
    rw [lower, String.toList_ofList, String.toList_ofList, lowerFrom_of_basic hall] at hc
    obtain ⟨d, hd, rfl⟩ := List.mem_map.1 hc
    exact isSmall_toLower (hall d hd)

lemma toList_upper {s : String} (h : ∀ c ∈ s.toList, IsSmall c) :
    (upper s).toList = s.toList.map Char.toUpper := by
  rw [upper, String.toList_ofList]
  have hchar : ∀ c ∈ s.toList, upperChar c = [c.toUpper] := fun c hc => if_pos (h c hc).1
  rw [List.flatMap_congr hchar, List.map_eq_flatMap]

/-- **Names without capitals are told apart in capitals.** -/
lemma upper_inj {s t : String} (hs : ∀ c ∈ s.toList, IsSmall c) (ht : ∀ c ∈ t.toList, IsSmall c)
    (h : upper s = upper t) : s = t := by
  have hback : ∀ {u : String}, (∀ c ∈ u.toList, IsSmall c) →
      (upper u).toList.map Char.toLower = u.toList := by
    intro u hu
    rw [toList_upper hu, List.map_map]
    exact (List.map_congr_left fun c hc => (hu c hc).toLower_toUpper).trans (List.map_id _)
  exact String.toList_inj.1 (by rw [← hback hs, ← hback ht, h])

namespace Normal

/-- Basic characters are in normal form. -/
lemma form_of_basic {s : String} (h : ∀ c ∈ s.toList, c.toNat < basicCount) : form s = s := by
  rw [form, if_pos]
  simpa using h

end Normal

end PgSchema.Text
