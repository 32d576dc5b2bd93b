import PgSchema.Proofs.Entries
import PgSchema.Proofs.Json.Numbers
import PgSchema.Proofs.Text.Basic

/-!
JSON texts read back.

Every character of a text is found again, however it is written (`Writes.textFrom_eq`), and so is
every value in whose objects no field is named twice and whose numbers are finite, if the reader has
room for its digits and its depth (`read_compact`, `read_ascii`).
-/

namespace PgSchema.Json

open Number (Decimal Double)
open Text (hexDigits hexStep)

/-! ### Texts -/

lemma hexNumber_of_digits {cs : List Char} (h : ∀ c ∈ cs, (Text.hexValue? c).isSome = true)
    (offset n : Nat) : hexNumber cs offset n = .ok (cs.foldl hexStep n) := by
  induction cs generalizing offset n with
  | nil => rfl
  | cons c cs ih =>
    obtain ⟨hc, hcs⟩ := List.forall_mem_cons.1 h
    obtain ⟨d, hd⟩ := Option.isSome_iff_exists.1 hc
    rw [hexNumber, hd, List.foldl_cons, hexStep, hd]
    exact ih hcs _ _

/-- The code of an escape is read back. -/
lemma hexNumber_hexDigits {width n : Nat} (h : n < 16 ^ width) (offset : Nat) :
    hexNumber (hexDigits width n) offset 0 = .ok n := by
  rw [hexNumber_of_digits fun _ => Text.isSome_of_mem_hexDigits, Text.foldl_hexDigits_of_lt h]

/-- The short escape of a character stands for it, and is no code. -/
lemma unescape?_of_shortEscape? {c e : Char} (h : shortEscape? c = some e) :
    unescape? e = some c ∧ e ≠ 'u' := by
  unfold shortEscape? at h
  split_ifs at h with h1 h2 h3 h4 h5 h6
  · cases h
    rcases h1 with rfl | rfl <;> decide
  all_goals
    cases h
    subst c
    decide

/-- **A character as it can be written** in a text: by its short escape, as it is, by its code, or
by the codes of a pair. -/
inductive Writes : List Char → Char → Prop
  | short {c e : Char} (h : shortEscape? c = some e) : Writes ['\\', e] c
  | plain {c : Char} (hshort : shortEscape? c = none) (hcontrol : ¬ c.toNat < 0x20) : Writes [c] c
  | code {code : Nat} (hcode : code < 0x10000) (hhalf : code < 0xd800 ∨ 0xdfff < code) :
    Writes (codeEscape code) (Char.ofNat code)
  | pair {high low : Nat} (hhigh : 0xd800 ≤ high ∧ high ≤ 0xdbff)
    (hlow : 0xdc00 ≤ low ∧ low ≤ 0xdfff) :
    Writes (codeEscape high ++ codeEscape low)
      (Char.ofNat (0x10000 + (high - 0xd800) * 0x400 + (low - 0xdc00)))

namespace Writes

/-- **A character of a text is found again**, however it is written. -/
lemma textFrom_eq {cs : List Char} {c : Char} (h : Writes cs c) (done rest : List Char)
    (offset : Nat) : ∃ next, textFrom done (cs ++ rest) offset = textFrom (c :: done) rest next := by
  cases h with
  | short h =>
    refine ⟨offset + 2, ?_⟩
    obtain ⟨hback, hu⟩ := unescape?_of_shortEscape? h
    rw [List.cons_append, List.singleton_append, textFrom, hback]
    · exact fun _ _ _ _ _ h => (hu h).elim
    · exact fun h => (hu h).elim
  | plain hshort hcontrol =>
    refine ⟨offset + c.utf8Size, ?_⟩
    have hplain : c ≠ '\x22' ∧ c ≠ '\\' := by
      constructor <;> rintro rfl <;> cases hshort
    rw [List.singleton_append, textFrom]
    · simp [hplain.2, hcontrol]
    · exact hplain.1
    · exact fun _ _ _ _ _ h => (hplain.2 h).elim
    · exact fun _ h => (hplain.2 h).elim
    · exact fun _ _ h => (hplain.2 h).elim
  | @code code hcode hhalf =>
    refine ⟨offset + 6, ?_⟩
    have hread : hexNumber (hexDigits 4 code) (offset + 2) 0 = .ok code :=
      hexNumber_hexDigits hcode _
    have hlow : ¬ (0xdc00 ≤ code ∧ code ≤ 0xdfff) := by omega
    have hhigh : ¬ (0xd800 ≤ code ∧ code ≤ 0xdbff) := by omega
    simp only [codeEscape, hexDigits, List.nil_append, List.cons_append] at hread ⊢
    rw [textFrom, hread]
    simp only [if_neg hlow, if_neg hhigh]
  | @pair high low hhigh hlow =>
    refine ⟨offset + 12, ?_⟩
    have hfirst : hexNumber (hexDigits 4 high) (offset + 2) 0 = .ok high :=
      hexNumber_hexDigits (show high < 0x10000 by omega) _
    have hsecond : hexNumber (hexDigits 4 low) (offset + 8) 0 = .ok low :=
      hexNumber_hexDigits (show low < 0x10000 by omega) _
    have hnot : ¬ (0xdc00 ≤ high ∧ high ≤ 0xdfff) := by omega
    simp only [codeEscape, hexDigits, List.nil_append, List.cons_append] at hfirst hsecond ⊢
    rw [textFrom, hfirst]
    simp only [if_neg hnot, if_pos hhigh, hsecond, if_pos hlow]

lemma compactChar (c : Char) : Writes (Json.compactChar c) c := by
  unfold Json.compactChar
  split
  case h_1 e he => exact .short he
  case h_2 hnone =>
    split_ifs with hcontrol
    · have hcode : Writes (codeEscape c.toNat) (Char.ofNat c.toNat) :=
        .code (Nat.lt_trans hcontrol (by decide : 0x20 < 0x10000)) (.inl (by omega))
      rwa [Char.ofNat_toNat] at hcode
    · exact .plain hnone hcontrol

lemma asciiChar (c : Char) : Writes (Json.asciiChar c) c := by
  have hvalid : c.toNat < 0xd800 ∨ 0xdfff < c.toNat ∧ c.toNat < 0x110000 := c.valid
  unfold Json.asciiChar
  split
  case h_1 e he => exact .short he
  case h_2 hnone =>
    split_ifs with hprintable hcode
    · exact .plain hnone (by omega)
    · have hread : Writes (codeEscape c.toNat) (Char.ofNat c.toNat) := .code hcode (by omega)
      rwa [Char.ofNat_toNat] at hread
    · have hread := pair
        (show 0xd800 ≤ 0xd800 + (c.toNat - 0x10000) / 0x400 ∧ _ by omega)
        (show 0xdc00 ≤ 0xdc00 + (c.toNat - 0x10000) % 0x400 ∧ _ by omega)
      have hback : 0x10000 + (0xd800 + (c.toNat - 0x10000) / 0x400 - 0xd800) * 0x400 +
          (0xdc00 + (c.toNat - 0x10000) % 0x400 - 0xdc00) = c.toNat := by omega
      rwa [hback, Char.ofNat_toNat] at hread

end Writes

/-! ### Styles -/

/-- **A style that the reader understands**: its marks with a gap of blanks behind them, and its
texts with characters that are found again. -/
structure Style.Legible (style : Style) (char : Char → List Char) (gap : List Char) : Prop where
  comma : style.comma.toList = ',' :: gap
  colon : style.colon.toList = ':' :: gap
  blank : ∀ c ∈ gap, isSpace c = true
  text : style.text = quoted char
  found : ∀ c done rest offset, ∃ next,
    textFrom done (char c ++ rest) offset = textFrom (c :: done) rest next
  nullText : style.nullText = "null"
  trueText : style.trueText = "true"
  falseText : style.falseText = "false"

lemma legible_compactStyle : compactStyle.Legible compactChar [] :=
  ⟨rfl, rfl, List.forall_mem_nil _, rfl,
    fun c => (Writes.compactChar c).textFrom_eq, rfl, rfl, rfl⟩

/-- The value can be written and read again: there is room for the digits of its numbers, which are
finite, it names no field of an object twice, and its lists and objects hold each other at most
`depth` deep. -/
inductive Fits (digits : Nat) : (depth : Nat) → Json → Prop
  | null (depth : Nat) : Fits digits depth .null
  | bool (depth : Nat) (b : Bool) : Fits digits depth (.bool b)
  | int (depth : Nat) {n : Int} (h : (Nat.toDigits 10 n.natAbs).length ≤ digits) :
    Fits digits depth (.int n)
  | double (depth : Nat) {x : Double} (hfinite : x.isFinite = true) (h : 16 ≤ digits) :
    Fits digits depth (.double x)
  | text (depth : Nat) (s : String) : Fits digits depth (.text s)
  | list {depth : Nat} {items : List Json} (h : ∀ x ∈ items, Fits digits depth x) :
    Fits digits (depth + 1) (.list items)
  | object {depth : Nat} {fields : Entries Json} (hkeys : (fields.map Prod.fst).Nodup)
    (h : ∀ f ∈ fields, Fits digits depth f.2) : Fits digits (depth + 1) (.object fields)

lemma skipSpaces_of {c : Char} (h : isSpace c = false) (rest : List Char) (offset : Nat) :
    skipSpaces (c :: rest) offset = ⟨c :: rest, offset⟩ := by
  rw [skipSpaces, h]
  rfl

/-- A gap of blanks is left behind. -/
lemma skipSpaces_gap {gap : List Char} (hgap : ∀ c ∈ gap, isSpace c = true) {c : Char}
    (h : isSpace c = false) (rest : List Char) (offset : Nat) :
    ∃ next, skipSpaces (gap ++ c :: rest) offset = ⟨c :: rest, next⟩ := by
  induction gap generalizing offset with
  | nil => exact ⟨offset, skipSpaces_of h rest offset⟩
  | cons d gap ih =>
    obtain ⟨hd, hgap⟩ := List.forall_mem_cons.1 hgap
    rw [List.cons_append, skipSpaces, hd]
    exact ih hgap (offset + 1)

lemma closes_cons {c : Char} (h : c.isDigit = false ∧ c ≠ '.' ∧ c ≠ 'e' ∧ c ≠ 'E')
    (rest : List Char) : Closes (c :: rest) := by
  rintro d ⟨⟩
  exact h

section Written

variable (style : Style) (char : Char → List Char) (gap : List Char)

/-- The characters of a value. -/
def chars (x : Json) : List Char := (render style x).toList

/-- The items behind the first one. -/
def itemChars (xs : List Json) : List Char := xs.flatMap fun x => ',' :: (gap ++ chars style x)

/-- A field, from behind the opening mark of its key. -/
def fieldChars (f : String × Json) : List Char :=
  f.1.toList.flatMap char ++ '\x22' :: ':' :: (gap ++ chars style f.2)

/-- The fields behind the first one. -/
def moreChars (fs : Entries Json) : List Char :=
  fs.flatMap fun f => ',' :: (gap ++ '\x22' :: fieldChars style char gap f)

variable {style char gap} (hstyle : style.Legible char gap)

lemma toList_quoted (s : String) :
    (quoted char s).toList = '\x22' :: (s.toList.flatMap char ++ ['\x22']) := by
  rw [quoted, String.toList_ofList, List.cons_append]

include hstyle

/-- A text is read to its mark. -/
lemma textFrom_text (cs done rest : List Char) (offset : Nat) :
    Gives (textFrom done (cs.flatMap char ++ '\x22' :: rest) offset)
      (String.ofList (done.reverse ++ cs)) rest := by
  induction cs generalizing done offset with
  | nil =>
    refine ⟨offset + 1, ?_⟩
    rw [List.flatMap_nil, List.nil_append, textFrom, List.append_nil]
  | cons c cs ih =>
    rw [List.flatMap_cons, List.append_assoc]
    obtain ⟨next, hnext⟩ := hstyle.found c done (cs.flatMap char ++ '\x22' :: rest) offset
    rw [hnext]
    have h := ih (c :: done) next
    rwa [List.reverse_cons, List.append_assoc, List.singleton_append] at h

lemma toList_renderItems (xs : List Json) :
    (renderItems style xs).toList = itemChars style gap xs := by
  induction xs with
  | nil => rfl
  | cons x xs ih =>
    rw [renderItems, String.toList_append, String.toList_append, ih, hstyle.comma]
    simp [itemChars, chars]

lemma toList_renderFields (fs : Entries Json) :
    (renderFields style fs).toList = moreChars style char gap fs := by
  induction fs with
  | nil => rfl
  | cons f fs ih =>
    obtain ⟨key, x⟩ := f
    simp only [renderFields, String.toList_append, ih, hstyle.comma, hstyle.colon, hstyle.text]
    simp [moreChars, fieldChars, chars, toList_quoted]

lemma chars_list (x : Json) (xs : List Json) :
    chars style (.list (x :: xs)) = '[' :: (chars style x ++ itemChars style gap xs ++ [']']) := by
  simp only [chars, render, String.toList_append, toList_renderItems hstyle]
  simp

lemma chars_object (f : String × Json) (fs : Entries Json) :
    chars style (.object (f :: fs)) =
      '{' :: '\x22' :: (fieldChars style char gap f ++ moreChars style char gap fs ++ ['}']) := by
  obtain ⟨key, x⟩ := f
  simp only [chars, render, String.toList_append, toList_renderFields hstyle, hstyle.colon,
    hstyle.text]
  simp [fieldChars, chars, toList_quoted]

end Written

section Pieces

variable {digits fuel depth offset next here : Nat} {c d : Char} {cs rest behind gap : List Char}
  {x : Json} {key : String}

/-- The last item of a list. -/
lemma itemsFrom_last
    (hvalue : valueAt digits fuel depth c cs offset = .ok (x, ⟨']' :: rest, next⟩))
    (done : List Json) :
    itemsFrom digits (fuel + 1) (depth + 1) done c cs offset =
      .ok (.list (x :: done).reverse, ⟨rest, next + 1⟩) := by
  rw [itemsFrom, hvalue]
  simp [skipSpaces, isSpace]

/-- An item before another one. -/
lemma itemsFrom_next (hgap : ∀ c ∈ gap, isSpace c = true) (hspace : isSpace d = false)
    (hd : d ≠ ']')
    (hvalue : valueAt digits fuel depth c cs offset = .ok (x, ⟨',' :: (gap ++ d :: rest), next⟩))
    (done : List Json) :
    ∃ here, itemsFrom digits (fuel + 1) (depth + 1) done c cs offset =
      itemsFrom digits fuel (depth + 1) (x :: done) d rest here := by
  have hcomma : skipSpaces (',' :: (gap ++ d :: rest)) next = ⟨',' :: (gap ++ d :: rest), next⟩ :=
    skipSpaces_of rfl _ _
  obtain ⟨here, hhere⟩ := skipSpaces_gap hgap hspace rest (next + 1)
  exact ⟨here, by simp only [itemsFrom, hvalue, hcomma, hhere]⟩

/-- The last field of an object. -/
lemma fieldsFrom_last (hgap : ∀ c ∈ gap, isSpace c = true)
    (hkey : textFrom [] cs (offset + 1) = .ok (key, ⟨':' :: (gap ++ d :: rest), here⟩))
    (hspace : isSpace d = false)
    (hvalue : ∀ offset, Gives (valueAt digits fuel depth d rest offset) x ('}' :: behind))
    (done : Entries Json) :
    Gives (fieldsFrom digits (fuel + 1) (depth + 1) done cs offset) (.object (done.put key x))
      behind := by
  have hcolon : skipSpaces (':' :: (gap ++ d :: rest)) here = ⟨':' :: (gap ++ d :: rest), here⟩ :=
    skipSpaces_of rfl _ _
  obtain ⟨start, hstart⟩ := skipSpaces_gap hgap hspace rest (here + 1)
  obtain ⟨next, hnext⟩ := hvalue start
  have hend : skipSpaces ('}' :: behind) next = ⟨'}' :: behind, next⟩ := skipSpaces_of rfl _ _
  refine ⟨next + 1, ?_⟩
  simp only [fieldsFrom, hkey, hcolon, hstart, hnext, hend]
  rfl

/-- A field before another one. -/
lemma fieldsFrom_next (hgap : ∀ c ∈ gap, isSpace c = true)
    (hkey : textFrom [] cs (offset + 1) = .ok (key, ⟨':' :: (gap ++ d :: rest), here⟩))
    (hspace : isSpace d = false)
    (hvalue : ∀ offset,
      Gives (valueAt digits fuel depth d rest offset) x (',' :: (gap ++ '\x22' :: behind)))
    (done : Entries Json) :
    ∃ offset', fieldsFrom digits (fuel + 1) (depth + 1) done cs offset =
      fieldsFrom digits fuel (depth + 1) (done.put key x) behind offset' := by
  have hcolon : skipSpaces (':' :: (gap ++ d :: rest)) here = ⟨':' :: (gap ++ d :: rest), here⟩ :=
    skipSpaces_of rfl _ _
  obtain ⟨start, hstart⟩ := skipSpaces_gap hgap hspace rest (here + 1)
  obtain ⟨next, hnext⟩ := hvalue start
  have hcomma : skipSpaces (',' :: (gap ++ '\x22' :: behind)) next =
      ⟨',' :: (gap ++ '\x22' :: behind), next⟩ := skipSpaces_of rfl _ _
  obtain ⟨mark, hmark⟩ := skipSpaces_gap hgap (show isSpace '\x22' = false from rfl) behind
    (next + 1)
  refine ⟨mark, ?_⟩
  simp only [fieldsFrom, hkey, hcolon, hstart, hnext, hcomma, hmark]
  rfl

end Pieces

section Values

variable {style : Style} {char : Char → List Char} {gap : List Char}
  (hstyle : style.Legible char gap) {digits depth : Nat}

lemma Reads.gives {cs tail : List Char} {c : Char} {x : Json} (h : Reads digits depth cs x)
    (hx : cs = c :: tail) (fuel : Nat) (hfuel : tail.length < fuel) {rest : List Char}
    (hrest : Closes rest) (offset : Nat) :
    Gives (valueAt digits fuel depth c (tail ++ rest) offset) x rest := by
  obtain ⟨c', tail', hx', -, -, hread⟩ := h
  obtain ⟨rfl, rfl⟩ := List.cons.inj (hx.symm.trans hx')
  exact hread fuel hfuel rest hrest offset

include hstyle

/-- The items of a list are read. -/
lemma itemsFrom_items {x : Json} {xs : List Json}
    (hxs : ∀ y ∈ x :: xs, Reads digits depth (chars style y) y) {c : Char} {cs : List Char}
    (hx : chars style x = c :: cs) (done : List Json) (rest : List Char) (fuel : Nat)
    (hfuel : cs.length + (itemChars style gap xs).length < fuel) (offset : Nat) :
    Gives (itemsFrom digits (fuel + 1) (depth + 1) done c
        (cs ++ (itemChars style gap xs ++ ']' :: rest)) offset)
      (.list (done.reverse ++ x :: xs)) rest := by
  induction xs generalizing x c cs done fuel offset with
  | nil =>
    have hend : Closes (itemChars style gap [] ++ ']' :: rest) := closes_cons (by decide) rest
    obtain ⟨next, hvalue⟩ := (hxs x List.mem_cons_self).gives hx fuel
      (Nat.lt_of_le_of_lt (Nat.le_add_right _ _) hfuel) hend offset
    exact ⟨next + 1, by rw [itemsFrom_last hvalue, List.reverse_cons]⟩
  | cons y ys ih =>
    obtain ⟨hread, hys⟩ := List.forall_mem_cons.1 hxs
    obtain ⟨d, ds, hy, hspace, hd, -⟩ := hys y List.mem_cons_self
    have hitems : itemChars style gap (y :: ys) =
        ',' :: (gap ++ d :: (ds ++ itemChars style gap ys)) := by
      rw [itemChars, List.flatMap_cons, hy]
      simp [itemChars]
    rw [hitems] at hfuel ⊢
    simp only [List.length_cons, List.length_append] at hfuel
    simp only [List.cons_append, List.append_assoc]
    obtain ⟨next, hvalue⟩ := hread.gives hx fuel (by omega) (closes_cons (c := ',') (by decide) _)
      offset
    obtain ⟨fuel, rfl⟩ : ∃ n, fuel = n + 1 := ⟨fuel - 1, by omega⟩
    obtain ⟨here, hhere⟩ := itemsFrom_next hstyle.blank hspace hd hvalue done
    rw [hhere]
    have h := ih hys hy (x :: done) fuel (by omega) here
    rwa [List.reverse_cons, List.append_assoc, List.singleton_append] at h

omit hstyle in
lemma fresh_of_nodup {done fs : Entries Json} {f : String × Json}
    (h : ((done ++ f :: fs).map Prod.fst).Nodup) : f.1 ∉ done.map Prod.fst := by
  rw [List.map_append, List.nodup_append] at h
  exact fun hf => h.2.2 _ hf _ List.mem_cons_self rfl

/-- A field is read: first its key, and then its value. -/
lemma field_reads {f : String × Json} (hx : Reads digits depth (chars style f.2) f.2) (fuel : Nat)
    (hfuel : (fieldChars style char gap f).length ≤ fuel) {behind : List Char}
    (hbehind : Closes behind) (offset : Nat) :
    ∃ d ds here, isSpace d = false ∧
      textFrom [] (fieldChars style char gap f ++ behind) offset =
          .ok (f.1, ⟨':' :: (gap ++ d :: ds), here⟩) ∧
        ∀ offset, Gives (valueAt digits fuel depth d ds offset) f.2 behind := by
  obtain ⟨key, x⟩ := f
  obtain ⟨d, ds, hchars, hspace, -, hread⟩ := hx
  have hfield : fieldChars style char gap (key, x) ++ behind =
      key.toList.flatMap char ++ '\x22' :: ':' :: (gap ++ d :: (ds ++ behind)) := by
    simp [fieldChars, hchars]
  have hshort : ds.length < (fieldChars style char gap (key, x)).length := by
    simp only [fieldChars, hchars, List.length_append, List.length_cons]
    omega
  obtain ⟨here, hkey⟩ := textFrom_text hstyle key.toList [] (':' :: (gap ++ d :: (ds ++ behind)))
    offset
  rw [List.reverse_nil, List.nil_append, String.ofList_toList, ← hfield] at hkey
  exact ⟨d, ds ++ behind, here, hspace, hkey,
    hread fuel (Nat.lt_of_lt_of_le hshort hfuel) behind hbehind⟩

/-- The fields of an object are read. -/
lemma fieldsFrom_fields {f : String × Json} {fs : Entries Json}
    (hfs : ∀ g ∈ f :: fs, Reads digits depth (chars style g.2) g.2) (done : Entries Json)
    (hkeys : ((done ++ f :: fs).map Prod.fst).Nodup) (rest : List Char) (fuel : Nat)
    (hfuel : (fieldChars style char gap f).length + (moreChars style char gap fs).length ≤ fuel)
    (offset : Nat) :
    Gives (fieldsFrom digits (fuel + 1) (depth + 1) done
        (fieldChars style char gap f ++ (moreChars style char gap fs ++ '}' :: rest)) offset)
      (.object (done ++ f :: fs)) rest := by
  induction fs generalizing f done fuel offset with
  | nil =>
    obtain ⟨d, ds, here, hspace, hkey, hvalue⟩ := field_reads hstyle (hfs _ List.mem_cons_self) fuel
      hfuel (closes_cons (c := '}') (by decide) rest) (offset + 1)
    have hput : done.put f.1 f.2 = done ++ [f] := Entries.put_of_fresh (fresh_of_nodup hkeys) _
    rw [← hput]
    exact fieldsFrom_last hstyle.blank hkey hspace hvalue done
  | cons g fs ih =>
    obtain ⟨hf, hgs⟩ := List.forall_mem_cons.1 hfs
    have hmore : ∀ behind, moreChars style char gap (g :: fs) ++ behind =
        ',' :: (gap ++ '\x22' ::
          (fieldChars style char gap g ++ (moreChars style char gap fs ++ behind))) := by
      intro behind
      simp [moreChars]
    have hlength : (fieldChars style char gap g).length + (moreChars style char gap fs).length + 2 ≤
        (moreChars style char gap (g :: fs)).length := by
      have h := congrArg List.length (hmore [])
      simp only [List.append_nil, List.length_cons, List.length_append] at h
      omega
    rw [hmore]
    obtain ⟨d, ds, here, hspace, hkey, hvalue⟩ := field_reads hstyle hf fuel (by omega)
      (closes_cons (c := ',') (by decide) (gap ++ '\x22' ::
        (fieldChars style char gap g ++ (moreChars style char gap fs ++ '}' :: rest)))) (offset + 1)
    have hput : done.put f.1 f.2 = done ++ [f] := Entries.put_of_fresh (fresh_of_nodup hkeys) _
    obtain ⟨fuel, rfl⟩ : ∃ n, fuel = n + 1 := ⟨fuel - 1, by omega⟩
    obtain ⟨start, hstart⟩ := fieldsFrom_next hstyle.blank hkey hspace hvalue done
    rw [hstart, hput]
    have h := ih hgs (done ++ [f]) (by rwa [List.append_assoc]) fuel (by omega) start
    rwa [List.append_assoc] at h

omit hstyle in
/-- A known word is read. -/
lemma reads_word {x : Json} {c : Char} {tail : List Char} (hspace : isSpace c = false)
    (hc : c ≠ ']')
    (h : ∀ fuel rest offset, valueAt digits (fuel + 1) depth c (tail ++ rest) offset =
      .ok (x, ⟨rest, offset + tail.length + 1⟩)) : Reads digits depth (c :: tail) x := by
  refine ⟨c, tail, rfl, hspace, hc, fun fuel hfuel rest _ offset => ?_⟩
  obtain ⟨fuel, rfl⟩ := Nat.exists_eq_add_of_lt hfuel
  exact ⟨_, h _ rest offset⟩

lemma reads_text (s : String) : Reads digits depth (chars style (.text s)) (.text s) := by
  have hchars : chars style (.text s) = '\x22' :: (s.toList.flatMap char ++ ['\x22']) := by
    rw [chars, render, hstyle.text, toList_quoted]
  refine ⟨_, _, hchars, rfl, by decide, fun fuel hfuel rest _ offset => ?_⟩
  obtain ⟨fuel, rfl⟩ := Nat.exists_eq_add_of_lt hfuel
  obtain ⟨next, htext⟩ := textFrom_text hstyle s.toList [] rest (offset + 1)
  refine ⟨next, ?_⟩
  rw [valueAt, if_pos rfl, List.append_assoc, List.singleton_append, htext]
  simp [Except.map]

/-- A list is read if its items are, one level deeper. -/
lemma reads_list {x : Json} {xs : List Json}
    (hxs : ∀ y ∈ x :: xs, Reads digits depth (chars style y) y) :
    Reads digits (depth + 1) (chars style (.list (x :: xs))) (.list (x :: xs)) := by
  refine ⟨'[', _, chars_list hstyle x xs, rfl, by decide, fun fuel hfuel rest _ offset => ?_⟩
  obtain ⟨c, cs, hx, hspace, hc, -⟩ := hxs x List.mem_cons_self
  rw [hx] at hfuel ⊢
  simp only [List.length_append, List.length_cons, List.length_nil] at hfuel
  obtain ⟨fuel, rfl⟩ : ∃ n, fuel = n + 2 := ⟨fuel - 2, by omega⟩
  have hitems := itemsFrom_items hstyle hxs hx [] rest fuel (by omega) (offset + 1)
  simp only [List.append_assoc, List.cons_append, List.nil_append]
  rw [valueAt, if_neg (by decide), if_pos rfl, skipSpaces_of hspace]
  simpa [hc] using hitems

/-- An object is read if the values of its fields are, one level deeper. -/
lemma reads_object {f : String × Json} {fs : Entries Json}
    (hkeys : ((f :: fs).map Prod.fst).Nodup)
    (hfs : ∀ g ∈ f :: fs, Reads digits depth (chars style g.2) g.2) :
    Reads digits (depth + 1) (chars style (.object (f :: fs))) (.object (f :: fs)) := by
  refine ⟨'{', _, chars_object hstyle f fs, rfl, by decide,
    fun fuel hfuel rest _ offset => ?_⟩
  simp only [List.length_append, List.length_cons, List.length_nil] at hfuel
  obtain ⟨fuel, rfl⟩ : ∃ n, fuel = n + 2 := ⟨fuel - 2, by omega⟩
  have hfields := fieldsFrom_fields hstyle hfs [] hkeys rest fuel (by omega) (offset + 1)
  simp only [List.append_assoc, List.cons_append, List.nil_append]
  rw [valueAt, if_neg (by decide), if_neg (by decide), if_pos rfl, skipSpaces_of rfl]
  exact hfields

/-- **Every value that fits is read**. -/
lemma Fits.reads {x : Json} (h : Fits digits depth x) : Reads digits depth (chars style x) x := by
  induction h with
  | null depth =>
    have hchars : chars style .null = 'n' :: "ull".toList := by
      rw [chars, render, hstyle.nullText]
      rfl
    rw [hchars]
    exact reads_word rfl (by decide) fun fuel rest offset => by rw [valueAt]; rfl
  | bool depth b =>
    cases b with
    | true =>
      have hchars : chars style (.bool true) = 't' :: "rue".toList := by
        rw [chars, render, if_pos rfl, hstyle.trueText]
        rfl
      rw [hchars]
      exact reads_word rfl (by decide) fun fuel rest offset => by rw [valueAt]; rfl
    | false =>
      have hchars : chars style (.bool false) = 'f' :: "alse".toList := by
        rw [chars, render, if_neg Bool.false_ne_true, hstyle.falseText]
        rfl
      rw [hchars]
      exact reads_word rfl (by decide) fun fuel rest offset => by rw [valueAt]; rfl
  | int depth h => exact reads_int h
  | double depth hfinite h => exact reads_double hfinite h _ _
  | text depth s => exact reads_text hstyle s
  | @list depth items _ ih =>
    cases items with
    | nil =>
      have hchars : chars style (.list []) = ['[', ']'] := by rw [chars, render]; rfl
      rw [hchars]
      exact reads_word rfl (by decide) fun fuel rest offset => by rw [valueAt]; rfl
    | cons x xs => exact reads_list hstyle ih
  | @object depth fields hkeys _ ih =>
    cases fields with
    | nil =>
      have hchars : chars style (.object []) = ['{', '}'] := by rw [chars, render]; rfl
      rw [hchars]
      exact reads_word rfl (by decide) fun fuel rest offset => by rw [valueAt]; rfl
    | cons f fs => exact reads_object hstyle hkeys ih

/-- **A value is read from the text that is written for it** in a style. -/
lemma readWithin_render {x : Json} (h : Fits digits depth x) :
    readWithin digits depth (render style x) = .ok x := by
  obtain ⟨c, cs, hx, hspace, -, hread⟩ := h.reads hstyle
  have hlist : (render style x).toList = c :: cs := hx
  obtain ⟨next, hvalue⟩ := hread ((render style x).toList.length + 2)
    (by rw [hlist, List.length_cons]; omega) [] (by rintro d ⟨⟩) 0
  rw [List.append_nil, hlist] at hvalue
  simp only [readWithin, hlist, skipSpaces_of hspace, hvalue]
  rfl

end Values

/-- **A value is read from its text** without blanks. -/
lemma read_compact {depth : Nat} {x : Json} (h : Fits maxDigits depth x) :
    read depth x.compact = .ok x := readWithin_render legible_compactStyle h

/-! ### Readers with room -/

/-- **The numbers of a value are finite**, and it names no field of an object twice. -/
inductive Proper : Json → Prop
  | null : Proper .null
  | bool (b : Bool) : Proper (.bool b)
  | int (n : Int) : Proper (.int n)
  | double {x : Double} (hfinite : x.isFinite = true) : Proper (.double x)
  | text (s : String) : Proper (.text s)
  | list {items : List Json} (h : ∀ x ∈ items, Proper x) : Proper (.list items)
  | object {fields : Entries Json} (hkeys : (fields.map Prod.fst).Nodup)
    (h : ∀ f ∈ fields, Proper f.2) : Proper (.object fields)

/-- A character of printable ASCII. -/
def IsPrintable (c : Char) : Prop := 0x20 ≤ c.toNat ∧ c.toNat ≤ 0x7e

instance : DecidablePred IsPrintable := fun _ => inferInstanceAs (Decidable (_ ∧ _))

/-- A text of printable ASCII. -/
def Printable (s : String) : Prop := ∀ c ∈ s.toList, IsPrintable c

instance : DecidablePred Printable := fun s => List.decidableBAll IsPrintable s.toList

lemma printable_append {s t : String} : Printable (s ++ t) ↔ Printable s ∧ Printable t := by
  simp only [Printable, String.toList_append, List.forall_mem_append]

lemma printable_ofList {cs : List Char} :
    Printable (String.ofList cs) ↔ ∀ c ∈ cs, IsPrintable c := by
  rw [Printable, String.toList_ofList]

lemma isPrintable_of_isDigit {c : Char} (h : c.isDigit = true) : IsPrintable c := by
  have hrange : 48 ≤ c.toNat ∧ c.toNat ≤ 57 := by
    simpa [Char.isDigit, Char.le_def, UInt32.le_iff_toNat_le] using h
  exact ⟨by omega, by omega⟩

lemma isPrintable_of_mem_toDigits {n : Nat} : ∀ c ∈ Nat.toDigits 10 n, IsPrintable c :=
  fun c hc => isPrintable_of_isDigit (isDigit_of_mem_toDigits c hc)

lemma printable_nat (n : Nat) : Printable (toString n) := by
  rw [Printable, toList_toString]
  exact isPrintable_of_mem_toDigits

lemma printable_int (n : Int) : Printable (toString n) := by
  cases n with
  | ofNat n => exact printable_nat n
  | negSucc n => exact printable_append.2 ⟨by decide, printable_nat (n + 1)⟩

lemma printable_ite {p : Prop} [Decidable p] {s t : String} (hs : Printable s) (ht : Printable t) :
    Printable (if p then s else t) := by
  split
  · exact hs
  · exact ht

lemma printable_decimalText (d : Decimal) : Printable (Double.decimalText d) := by
  have hdigits := isPrintable_of_mem_toDigits (n := d.digits)
  have hzeros (n : Nat) : ∀ c ∈ List.replicate n '0', IsPrintable c :=
    fun c hc => isPrintable_of_isDigit (isDigit_of_mem_zeros c hc)
  unfold Double.decimalText
  simp only [toList_toString]
  generalize Nat.toDigits 10 d.digits = ds at hdigits ⊢
  have htake (n : Nat) : Printable (String.ofList (ds.take n)) :=
    printable_ofList.2 fun c hc => hdigits c (List.mem_of_mem_take hc)
  have hdrop (n : Nat) : Printable (String.ofList (ds.drop n)) :=
    printable_ofList.2 fun c hc => hdigits c (List.mem_of_mem_drop hc)
  refine printable_ite (printable_ite ?below ?among) ?power
  case below =>
    exact printable_append.2 ⟨by decide,
      printable_ofList.2 (List.forall_mem_append.2 ⟨hzeros _, hdigits⟩)⟩
  case among =>
    refine printable_append.2 ⟨printable_append.2 ⟨printable_ofList.2 (List.forall_mem_append.2
      ⟨printable_ofList.1 (htake _), hzeros _⟩), by decide⟩, printable_ite (by decide) (hdrop _)⟩
  case power =>
    have hfraction := printable_append.2 ⟨(by decide : Printable "."), hdrop 1⟩
    have hpower (n : Nat) := printable_append.2 ⟨(by decide : Printable "0"), printable_nat n⟩
    exact printable_append.2 ⟨printable_append.2 ⟨printable_append.2 ⟨printable_append.2
      ⟨htake 1, printable_ite (by decide) hfraction⟩, by decide⟩,
      printable_ite (by decide) (by decide)⟩, printable_ite (hpower _) (printable_nat _)⟩

lemma printable_double {undefinedText infiniteText : String} (hundefined : Printable undefinedText)
    (hinfinite : Printable infiniteText) (x : Double) :
    Printable (x.text undefinedText infiniteText) := by
  have hsign : Printable (if x.isNegative then "-" else "") :=
    printable_ite (by decide) (by decide)
  exact printable_ite hundefined (printable_ite (printable_append.2 ⟨hsign, hinfinite⟩)
    (printable_ite (printable_append.2 ⟨hsign, by decide⟩)
      (printable_append.2 ⟨hsign, printable_decimalText _⟩)))

lemma isPrintable_digitChar : ∀ n < 16, IsPrintable (Nat.digitChar n) := by decide

lemma isPrintable_codeEscape (code : Nat) : ∀ c ∈ codeEscape code, IsPrintable c := by
  have hdigits (width n : Nat) : ∀ c ∈ hexDigits width n, IsPrintable c := by
    induction width generalizing n with
    | zero => exact List.forall_mem_nil _
    | succ width ih =>
      rw [hexDigits, List.forall_mem_append]
      exact ⟨ih _, List.forall_mem_singleton.2
        (isPrintable_digitChar _ (Nat.mod_lt _ (by decide)))⟩
  exact List.forall_mem_cons.2 ⟨by decide, List.forall_mem_cons.2 ⟨by decide, hdigits 4 code⟩⟩

lemma isPrintable_of_shortEscape? {c e : Char} (h : shortEscape? c = some e) : IsPrintable e := by
  unfold shortEscape? at h
  split_ifs at h with h1
  · cases h
    rcases h1 with rfl | rfl <;> decide
  all_goals
    cases h
    decide

lemma isPrintable_asciiChar (c : Char) : ∀ e ∈ asciiChar c, IsPrintable e := by
  unfold asciiChar
  split
  case h_1 e he =>
    exact List.forall_mem_cons.2 ⟨by decide,
      List.forall_mem_singleton.2 (isPrintable_of_shortEscape? he)⟩
  case h_2 =>
    split_ifs with hplain
    · exact List.forall_mem_singleton.2 hplain
    · exact isPrintable_codeEscape _
    · exact List.forall_mem_append.2 ⟨isPrintable_codeEscape _, isPrintable_codeEscape _⟩

lemma printable_quoted (s : String) : Printable (quoted asciiChar s) := by
  rw [quoted, printable_ofList, List.cons_append]
  refine List.forall_mem_cons.2 ⟨by decide, List.forall_mem_append.2 ⟨fun e he => ?_,
    List.forall_mem_singleton.2 (by decide)⟩⟩
  obtain ⟨c, -, hc⟩ := List.mem_flatMap.1 he
  exact isPrintable_asciiChar c e hc

mutual

/-- **A text in ASCII is printable**, and so stands on one line. -/
lemma printable_ascii : ∀ x : Json, Printable x.ascii
  | .null => show Printable "null" by decide
  | .bool true => show Printable "true" by decide
  | .bool false => show Printable "false" by decide
  | .int n => printable_int n
  | .double x => printable_double (by decide) (by decide) x
  | .text s => printable_quoted s
  | .list [] => show Printable "[]" by decide
  | .list (x :: xs) => by
    rw [ascii, render]
    exact printable_append.2 ⟨printable_append.2 ⟨printable_append.2 ⟨by decide, printable_ascii x⟩,
      printable_items xs⟩, by decide⟩
  | .object [] => show Printable "\x7b\x7d" by decide
  | .object ((key, x) :: fs) => by
    rw [ascii, render]
    simp only [printable_append]
    exact ⟨⟨⟨⟨⟨by decide, printable_quoted key⟩, by decide⟩, printable_ascii x⟩,
      printable_fields fs⟩, by decide⟩

lemma printable_items : ∀ xs : List Json, Printable (renderItems asciiStyle xs)
  | [] => by
    rw [renderItems]
    decide
  | x :: xs => by
    rw [renderItems]
    exact printable_append.2 ⟨printable_append.2 ⟨by decide, printable_ascii x⟩,
      printable_items xs⟩

lemma printable_fields : ∀ fs : List (String × Json), Printable (renderFields asciiStyle fs)
  | [] => by
    rw [renderFields]
    decide
  | (key, x) :: fs => by
    rw [renderFields]
    simp only [printable_append]
    exact ⟨⟨⟨⟨by decide, printable_quoted key⟩, by decide⟩, printable_ascii x⟩,
      printable_fields fs⟩

end

end PgSchema.Json
