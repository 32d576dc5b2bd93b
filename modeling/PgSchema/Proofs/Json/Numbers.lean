import PgSchema.Json.Printer
import PgSchema.Json.Reader
import PgSchema.Proofs.Number.Shortest

/-!
Numbers in JSON texts read back.

A reader with room for the digits finds every whole number again (`reads_int`), and every finite
number of double precision (`reads_double`), whichever of the three shapes its text has.  What
stands behind a number must not look like more of it (`Closes`).
-/

namespace PgSchema.Json

open Number (Double Decimal tenTo)

/-! ### What is read -/

/-- The outcome is a value, and this is what stands behind it. -/
def Gives {α : Type} (read : Read α) (value : α) (rest : List Char) : Prop :=
  ∃ offset, read = .ok (value, ⟨rest, offset⟩)

/-- The text does not go on with a digit. -/
def NoDigit (rest : List Char) : Prop := ∀ c ∈ rest.head?, c.isDigit = false

/-- The text does not go on with what could belong to a number. -/
def Closes (rest : List Char) : Prop :=
  ∀ c ∈ rest.head?, c.isDigit = false ∧ c ≠ '.' ∧ c ≠ 'e' ∧ c ≠ 'E'

lemma Closes.noDigit {rest : List Char} (h : Closes rest) : NoDigit rest := fun c hc => (h c hc).1

/-- **The characters are read as a value**, and what stands behind them is left.  Every piece takes
a character at least, so that as many pieces may be read as there are characters. -/
def Reads (digits depth : Nat) (cs : List Char) (x : Json) : Prop :=
  ∃ c tail, cs = c :: tail ∧ isSpace c = false ∧ c ≠ ']' ∧
    ∀ fuel, tail.length < fuel → ∀ rest, Closes rest → ∀ offset,
      Gives (valueAt digits fuel depth c (tail ++ rest) offset) x rest

/-! ### Rows of digits -/

section Rows

variable {ds rest : List Char}

lemma digitsOf_append (hds : ∀ c ∈ ds, c.isDigit = true) (hrest : NoDigit rest) (offset : Nat) :
    digitsOf (ds ++ rest) offset = (ds, ⟨rest, offset + ds.length⟩) := by
  have htake : (ds ++ rest).takeWhile Char.isDigit = ds := by
    rw [List.takeWhile_append_of_pos hds]
    cases rest with
    | nil => simp
    | cons c cs => rw [List.takeWhile_cons_of_neg (by simp [hrest c rfl]), List.append_nil]
  simp only [digitsOf, htake, List.drop_left]

lemma someDigits_append (hne : ds ≠ []) (hds : ∀ c ∈ ds, c.isDigit = true) (hrest : NoDigit rest)
    (offset : Nat) : someDigits (ds ++ rest) offset = .ok (ds, ⟨rest, offset + ds.length⟩) := by
  obtain ⟨c, cs, rfl⟩ := List.exists_cons_of_ne_nil hne
  rw [List.cons_append, someDigits, if_pos (hds c List.mem_cons_self), ← List.cons_append,
    digitsOf_append hds hrest]

/-- An exponent behind its sign. -/
lemma exponentFrom_sign (negative : Bool) (hne : ds ≠ []) (hds : ∀ c ∈ ds, c.isDigit = true)
    (hrest : NoDigit rest) (offset : Nat) :
    exponentFrom ((if negative then '-' else '+') :: (ds ++ rest)) offset =
      .ok ((if negative then -1 else 1) * decimalValue ds, ⟨rest, offset + 1 + ds.length⟩) := by
  cases negative
  · change (someDigits (ds ++ rest) (offset + 1)).map _ = _
    rw [someDigits_append hne hds hrest]
    rfl
  · change (someDigits (ds ++ rest) (offset + 1)).map _ = _
    rw [someDigits_append hne hds hrest]
    rfl

end Rows

lemma decimalValue_append (ds es : List Char) :
    decimalValue (ds ++ es) = Nat.ofDigitChars 10 es (decimalValue ds) := List.foldl_append

lemma decimalValue_toDigits (n : Nat) : decimalValue (Nat.toDigits 10 n) = n :=
  Nat.ofDigitChars_ten_toDigits

lemma isDigit_of_mem_toDigits {n : Nat} : ∀ c ∈ Nat.toDigits 10 n, c.isDigit = true :=
  fun _ => Nat.isDigit_of_mem_toDigits (by decide) (by decide)

lemma isDigit_of_mem_zeros {n : Nat} : ∀ c ∈ List.replicate n '0', c.isDigit = true := by
  intro c hc
  rw [List.eq_of_mem_replicate hc]
  rfl

/-- The digits of a number other than zero do not begin with a zero. -/
lemma head?_toDigits {n : Nat} (h : n ≠ 0) : (Nat.toDigits 10 n).head? ≠ some '0' := by
  induction n using Nat.strongRecOn with
  | ind n ih =>
    rw [Nat.toDigits_eq_if (by decide)]
    split_ifs with hsmall
    · simpa [Nat.digitChar_eq_zero] using h
    · rw [List.head?_append, Option.or_of_isSome (by simp [Nat.toDigits_ne_nil])]
      exact ih (n / 10) (by omega) (by omega)

/-! ### Numbers without a sign -/

/-- Digits as they stand before the point: a zero stands there only by itself. -/
structure IsWhole (ds : List Char) : Prop where
  digit : ∀ c ∈ ds, c.isDigit = true
  ne_nil : ds ≠ []
  zero : ds.head? = some '0' → ds = ['0']

lemma isWhole_zero : IsWhole ['0'] :=
  ⟨List.forall_mem_singleton.2 rfl, List.cons_ne_nil _ _, fun _ => rfl⟩

lemma isWhole_toDigits (n : Nat) : IsWhole (Nat.toDigits 10 n) := by
  refine ⟨isDigit_of_mem_toDigits, Nat.toDigits_ne_nil, fun hhead => ?_⟩
  rcases Nat.eq_zero_or_pos n with rfl | hn
  · rfl
  · exact absurd hhead (head?_toDigits hn.ne')

section Unsigned

variable {digits : Nat} (negative : Bool) {whole fraction rest : List Char}

/-- The whole part of a number is read, if there is room for it. -/
lemma unsigned_append (hwhole : IsWhole whole) (hroom : whole.length ≤ digits)
    (hrest : NoDigit rest) (offset : Nat) :
    unsigned digits negative (whole ++ rest) offset =
      numberAfter negative whole ⟨rest, offset + whole.length⟩ := by
  obtain ⟨hdigit, hne, hzero⟩ := hwhole
  obtain ⟨c, cs, rfl⟩ := List.exists_cons_of_ne_nil hne
  have hc := hdigit c List.mem_cons_self
  have hI : c ≠ 'I' := by
    rintro rfl
    exact absurd hc (by decide)
  let read := digitsOf (c :: (cs ++ rest)) offset
  have hread : read = (c :: cs, ⟨rest, offset + (c :: cs).length⟩) :=
    digitsOf_append hdigit hrest offset
  have hlast : (if c.isDigit then
      if digits < read.1.length then .error ⟨.numberTooLong, offset + digits + 1⟩
      else numberAfter negative read.1 read.2
    else .error ⟨.badNumber, offset⟩) =
      numberAfter negative (c :: cs) ⟨rest, offset + (c :: cs).length⟩ := by
    rw [if_pos hc, hread]
    exact if_neg (Nat.not_lt.2 hroom)
  rw [List.cons_append]
  by_cases h0 : c = '0'
  · obtain rfl : cs = [] := (List.cons.inj (hzero (by rw [h0]; rfl))).2
    subst h0
    cases rest with
    | nil => exact hlast
    | cons d ds =>
      have hd : d.isDigit = false := hrest d rfl
      rw [List.nil_append, unsigned, hd]
      rfl
  · rw [unsigned]
    · exact hlast
    · exact hI
    · exact fun _ _ h _ => h0 h

/-- A whole number. -/
lemma unsigned_whole (hwhole : IsWhole whole) (hroom : whole.length ≤ digits) (hrest : Closes rest)
    (offset : Nat) :
    Gives (unsigned digits negative (whole ++ rest) offset)
      (.int (if negative then -(decimalValue whole : Int) else decimalValue whole)) rest := by
  rw [unsigned_append _ hwhole hroom hrest.noDigit]
  refine ⟨offset + whole.length, ?_⟩
  cases rest with
  | nil => rfl
  | cons c cs =>
    obtain ⟨-, hpoint, he, hE⟩ := hrest c rfl
    unfold numberAfter
    dsimp only
    split
    · exact absurd (List.cons.inj ‹_›).1 hpoint
    · exact absurd (List.cons.inj ‹_›).1 he
    · exact absurd (List.cons.inj ‹_›).1 hE
    · rfl

lemma noDigit_cons {c : Char} {cs : List Char} (h : c.isDigit = false) : NoDigit (c :: cs) := by
  rintro d ⟨⟩
  exact h

lemma numberAfter_point {behind : List Char} {offset : Nat} {cursor : Cursor}
    (h : someDigits behind (offset + 1) = .ok (fraction, cursor)) (hrest : Closes cursor.rest) :
    numberAfter negative whole ⟨'.' :: behind, offset⟩ =
      .ok (.double (Double.ofDecimal negative (decimalValue (whole ++ fraction))
        (-fraction.length)), cursor) := by
  rw [← Int.zero_sub]
  obtain ⟨rest, last⟩ := cursor
  simp only [numberAfter, h]
  cases rest with
  | nil => rfl
  | cons c cs =>
    obtain ⟨-, -, he, hE⟩ := hrest c rfl
    split
    · exact absurd (List.cons.inj ‹_›).1 he
    · exact absurd (List.cons.inj ‹_›).1 hE
    · rfl

lemma numberAfter_power {behind power : List Char} {offset last : Nat}
    (h : someDigits behind (offset + 1) = .ok (fraction, ⟨'e' :: power, last⟩)) :
    numberAfter negative whole ⟨'.' :: behind, offset⟩ =
      (exponentFrom power (last + 1)).map fun read =>
        (.double (Double.ofDecimal negative (decimalValue (whole ++ fraction))
          (read.1 - fraction.length)), read.2) := by
  simp only [numberAfter, h]

/-- A number with a point. -/
lemma unsigned_point (hwhole : IsWhole whole) (hroom : whole.length ≤ digits)
    (hne : fraction ≠ []) (hfraction : ∀ c ∈ fraction, c.isDigit = true) (hrest : Closes rest)
    (offset : Nat) :
    Gives (unsigned digits negative (whole ++ '.' :: (fraction ++ rest)) offset)
      (.double (Double.ofDecimal negative (decimalValue (whole ++ fraction)) (-fraction.length)))
      rest := by
  have hdigits := someDigits_append hne hfraction hrest.noDigit (offset + whole.length + 1)
  rw [unsigned_append _ hwhole hroom (noDigit_cons rfl), numberAfter_point _ hdigits hrest]
  exact ⟨_, rfl⟩

/-- A number with an exponent. -/
lemma unsigned_power (hwhole : IsWhole whole) (hroom : whole.length ≤ digits)
    (hfraction : ∀ c ∈ fraction, c.isDigit = true) (below : Bool) {power : List Char}
    (hne : power ≠ []) (hpower : ∀ c ∈ power, c.isDigit = true) (hrest : Closes rest)
    (offset : Nat) :
    Gives (unsigned digits negative (whole ++ ((if fraction = [] then [] else '.' :: fraction) ++
        'e' :: (if below then '-' else '+') :: (power ++ rest))) offset)
      (.double (Double.ofDecimal negative (decimalValue (whole ++ fraction))
        ((if below then -1 else 1) * decimalValue power - fraction.length))) rest := by
  have hexponent := exponentFrom_sign below hne hpower hrest.noDigit
  by_cases hnone : fraction = []
  · rw [if_pos hnone, List.nil_append, unsigned_append _ hwhole hroom (noDigit_cons rfl)]
    change Gives ((exponentFrom _ _).map _) _ _
    rw [hexponent, hnone]
    exact ⟨_, rfl⟩
  · rw [if_neg hnone, List.cons_append, unsigned_append _ hwhole hroom (noDigit_cons rfl),
      numberAfter_power _ (someDigits_append hnone hfraction (noDigit_cons rfl) _), hexponent]
    exact ⟨_, rfl⟩

end Unsigned

/-! ### Numbers with their sign -/

variable {digits depth : Nat}

/-- The sign in front of a number. -/
def signChars (negative : Bool) : List Char := if negative then ['-'] else []

/-- A number is read behind its sign. -/
lemma reads_of_unsigned {negative : Bool} {whole behind : List Char} {x : Json}
    (hwhole : IsWhole whole)
    (h : ∀ rest, Closes rest → ∀ offset,
      Gives (unsigned digits negative (whole ++ (behind ++ rest)) offset) x rest) :
    Reads digits depth (signChars negative ++ (whole ++ behind)) x := by
  cases negative with
  | true =>
    refine ⟨'-', whole ++ behind, rfl, rfl, by decide, fun fuel hfuel rest hrest offset => ?_⟩
    obtain ⟨fuel, rfl⟩ := Nat.exists_eq_add_of_lt hfuel
    rw [List.append_assoc, valueAt]
    exact h rest hrest (offset + 1)
  | false =>
    obtain ⟨c, cs, rfl⟩ := List.exists_cons_of_ne_nil hwhole.ne_nil
    have hc := hwhole.digit c List.mem_cons_self
    have hother : ∀ d : Char, d.isDigit = false → c ≠ d := by
      rintro d hd rfl
      rw [hc] at hd
      cases hd
    refine ⟨c, cs ++ behind, rfl, ?_, hother _ rfl, fun fuel hfuel rest hrest offset => ?_⟩
    · simp [isSpace, hother _ (show ' '.isDigit = false from rfl),
        hother _ (show '\n'.isDigit = false from rfl),
        hother _ (show '\t'.isDigit = false from rfl),
        hother _ (show '\r'.isDigit = false from rfl)]
    · obtain ⟨fuel, rfl⟩ := Nat.exists_eq_add_of_lt hfuel
      rw [valueAt, if_neg (hother _ rfl), if_neg (hother _ rfl), if_neg (hother _ rfl),
        if_neg (hother _ rfl), if_neg (hother _ rfl), if_neg (hother _ rfl), if_neg (hother _ rfl),
        if_neg (hother _ rfl), if_pos (.inr hc), List.append_assoc]
      exact h rest hrest offset

/-- **A whole number is read back**, if there is room for its digits. -/
lemma reads_int {n : Int} (h : (Nat.toDigits 10 n.natAbs).length ≤ digits) :
    Reads digits depth (toString n).toList (.int n) := by
  have htext : (toString n).toList =
      signChars (decide (n < 0)) ++ (Nat.toDigits 10 n.natAbs ++ []) := by
    cases n with
    | ofNat m =>
      change m.repr.toList = _
      rw [Nat.toList_repr, List.append_nil]
      rfl
    | negSucc m =>
      change ("-" ++ m.succ.repr).toList = _
      rw [String.toList_append, Nat.toList_repr, List.append_nil,
        decide_eq_true (Int.negSucc_lt_zero m)]
      rfl
  have hvalue : (if decide (n < 0) = true then -((n.natAbs : Nat) : Int) else (n.natAbs : Nat)) =
      n := by
    simp only [decide_eq_true_eq]
    omega
  rw [htext]
  refine reads_of_unsigned (isWhole_toDigits _) fun rest hrest offset => ?_
  have hread := unsigned_whole (decide (n < 0)) (isWhole_toDigits n.natAbs) h hrest
    offset
  rw [decimalValue_toDigits, hvalue] at hread
  exact hread

/-! ### Numbers of double precision -/

/-- **Digits of a number**, to be scaled by a power of ten: the number is read from them, also with
zeros behind them. -/
structure DigitsOf (x : Double) (ds : List Char) (exponent : Int) : Prop where
  digit : ∀ c ∈ ds, c.isDigit = true
  ne_nil : ds ≠ []
  head : ds.head? ≠ some '0'
  value : ∀ n ≤ 17, Double.ofDecimal x.isNegative (decimalValue ds * tenTo n) (exponent - n) = x

/-- The characters are a text of the number, without its sign. -/
def Tells (digits : Nat) (x : Double) (cs : List Char) : Prop :=
  ∃ whole behind, cs = whole ++ behind ∧ IsWhole whole ∧
    ∀ rest, Closes rest → ∀ offset,
      Gives (unsigned digits x.isNegative (whole ++ (behind ++ rest)) offset) (.double x) rest

namespace DigitsOf

variable {x : Double} {ds : List Char} {exponent : Int}

/-- The shortest digits of a number are such digits. -/
lemma shortest (hfinite : x.isFinite = true) (hzero : x.isZero = false) :
    DigitsOf x (Nat.toDigits 10 x.shortest.digits) x.shortest.exponent := by
  have hne := Double.digits_ne_zero_of_covers hzero (Double.shortest_spec hfinite hzero).1
  refine ⟨isDigit_of_mem_toDigits, Nat.toDigits_ne_nil, head?_toDigits hne, fun n hn => ?_⟩
  rw [decimalValue_toDigits]
  exact Double.ofDecimal_shortest hfinite hzero hn

variable (h : DigitsOf x ds exponent)

include h

lemma value_self : Double.ofDecimal x.isNegative (decimalValue ds) exponent = x := by
  simpa [Number.tenTo_zero] using h.value 0 (Nat.zero_le 17)

/-- Digits at the front of the number, and zeros behind them, may stand before the point. -/
lemma isWhole_take {n : Nat} (hn : 0 < n) (zeros : Nat) :
    IsWhole (ds.take n ++ List.replicate zeros '0') := by
  obtain ⟨hdigit, hne, hhead, -⟩ := h
  obtain ⟨c, cs, rfl⟩ := List.exists_cons_of_ne_nil hne
  obtain ⟨n, rfl⟩ := Nat.exists_eq_add_of_lt hn
  refine ⟨fun d hd => ?_, by simp, fun h => absurd h (by simpa using hhead)⟩
  rcases List.mem_append.1 hd with hd | hd
  · exact hdigit d (List.mem_of_mem_take hd)
  · exact isDigit_of_mem_zeros d hd

/-- A number below one: zeros between the point and the digits. -/
lemma tells_below (hroom : 16 ≤ digits) (zeros : Nat) (hpoint : ds.length + exponent = -zeros) :
    Tells digits x ('0' :: '.' :: (List.replicate zeros '0' ++ ds)) := by
  refine ⟨['0'], _, rfl, isWhole_zero, fun rest hrest offset => ?_⟩
  have hfraction : ∀ c ∈ List.replicate zeros '0' ++ ds, c.isDigit = true :=
    fun c hc => (List.mem_append.1 hc).elim (isDigit_of_mem_zeros c) (h.digit c)
  have hread := unsigned_point x.isNegative isWhole_zero ((by decide : 1 ≤ 16).trans hroom)
    (List.append_ne_nil_of_right_ne_nil _ h.ne_nil) hfraction hrest offset
  have hvalue : decimalValue (['0'] ++ (List.replicate zeros '0' ++ ds)) = decimalValue ds := by
    have hzeros : decimalValue (List.replicate (zeros + 1) '0') = 0 :=
      Nat.ofDigitChars_replicate_zero
    rw [← List.append_assoc, List.singleton_append, ← List.replicate_succ, decimalValue_append,
      hzeros]
    rfl
  have hexponent : -((List.replicate zeros '0' ++ ds).length : Int) = exponent := by
    rw [List.length_append, List.length_replicate]
    omega
  rw [hvalue, hexponent, h.value_self] at hread
  exact hread

/-- A number with its point among the digits. -/
lemma tells_among (hroom : 16 ≤ digits) {n : Nat} (hn : 0 < n) (hless : n < ds.length)
    (hsmall : n ≤ 16) (hpoint : ds.length + exponent = n) :
    Tells digits x (ds.take n ++ '.' :: ds.drop n) := by
  have hwhole : IsWhole (ds.take n) := by simpa using h.isWhole_take hn 0
  refine ⟨_, _, rfl, hwhole, fun rest hrest offset => ?_⟩
  have hfraction : ∀ c ∈ ds.drop n, c.isDigit = true :=
    fun c hc => h.digit c (List.mem_of_mem_drop hc)
  have hread := unsigned_point x.isNegative hwhole
    ((List.length_take_le _ _).trans (hsmall.trans hroom))
    (by rwa [Ne, List.drop_eq_nil_iff, Nat.not_le]) hfraction hrest offset
  have hexponent : -((ds.drop n).length : Int) = exponent := by
    rw [List.length_drop]
    omega
  rw [List.take_append_drop, hexponent, h.value_self] at hread
  exact hread

/-- A whole number: zeros between the digits and the point. -/
lemma tells_whole (hroom : 16 ≤ digits) (zeros : Nat) (hsmall : ds.length + zeros ≤ 16)
    (hexponent : exponent = zeros) :
    Tells digits x (ds ++ List.replicate zeros '0' ++ ['.', '0']) := by
  have hwhole : IsWhole (ds ++ List.replicate zeros '0') := by
    simpa using h.isWhole_take (List.length_pos_iff.2 h.ne_nil) zeros
  refine ⟨_, _, rfl, hwhole, fun rest hrest offset => ?_⟩
  have hfits : (ds ++ List.replicate zeros '0').length ≤ digits := by
    rw [List.length_append, List.length_replicate]
    exact hsmall.trans hroom
  have hread := unsigned_point x.isNegative hwhole hfits (List.cons_ne_nil _ _) isWhole_zero.digit
    hrest offset
  have hvalue : decimalValue (ds ++ List.replicate zeros '0' ++ ['0']) =
      decimalValue ds * tenTo (zeros + 1) := by
    rw [List.append_assoc, ← List.replicate_succ', decimalValue_append,
      Nat.ofDigitChars_replicate_zero, Nat.mul_comm]
    rfl
  have hpower : (-(['0'].length : Int)) = exponent - ((zeros + 1 : Nat) : Int) := by
    simp only [List.length_singleton]
    omega
  rw [hvalue, hpower, h.value (zeros + 1) (by omega)] at hread
  exact hread

end DigitsOf

/-- The digits of an exponent, two at least. -/
def powerChars (n : Nat) : List Char :=
  if (Nat.toDigits 10 n).length < 2 then '0' :: Nat.toDigits 10 n else Nat.toDigits 10 n

lemma powerChars_spec (n : Nat) : powerChars n ≠ [] ∧ (∀ c ∈ powerChars n, c.isDigit = true) ∧
    decimalValue (powerChars n) = n := by
  unfold powerChars
  split_ifs
  · exact ⟨List.cons_ne_nil _ _, List.forall_mem_cons.2 ⟨rfl, isDigit_of_mem_toDigits⟩,
      decimalValue_toDigits n⟩
  · exact ⟨Nat.toDigits_ne_nil, isDigit_of_mem_toDigits, decimalValue_toDigits n⟩

/-- The digits of a number with its exponent behind them: a point stands behind the first digit if
there are others. -/
def powerText (ds : List Char) (power : Int) : List Char :=
  ds.take 1 ++ ((if ds.drop 1 = [] then [] else '.' :: ds.drop 1) ++
    'e' :: (if decide (power < 0) then '-' else '+') :: powerChars power.natAbs)

lemma DigitsOf.tells_power {x : Double} {ds : List Char} {exponent : Int}
    (h : DigitsOf x ds exponent) (hroom : 16 ≤ digits) {power : Int}
    (hpower : ds.length + exponent - 1 = power) : Tells digits x (powerText ds power) := by
  have hwhole : IsWhole (ds.take 1) := by simpa using h.isWhole_take Nat.one_pos 0
  have hlength : 0 < ds.length := List.length_pos_iff.2 h.ne_nil
  refine ⟨_, _, rfl, hwhole, fun rest hrest offset => ?_⟩
  obtain ⟨hne, hdigit, hvalue⟩ := powerChars_spec power.natAbs
  have hfraction : ∀ c ∈ ds.drop 1, c.isDigit = true :=
    fun c hc => h.digit c (List.mem_of_mem_drop hc)
  have hread := unsigned_power x.isNegative hwhole
    ((List.length_take_le _ _).trans ((by decide : 1 ≤ 16).trans hroom)) hfraction
    (decide (power < 0)) hne hdigit hrest offset
  have hexponent : (if decide (power < 0) = true then (-1 : Int) else 1) * (power.natAbs : Nat) -
      ((ds.drop 1).length : Nat) = exponent := by
    rw [List.length_drop]
    simp only [decide_eq_true_eq]
    split <;> omega
  rw [List.take_append_drop, hvalue, hexponent, h.value_self] at hread
  simpa using hread

lemma toList_toString (n : Nat) : (toString n).toList = Nat.toDigits 10 n := Nat.toList_repr

/-- **The text of the digits of a number**, in any of its shapes, is read. -/
lemma tells_decimalText {x : Double} {d : Decimal}
    (h : DigitsOf x (Nat.toDigits 10 d.digits) d.exponent) (hroom : 16 ≤ digits) :
    Tells digits x (Double.decimalText d).toList := by
  have hlength : 0 < (Nat.toDigits 10 d.digits).length := Nat.length_toDigits_pos
  unfold Double.decimalText
  simp only [toList_toString, List.isEmpty_iff]
  generalize Nat.toDigits 10 d.digits = ds at h hlength ⊢
  by_cases hpositional : Double.isPositional (ds.length + d.exponent) = true
  · have hbound : (ds.length : Int) + d.exponent ≤ 16 := by
      simpa [Double.isPositional] using (Bool.and_eq_true_iff.1 hpositional).2
    rw [if_pos hpositional]
    split_ifs with hbelow hnone
    · -- the point stands in front
      have hread := h.tells_below hroom ((ds.length : Int) + d.exponent).natAbs (by omega)
      simpa using hread
    · -- the point stands behind
      rw [List.drop_eq_nil_iff] at hnone
      have hread := h.tells_whole hroom
        (((ds.length : Int) + d.exponent).toNat - ds.length) (by omega) (by omega)
      simpa [List.take_of_length_le hnone] using hread
    · -- the point stands among the digits
      rw [List.drop_eq_nil_iff, Nat.not_le] at hnone
      have hread := h.tells_among hroom (n := ((ds.length : Int) + d.exponent).toNat) (by omega)
        hnone (by omega) (by omega)
      simpa [Nat.sub_eq_zero_of_le hnone.le] using hread
  · rw [if_neg hpositional]
    have hread := h.tells_power hroom rfl
    generalize (ds.length : Int) + d.exponent - 1 = power at hread ⊢
    have htext : (if (toString power.natAbs).length < 2 then "0" ++ toString power.natAbs
        else toString power.natAbs).toList = powerChars power.natAbs := by
      rw [powerChars, ← toList_toString, String.length_toList]
      split <;> simp
    simp only [String.toList_append, String.toList_ofList, htext]
    simp only [powerText, decide_eq_true_eq] at hread
    split_ifs at hread ⊢ <;> simp_all

/-- **A finite number of double precision is read back** from its text, if there is room for sixteen
digits. -/
lemma reads_double {x : Double} (hfinite : x.isFinite = true) (hroom : 16 ≤ digits)
    (undefinedText infiniteText : String) :
    Reads digits depth (x.text undefinedText infiniteText).toList (.double x) := by
  have hdefined : x.isUndefined = false := by
    have hmagnitude : x.magnitude < Double.infiniteMagnitude := of_decide_eq_true hfinite
    exact decide_eq_false (Nat.not_lt.2 hmagnitude.le)
  have hsign : (if x.isNegative = true then "-" else "").toList = signChars x.isNegative := by
    cases x.isNegative <;> rfl
  have htells : Tells digits x
      (if x.isZero then "0.0" else Double.decimalText x.shortest).toList := by
    cases hzero : x.isZero with
    | false => exact tells_decimalText (.shortest hfinite hzero) hroom
    | true =>
      have hmagnitude : x.magnitude = 0 := by simpa [Double.isZero] using hzero
      have hvalue : Double.ofDecimal x.isNegative (decimalValue (['0'] ++ ['0']))
          (-(['0'].length : Int)) = x := by
        rw [Double.ofDecimal, if_pos (by decide), ← hmagnitude, Double.make_self]
      refine ⟨['0'], ['.', '0'], by rw [if_pos rfl]; rfl, isWhole_zero, fun rest hrest offset => ?_⟩
      have hread := unsigned_point x.isNegative isWhole_zero ((by decide : 1 ≤ 16).trans hroom)
        (List.cons_ne_nil _ _) isWhole_zero.digit hrest offset
      rw [hvalue] at hread
      exact hread
  obtain ⟨whole, behind, hchars, hwhole, hread⟩ := htells
  have htext : (x.text undefinedText infiniteText).toList =
      signChars x.isNegative ++ (whole ++ behind) := by
    rw [← hchars, ← hsign, ← String.toList_append, Double.text, hdefined, hfinite]
    cases x.isZero <;> rfl
  rw [htext]
  exact reads_of_unsigned hwhole hread

end PgSchema.Json
