import Mathlib.Tactic.Lemma
import Mathlib.Tactic.Ring
import PgSchema.Number.Shortest

/-!
Fractions rounded to double precision, and the shortest decimal number that stands for a number of
double precision.

A number of double precision comes out of every fraction between the bounds around it
(`ofFraction_of_near`), and so out of every decimal number that covers it (`ofDecimal_of_covers`).
On the grid of seventeen digits one of the two neighbours of a number always rounds to the number
(`covers_neighbour`), so that the search for few digits ends, and what it finds reads back
(`ofDecimal_shortest`).
-/

namespace PgSchema.Number

lemma twoTo_pos (n : Nat) : 0 < twoTo n := Nat.two_pow_pos n

lemma twoTo_add (m n : Nat) : twoTo (m + n) = twoTo m * twoTo n := Nat.pow_add 2 m n

lemma mul_twoTo_add (k m n : Nat) : k * twoTo (m + n) = twoTo m * (k * twoTo n) := by
  rw [twoTo_add, Nat.mul_left_comm]

lemma twoTo_lt {m n : Nat} (h : twoTo m < twoTo n) : m < n :=
  (Nat.pow_lt_pow_iff_right one_lt_two).1 h

lemma twoTo_le {m n : Nat} (h : m ≤ n) : twoTo m ≤ twoTo n := Nat.pow_le_pow_right (by decide) h

lemma tenTo_pos (n : Nat) : 0 < tenTo n := Nat.pow_pos (by decide : 0 < 10)

lemma tenTo_zero : tenTo 0 = 1 := rfl

lemma tenTo_add (m n : Nat) : tenTo (m + n) = tenTo m * tenTo n := Nat.pow_add 10 m n

lemma tenTo_le {m n : Nat} (h : m ≤ n) : tenTo m ≤ tenTo n := Nat.pow_le_pow_right (by decide) h

/-! ### The nearest whole number -/

/-- **A whole number within half a unit** of a quotient is what the quotient is rounded to; at the
ends of the way it has to be even. -/
lemma roundDiv_eq {num den q : Nat} (hden : 0 < den) (hlow : 2 * (q * den) ≤ 2 * num + den)
    (hhigh : 2 * num ≤ 2 * (q * den) + den)
    (htie : q % 2 = 1 → 2 * (q * den) < 2 * num + den ∧ 2 * num < 2 * (q * den) + den) :
    roundDiv num den = q := by
  have hsplit : num / den * den + num % den = num := by
    rw [Nat.mul_comm]
    exact Nat.div_add_mod num den
  have hrest : num % den < den := Nat.mod_lt num hden
  unfold roundDiv
  dsimp only
  generalize num / den = k at hsplit
  generalize num % den = r at hsplit hrest
  have habove : q ≤ k + 1 := by
    by_contra hnot
    have hmul := Nat.mul_le_mul_right den (show k + 2 ≤ q by omega)
    rw [Nat.add_mul] at hmul
    omega
  have hbelow : k ≤ q := by
    by_contra hnot
    have hmul := Nat.mul_le_mul_right den (show q + 1 ≤ k by omega)
    rw [Nat.add_mul] at hmul
    omega
  obtain rfl | rfl : k = q ∨ q = k + 1 := by omega
  · split_ifs <;> omega
  · rw [Nat.add_mul] at hlow hhigh htie
    split_ifs <;> omega

/-! ### The scale of a fraction -/

/-- The number of binary digits before the point of a fraction, less one. -/
def widthOf (num den : Nat) : Nat :=
  let width := num.log2 - den.log2
  if num < den * twoTo width then width - 1 else width

lemma widthOf_spec {num den : Nat} (hden : 0 < den) (h : den ≤ num) :
    den * twoTo (widthOf num den) ≤ num ∧ num < den * twoTo (widthOf num den + 1) := by
  have hnum : num ≠ 0 := by omega
  have hnumLow : twoTo num.log2 ≤ num := Nat.log2_self_le hnum
  have hnumHigh : num < twoTo (num.log2 + 1) := Nat.lt_log2_self
  have hdenLow : twoTo den.log2 ≤ den := Nat.log2_self_le hden.ne'
  have hdenHigh : den < twoTo (den.log2 + 1) := Nat.lt_log2_self
  have hlog : den.log2 ≤ num.log2 := by
    have hlt := twoTo_lt (hdenLow.trans_lt (h.trans_lt hnumHigh))
    omega
  obtain ⟨width, hwidth⟩ := Nat.exists_eq_add_of_le hlog
  have hup : num < den * twoTo (width + 1) := by
    refine hnumHigh.trans_le ?_
    rw [hwidth, Nat.add_assoc, twoTo_add]
    exact Nat.mul_le_mul_right _ hdenLow
  unfold widthOf
  rw [hwidth, Nat.add_sub_cancel_left]
  dsimp only
  split_ifs with hlt
  · -- the quotient of the first digits was one digit too wide
    obtain ⟨less, rfl⟩ : ∃ less, width = less + 1 := by
      refine Nat.exists_eq_succ_of_ne_zero ?_
      rintro rfl
      simp [twoTo] at hlt
      omega
    refine ⟨?_, hlt⟩
    refine le_trans ?_ hnumLow
    rw [hwidth, Nat.add_sub_cancel, show den.log2 + (less + 1) = den.log2 + 1 + less by omega,
      twoTo_add]
    exact Nat.mul_le_mul_right _ hdenHigh.le
  · exact ⟨by omega, hup⟩

/-- The scale at which a significand has fifty-three bits, or else the lowest one. -/
lemma scale_eq {num den s : Nat} (hden : 0 < den) (hlow : s = 0 ∨ den * twoTo (52 + s) ≤ num)
    (hhigh : num < den * twoTo (53 + s)) : widthOf num den - 52 = s := by
  by_cases h : den ≤ num
  · obtain ⟨hspecLow, hspecHigh⟩ := widthOf_spec hden h
    have hbelow : widthOf num den < 53 + s :=
      twoTo_lt (Nat.lt_of_mul_lt_mul_left (hspecLow.trans_lt hhigh))
    rcases hlow with rfl | hlow
    · omega
    · have habove : 52 + s < widthOf num den + 1 :=
        twoTo_lt (Nat.lt_of_mul_lt_mul_left (hlow.trans_lt hspecHigh))
      omega
  · have hs : s = 0 := hlow.resolve_right fun hlow =>
      h ((Nat.le_mul_of_pos_right den (twoTo_pos _)).trans hlow)
    have hlog : num.log2 - den.log2 = 0 := by
      rcases Nat.eq_zero_or_pos num with rfl | hnum
      · simp
      · have hlt := twoTo_lt ((Nat.log2_self_le hnum.ne').trans_lt
          ((Nat.lt_of_not_le h).trans Nat.lt_log2_self))
        omega
    unfold widthOf
    rw [hlog, hs]
    dsimp only
    split_ifs <;> rfl

namespace Double

/-! ### Parts of a number -/

variable {x : Double}

lemma magnitude_eq (x : Double) : x.magnitude = x.scale * twoTo 52 + x.significand := by
  have h52 : twoTo 52 = 4503599627370496 := rfl
  unfold scale significand
  rw [h52]
  split <;> omega

lemma significand_lt (x : Double) : x.significand < 2 ^ 53 := by
  have h52 : twoTo 52 = 4503599627370496 := rfl
  unfold significand
  rw [h52]
  split <;> omega

/-- Above the lowest scale the significand has all its bits. -/
lemma le_significand (h : 0 < x.scale) : 2 ^ 52 ≤ x.significand := by
  have h52 : twoTo 52 = 4503599627370496 := rfl
  unfold scale at h
  unfold significand
  rw [h52] at h ⊢
  split <;> omega

lemma significand_pos (h : x.isZero = false) : 0 < x.significand := by
  have h52 : twoTo 52 = 4503599627370496 := rfl
  have hmagnitude : x.magnitude ≠ 0 := by simpa [isZero] using h
  unfold significand
  rw [h52]
  split <;> omega

/-- A number is made of its sign and its magnitude. -/
lemma make_self (x : Double) : make x.isNegative x.magnitude = x := by
  have h63 : twoTo 63 = 9223372036854775808 := rfl
  obtain ⟨bits⟩ := x
  have hbits : bits.toNat < 2 ^ 64 := bits.toNat_lt
  have hsum : (if isNegative ⟨bits⟩ then twoTo 63 else 0) + magnitude ⟨bits⟩ = bits.toNat := by
    unfold isNegative magnitude
    rw [h63]
    by_cases h : 9223372036854775808 ≤ bits.toNat
    · simp only [decide_eq_true h, if_true]
      omega
    · simp only [decide_eq_false h]
      rw [if_neg (by decide)]
      omega
  rw [make, hsum, UInt64.ofNat_toNat]

/-! ### The bounds around a number -/

lemma mul_boundUnit (n : Nat) : n * boundUnit = 4 * (n * twoTo 1074) := by
  rw [boundUnit, Nat.mul_left_comm]

/-- The upper bound of a number, half a last place above it. -/
lemma upperBound_mul (x : Double) (den : Nat) : x.upperBound * den =
    4 * (x.significand * (den * twoTo x.scale)) + 2 * (den * twoTo x.scale) := by
  rw [upperBound, units]
  ring

/-- The lower bound of a number is half a last place below it, and a quarter below a power of
two. -/
lemma lowerBound_mul (h : 0 < x.significand) (den : Nat) :
    x.lowerBound * den + 2 * (den * twoTo x.scale) = 4 * (x.significand * (den * twoTo x.scale)) ∧
        ¬ (x.significand = 2 ^ 52 ∧ 0 < x.scale) ∨
      x.lowerBound * den + den * twoTo x.scale = 4 * (x.significand * (den * twoTo x.scale)) ∧
        x.significand = 2 ^ 52 ∧ 0 < x.scale := by
  have hone : twoTo x.scale ≤ x.significand * twoTo x.scale := Nat.le_mul_of_pos_left _ h
  unfold lowerBound
  rw [units]
  dsimp only
  split_ifs with hedge
  · refine .inr ⟨?_, hedge⟩
    rw [Nat.mul_comm den (twoTo x.scale), ← Nat.add_mul, Nat.sub_add_cancel (by omega)]
    ring
  · refine .inl ⟨?_, hedge⟩
    rw [show 2 * (den * twoTo x.scale) = 2 * twoTo x.scale * den by ring, ← Nat.add_mul,
      Nat.sub_add_cancel (by omega)]
    ring

/-! ### Fractions near a number -/

/-- **The fraction is within the bounds around a number**, and not on them if the significand is
odd. -/
structure Near (x : Double) (num den : Nat) : Prop where
  low : x.lowerBound * den ≤ num * boundUnit
  high : num * boundUnit ≤ x.upperBound * den
  strict : x.significand % 2 = 1 →
    x.lowerBound * den < num * boundUnit ∧ num * boundUnit < x.upperBound * den

namespace Near

variable {num den : Nat}

/-- **In units of the last place** a fraction near a number is within half a unit of the
significand, and not at the ends of the way if the significand is odd. -/
lemma halves (h : x.Near num den) (hpos : 0 < x.significand) :
    2 * (x.significand * (den * twoTo x.scale)) ≤ 2 * (num * twoTo 1074) + den * twoTo x.scale ∧
      2 * (num * twoTo 1074) ≤ 2 * (x.significand * (den * twoTo x.scale)) + den * twoTo x.scale ∧
      (x.significand % 2 = 1 →
        2 * (x.significand * (den * twoTo x.scale)) <
            2 * (num * twoTo 1074) + den * twoTo x.scale ∧
          2 * (num * twoTo 1074) <
            2 * (x.significand * (den * twoTo x.scale)) + den * twoTo x.scale) := by
  obtain ⟨hlow, hhigh, hstrict⟩ := h
  have hlower := lowerBound_mul hpos den
  rw [mul_boundUnit] at hlow hhigh hstrict
  rw [upperBound_mul] at hhigh hstrict
  refine ⟨by omega, by omega, fun hodd => ?_⟩
  have := hstrict hodd
  omega

/-- It is below the next power of two. -/
lemma lt_top (h : x.Near num den) (hpos : 0 < x.significand) (hden : 0 < den) :
    num * twoTo 1074 < den * twoTo (53 + x.scale) := by
  obtain ⟨-, hhigh, -⟩ := h.halves hpos
  have hplace : 0 < den * twoTo x.scale := Nat.mul_pos hden (twoTo_pos _)
  have hmost := Nat.mul_le_mul_right (den * twoTo x.scale)
    (show x.significand ≤ 2 ^ 53 - 1 from Nat.le_sub_one_of_lt x.significand_lt)
  rw [mul_twoTo_add]
  change _ < 2 ^ 53 * _
  omega

/-- A fraction of a lower scale is near a power of two only, a quarter of a unit below it. -/
lemma quarter_of_lt (h : x.Near num den) (hpos : 0 < x.significand) (hscale : x.scale ≠ 0)
    (hlt : num * twoTo 1074 < den * twoTo (52 + x.scale)) : x.significand = 2 ^ 52 ∧
      4 * (2 ^ 52 * (den * twoTo x.scale)) ≤ 4 * (num * twoTo 1074) + den * twoTo x.scale := by
  have hlow := h.low
  rw [mul_boundUnit] at hlow
  have hfull : 2 ^ 52 ≤ x.significand := le_significand (Nat.pos_of_ne_zero hscale)
  rw [mul_twoTo_add] at hlt
  change _ < 2 ^ 52 * _ at hlt
  rcases lowerBound_mul hpos den with ⟨hlower, hnot⟩ | ⟨hlower, hedge, -⟩
  · have hmost := Nat.mul_le_mul_right (den * twoTo x.scale)
      (show 2 ^ 52 + 1 ≤ x.significand by omega)
    omega
  · rw [hedge] at hlower
    exact ⟨hedge, by omega⟩

end Near

/-- The magnitude of a fraction, by its scale and by what its quotient at that scale is rounded
to. -/
lemma magnitudeOf_eq {num den scale q : Nat} (hfinite : x.isFinite = true)
    (hscale : widthOf (num * twoTo 1074) den - 52 = scale)
    (hround : roundDiv (num * twoTo 1074) (den * twoTo scale) = q)
    (hmagnitude : scale * twoTo 52 + q = x.magnitude) : magnitudeOf num den = x.magnitude := by
  have hbound : x.magnitude < infiniteMagnitude := of_decide_eq_true hfinite
  subst hscale hround
  rw [← hmagnitude] at hbound ⊢
  exact min_eq_right hbound.le

/-- **A fraction near a finite number** has its magnitude. -/
lemma magnitudeOf_of_near {num den : Nat} (hfinite : x.isFinite = true) (hzero : x.isZero = false)
    (hden : 0 < den) (h : x.Near num den) : magnitudeOf num den = x.magnitude := by
  have hpos := significand_pos hzero
  obtain ⟨hlow, hhigh, htie⟩ := h.halves hpos
  by_cases hscale : x.scale = 0 ∨ den * twoTo (52 + x.scale) ≤ num * twoTo 1074
  · have hround := roundDiv_eq (Nat.mul_pos hden (twoTo_pos x.scale)) hlow hhigh htie
    exact magnitudeOf_eq hfinite (scale_eq hden hscale (h.lt_top hpos hden)) hround
      x.magnitude_eq.symm
  · -- a power of two, and a fraction below it: it is counted in units of half the size
    obtain ⟨hscale, hlt⟩ := not_or.1 hscale
    obtain ⟨hedge, hquarter⟩ := h.quarter_of_lt hpos hscale (Nat.lt_of_not_le hlt)
    obtain ⟨less, hless⟩ := Nat.exists_eq_succ_of_ne_zero hscale
    have hhalf : den * twoTo x.scale = 2 * (den * twoTo less) := by
      rw [hless, Nat.succ_eq_one_add, mul_twoTo_add]
      rfl
    rw [mul_twoTo_add] at hlt
    change ¬ 2 ^ 52 * _ ≤ _ at hlt
    rw [hhalf] at hlt hquarter
    have hplace : 0 < den * twoTo less := Nat.mul_pos hden (twoTo_pos less)
    have hlowest : den * twoTo (52 + less) ≤ num * twoTo 1074 := by
      rw [mul_twoTo_add]
      change 2 ^ 52 * _ ≤ _
      omega
    have hhighest : num * twoTo 1074 < den * twoTo (53 + less) := by
      rw [mul_twoTo_add]
      change _ < 2 ^ 53 * _
      omega
    have hround : roundDiv (num * twoTo 1074) (den * twoTo less) = 2 ^ 53 :=
      roundDiv_eq hplace (by omega) (by omega) fun hodd => absurd hodd (by decide)
    refine magnitudeOf_eq hfinite (scale_eq hden (.inr hlowest) hhighest) hround ?_
    rw [magnitude_eq, hless, hedge, Nat.succ_mul, Nat.add_assoc]
    rfl

lemma ofFraction_of_near {num den : Nat} (hfinite : x.isFinite = true) (hzero : x.isZero = false)
    (hden : 0 < den) (hnum : num ≠ 0) (h : x.Near num den) :
    ofFraction x.isNegative num den = x := by
  rw [ofFraction, if_neg hnum, magnitudeOf_of_near hfinite hzero hden h, make_self]

end Double

/-! ### Decimal numbers -/

namespace Decimal

/-- The numerator of a decimal number. -/
def num (d : Decimal) : Nat := d.digits * tenTo d.exponent.toNat

/-- The denominator of a decimal number. -/
def den (d : Decimal) : Nat := tenTo (-d.exponent).toNat

lemma den_pos (d : Decimal) : 0 < d.den := tenTo_pos _

lemma num_ne_zero {d : Decimal} (h : d.digits ≠ 0) : d.num ≠ 0 :=
  Nat.mul_ne_zero h (tenTo_pos _).ne'

lemma cmp_eq (d : Decimal) (num den : Nat) :
    d.cmp num den = compare (d.num * den) (num * d.den) := by
  unfold cmp Decimal.num Decimal.den
  split
  · rw [show (-d.exponent).toNat = 0 by omega, tenTo_zero, Nat.mul_one]
  · rw [show d.exponent.toNat = 0 by omega, show (-d.exponent).toNat = d.exponent.natAbs by omega,
      tenTo_zero, Nat.mul_one]

end Decimal

namespace Double

variable {x : Double}

lemma covers_iff (x : Double) (d : Decimal) : x.covers d = true ↔ x.Near d.num d.den := by
  have hnear : x.Near d.num d.den ↔
      (x.lowerBound * d.den < d.num * boundUnit ∨
        x.significand % 2 = 0 ∧ x.lowerBound * d.den = d.num * boundUnit) ∧
      (d.num * boundUnit < x.upperBound * d.den ∨
        x.significand % 2 = 0 ∧ d.num * boundUnit = x.upperBound * d.den) := by
    constructor
    · rintro ⟨hlow, hhigh, hstrict⟩
      omega
    · rintro ⟨hlow, hhigh⟩
      constructor <;> omega
  rw [hnear, covers, Decimal.cmp_eq, Decimal.cmp_eq]
  simp only [Bool.and_eq_true, Bool.or_eq_true, beq_iff_eq, Nat.compare_eq_gt, Nat.compare_eq_lt,
    Nat.compare_eq_eq]
  rw [eq_comm (a := d.num * boundUnit) (b := x.lowerBound * d.den)]

/-- **A decimal number that covers a finite number** is read as this number, if it is of a size that
numbers of double precision have. -/
lemma ofDecimal_of_covers {d : Decimal} (hfinite : x.isFinite = true) (hzero : x.isZero = false)
    (hdigits : d.digits ≠ 0) (hlong : d.digits < 2 ^ 200) (hlow : -400 ≤ d.exponent)
    (hhigh : d.exponent ≤ 400) (h : x.covers d = true) :
    ofDecimal x.isNegative d.digits d.exponent = x := by
  have hlog : d.digits.log2 < 200 := (Nat.log2_lt hdigits).2 hlong
  have hfraction := ofFraction_of_near hfinite hzero d.den_pos (Decimal.num_ne_zero hdigits)
    ((covers_iff x d).1 h)
  unfold ofDecimal
  dsimp only
  rw [if_neg hdigits, if_neg (by omega), if_neg (by omega)]
  unfold Decimal.num Decimal.den at hfraction
  split
  · rwa [show (-d.exponent).toNat = 0 by omega] at hfraction
  · rwa [show d.exponent.toNat = 0 by omega, show (-d.exponent).toNat = d.exponent.natAbs by omega,
      tenTo_zero, Nat.mul_one] at hfraction

end Double

/-! ### Powers of ten below a fraction -/

/-- The power of ten is at most the fraction. -/
def PowerLe (exponent : Int) (num den : Nat) : Prop :=
  tenTo exponent.toNat * den ≤ num * tenTo (-exponent).toNat

lemma cmp_power_eq_gt (exponent : Int) (num den : Nat) :
    ((Decimal.mk 1 exponent).cmp num den == .gt) = true ↔ ¬ PowerLe exponent num den := by
  rw [beq_iff_eq, Decimal.cmp_eq, Nat.compare_eq_gt, Decimal.num, Decimal.den, PowerLe, Nat.one_mul,
    Nat.not_le]

/-- One power of ten, counted from another one. -/
lemma tenTo_shift (e : Int) (n : Nat) :
    tenTo n * tenTo e.toNat * tenTo (-(e + n)).toNat = tenTo (e + n).toNat * tenTo (-e).toNat := by
  rw [← tenTo_add, ← tenTo_add, ← tenTo_add]
  congr 1
  omega

lemma powerLe_add_iff (e : Int) (n : Nat) (num den : Nat) :
    PowerLe (e + n) num den ↔ tenTo n * (tenTo e.toNat * den) ≤ num * tenTo (-e).toNat := by
  have hshift := tenTo_shift e n
  have hleft : tenTo (e + n).toNat * den * tenTo (-e).toNat =
      tenTo n * (tenTo e.toNat * den) * tenTo (-(e + n)).toNat := by
    rw [Nat.mul_right_comm, ← hshift]
    ring
  have hright : num * tenTo (-(e + n)).toNat * tenTo (-e).toNat =
      num * tenTo (-e).toNat * tenTo (-(e + n)).toNat := Nat.mul_right_comm _ _ _
  rw [PowerLe, ← Nat.mul_le_mul_right_iff (tenTo_pos (-e).toNat), hleft, hright,
    Nat.mul_le_mul_right_iff (tenTo_pos _)]

lemma PowerLe.mono {e : Int} {num den num' den' : Nat} (h : PowerLe e num den)
    (hle : num * den' ≤ num' * den) (hden : 0 < den) : PowerLe e num' den' := by
  refine Nat.le_of_mul_le_mul_right ?_ hden
  calc tenTo e.toNat * den' * den = tenTo e.toNat * den * den' := Nat.mul_right_comm _ _ _
    _ ≤ num * tenTo (-e).toNat * den' := Nat.mul_le_mul_right _ h
    _ = num * den' * tenTo (-e).toNat := Nat.mul_right_comm _ _ _
    _ ≤ num' * den * tenTo (-e).toNat := Nat.mul_le_mul_right _ hle
    _ = num' * tenTo (-e).toNat * den := Nat.mul_right_comm _ _ _

namespace Double

/-! ### The decade of a number -/

lemma decadeFrom_spec {num den : Nat} (fuel : Nat) {k : Int} (hlow : PowerLe k num den)
    (hhigh : ¬ PowerLe (k + fuel + 1) num den) :
    PowerLe (decadeFrom fuel k num den) num den ∧
      ¬ PowerLe (decadeFrom fuel k num den + 1) num den ∧
      k ≤ decadeFrom fuel k num den ∧ decadeFrom fuel k num den ≤ k + fuel := by
  induction fuel generalizing k with
  | zero => exact ⟨hlow, by simpa [decadeFrom] using hhigh, Int.le_refl k, by simp [decadeFrom]⟩
  | succ fuel ih =>
    rw [decadeFrom]
    by_cases hnext : PowerLe (k + 1) num den
    · rw [if_neg (by rw [cmp_power_eq_gt]; exact not_not.2 hnext)]
      have hsame : k + ((fuel + 1 : Nat) : Int) + 1 = k + 1 + fuel + 1 := by omega
      rw [hsame] at hhigh
      obtain ⟨hle, hlt, hmin, hmax⟩ := ih hnext hhigh
      exact ⟨hle, hlt, by omega, by omega⟩
    · rw [if_pos ((cmp_power_eq_gt _ _ _).2 hnext)]
      exact ⟨hlow, hnext, Int.le_refl k, by omega⟩

/-- The estimate from which the decade of a number with so many binary digits is searched. -/
def estimate (bits : Nat) : Int := ((bits : Int) - 1074) * 30103 / 100000 - 1

/-- The estimate is right for every size that numbers of double precision have. -/
lemma estimate_spec : ∀ bits ∈ List.range 2098,
    tenTo (estimate bits).toNat * twoTo 1074 ≤ twoTo bits * tenTo (-estimate bits).toNat ∧
      twoTo (bits + 1) * tenTo (-(estimate bits + 5)).toNat <
        tenTo (estimate bits + 5).toNat * twoTo 1074 := by
  decide +kernel

variable {x : Double}

lemma units_pos (hzero : x.isZero = false) : 0 < x.units :=
  Nat.mul_pos (significand_pos hzero) (twoTo_pos _)

lemma log2_units_lt (hfinite : x.isFinite = true) (hzero : x.isZero = false) :
    x.units.log2 < 2098 := by
  have hbound : x.magnitude < infiniteMagnitude := of_decide_eq_true hfinite
  have hmagnitude := magnitude_eq x
  have h52 : twoTo 52 = 4503599627370496 := rfl
  rw [infiniteMagnitude, hmagnitude, h52] at hbound
  have hscale : x.scale ≤ 2045 := by
    rcases Nat.eq_zero_or_pos x.scale with h | h
    · omega
    · have hfull := le_significand h
      omega
  have hlt : x.units < twoTo 2098 :=
    calc x.units < twoTo 53 * twoTo x.scale :=
          Nat.mul_lt_mul_of_pos_right (significand_lt x) (twoTo_pos _)
      _ ≤ twoTo 53 * twoTo 2045 := Nat.mul_le_mul_left _ (twoTo_le hscale)
      _ = twoTo 2098 := (twoTo_add 53 2045).symm
  exact twoTo_lt ((Nat.log2_self_le (units_pos hzero).ne').trans_lt hlt)

/-- **The decade of a finite number**: it begins at most at the number and ends behind it. -/
lemma decade_spec (hfinite : x.isFinite = true) (hzero : x.isZero = false) :
    PowerLe x.decade x.units (twoTo 1074) ∧ ¬ PowerLe (x.decade + 1) x.units (twoTo 1074) ∧
      -325 ≤ x.decade ∧ x.decade ≤ 310 := by
  have hbits := log2_units_lt hfinite hzero
  obtain ⟨hlow, hhigh⟩ := estimate_spec x.units.log2 (List.mem_range.2 hbits)
  have hbelow : twoTo x.units.log2 ≤ x.units := Nat.log2_self_le (units_pos hzero).ne'
  have habove : x.units < twoTo (x.units.log2 + 1) := Nat.lt_log2_self
  have hstart : PowerLe (estimate x.units.log2) x.units (twoTo 1074) :=
    PowerLe.mono hlow (Nat.mul_le_mul_right _ hbelow) (twoTo_pos _)
  have hend : ¬ PowerLe (estimate x.units.log2 + (4 : Nat) + 1) x.units (twoTo 1074) := by
    intro h
    have hwide : PowerLe (estimate x.units.log2 + 5) (twoTo (x.units.log2 + 1)) (twoTo 1074) :=
      PowerLe.mono (by simpa [Int.add_assoc] using h) (Nat.mul_le_mul_right _ habove.le)
        (twoTo_pos _)
    exact absurd hwide (Nat.not_le.2 hhigh)
  have hdecade : x.decade = decadeFrom 4 (estimate x.units.log2) x.units (twoTo 1074) := rfl
  obtain ⟨hle, hlt, hmin, hmax⟩ := decadeFrom_spec 4 hstart hend
  have hrange : -325 ≤ estimate x.units.log2 ∧ estimate x.units.log2 ≤ 306 := by
    unfold estimate
    omega
  rw [hdecade]
  exact ⟨hle, hlt, by omega, by omega⟩

/-! ### Decimal numbers of one value -/

/-- Fractions of one value are near the same numbers. -/
lemma Near.congr {num den num' den' : Nat} (hden : 0 < den) (hden' : 0 < den')
    (heq : num * den' = num' * den) (h : x.Near num den) : x.Near num' den' := by
  obtain ⟨hlow, hhigh, hstrict⟩ := h
  have hbound (bound : Nat) : bound * den * den' = bound * den' * den := Nat.mul_right_comm _ _ _
  have hvalue : num * boundUnit * den' = num' * boundUnit * den := by
    rw [Nat.mul_right_comm, heq, Nat.mul_right_comm]
  constructor
  · refine Nat.le_of_mul_le_mul_right ?_ hden
    rw [← hbound, ← hvalue]
    exact Nat.mul_le_mul_right _ hlow
  · refine Nat.le_of_mul_le_mul_right ?_ hden
    rw [← hbound, ← hvalue]
    exact Nat.mul_le_mul_right _ hhigh
  · intro hodd
    constructor
    · refine Nat.lt_of_mul_lt_mul_right (a := den) ?_
      rw [← hbound, ← hvalue]
      exact Nat.mul_lt_mul_of_pos_right (hstrict hodd).1 hden'
    · refine Nat.lt_of_mul_lt_mul_right (a := den) ?_
      rw [← hbound, ← hvalue]
      exact Nat.mul_lt_mul_of_pos_right (hstrict hodd).2 hden'

/-- **Zeros put behind the digits** do not matter if the exponent makes up for them. -/
lemma covers_shift (x : Double) (digits : Nat) (e : Int) (n : Nat) :
    x.covers ⟨digits * tenTo n, e⟩ = x.covers ⟨digits, e + n⟩ := by
  have hvalue : (Decimal.mk (digits * tenTo n) e).num * (Decimal.mk digits (e + n)).den =
      (Decimal.mk digits (e + n)).num * (Decimal.mk (digits * tenTo n) e).den := by
    have hshift := tenTo_shift e n
    simp only [Decimal.num, Decimal.den]
    rw [Nat.mul_assoc digits, Nat.mul_assoc digits, Nat.mul_assoc digits, hshift]
  rw [Bool.eq_iff_iff, covers_iff, covers_iff]
  exact ⟨Near.congr (Decimal.den_pos _) (Decimal.den_pos _) hvalue,
    Near.congr (Decimal.den_pos _) (Decimal.den_pos _) hvalue.symm⟩

/-- A decimal number without the zeros at its end. -/
lemma strip_spec (fuel : Nat) (d : Decimal) :
    x.covers (d.strip fuel) = x.covers d ∧ (d.strip fuel).digits ≤ d.digits ∧
      d.exponent ≤ (d.strip fuel).exponent ∧ (d.strip fuel).exponent ≤ d.exponent + fuel := by
  induction fuel generalizing d with
  | zero => exact ⟨rfl, Nat.le_refl _, Int.le_refl _, by simp [Decimal.strip]⟩
  | succ fuel ih =>
    rw [Decimal.strip]
    split_ifs with h
    · obtain ⟨hcovers, hdigits, hmin, hmax⟩ := ih ⟨d.digits / 10, d.exponent + 1⟩
      have hback : (⟨d.digits / 10 * tenTo 1, d.exponent⟩ : Decimal) = d := by
        obtain ⟨digits, exponent⟩ := d
        have hten : digits / 10 * tenTo 1 = digits :=
          Nat.div_mul_cancel (Nat.dvd_of_mod_eq_zero h.2)
        rw [hten]
      have hshift := covers_shift x (d.digits / 10) d.exponent 1
      rw [hback] at hshift
      refine ⟨hcovers.trans hshift.symm, hdigits.trans (Nat.div_le_self _ _), ?_, ?_⟩
      · exact (Int.le_add_of_nonneg_right (by decide)).trans hmin
      · dsimp only at hmax
        omega
    · exact ⟨rfl, Nat.le_refl _, Int.le_refl _, by omega⟩

/-! ### The search -/

/-- The numerator of a number counted on a grid of decimal numbers. -/
def gridNum (x : Double) (e : Int) : Nat := x.units * tenTo (-e).toNat

/-- The denominator of a number counted on a grid of decimal numbers. -/
def gridDen (e : Int) : Nat := tenTo e.toNat * twoTo 1074

lemma gridDen_pos (e : Int) : 0 < gridDen e := Nat.mul_pos (tenTo_pos _) (twoTo_pos _)

lemma onGrid?_eq (x : Double) (start : Int) (count : Nat) :
    x.onGrid? start count =
      match x.covers ⟨gridNum x (start - count + 1) / gridDen (start - count + 1),
          start - count + 1⟩,
        x.covers ⟨gridNum x (start - count + 1) / gridDen (start - count + 1) + 1,
          start - count + 1⟩ with
      | true, true =>
        some ⟨roundDiv (gridNum x (start - count + 1)) (gridDen (start - count + 1)),
          start - count + 1⟩
      | true, false => some ⟨gridNum x (start - count + 1) / gridDen (start - count + 1),
          start - count + 1⟩
      | false, true => some ⟨gridNum x (start - count + 1) / gridDen (start - count + 1) + 1,
          start - count + 1⟩
      | false, false => none := by
  unfold onGrid?
  generalize start - count + 1 = e
  have hgrid : (if 0 ≤ e then (x.units, twoTo 1074 * tenTo e.toNat)
      else (x.units * tenTo e.natAbs, twoTo 1074)) = (gridNum x e, gridDen e) := by
    unfold gridNum gridDen
    split
    · rw [show (-e).toNat = 0 by omega, tenTo_zero, Nat.mul_one, Nat.mul_comm]
    · rw [show e.toNat = 0 by omega, show (-e).toNat = e.natAbs by omega, tenTo_zero, Nat.one_mul]
  dsimp only
  exact hgrid ▸ rfl

lemma roundDiv_cases (num den : Nat) :
    roundDiv num den = num / den ∨ roundDiv num den = num / den + 1 := by
  unfold roundDiv
  dsimp only
  split_ifs
  · exact .inl rfl
  · exact .inr rfl
  · rcases Nat.mod_two_eq_zero_or_one (num / den) with h | h <;> rw [h]
    · exact .inl rfl
    · exact .inr rfl

/-- What is found on a grid reads back. -/
lemma covers_of_onGrid? {start : Int} {count : Nat} {d : Decimal}
    (h : x.onGrid? start count = some d) :
    x.covers d = true ∧ d.exponent = start - count + 1 ∧
      d.digits ≤ gridNum x (start - count + 1) / gridDen (start - count + 1) + 1 := by
  rw [onGrid?_eq] at h
  generalize start - count + 1 = e at h ⊢
  split at h
  · rename_i hbelow habove
    obtain rfl := Option.some.inj h
    rcases roundDiv_cases (gridNum x e) (gridDen e) with hround | hround <;> rw [hround]
    · exact ⟨hbelow, rfl, Nat.le_succ _⟩
    · exact ⟨habove, rfl, Nat.le_refl _⟩
  · rename_i hbelow _
    obtain rfl := Option.some.inj h
    exact ⟨hbelow, rfl, Nat.le_succ _⟩
  · rename_i _ habove
    obtain rfl := Option.some.inj h
    exact ⟨habove, rfl, Nat.le_refl _⟩
  · exact absurd h (by simp)

/-- **Seventeen digits are enough**: of the two neighbours of a number on a grid on which the number
has so many, one rounds to the number. -/
lemma covers_neighbour (hzero : x.isZero = false) {e : Int}
    (h : tenTo 16 * gridDen e ≤ gridNum x e) :
    x.covers ⟨gridNum x e / gridDen e, e⟩ = true ∨
      x.covers ⟨gridNum x e / gridDen e + 1, e⟩ = true := by
  -- all is counted in last places of the number, as they are on the grid
  have hlast : 0 < tenTo (-e).toNat * twoTo x.scale := Nat.mul_pos (tenTo_pos _) (twoTo_pos _)
  have hvalue : gridNum x e = x.significand * (tenTo (-e).toNat * twoTo x.scale) := by
    rw [gridNum, units]
    ring
  have hmost := Nat.mul_le_mul_right (tenTo (-e).toNat * twoTo x.scale)
    (Nat.le_sub_one_of_lt (significand_lt x))
  have hupper := upperBound_mul x (tenTo (-e).toNat)
  have hlower := lowerBound_mul (significand_pos hzero) (tenTo (-e).toNat)
  have hdigits (digits : Nat) :
      (Decimal.mk digits e).num * boundUnit = 4 * (digits * gridDen e) := by
    rw [Decimal.num, boundUnit, gridDen]
    ring
  have hsplit : gridNum x e / gridDen e * gridDen e + gridNum x e % gridDen e = gridNum x e := by
    rw [Nat.mul_comm]
    exact Nat.div_add_mod _ _
  have hrest : gridNum x e % gridDen e < gridDen e := Nat.mod_lt _ (gridDen_pos e)
  have hten : tenTo 16 = 10000000000000000 := rfl
  rw [hten] at h
  rw [← hvalue] at hmost hupper
  have hedge : x.significand = 2 ^ 52 →
      gridNum x e = 2 ^ 52 * (tenTo (-e).toNat * twoTo x.scale) := fun hs => by rw [hvalue, hs]
  rw [← hvalue] at hlower
  simp only [covers_iff]
  have hnear (digits : Nat)
      (hlow : x.lowerBound * tenTo (-e).toNat < 4 * (digits * gridDen e))
      (hhigh : 4 * (digits * gridDen e) < x.upperBound * tenTo (-e).toNat) :
      x.Near (Decimal.mk digits e).num (Decimal.mk digits e).den := by
    constructor
    · rw [hdigits]
      exact hlow.le
    · rw [hdigits]
      exact hhigh.le
    · intro _
      rw [hdigits]
      exact ⟨hlow, hhigh⟩
  by_cases hhalf : 2 * (gridNum x e % gridDen e) ≤ gridDen e
  · refine .inl (hnear _ ?_ ?_)
    · rcases hlower with ⟨hlower, -⟩ | ⟨hlower, hs, -⟩
      · omega
      · have := hedge hs
        omega
    · omega
  · refine .inr (hnear _ ?_ ?_) <;> rw [Nat.add_mul, Nat.one_mul]
    · rcases hlower with ⟨hlower, -⟩ | ⟨hlower, -, -⟩ <;> omega
    · omega

/-- A decimal number that reads back as a number other than zero has a digit other than zero. -/
lemma digits_ne_zero_of_covers (hzero : x.isZero = false) {d : Decimal} (h : x.covers d = true) :
    d.digits ≠ 0 := by
  intro hd
  have hlow := ((covers_iff x d).1 h).low
  have hpos := significand_pos hzero
  have hone : d.den * twoTo x.scale ≤ x.significand * (d.den * twoTo x.scale) :=
    Nat.le_mul_of_pos_left _ hpos
  have hlast : 0 < d.den * twoTo x.scale := Nat.mul_pos d.den_pos (twoTo_pos _)
  have hnum : d.num = 0 := by rw [Decimal.num, hd, Nat.zero_mul]
  rw [hnum, Nat.zero_mul] at hlow
  rcases lowerBound_mul hpos d.den with ⟨hlower, -⟩ | ⟨hlower, -⟩ <;> omega

/-- **The search finds digits that read back**. -/
lemma shortest_spec (hfinite : x.isFinite = true) (hzero : x.isZero = false) :
    x.covers x.shortest = true ∧ x.shortest.digits ≤ tenTo 17 ∧
      -341 ≤ x.shortest.exponent ∧ x.shortest.exponent ≤ 330 := by
  obtain ⟨hle, hlt, hmin, hmax⟩ := decade_spec hfinite hzero
  have hgrid (n : Nat) : tenTo n * gridDen (x.decade - n) ≤ gridNum x (x.decade - n) ∧
      gridNum x (x.decade - n) < tenTo (n + 1) * gridDen (x.decade - n) := by
    have hlow := powerLe_add_iff (x.decade - n) n x.units (twoTo 1074)
    have hhigh := powerLe_add_iff (x.decade - n) (n + 1) x.units (twoTo 1074)
    rw [show x.decade - n + n = x.decade by omega] at hlow
    rw [show x.decade - n + ((n + 1 : Nat) : Int) = x.decade + 1 by omega] at hhigh
    exact ⟨hlow.1 hle, Nat.lt_of_not_le fun h => hlt (hhigh.2 h)⟩
  have hexponent (n : Nat) : x.decade - ((n + 1 : Nat) : Int) + 1 = x.decade - n := by omega
  have hfound : ∃ d, (List.range 17).findSome? (fun n => x.onGrid? x.decade (n + 1)) = some d := by
    rw [← Option.ne_none_iff_exists']
    intro hnone
    have hlast : x.onGrid? x.decade (16 + 1) = none :=
      List.findSome?_eq_none_iff.1 hnone 16 (by decide)
    rw [onGrid?_eq, hexponent] at hlast
    rcases covers_neighbour hzero (hgrid 16).1 with hcovers | hcovers <;> rw [hcovers] at hlast <;>
      split at hlast <;> simp_all
  obtain ⟨d, hd⟩ := hfound
  obtain ⟨n, hn, hfound⟩ := List.exists_of_findSome?_eq_some hd
  have hn : n < 17 := List.mem_range.1 hn
  obtain ⟨hcovers, hexp, hdigits⟩ := covers_of_onGrid? hfound
  rw [hexponent] at hexp hdigits
  have hbound : d.digits ≤ tenTo (n + 1) :=
    hdigits.trans (Nat.div_lt_of_lt_mul (by rw [Nat.mul_comm]; exact (hgrid n).2))
  have hpower : tenTo (n + 1) ≤ tenTo 17 := tenTo_le hn
  have hshortest : x.shortest = d.strip 20 := by
    rw [shortest, hd]
    rfl
  obtain ⟨hstrip, hless, hfrom, hto⟩ := strip_spec (x := x) 20 d
  rw [hshortest]
  refine ⟨hstrip.trans hcovers, hless.trans (hbound.trans hpower), by omega, by omega⟩

/-- **A finite number is read from its shortest digits**, with zeros behind them or without. -/
lemma ofDecimal_shortest (hfinite : x.isFinite = true) (hzero : x.isZero = false) {n : Nat}
    (hn : n ≤ 17) :
    ofDecimal x.isNegative (x.shortest.digits * tenTo n) (x.shortest.exponent - n) = x := by
  obtain ⟨hcovers, hdigits, hmin, hmax⟩ := shortest_spec hfinite hzero
  have hpower : tenTo n ≤ tenTo 17 := tenTo_le hn
  refine ofDecimal_of_covers (d := ⟨x.shortest.digits * tenTo n, x.shortest.exponent - n⟩) hfinite
    hzero ?_ ?_ ?_ ?_ ?_
  · exact Nat.mul_ne_zero (digits_ne_zero_of_covers hzero hcovers) (tenTo_pos _).ne'
  · exact (Nat.mul_le_mul hdigits hpower).trans_lt (by decide)
  · change -400 ≤ x.shortest.exponent - n
    omega
  · change x.shortest.exponent - n ≤ 400
    omega
  · rw [covers_shift, Int.sub_add_cancel]
    exact hcovers

end Double

end PgSchema.Number
