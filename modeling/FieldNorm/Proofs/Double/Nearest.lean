import FieldNorm.Proofs.Double.Magnitude
import Mathlib.Tactic.Ring

/-!
The nearest double, exactly.

A finite double other than an infinity is `m * 2 ^ e` with at most 53 bits in `m`, all of them
unless `e` is the smallest exponent (`IsPlace`), and its bits below the sign are `bitsOf m e`.

* `size_nearest`: what `nearest` gives is `m * 2 ^ e`, where `e` is the last place of the quotient
  and `m` the quotient behind it, rounded.
* `abs_size_nearest_sub_le`: so it is at most half a unit of the last place away.
* `RoundsTo`: the rational numbers that round to a double; `nearest_of_roundsTo` says that they do.
-/

namespace FieldNorm.Double

variable {x : Double} {num den m : Nat} {e : Int} {q : Rat} {isNegative : Bool}

/-! ### Significands and exponents -/

/-- The pair is the significand and the exponent of a double, or the power of two behind those with
this exponent. -/
structure IsPlace (m : Nat) (e : Int) : Prop where
  least : -1074 ≤ e
  le : m ≤ 2 ^ 53
  normal : 2 ^ 52 ≤ m ∨ e = -1074

/-- The bits below the sign of the double `m * 2 ^ e`. For `2 ^ 53` the addition carries into the
exponent field. -/
def bitsOf (m : Nat) (e : Int) : Nat := (e + 1074).toNat * 2 ^ 52 + m

lemma isPlace (x : Double) : IsPlace x.significand x.exponent where
  least := by rw [exponent]; omega
  le := x.significand_lt.le
  normal := by
    by_cases hfield : x.exponentField = 0
    · right
      rw [exponent, hfield]
      rfl
    · left
      rw [significand_eq, if_neg hfield]
      exact Nat.le_add_right _ _

/-- **The bits of a double are those of its significand and its exponent.** -/
lemma bitsOf_significand (x : Double) : bitsOf x.significand x.exponent = x.magnitude := by
  have hbits := x.exponentField_add_fraction
  by_cases hfield : x.exponentField = 0
  · rw [hfield] at hbits
    rw [bitsOf, significand_eq, exponent, if_pos hfield, hfield]
    simpa using hbits
  · obtain ⟨f, hf⟩ : ∃ f, x.exponentField = f + 1 := ⟨x.exponentField - 1, by omega⟩
    have hplace : (((max (f + 1) 1 : Nat) : Int) - 1075 + 1074).toNat = f := by omega
    rw [bitsOf, significand_eq, exponent, if_neg hfield, hf, hplace]
    calc f * 2 ^ 52 + (2 ^ 52 + x.magnitude % 2 ^ 52)
        = x.exponentField * 2 ^ 52 + x.magnitude % 2 ^ 52 := by rw [hf]; ring
      _ = x.magnitude := hbits

/-- **A double with the bits of `m * 2 ^ e` is `m * 2 ^ e`.** -/
lemma size_ofMagnitude (h : IsPlace m e) (hbits : bitsOf m e < 2 ^ 63) :
    (ofMagnitude isNegative (bitsOf m e)).size = m * 2 ^ e := by
  have hmagnitude : (ofMagnitude isNegative (bitsOf m e)).magnitude = bitsOf m e :=
    magnitude_ofMagnitude hbits
  obtain ⟨hleast, hle, hnormal⟩ := h
  have hfield : (ofMagnitude isNegative (bitsOf m e)).exponentField = bitsOf m e / 2 ^ 52 := by
    rw [exponentField, hmagnitude]
    rfl
  rw [size, significand_eq, exponent, hmagnitude, hfield, bitsOf]
  rcases hle.lt_or_eq with hlt | rfl
  · -- below the power of two the bits are cut where they were joined
    have hsignificand : (if ((e + 1074).toNat * 2 ^ 52 + m) / 2 ^ 52 = 0 then 0 else 2 ^ 52) +
        ((e + 1074).toNat * 2 ^ 52 + m) % 2 ^ 52 = m := by
      split_ifs <;> omega
    have hexponent :
        ((max (((e + 1074).toNat * 2 ^ 52 + m) / 2 ^ 52) 1 : Nat) : Int) - 1075 = e := by
      omega
    rw [hsignificand, hexponent]
  · -- the power of two is the first number with the next exponent
    have hsignificand :
        (if ((e + 1074).toNat * 2 ^ 52 + 2 ^ 53) / 2 ^ 52 = 0 then 0 else 2 ^ 52) +
          ((e + 1074).toNat * 2 ^ 52 + 2 ^ 53) % 2 ^ 52 = 2 ^ 52 := by
      split_ifs <;> omega
    have hexponent :
        ((max (((e + 1074).toNat * 2 ^ 52 + 2 ^ 53) / 2 ^ 52) 1 : Nat) : Int) - 1075 = e + 1 := by
      omega
    rw [hsignificand, hexponent, zpow_add_one₀ two_ne_zero]
    push_cast
    ring

lemma size_pos (h : x.significand ≠ 0) : 0 < x.size := by
  have hpos : 0 < x.significand := Nat.pos_of_ne_zero h
  rw [size]
  positivity

/-- The zeros are the doubles without a significand. -/
lemma isZero_iff : x.isZero ↔ x.significand = 0 := by
  have hbits := x.exponentField_add_fraction
  rw [isZero, decide_eq_true_iff, significand_eq]
  constructor
  · intro hzero
    rw [hzero] at hbits ⊢
    have hfield : x.exponentField = 0 := by omega
    rw [if_pos hfield, Nat.zero_mod]
  · intro hzero
    split_ifs at hzero with hfield
    · omega
    · omega

lemma isZero_eq_false_of_size_pos (h : 0 < x.size) : x.isZero = false := by
  refine Bool.eq_false_iff.mpr fun hzero => ?_
  rw [size, isZero_iff.mp hzero, Nat.cast_zero, zero_mul] at h
  exact lt_irrefl _ h

/-! ### The last place -/

/-- **The last place of a quotient**: 53 bits stand above it, fewer only at the smallest
exponent. -/
lemma lastPlace_spec (hnum : 0 < num) (hden : 0 < den) :
    -1074 ≤ lastPlace num den ∧ (num / den : Rat) < 2 ^ (lastPlace num den + 53) ∧
      (lastPlace num den = -1074 ∨ (2 : Rat) ^ (lastPlace num den + 52) ≤ num / den) := by
  refine ⟨le_max_right _ _, ?_, ?_⟩
  · exact ratio_shiftRatio_lt_iff.mp (ratio_lastPlace_lt num hden)
  · rw [lastPlace]
    dsimp only
    set guess : Int := num.log2 - den.log2 - 52 with hguess
    rcases le_total (if (shiftRatio num den guess).1 / (shiftRatio num den guess).2 <
      Nat.pow 2 52 then guess - 1 else guess) (-1074) with hle | hle
    · exact .inl (max_eq_right hle)
    · right
      rw [max_eq_left hle]
      split_ifs with hfew
      · have hdigits := (two_zpow_lt_div hnum hden).le
        rwa [show guess - 1 + 52 = (num.log2 : Int) - den.log2 - 1 by omega]
      · have hshifted : 0 < (shiftRatio num den guess).2 := shiftRatio_snd_pos hden guess
        have hmany : (2 : Rat) ^ 52 ≤ ratio (shiftRatio num den guess) := by
          rw [ratio, le_div_iff₀ (by exact_mod_cast hshifted)]
          exact_mod_cast (Nat.le_div_iff_mul_le hshifted).mp (Nat.not_lt.mp hfew)
        rwa [ratio_shiftRatio, le_div_iff₀ (by positivity), two_pow_mul_two_zpow, add_comm] at hmany

/-- A bound of the quotient is a bound of its last place. -/
lemma lastPlace_le_of_lt (hnum : 0 < num) (hden : 0 < den) (hleast : -1074 ≤ e)
    (h : (num / den : Rat) < 2 ^ (e + 53)) : lastPlace num den ≤ e := by
  obtain ⟨-, -, hsmallest | hle⟩ := lastPlace_spec hnum hden
  · exact hsmallest.trans_le hleast
  · have hpow := (zpow_lt_zpow_iff_right₀ one_lt_two).mp (hle.trans_lt h)
    omega

/-- There is one last place. -/
lemma lastPlace_eq (hnum : 0 < num) (hden : 0 < den) (hleast : -1074 ≤ e)
    (hlt : (num / den : Rat) < 2 ^ (e + 53))
    (hle : e = -1074 ∨ (2 : Rat) ^ (e + 52) ≤ num / den) : lastPlace num den = e := by
  obtain ⟨hleast', hlt', -⟩ := lastPlace_spec hnum hden
  refine le_antisymm (lastPlace_le_of_lt hnum hden hleast hlt) ?_
  rcases hle with rfl | hle
  · exact hleast'
  · have hpow := (zpow_lt_zpow_iff_right₀ one_lt_two).mp (hle.trans_lt hlt')
    omega

/-! ### Rounding to an integer -/

/-- A quotient is rounded by at most one half, up or down. -/
lemma roundHalfEven_spec (num : Nat) (hden : 0 < den) :
    2 * roundHalfEven num den * den ≤ 2 * num + den ∧
      2 * num ≤ 2 * roundHalfEven num den * den + den := by
  have hsplit := Nat.div_add_mod' num den
  have hrest := Nat.mod_lt num hden
  rw [roundHalfEven]
  split_ifs with hup
  · simp only [Bool.or_eq_true, decide_eq_true_eq, Bool.and_eq_true, beq_iff_eq] at hup
    have hexpand : 2 * (num / den + 1) * den = 2 * (num / den * den) + 2 * den := by ring
    omega
  · simp only [Bool.or_eq_true, decide_eq_true_eq, not_or] at hup
    have hexpand : 2 * (num / den) * den = 2 * (num / den * den) := by ring
    omega

lemma abs_roundHalfEven_sub_le (num : Nat) (hden : 0 < den) :
    |(roundHalfEven num den : Rat) - num / den| ≤ 1 / 2 := by
  obtain ⟨hlow, hhigh⟩ := roundHalfEven_spec num hden
  have hpos : (0 : Rat) < den := by exact_mod_cast hden
  have hlow' : (2 * roundHalfEven num den * den : Rat) ≤ 2 * num + den := by exact_mod_cast hlow
  have hhigh' : (2 * num : Rat) ≤ 2 * roundHalfEven num den * den + den := by exact_mod_cast hhigh
  rw [abs_le, sub_le_iff_le_add, neg_le_sub_iff_le_add, div_le_iff₀ hpos, ← sub_le_iff_le_add',
    le_div_iff₀ hpos]
  constructor <;> linarith

/-- **The integer that is nearest to a quotient is the one it is rounded to**, and the even one if
two are equally near. -/
lemma roundHalfEven_eq (hden : 0 < den) (hlow : 2 * m * den ≤ 2 * num + den)
    (hhigh : 2 * num ≤ 2 * m * den + den)
    (hodd : m % 2 = 1 → 2 * m * den < 2 * num + den ∧ 2 * num < 2 * m * den + den) :
    roundHalfEven num den = m := by
  have hsplit := Nat.div_add_mod' num den
  have hrest := Nat.mod_lt num hden
  have hfloor : m = num / den ∨ m = num / den + 1 := by
    have hle : num / den ≤ m := by
      by_contra hlt
      have hmul : (m + 1) * den ≤ num / den * den := Nat.mul_le_mul_right den (by omega)
      have hexpand : 2 * ((m + 1) * den) = 2 * m * den + 2 * den := by ring
      omega
    have hge : m ≤ num / den + 1 := by
      by_contra hlt
      have hmul : (num / den + 2) * den ≤ m * den := Nat.mul_le_mul_right den (by omega)
      have hexpand : (num / den + 2) * den = num / den * den + 2 * den := by ring
      have hdouble : 2 * m * den = 2 * (m * den) := by ring
      omega
    omega
  rw [roundHalfEven]
  rcases hfloor with rfl | rfl
  · have hexpand : 2 * (num / den) * den = 2 * (num / den * den) := by ring
    rw [if_neg]
    simp only [Bool.or_eq_true, decide_eq_true_eq, Bool.and_eq_true, beq_iff_eq]
    omega
  · have hexpand : 2 * (num / den + 1) * den = 2 * (num / den * den) + 2 * den := by ring
    rw [if_pos]
    simp only [Bool.or_eq_true, decide_eq_true_eq, Bool.and_eq_true, beq_iff_eq]
    omega

/-! ### The nearest double -/

/-- The quotient behind its last place, rounded to an integer. -/
def rounded (num den : Nat) : Nat :=
  let r := shiftRatio num den (lastPlace num den)
  roundHalfEven r.1 r.2

lemma isPlace_rounded (hnum : 0 < num) (hden : 0 < den) :
    IsPlace (rounded num den) (lastPlace num den) := by
  obtain ⟨hleast, -, hnormal⟩ := lastPlace_spec hnum hden
  have hshifted : 0 < (shiftRatio num den (lastPlace num den)).2 := shiftRatio_snd_pos hden _
  refine ⟨hleast, ?_, hnormal.symm.imp_left fun hle => ?_⟩
  · refine roundHalfEven_le_of_ratio_le hshifted ?_
    exact_mod_cast (ratio_lastPlace_lt num hden).le
  · have hratio : (2 : Rat) ^ 52 ≤ ratio (shiftRatio num den (lastPlace num den)) := by
      rwa [ratio_shiftRatio, le_div_iff₀ (by positivity), two_pow_mul_two_zpow, add_comm]
    rw [ratio, le_div_iff₀ (by exact_mod_cast hshifted)] at hratio
    have hfloor : 2 ^ 52 ≤ (shiftRatio num den (lastPlace num den)).1 /
        (shiftRatio num den (lastPlace num den)).2 :=
      (Nat.le_div_iff_mul_le hshifted).mpr (by exact_mod_cast hratio)
    refine hfloor.trans ?_
    rw [rounded, roundHalfEven]
    split_ifs
    · exact Nat.le_succ _
    · exact le_rfl

/-- The quotient behind its last place is rounded by at most one half. -/
lemma abs_rounded_sub_le (num : Nat) (hden : 0 < den) :
    |(rounded num den : Rat) - num / den / 2 ^ lastPlace num den| ≤ 1 / 2 := by
  rw [← ratio_shiftRatio, rounded, ratio]
  exact abs_roundHalfEven_sub_le _ (shiftRatio_snd_pos hden _)

/-- **The nearest double by its bits**: an infinity if they are too large. -/
lemma nearest_eq (hnum : 0 < num) :
    nearest isNegative num den =
      if bitsOf (rounded num den) (lastPlace num den) < 2047 * 2 ^ 52 then
        ofMagnitude isNegative (bitsOf (rounded num den) (lastPlace num den))
      else infinity isNegative := by
  rw [nearest, if_neg hnum.ne']
  rfl

lemma isFinite_nearest_iff (hnum : 0 < num) :
    (nearest isNegative num den).isFinite ↔
      bitsOf (rounded num den) (lastPlace num den) < 2047 * 2 ^ 52 := by
  rw [nearest_eq hnum]
  split_ifs with hbits
  · rw [isFinite_iff, magnitude_ofMagnitude (by omega)]
  · have hinfinite : ¬ (infinity isNegative).isFinite := by cases isNegative <;> decide
    exact iff_of_false hinfinite hbits

/-- **The size of the nearest double.** -/
lemma size_nearest (hnum : 0 < num) (hden : 0 < den)
    (hfinite : (nearest isNegative num den).isFinite) :
    (nearest isNegative num den).size = rounded num den * 2 ^ lastPlace num den := by
  have hbits := (isFinite_nearest_iff hnum).mp hfinite
  rw [nearest_eq hnum, if_pos hbits]
  exact size_ofMagnitude (isPlace_rounded hnum hden) (by omega)

/-- **Rounding moves a quotient by at most half a unit of its last place.** -/
lemma abs_size_nearest_sub_le (hnum : 0 < num) (hden : 0 < den)
    (hfinite : (nearest isNegative num den).isFinite) :
    |(nearest isNegative num den).size - num / den| ≤ 2 ^ lastPlace num den / 2 := by
  have hunit : (0 : Rat) < 2 ^ lastPlace num den := by positivity
  have hquotient : (num / den : Rat) = num / den / 2 ^ lastPlace num den * 2 ^ lastPlace num den :=
    (div_mul_cancel₀ _ hunit.ne').symm
  calc |(nearest isNegative num den).size - num / den|
      = |(rounded num den : Rat) - num / den / 2 ^ lastPlace num den| * 2 ^ lastPlace num den := by
        rw [size_nearest hnum hden hfinite]
        conv_lhs => rw [hquotient, ← sub_mul, abs_mul, abs_of_pos hunit]
    _ ≤ 1 / 2 * 2 ^ lastPlace num den :=
        mul_le_mul_of_nonneg_right (abs_rounded_sub_le num hden) hunit.le
    _ = 2 ^ lastPlace num den / 2 := by ring

/-- Half a unit of the last place is small against the quotient, or against the smallest double. -/
lemma half_lastPlace_le (hnum : 0 < num) (hden : 0 < den) :
    (2 : Rat) ^ lastPlace num den / 2 ≤ num / den / 2 ^ 53 ∨
      (2 : Rat) ^ lastPlace num den / 2 = 2 ^ (-1075 : Int) := by
  obtain ⟨-, -, h | h⟩ := lastPlace_spec hnum hden
  · right
    rw [h, div_eq_mul_inv, ← zpow_sub_one₀ two_ne_zero]
    rfl
  · left
    rw [zpow_add₀ two_ne_zero] at h
    rw [div_le_div_iff₀ two_pos (by positivity)]
    norm_num at h ⊢
    linarith

/-- What is not below the smallest double with 53 bits is moved by a small part of itself. -/
lemma abs_size_nearest_sub_le_of_normal (hden : 0 < den)
    (hnormal : (2 : Rat) ^ (-1022 : Int) ≤ num / den)
    (hfinite : (nearest isNegative num den).isFinite) :
    |(nearest isNegative num den).size - num / den| ≤ num / den / 2 ^ 53 := by
  have hnum : 0 < num := by
    by_contra hzero
    have hquotient : (num / den : Rat) = 0 := by simp [Nat.eq_zero_of_not_pos hzero]
    have hpos : (0 : Rat) < 2 ^ (-1022 : Int) := by positivity
    linarith
  refine (abs_size_nearest_sub_le hnum hden hfinite).trans ?_
  rcases half_lastPlace_le hnum hden with h | h
  · exact h
  · rw [h, le_div_iff₀ (by positivity)]
    calc (2 : Rat) ^ (-1075 : Int) * 2 ^ 53 = 2 ^ (-1022 : Int) := by
          rw [← zpow_natCast, ← zpow_add₀ two_ne_zero]
          rfl
      _ ≤ num / den := hnormal

/-- Any quotient is moved by a small part of itself and half of the smallest double. -/
lemma abs_size_nearest_sub_le_add (hnum : 0 < num) (hden : 0 < den)
    (hfinite : (nearest isNegative num den).isFinite) :
    |(nearest isNegative num den).size - num / den| ≤
      num / den / 2 ^ 53 + 2 ^ (-1075 : Int) := by
  refine (abs_size_nearest_sub_le hnum hden hfinite).trans ?_
  have hquotient : (0 : Rat) ≤ num / den / 2 ^ 53 := by positivity
  have hleast : (0 : Rat) ≤ 2 ^ (-1075 : Int) := by positivity
  rcases half_lastPlace_le hnum hden with h | h
  · exact h.trans (le_add_of_nonneg_right hleast)
  · rw [h]
    exact le_add_of_nonneg_left hquotient

/-- **What is less than half a unit above the largest double rounds to a finite one.** -/
lemma isFinite_nearest (hnum : 0 < num) (hden : 0 < den)
    (h : (num / den : Rat) < (2 ^ 53 - 1 / 2) * 2 ^ (971 : Int)) :
    (nearest isNegative num den).isFinite := by
  have hplace := isPlace_rounded hnum hden
  have hround := abs_le.mp (abs_rounded_sub_le num hden)
  have hlargest : lastPlace num den ≤ 971 := by
    refine lastPlace_le_of_lt hnum hden (by norm_num) ?_
    calc (num / den : Rat) < (2 ^ 53 - 1 / 2) * 2 ^ (971 : Int) := h
      _ ≤ 2 ^ 53 * 2 ^ (971 : Int) := by
          refine mul_le_mul_of_nonneg_right ?_ (by positivity)
          norm_num
      _ = 2 ^ ((971 : Int) + 53) := two_pow_mul_two_zpow 53 971
  rw [isFinite_nearest_iff hnum, bitsOf]
  have hle := hplace.le
  rcases hlargest.lt_or_eq with hlt | heq
  · omega
  · have hbehind : (num / den : Rat) / 2 ^ lastPlace num den < 2 ^ 53 - 1 / 2 := by
      rwa [heq, div_lt_iff₀ (by positivity)]
    have hbelow : rounded num den < 2 ^ 53 := by
      have hcast : (rounded num den : Rat) < (2 ^ 53 : Nat) := by
        push_cast
        linarith
      exact_mod_cast hcast
    rw [heq]
    omega

/-! ### What rounds to a double -/

/-- The least rational number that rounds to the double, up to the ends. Below a power of two the
doubles lie twice as close. -/
def low (x : Double) : Rat :=
  (x.significand - (if x.significand = 2 ^ 52 ∧ 1 < x.exponentField then 1 / 4 else 1 / 2)) *
    2 ^ x.exponent

/-- The greatest rational number that rounds to the double, up to the ends. -/
def high (x : Double) : Rat := (x.significand + 1 / 2) * 2 ^ x.exponent

/-- The rational number rounds to the double. The ends of its interval do if the significand is
even. -/
structure RoundsTo (x : Double) (q : Rat) : Prop where
  low_le : x.low ≤ q
  le_high : q ≤ x.high
  odd : x.significand % 2 = 1 → x.low < q ∧ q < x.high

/-- What rounds to a double is at most half a unit away. -/
lemma RoundsTo.abs_sub_le (h : RoundsTo x q) : |q - x.size| ≤ 2 ^ x.exponent / 2 := by
  have hunit : (0 : Rat) < 2 ^ x.exponent := by positivity
  obtain ⟨hlow, hhigh, -⟩ := h
  rw [high, add_mul] at hhigh
  have hlow' : (x.significand - 1 / 2 : Rat) * 2 ^ x.exponent ≤ q := by
    refine le_trans (mul_le_mul_of_nonneg_right ?_ hunit.le) hlow
    split_ifs <;> linarith
  rw [sub_mul] at hlow'
  rw [size, abs_le]
  constructor <;> linarith

/-- Half a unit of the last place is small against a double, or against the smallest one. -/
lemma half_unit_le (x : Double) :
    (2 : Rat) ^ x.exponent / 2 ≤ x.size / 2 ^ 53 + 2 ^ (-1075 : Int) := by
  rcases x.isPlace.normal with hnormal | hsmallest
  · have hdigits : (2 ^ 52 : Rat) ≤ x.significand := by exact_mod_cast hnormal
    have hunit : (0 : Rat) < 2 ^ x.exponent := by positivity
    have hleast : (0 : Rat) ≤ 2 ^ (-1075 : Int) := by positivity
    calc (2 : Rat) ^ x.exponent / 2 = 2 ^ 52 * 2 ^ x.exponent / 2 ^ 53 := by ring
      _ ≤ x.size / 2 ^ 53 :=
          div_le_div_of_nonneg_right (mul_le_mul_of_nonneg_right hdigits hunit.le) (by positivity)
      _ ≤ x.size / 2 ^ 53 + 2 ^ (-1075 : Int) := le_add_of_nonneg_right hleast
  · have hsize : 0 ≤ x.size / 2 ^ 53 := by
      rw [size]
      positivity
    have hhalf : (2 : Rat) ^ (-1074 : Int) / 2 = 2 ^ (-1075 : Int) := by
      rw [div_eq_mul_inv, ← zpow_sub_one₀ two_ne_zero]
      rfl
    rw [hsmallest, hhalf]
    exact le_add_of_nonneg_left hsize

/-- A double has the bits of a quotient if they have the same last place and the same digits above
it. -/
lemma nearest_of_lastPlace (hfinite : x.isFinite) (hnum : 0 < num)
    (hplace : lastPlace num den = e) (hrounded : rounded num den = m)
    (hbits : bitsOf m e = x.magnitude) :
    nearest isNegative num den = ofMagnitude isNegative x.magnitude := by
  rw [nearest_eq hnum, hplace, hrounded, hbits, if_pos (isFinite_iff.mp hfinite)]

/-- The integer nearest to a quotient behind its last place, by comparing rational numbers. -/
lemma rounded_eq (hden : 0 < den) (hplace : lastPlace num den = e)
    (hlow : (m - 1 / 2 : Rat) * 2 ^ e ≤ num / den) (hhigh : (num / den : Rat) ≤ (m + 1 / 2) * 2 ^ e)
    (hodd : m % 2 = 1 →
      (m - 1 / 2 : Rat) * 2 ^ e < num / den ∧ (num / den : Rat) < (m + 1 / 2) * 2 ^ e) :
    rounded num den = m := by
  have hunit : (0 : Rat) < 2 ^ e := by positivity
  have hshifted : 0 < (shiftRatio num den e).2 := shiftRatio_snd_pos hden e
  have hpos : (0 : Rat) < (shiftRatio num den e).2 := by exact_mod_cast hshifted
  have hratio : (num / den : Rat) =
      (shiftRatio num den e).1 / (shiftRatio num den e).2 * 2 ^ e := by
    have hbehind := ratio_shiftRatio num den e
    rw [ratio] at hbehind
    rw [hbehind, div_mul_cancel₀ _ hunit.ne']
  rw [hratio] at hlow hhigh hodd
  rw [mul_le_mul_iff_left₀ hunit, le_div_iff₀ hpos] at hlow
  rw [mul_le_mul_iff_left₀ hunit, div_le_iff₀ hpos] at hhigh
  rw [mul_lt_mul_iff_left₀ hunit, mul_lt_mul_iff_left₀ hunit, lt_div_iff₀ hpos,
    div_lt_iff₀ hpos] at hodd
  rw [rounded, hplace]
  refine roundHalfEven_eq hshifted ?_ ?_ fun h => ?_
  · have hcast : (2 * m * (shiftRatio num den e).2 : Rat) ≤
        2 * (shiftRatio num den e).1 + (shiftRatio num den e).2 := by linarith
    exact_mod_cast hcast
  · have hcast : (2 * (shiftRatio num den e).1 : Rat) ≤
        2 * m * (shiftRatio num den e).2 + (shiftRatio num den e).2 := by linarith
    exact_mod_cast hcast
  · obtain ⟨hlow, hhigh⟩ := hodd h
    constructor
    · have hcast : (2 * m * (shiftRatio num den e).2 : Rat) <
          2 * (shiftRatio num den e).1 + (shiftRatio num den e).2 := by linarith
      exact_mod_cast hcast
    · have hcast : (2 * (shiftRatio num den e).1 : Rat) <
          2 * m * (shiftRatio num den e).2 + (shiftRatio num den e).2 := by linarith
      exact_mod_cast hcast

/-- Below a power of two the last place is one further down, and rounding leads to the power. -/
lemma nearest_of_below (hfinite : x.isFinite) (hnum : 0 < num) (hden : 0 < den)
    (hpower : x.significand = 2 ^ 52) (hfield : 1 < x.exponentField)
    (hlow : (2 ^ 52 - 1 / 4 : Rat) * 2 ^ x.exponent ≤ num / den)
    (hlt : (num / den : Rat) < 2 ^ 52 * 2 ^ x.exponent) :
    nearest isNegative num den = ofMagnitude isNegative x.magnitude := by
  have hunit : (0 : Rat) < 2 ^ (x.exponent - 1) := by positivity
  have hexponent : -1073 ≤ x.exponent := by
    rw [exponent]
    omega
  have htwice : (2 : Rat) ^ x.exponent = 2 * 2 ^ (x.exponent - 1) := by
    rw [zpow_sub_one₀ two_ne_zero]
    ring
  have hplace : lastPlace num den = x.exponent - 1 := by
    refine lastPlace_eq hnum hden (by omega) ?_ (.inr ?_)
    · calc (num / den : Rat) < 2 ^ 52 * 2 ^ x.exponent := hlt
        _ = 2 ^ (x.exponent - 1 + 53) := by
            rw [two_pow_mul_two_zpow]
            congr 1
            push_cast
            ring
    · calc (2 : Rat) ^ (x.exponent - 1 + 52) = 2 ^ 51 * 2 ^ x.exponent := by
            rw [two_pow_mul_two_zpow]
            congr 1
            push_cast
            ring
        _ ≤ (2 ^ 52 - 1 / 4) * 2 ^ x.exponent := by
            refine mul_le_mul_of_nonneg_right ?_ (by positivity)
            norm_num
        _ ≤ num / den := hlow
  rw [htwice] at hlow hlt
  refine nearest_of_lastPlace (m := 2 ^ 53) hfinite hnum hplace
    (rounded_eq hden hplace ?_ ?_ fun hodd => absurd hodd (by norm_num)) ?_
  · push_cast
    linarith
  · push_cast
    linarith
  · rw [← x.bitsOf_significand, bitsOf, bitsOf, hpower]
    omega

/-- What rounds to a double has its last place, unless it is below the power of two with which the
exponent starts. -/
lemma lastPlace_of_roundsTo (hnum : 0 < num) (hden : 0 < den) (h : RoundsTo x (num / den))
    (hstarts : x.significand = 2 ^ 52 → 1 < x.exponentField →
      (2 ^ 52 * 2 ^ x.exponent : Rat) ≤ num / den) : lastPlace num den = x.exponent := by
  have hunit : (0 : Rat) < 2 ^ x.exponent := by positivity
  obtain ⟨hlow, hhigh, -⟩ := h
  refine lastPlace_eq hnum hden x.isPlace.least ?_ ?_
  · have hdigits : (x.significand + 1 : Rat) ≤ 2 ^ 53 := by exact_mod_cast x.significand_lt
    calc (num / den : Rat) ≤ (x.significand + 1 / 2) * 2 ^ x.exponent := hhigh
      _ < 2 ^ 53 * 2 ^ x.exponent := mul_lt_mul_of_pos_right (by linarith) hunit
      _ = 2 ^ (x.exponent + 53) := by
          rw [two_pow_mul_two_zpow, add_comm]
          rfl
  · by_cases hsmallest : x.exponent = -1074
    · exact .inl hsmallest
    · right
      have hnormal : 2 ^ 52 ≤ x.significand := x.isPlace.normal.resolve_right hsmallest
      have hfield : 1 < x.exponentField := by
        rw [exponent] at hsmallest
        omega
      calc (2 : Rat) ^ (x.exponent + 52) = 2 ^ 52 * 2 ^ x.exponent := by
            rw [two_pow_mul_two_zpow, add_comm]
            rfl
        _ ≤ num / den := by
            rcases hnormal.lt_or_eq with hlt | heq
            · refine le_trans (mul_le_mul_of_nonneg_right ?_ hunit.le) hlow
              have hdigits : (2 ^ 52 + 1 : Rat) ≤ x.significand := by exact_mod_cast hlt
              split_ifs <;> linarith
            · exact hstarts heq.symm hfield

/-- **What rounds to a double is rounded to it.** -/
theorem nearest_of_roundsTo (hfinite : x.isFinite) (hnum : 0 < num) (hden : 0 < den)
    (h : RoundsTo x (num / den)) :
    nearest isNegative num den = ofMagnitude isNegative x.magnitude := by
  by_cases hbelow : x.significand = 2 ^ 52 ∧ 1 < x.exponentField ∧
      (num / den : Rat) < 2 ^ 52 * 2 ^ x.exponent
  · obtain ⟨hsignificand, hfield, hlt⟩ := hbelow
    have hlow := h.low_le
    rw [low, if_pos ⟨hsignificand, hfield⟩, hsignificand] at hlow
    push_cast at hlow
    exact nearest_of_below hfinite hnum hden hsignificand hfield hlow hlt
  · -- otherwise the interval is as if there were no power of two
    have hstarts (hsignificand : x.significand = 2 ^ 52) (hfield : 1 < x.exponentField) :
        (2 ^ 52 * 2 ^ x.exponent : Rat) ≤ num / den :=
      not_lt.mp fun hlt => hbelow ⟨hsignificand, hfield, hlt⟩
    have hplace := lastPlace_of_roundsTo hnum hden h hstarts
    refine nearest_of_lastPlace hfinite hnum hplace
      (rounded_eq hden hplace ?_ h.le_high fun hodd => ?_) x.bitsOf_significand
    · by_cases hends : x.significand = 2 ^ 52 ∧ 1 < x.exponentField
      · refine le_trans (mul_le_mul_of_nonneg_right ?_ (by positivity)) (hstarts hends.1 hends.2)
        rw [hends.1]
        norm_num
      · have hlow := h.low_le
        rwa [low, if_neg hends] at hlow
    · have hends : ¬ (x.significand = 2 ^ 52 ∧ 1 < x.exponentField) := by
        rintro ⟨hsignificand, -⟩
        rw [hsignificand] at hodd
        exact absurd hodd (by norm_num)
      have hinside := h.odd hodd
      rwa [low, if_neg hends] at hinside

end FieldNorm.Double
