import FieldNorm.Double.Round
import Mathlib.Algebra.Order.Field.Power
import Mathlib.Algebra.Order.Ring.Rat
import Mathlib.Tactic.FieldSimp
import Mathlib.Tactic.Linarith
import Mathlib.Tactic.Positivity

/-!
How large a rounded number can be.

The size of a finite double is the rational number `significand * 2 ^ exponent`. Rounding never
leads past a power of two: what is rounded to the nearest double is at most `2 ^ k` if the exact
quotient is (`isAtMost_nearest`). So a number stays finite however often it is divided by numbers
that are not below one.

* `isFinite_of_isAtMost`: what is bounded by a power of two below `2 ^ 1024` is finite.
* `isAtMost_ofNat`, `isAtMost_div`: the bounds of a rounded integer and of a quotient.
* `one_le_size_powerOfTen`: no rounded power of ten is below one.
-/

namespace FieldNorm.Double

variable {x y : Double} {k num den : Nat} {isNegative : Bool}

/-! ### Bits and sizes -/

/-- The number without its sign, if it is finite. -/
def size (x : Double) : Rat := x.significand * 2 ^ x.exponent

/-- The number is at most `2 ^ k`, whose bits below the sign are `k + 1023` in the exponent field
and zeros in the fraction. -/
def IsAtMost (k : Nat) (x : Double) : Prop := x.magnitude ≤ (k + 1023) * 2 ^ 52

lemma magnitude_ofMagnitude {m : Nat} (h : m < 2 ^ 63) :
    (ofMagnitude isNegative m).magnitude = m := by
  rw [ofMagnitude, magnitude, UInt64.toNat_ofNat']
  simp only [Nat.pow_eq]
  cases isNegative <;> simp <;> omega

lemma magnitude_lt (x : Double) : x.magnitude < 2 ^ 63 :=
  Nat.mod_lt _ (by decide)

lemma isFinite_iff : x.isFinite ↔ x.magnitude < 2047 * 2 ^ 52 := by
  rw [isFinite, decide_eq_true_iff]
  rfl

/-- **What is at most a power of two below `2 ^ 1024` is finite.** -/
lemma isFinite_of_isAtMost (hk : k ≤ 1023) (h : x.IsAtMost k) : x.isFinite := by
  rw [IsAtMost] at h
  rw [isFinite_iff]
  omega

lemma isFinite_withSign : (withSign isNegative x).isFinite ↔ x.isFinite := by
  rw [isFinite_iff, isFinite_iff, withSign, magnitude_ofMagnitude x.magnitude_lt]

lemma isFinite_zero : (zero isNegative).isFinite := by
  rw [isFinite_iff, zero, magnitude_ofMagnitude] <;> norm_num

lemma isFinite_of_isZero (h : x.isZero) : x.isFinite := by
  rw [isZero, decide_eq_true_iff] at h
  rw [isFinite_iff, h]
  norm_num

/-- The bits below the sign are those of the exponent field and of the fraction. -/
lemma exponentField_add_fraction (x : Double) :
    x.exponentField * 2 ^ 52 + x.magnitude % 2 ^ 52 = x.magnitude :=
  Nat.div_add_mod' x.magnitude (2 ^ 52)

lemma significand_eq (x : Double) :
    x.significand = (if x.exponentField = 0 then 0 else 2 ^ 52) + x.magnitude % 2 ^ 52 := rfl

lemma significand_lt (x : Double) : x.significand < 2 ^ 53 := by
  have hfraction : x.magnitude % 2 ^ 52 < 2 ^ 52 := Nat.mod_lt _ (by norm_num)
  rw [significand_eq]
  split <;> omega

lemma two_pow_mul_two_zpow (a : Nat) (e : Int) : (2 : Rat) ^ a * 2 ^ e = 2 ^ (a + e) := by
  rw [zpow_add₀ two_ne_zero, zpow_natCast]

/-- **The size of a number that is at most `2 ^ k` by its bits.** -/
lemma size_le_two_pow (h : x.IsAtMost k) : x.size ≤ 2 ^ k := by
  rw [IsAtMost] at h
  have hbits := x.exponentField_add_fraction
  by_cases htop : x.exponentField = k + 1023
  · -- the number is `2 ^ k`: its fraction is zero
    have hsignificand : x.significand = 2 ^ 52 := by
      rw [significand_eq, if_neg (by omega)]
      omega
    have hexponent : x.exponent = k - 52 := by
      rw [exponent]
      omega
    rw [size, hsignificand, hexponent, Nat.cast_pow, Nat.cast_two, two_pow_mul_two_zpow,
      ← zpow_natCast]
    exact zpow_le_zpow_right₀ one_le_two (by omega)
  · have hexponent : x.exponent ≤ k - 53 := by
      rw [exponent]
      omega
    have hsignificand : (x.significand : Rat) ≤ 2 ^ 53 := by
      exact_mod_cast x.significand_lt.le
    calc x.size ≤ 2 ^ 53 * 2 ^ (k - 53 : Int) :=
          mul_le_mul hsignificand (zpow_le_zpow_right₀ one_le_two hexponent) (by positivity)
            (by positivity)
      _ = 2 ^ k := by
          rw [two_pow_mul_two_zpow, ← zpow_natCast]
          congr 1
          omega

/-- A number whose exponent field is not below that of one is not below one. -/
lemma one_le_size (h : 1023 ≤ x.exponentField) : 1 ≤ x.size := by
  have hsignificand : (2 : Rat) ^ 52 ≤ x.significand := by
    have hle : 2 ^ 52 ≤ x.significand := by
      rw [significand_eq, if_neg (by omega)]
      omega
    exact_mod_cast hle
  have hexponent : -52 ≤ x.exponent := by
    rw [exponent]
    omega
  calc (1 : Rat) = 2 ^ 52 * 2 ^ (-52 : Int) := by norm_num
    _ ≤ x.size := mul_le_mul hsignificand (zpow_le_zpow_right₀ one_le_two hexponent)
          (by positivity) (by positivity)

/-! ### Quotients and powers of two -/

/-- A quotient of integers. -/
def ratio (r : Nat × Nat) : Rat := r.1 / r.2

lemma ratio_shiftRatio (num den : Nat) (e : Int) :
    ratio (shiftRatio num den e) = num / den / 2 ^ e := by
  rw [shiftRatio]
  split_ifs with he
  · obtain ⟨n, rfl⟩ := Int.eq_ofNat_of_zero_le he
    simp [ratio, div_div]
  · obtain ⟨n, rfl⟩ : ∃ n : Nat, e = -n := ⟨(-e).toNat, by omega⟩
    simp [ratio, div_mul_eq_mul_div]

/-- A quotient behind the place `2 ^ e` is below `2 ^ j` if the quotient is below `2 ^ (e + j)`. -/
lemma ratio_shiftRatio_lt_iff {e : Int} {j : Nat} :
    ratio (shiftRatio num den e) < 2 ^ j ↔ (num / den : Rat) < 2 ^ (e + j) := by
  rw [ratio_shiftRatio, div_lt_iff₀ (by positivity), two_pow_mul_two_zpow, add_comm]

lemma ratio_shiftRatio_le_iff {e : Int} {j : Nat} :
    ratio (shiftRatio num den e) ≤ 2 ^ j ↔ (num / den : Rat) ≤ 2 ^ (e + j) := by
  rw [ratio_shiftRatio, div_le_iff₀ (by positivity), two_pow_mul_two_zpow, add_comm]

lemma ratio_lt_of_div_lt {r : Nat × Nat} {j : Nat} (hden : 0 < r.2) (h : r.1 / r.2 < 2 ^ j) :
    ratio r < 2 ^ j := by
  rw [ratio, div_lt_iff₀ (by exact_mod_cast hden)]
  exact_mod_cast (Nat.div_lt_iff_lt_mul hden).mp h

lemma shiftRatio_snd_pos (hden : 0 < den) (e : Int) : 0 < (shiftRatio num den e).2 := by
  rw [shiftRatio]
  split_ifs
  · exact Nat.mul_pos hden (Nat.pow_pos two_pos)
  · exact hden

/-- The quotient as told by the numbers of binary digits, from above. -/
lemma div_lt_two_zpow (num : Nat) (hden : 0 < den) :
    (num / den : Rat) < 2 ^ ((num.log2 : Int) - den.log2 + 1) := by
  have hnum : (num : Rat) < 2 ^ (num.log2 + 1) := by
    exact_mod_cast Nat.lt_log2_self
  have hpow : (2 : Rat) ^ den.log2 ≤ den := by
    exact_mod_cast Nat.log2_self_le hden.ne'
  calc (num / den : Rat) < 2 ^ (num.log2 + 1) / 2 ^ den.log2 :=
        div_lt_div₀ hnum hpow (by positivity) (by positivity)
    _ = 2 ^ ((num.log2 : Int) - den.log2 + 1) := by
        rw [← zpow_natCast, ← zpow_natCast, ← zpow_sub₀ two_ne_zero]
        congr 1
        omega

/-- The quotient as told by the numbers of binary digits, from below. -/
lemma two_zpow_lt_div (hnum : 0 < num) (hden : 0 < den) :
    (2 : Rat) ^ ((num.log2 : Int) - den.log2 - 1) < num / den := by
  have hpow : (2 : Rat) ^ num.log2 ≤ num := by
    exact_mod_cast Nat.log2_self_le hnum.ne'
  have hlt : (den : Rat) < 2 ^ (den.log2 + 1) := by
    exact_mod_cast Nat.lt_log2_self
  calc (2 : Rat) ^ ((num.log2 : Int) - den.log2 - 1) = 2 ^ num.log2 / 2 ^ (den.log2 + 1) := by
        rw [← zpow_natCast, ← zpow_natCast, ← zpow_sub₀ two_ne_zero]
        congr 1
        omega
    _ < num / den := div_lt_div₀' hpow hlt (by positivity) (by positivity)

/-! ### The nearest double -/

lemma roundHalfEven_le {m : Nat} (hden : 0 < den) (h : num ≤ m * den) :
    roundHalfEven num den ≤ m := by
  have hdiv : num / den ≤ m := Nat.div_le_of_le_mul (by rwa [Nat.mul_comm])
  have hsplit := Nat.div_add_mod' num den
  rw [roundHalfEven]
  split_ifs with hup
  · -- there is something to round up, so the quotient is not `m` itself
    have hne : num / den ≠ m := by
      rintro rfl
      have hmod : num % den = 0 := by omega
      simp [hmod] at hup
      omega
    omega
  · exact hdiv

lemma roundHalfEven_le_of_ratio_le {r : Nat × Nat} {m : Nat} (hden : 0 < r.2) (h : ratio r ≤ m) :
    roundHalfEven r.1 r.2 ≤ m := by
  refine roundHalfEven_le hden ?_
  rw [ratio, div_le_iff₀ (by exact_mod_cast hden)] at h
  exact_mod_cast h

/-- The quotient of the integers behind the last place has at most 53 bits. -/
lemma ratio_lastPlace_lt (num : Nat) (hden : 0 < den) :
    ratio (shiftRatio num den (lastPlace num den)) < 2 ^ 53 := by
  rw [ratio_shiftRatio_lt_iff, lastPlace]
  dsimp only
  set guess : Int := num.log2 - den.log2 - 52 with hguess
  split_ifs with hfew
  · -- the guess has been too high by one
    have hbits : ratio (shiftRatio num den guess) < 2 ^ 52 :=
      ratio_lt_of_div_lt (shiftRatio_snd_pos hden guess) hfew
    exact (ratio_shiftRatio_lt_iff.mp hbits).trans_le
      (zpow_le_zpow_right₀ one_le_two (by omega))
  · exact (div_lt_two_zpow num hden).trans_le (zpow_le_zpow_right₀ one_le_two (by omega))

/-- A quotient that is at most `2 ^ k` has no last place above `2 ^ (k - 52)`. -/
lemma lastPlace_le (hnum : 0 < num) (hden : 0 < den) (h : (num / den : Rat) ≤ 2 ^ k) :
    lastPlace num den ≤ k - 52 := by
  have hdigits : ((num.log2 : Int) - den.log2 - 1) < k := by
    have hlt := (two_zpow_lt_div hnum hden).trans_le h
    rw [← zpow_natCast] at hlt
    exact (zpow_lt_zpow_iff_right₀ one_lt_two).mp hlt
  rw [lastPlace]
  dsimp only
  split_ifs <;> omega

/-- **Rounding does not lead past a power of two.** -/
lemma isAtMost_nearest (hk : k ≤ 1023) (hden : 0 < den) (h : (num / den : Rat) ≤ 2 ^ k) :
    (nearest isNegative num den).IsAtMost k := by
  rw [nearest]
  split_ifs with hnum
  · rw [IsAtMost, zero, magnitude_ofMagnitude (by norm_num)]
    exact Nat.zero_le _
  · have hplace := lastPlace_le (Nat.pos_of_ne_zero hnum) hden h
    have hleast : -1074 ≤ lastPlace num den := le_max_right _ _
    have hbits := ratio_lastPlace_lt num hden
    have hshifted : 0 < (shiftRatio num den (lastPlace num den)).2 := shiftRatio_snd_pos hden _
    dsimp only
    set e := lastPlace num den
    set r := shiftRatio num den e
    have hmagnitude :
        (e + 1074).toNat * Nat.pow 2 52 + roundHalfEven r.1 r.2 ≤ (k + 1023) * 2 ^ 52 := by
      rw [Nat.pow_eq]
      by_cases htop : e = k - 52
      · -- the last place is that of `2 ^ k`, whose digits are `2 ^ 52`
        have hround : roundHalfEven r.1 r.2 ≤ 2 ^ 52 := by
          have hsum : e + (52 : Nat) = k := by omega
          refine roundHalfEven_le_of_ratio_le hshifted ?_
          rwa [Nat.cast_pow, Nat.cast_two, ratio_shiftRatio_le_iff, hsum, zpow_natCast]
        omega
      · have hround : roundHalfEven r.1 r.2 ≤ 2 ^ 53 :=
          roundHalfEven_le_of_ratio_le hshifted (by exact_mod_cast hbits.le)
        omega
    have hfinite : (k + 1023) * 2 ^ 52 < infiniteMagnitude := by
      rw [infiniteMagnitude, Nat.pow_eq]
      omega
    rw [if_pos (hmagnitude.trans_lt hfinite), IsAtMost, magnitude_ofMagnitude (by omega)]
    exact hmagnitude

lemma isAtMost_ofNat {n : Nat} (hk : k ≤ 1023) (h : n ≤ 2 ^ k) : (ofNat n).IsAtMost k := by
  refine isAtMost_nearest hk one_pos ?_
  rw [Nat.cast_one, div_one]
  exact_mod_cast h

lemma isAtMost_div (hk : k ≤ 1023) (hx : x.IsAtMost k) (hy : 1 ≤ y.size) :
    (x.div y).IsAtMost k := by
  have hypos : 0 < y.significand := by
    by_contra hzero
    have hsize : y.size = 0 := by simp [size, Nat.eq_zero_of_not_pos hzero]
    linarith
  have hratio : ratio (shiftRatio x.significand y.significand (-(x.exponent - y.exponent))) =
      x.size / y.size := by
    rw [ratio_shiftRatio, size, size, zpow_neg, zpow_sub₀ two_ne_zero]
    field_simp
  have hquotient : x.size / y.size ≤ 2 ^ k := (div_le_self (by rw [size]; positivity) hy).trans
    (size_le_two_pow hx)
  exact isAtMost_nearest hk (shiftRatio_snd_pos hypos _) (hratio.trans_le hquotient)

/-- **No rounded power of ten is below one.** Only the powers up to `10 ^ 308` are finite. -/
lemma one_le_size_powerOfTen {n : Nat} (h : n ≤ 308) : 1 ≤ (powerOfTen n).size := by
  refine one_le_size ?_
  have hall : ∀ n < 309, 1023 ≤ (powerOfTen n).exponentField := by decide +kernel
  exact hall n (by omega)

end FieldNorm.Double
