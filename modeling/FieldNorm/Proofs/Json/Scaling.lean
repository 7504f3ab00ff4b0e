import FieldNorm.Proofs.Double.Arithmetic
import FieldNorm.Proofs.Json.Finite

/-!
How far a number that is read is from the number that is written.

The digits of a literal are rounded to a double, and so is each power of ten by which that is
multiplied or divided, and each product or quotient.

* `within_scale_of_isFinite`, `scale_neg`: what these roundings add up to, for digits of 64 bits and
  an exponent for which at most two powers of ten are needed.
* `scale_of_roundsTo`: with digits and a power of ten that are doubles there is one rounding.
-/

namespace FieldNorm.Json.Numeral

open Double

variable {w k : Nat} {e : Int} {x y : Double}

/-! ### The digits -/

/-- Digits of 64 bits are rounded once. -/
lemma within_digits (hw : 0 < w) (hlimit : w < 2 ^ 64) :
    Within roundingFactor (ofNat w).size w := by
  refine (within_ofNat hw ?_).2
  calc (w : Rat) < 2 ^ 64 := by exact_mod_cast hlimit
    _ = 2 ^ 52 * 2 ^ (12 : Int) := by norm_num
    _ ≤ (2 ^ 53 - 1 / 2) * 2 ^ (971 : Int) := by
        refine mul_le_mul (by norm_num) (zpow_le_zpow_right₀ one_le_two (by norm_num))
          (by positivity) (by norm_num)

/-! ### Scaling up -/

/-- A product of rounded digits and a rounded power of ten, before it is rounded itself. -/
lemma within_factors (hw : 0 < w) (hlimit : w < 2 ^ 64) (hk : k ≤ 308) :
    Within (roundingFactor * roundingFactor) ((ofNat w).size * (powerOfTen k).size)
      (w * 10 ^ k) :=
  (within_digits hw hlimit).mul (within_powerOfTen hk).2

/-- **Scaling up multiplies once**, with three roundings in all. -/
lemma within_scale_of_isFinite (hw : 0 < w) (hlimit : w < 2 ^ 64) (hk : k ≤ 308)
    (hfinite : ((ofNat w).mul (powerOfTen k)).isFinite) :
    scale w k = some ((ofNat w).mul (powerOfTen k)) ∧
      Within (roundingFactor ^ 3) ((ofNat w).mul (powerOfTen k)).size (w * 10 ^ k) := by
  have hfactors := within_factors hw hlimit hk
  have hone : (1 : Rat) ≤ w * 10 ^ k := by
    exact_mod_cast Nat.mul_pos hw (Nat.pow_pos (n := k) (by norm_num))
  have hnormal : (2 : Rat) ^ (-1022 : Int) ≤ (ofNat w).size * (powerOfTen k).size := by
    have hhalf : (1 / 2 : Rat) ≤ (ofNat w).size * (powerOfTen k).size := by
      have hle := hone.trans hfactors.ge
      have htwo : roundingFactor * roundingFactor ≤ 2 := by norm_num [roundingFactor]
      have hbound := mul_le_mul_of_nonneg_right htwo hfactors.pos.le
      linarith
    refine le_trans ?_ hhalf
    rw [one_div, ← zpow_neg_one]
    exact zpow_le_zpow_right₀ one_le_two (by norm_num)
  refine ⟨?_, ?_⟩
  · rw [scale, if_neg (by omega), if_pos (by omega), Int.toNat_natCast, if_pos hfinite]
  · rw [pow_succ', pow_two]
    exact (within_mul hnormal hfinite).trans hfactors

/-- Scaling up succeeds below the largest double, with room for two roundings. -/
lemma isFinite_mul_powerOfTen (hw : 0 < w) (hlimit : w < 2 ^ 64) (hk : k ≤ 308)
    (h : roundingFactor * roundingFactor * (w * 10 ^ k) < (2 ^ 53 - 1 / 2) * 2 ^ (971 : Int)) :
    ((ofNat w).mul (powerOfTen k)).isFinite := by
  have hfactors := within_factors hw hlimit hk
  exact isFinite_mul hfactors.pos (hfactors.le.trans_lt h)

/-! ### Scaling down -/

/-- Numbers that are not much smaller than the smallest double with 53 bits have almost all of their
bits. -/
lemma two_zpow_mul_le {n : Nat} (h : 11 * n ≤ 30 * 2 ^ 1022) :
    (2 : Rat) ^ (-1075 : Int) * n ≤ 30 / 11 / 2 ^ 53 := by
  have hcast : (11 * n : Rat) ≤ 30 * 2 ^ (1022 : Int) := by
    rw [zpow_ofNat]
    exact_mod_cast h
  have hunit : (2 : Rat) ^ (-1075 : Int) * 2 ^ (1022 : Int) = 1 / 2 ^ 53 := by
    rw [← zpow_add₀ two_ne_zero]
    norm_num
  have hpos : (0 : Rat) < 2 ^ (-1075 : Int) := by positivity
  have hmul := mul_le_mul_of_nonneg_left hcast hpos.le
  rw [mul_left_comm _ (30 : Rat), hunit] at hmul
  linarith

lemma one_le_roundingFactor : 1 ≤ roundingFactor := by norm_num [roundingFactor]

/-- What is left of the digits behind a power of ten is large against the smallest double. -/
lemma two_zpow_le_of_within {r : Rat} (hw : 0 < w) (hk : k ≤ 308)
    (h : Within (roundingFactor * roundingFactor) r (w / 10 ^ k)) :
    (2 : Rat) ^ (-1075 : Int) ≤ r * (3 / 2 ^ 53) := by
  -- `1e308` is beyond `2 ^ 1023`, so the quotient may have lost two bits, but no more
  have hall : ∀ k ≤ 308, 11 * 10 ^ k ≤ 30 * 2 ^ 1022 := by decide +kernel
  have hroom := two_zpow_mul_le (hall k hk)
  rw [Nat.cast_pow, Nat.cast_ofNat] at hroom
  have hone : (1 : Rat) ≤ w := by exact_mod_cast hw
  have hpow : (0 : Rat) < 10 ^ k := by positivity
  have hsquare : roundingFactor * roundingFactor ≤ 11 / 10 := by norm_num [roundingFactor]
  calc (2 : Rat) ^ (-1075 : Int) = 2 ^ (-1075 : Int) * 10 ^ k * (1 / 10 ^ k) := by
        field_simp
    _ ≤ 2 ^ (-1075 : Int) * 10 ^ k * (w / 10 ^ k) :=
        mul_le_mul_of_nonneg_left (div_le_div_of_nonneg_right hone hpow.le) (by positivity)
    _ ≤ 30 / 11 / 2 ^ 53 * (roundingFactor * roundingFactor * r) :=
        mul_le_mul hroom h.ge h.pos'.le (by norm_num)
    _ ≤ 30 / 11 / 2 ^ 53 * (11 / 10 * r) := by
        refine mul_le_mul_of_nonneg_left ?_ (by norm_num)
        exact mul_le_mul_of_nonneg_right hsquare h.pos.le
    _ = r * (3 / 2 ^ 53) := by ring

/-- **One division by a power of ten** leaves a number that has almost all of its bits. -/
lemma within_div (hw : 0 < w) (hlimit : w < 2 ^ 64) (hk : k ≤ 308) :
    Within (roundingFactor ^ 7) ((ofNat w).div (powerOfTen k)).size (w / 10 ^ k) := by
  have hdigits := within_digits hw hlimit
  obtain ⟨-, hpower⟩ := within_powerOfTen hk
  have hfinite : ((ofNat w).div (powerOfTen k)).isFinite :=
    isFinite_of_isAtMost (k := 64) (by norm_num)
      (isAtMost_div (by norm_num) (isAtMost_ofNat (by norm_num) hlimit.le)
        (one_le_size_powerOfTen hk))
  have hclose := abs_size_div_sub_le hdigits.pos hpower.pos hfinite
  have hquotient := hdigits.div hpower
  generalize (ofNat w).size / (powerOfTen k).size = r at hquotient hclose
  have hleast := two_zpow_le_of_within hw hk hquotient
  have hstep : |((ofNat w).div (powerOfTen k)).size - r| ≤ r * (4 / 2 ^ 53) := by
    refine hclose.trans ?_
    calc r / 2 ^ 53 + 2 ^ (-1075 : Int) ≤ r / 2 ^ 53 + r * (3 / 2 ^ 53) := by gcongr
      _ = r * (4 / 2 ^ 53) := by ring
  have hrounded : Within (roundingFactor ^ 5) ((ofNat w).div (powerOfTen k)).size r := by
    refine .of_abs_sub_le hstep hquotient.pos ?_ ?_ ?_ <;> norm_num [roundingFactor]
  have hboth := hrounded.trans hquotient
  rwa [show roundingFactor ^ 5 * (roundingFactor * roundingFactor) = roundingFactor ^ 7 by ring]
    at hboth

/-- What is left of the digits when at most one power of ten is divided away. -/
lemma within_divideAway {steps : Nat} (hsteps : steps ≤ 1) (hw : 0 < w) (hlimit : w < 2 ^ 64) :
    Within (roundingFactor ^ 7) (divideAway steps (ofNat w)).size (w / 10 ^ (308 * steps)) := by
  have hdigits := within_digits hw hlimit
  rcases Nat.le_one_iff_eq_zero_or_eq_one.mp hsteps with rfl | rfl
  · rw [Nat.mul_zero, pow_zero, div_one, divideAway]
    exact hdigits.mono (le_self_pow₀ one_le_roundingFactor (by norm_num))
  · rw [divideAway, isZero_eq_false_of_size_pos hdigits.pos, if_neg Bool.false_ne_true, divideAway]
    exact within_div hw hlimit le_rfl

/-- Eight roundings that are multiplied and a last one that is added. -/
lemma abs_sub_le_of_within {r q z : Rat} (h : Within (roundingFactor ^ 8) r q)
    (hclose : |z - r| ≤ r / 2 ^ 53 + 2 ^ (-1075 : Int)) :
    |z - q| ≤ 19 / 2 ^ 54 * q + 2 ^ (-1075 : Int) := by
  have hdistance := h.abs_sub_le (one_le_pow₀ one_le_roundingFactor)
  have hrounded : r / 2 ^ 53 ≤ roundingFactor ^ 8 * q / 2 ^ 53 :=
    div_le_div_of_nonneg_right h.le (by norm_num)
  have hfactor : roundingFactor ^ 8 - 1 + roundingFactor ^ 8 / 2 ^ 53 ≤ 19 / 2 ^ 54 := by
    norm_num [roundingFactor]
  have htotal := mul_le_mul_of_nonneg_right hfactor h.pos'.le
  calc |z - q| ≤ (r / 2 ^ 53 + 2 ^ (-1075 : Int)) + (roundingFactor ^ 8 - 1) * q :=
        (abs_sub_le _ r _).trans (add_le_add hclose hdistance)
    _ ≤ (roundingFactor ^ 8 - 1 + roundingFactor ^ 8 / 2 ^ 53) * q + 2 ^ (-1075 : Int) := by
        linarith
    _ ≤ 19 / 2 ^ 54 * q + 2 ^ (-1075 : Int) := by linarith

/-- **Scaling down** divides, by two powers of ten at most, and always succeeds. -/
lemma scale_neg (hw : 0 < w) (hlimit : w < 2 ^ 64) (hpos : 0 < k) (hk : k ≤ 616) :
    ∃ y, scale w (-k) = some y ∧
      |y.size - w / 10 ^ k| ≤ 19 / 2 ^ 54 * (w / 10 ^ k) + 2 ^ (-1075 : Int) := by
  have hscale : scale w (-k) = some ((divideAway ((k - 1) / 308) (ofNat w)).div
      (powerOfTen (k - 308 * ((k - 1) / 308)))) := by
    rw [scale, if_pos (by omega), Int.natAbs_neg, Int.natAbs_natCast]
  have hfinite := isFinite_of_scale hlimit hscale
  have hleft : Within (roundingFactor ^ 7) (divideAway ((k - 1) / 308) (ofNat w)).size
      (w / 10 ^ (308 * ((k - 1) / 308))) :=
    within_divideAway (by omega) hw hlimit
  obtain ⟨-, hpower⟩ := within_powerOfTen (k := k - 308 * ((k - 1) / 308)) (by omega)
  -- both powers of ten together are the one that is written
  have hquotient := hleft.div hpower
  rw [div_div, ← pow_add, show 308 * ((k - 1) / 308) + (k - 308 * ((k - 1) / 308)) = k by omega,
    ← pow_succ] at hquotient
  exact ⟨_, hscale,
    abs_sub_le_of_within hquotient (abs_size_div_sub_le hleft.pos hpower.pos hfinite)⟩

/-! ### Digits and powers that are doubles -/

/-- **With exact digits and an exact power of ten there is one rounding**, so a double that the
literal rounds to is found again. -/
lemma scale_of_roundsTo (hw : 0 < w) (hdigits : w ≤ 2 ^ 53) (he : e.natAbs ≤ 22)
    (hfinite : x.isFinite) (h : RoundsTo x (w * 10 ^ e)) :
    ∃ isNegative, scale w e = some (ofMagnitude isNegative x.magnitude) := by
  have hsize := size_ofNat_of_le hw hdigits
  have hpos : (0 : Rat) < w := by exact_mod_cast hw
  rcases lt_or_ge e 0 with hneg | hge
  · obtain ⟨k, rfl⟩ : ∃ k : Nat, e = -k := ⟨e.natAbs, by omega⟩
    have hpower : (powerOfTen k).size = 10 ^ k := size_powerOfTen_of_le (by omega)
    rw [zpow_neg, zpow_natCast, ← div_eq_mul_inv, ← hsize, ← hpower] at h
    obtain ⟨isNegative, hquotient⟩ :=
      div_of_roundsTo hfinite (by rwa [hsize]) (by rw [hpower]; positivity) h
    refine ⟨isNegative, ?_⟩
    rw [scale, if_pos hneg, Int.natAbs_neg, Int.natAbs_natCast, show (k - 1) / 308 = 0 by omega]
    exact congrArg some hquotient
  · obtain ⟨k, rfl⟩ := Int.eq_ofNat_of_zero_le hge
    have hpower : (powerOfTen k).size = 10 ^ k := size_powerOfTen_of_le (by omega)
    rw [zpow_natCast, ← hsize, ← hpower] at h
    obtain ⟨isNegative, hproduct⟩ :=
      mul_of_roundsTo hfinite (by rw [hsize, hpower]; positivity) h
    have hroom : ((ofNat w).mul (powerOfTen k)).isFinite := by
      rwa [hproduct, isFinite_iff, magnitude_ofMagnitude x.magnitude_lt, ← isFinite_iff]
    refine ⟨isNegative, ?_⟩
    rw [scale, if_neg (by omega), if_pos (by omega), Int.toNat_natCast, if_pos hroom, hproduct]

end FieldNorm.Json.Numeral
