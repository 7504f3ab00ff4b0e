import FieldNorm.Proofs.Double.Nearest

/-!
How far rounded products and quotients are from the exact ones.

* `Within`: two positive numbers are equal up to a factor. The factors of several steps are
  multiplied.
* `within_nearest`: rounding changes a number that is not very small by a factor of at most
  `roundingFactor`; `within_ofNat` and `within_powerOfTen` are the numbers that a reader starts
  with.
* `size_ofNat_of_le`, `size_powerOfTen_of_le`: the integers and powers of ten that are not changed.
* `exists_nearest_of_mul`, `exists_nearest_of_div`: a product and a quotient are exact ones,
  rounded once. `within_mul` and `abs_size_div_sub_le` are the errors that this makes.
-/

namespace FieldNorm.Double

variable {x y z : Double} {num den k n : Nat} {r s a b c d : Rat} {isNegative : Bool}

/-! ### Numbers that are equal up to a factor -/

/-- Each of two positive numbers is at most `r` times the other. -/
structure Within (r a b : Rat) : Prop where
  pos : 0 < a
  pos' : 0 < b
  le : a ≤ r * b
  ge : b ≤ r * a

namespace Within

lemma factor_pos (h : Within r a b) : 0 < r := by
  have hproduct : 0 < r * b := h.pos.trans_le h.le
  exact (pos_iff_pos_of_mul_pos hproduct).mpr h.pos'

lemma mono (h : Within r a b) (hle : r ≤ s) : Within s a b :=
  ⟨h.pos, h.pos', h.le.trans (mul_le_mul_of_nonneg_right hle h.pos'.le),
    h.ge.trans (mul_le_mul_of_nonneg_right hle h.pos.le)⟩

lemma trans (h : Within r a b) (h' : Within s b c) : Within (r * s) a c where
  pos := h.pos
  pos' := h'.pos'
  le := by
    calc a ≤ r * b := h.le
      _ ≤ r * (s * c) := mul_le_mul_of_nonneg_left h'.le h.factor_pos.le
      _ = r * s * c := by ring
  ge := by
    calc c ≤ s * b := h'.ge
      _ ≤ s * (r * a) := mul_le_mul_of_nonneg_left h.ge h'.factor_pos.le
      _ = r * s * a := by ring

lemma mul (h : Within r a b) (h' : Within s c d) : Within (r * s) (a * c) (b * d) where
  pos := mul_pos h.pos h'.pos
  pos' := mul_pos h.pos' h'.pos'
  le := by
    calc a * c ≤ r * b * (s * d) := mul_le_mul h.le h'.le h'.pos.le (h.pos.le.trans h.le)
      _ = r * s * (b * d) := by ring
  ge := by
    calc b * d ≤ r * a * (s * c) := mul_le_mul h.ge h'.ge h'.pos'.le (h.pos'.le.trans h.ge)
      _ = r * s * (a * c) := by ring

lemma inv (h : Within r a b) : Within r a⁻¹ b⁻¹ where
  pos := inv_pos.mpr h.pos
  pos' := inv_pos.mpr h.pos'
  le := by
    rw [← div_eq_mul_inv, inv_le_iff_one_le_mul₀ h.pos, div_mul_eq_mul_div, one_le_div₀ h.pos']
    exact h.ge
  ge := by
    rw [← div_eq_mul_inv, inv_le_iff_one_le_mul₀ h.pos', div_mul_eq_mul_div, one_le_div₀ h.pos]
    exact h.le

lemma div (h : Within r a b) (h' : Within s c d) : Within (r * s) (a / c) (b / d) := by
  rw [div_eq_mul_inv, div_eq_mul_inv]
  exact h.mul h'.inv

/-- A number and one that differs from it by a small part of it. -/
lemma of_abs_sub_le (h : |a - b| ≤ b * c) (hb : 0 < b) (hle : 1 + c ≤ r) (hc : c < 1)
    (hr : 1 ≤ r * (1 - c)) : Within r a b where
  pos := by
    have hge := (abs_le.mp h).1
    have hpart : b * c < b := mul_lt_of_lt_one_right hb hc
    linarith
  pos' := hb
  le := by
    have hge := (abs_le.mp h).2
    calc a ≤ (1 + c) * b := by linarith
      _ ≤ r * b := mul_le_mul_of_nonneg_right hle hb.le
  ge := by
    have hge := (abs_le.mp h).1
    have hfactor : 0 < r := by
      have hproduct : 0 < r * (1 - c) := one_pos.trans_le hr
      exact (pos_iff_pos_of_mul_pos hproduct).mpr (by linarith)
    calc b ≤ r * (1 - c) * b := le_mul_of_one_le_left hb.le hr
      _ = r * (b - b * c) := by ring
      _ ≤ r * a := mul_le_mul_of_nonneg_left (by linarith) hfactor.le

/-- Two numbers that are equal up to a factor differ by a small part of either. -/
lemma abs_sub_le (h : Within r a b) (hr : 1 ≤ r) : |a - b| ≤ (r - 1) * b := by
  have hle := h.le
  have hge := h.ge
  rw [abs_le]
  constructor
  · rcases le_total a b with hab | hab
    · have hfactor : (r - 1) * a ≤ (r - 1) * b := mul_le_mul_of_nonneg_left hab (by linarith)
      linarith
    · have hfactor : 0 ≤ (r - 1) * b := mul_nonneg (by linarith) h.pos'.le
      linarith
  · linarith

end Within

/-! ### One rounding -/

/-- Rounding to 53 bits changes a number by a factor of at most this. -/
def roundingFactor : Rat := 1 + 1 / 2 ^ 53 + 1 / 2 ^ 105

/-- **What is not very small is changed by a small factor when it is rounded.** -/
lemma within_nearest (hden : 0 < den) (hnormal : (2 : Rat) ^ (-1022 : Int) ≤ num / den)
    (hfinite : (nearest isNegative num den).isFinite) :
    Within roundingFactor (nearest isNegative num den).size (num / den) := by
  have hpos : (0 : Rat) < num / den := lt_of_lt_of_le (by positivity) hnormal
  have hsmall := abs_size_nearest_sub_le_of_normal hden hnormal hfinite
  rw [div_eq_mul_one_div (num / den : Rat) (2 ^ 53)] at hsmall
  refine .of_abs_sub_le hsmall hpos ?_ ?_ ?_ <;> norm_num [roundingFactor]

/-- A natural number below the largest double is changed by a small factor. -/
lemma within_ofNat (hn : 0 < n) (h : (n : Rat) < (2 ^ 53 - 1 / 2) * 2 ^ (971 : Int)) :
    (ofNat n).isFinite ∧ Within roundingFactor (ofNat n).size n := by
  have hquotient : (n : Rat) / (1 : Nat) = n := by rw [Nat.cast_one, div_one]
  have hone : (1 : Rat) ≤ n := by exact_mod_cast hn
  have hfinite : (ofNat n).isFinite := isFinite_nearest hn one_pos (by rwa [hquotient])
  have hnormal : (2 : Rat) ^ (-1022 : Int) ≤ (n : Rat) / (1 : Nat) := by
    rw [hquotient]
    refine le_trans ?_ hone
    rw [← zpow_zero (2 : Rat)]
    exact zpow_le_zpow_right₀ one_le_two (by norm_num)
  refine ⟨hfinite, ?_⟩
  have hwithin := within_nearest one_pos hnormal hfinite
  rwa [hquotient] at hwithin

/-- **The powers of ten that a double has room for** are changed by a small factor. -/
lemma within_powerOfTen (hk : k ≤ 308) :
    (powerOfTen k).isFinite ∧ Within roundingFactor (powerOfTen k).size (10 ^ k) := by
  have hall : ∀ k ≤ 308, 10 ^ k < (2 ^ 53 - 1) * 2 ^ 971 := by decide +kernel
  have hcast : ((10 ^ k : Nat) : Rat) < (2 ^ 53 - 1 / 2) * 2 ^ (971 : Int) := by
    calc ((10 ^ k : Nat) : Rat) < (((2 ^ 53 - 1) * 2 ^ 971 : Nat) : Rat) :=
          Nat.cast_lt.mpr (hall k hk)
      _ = (2 ^ 53 - 1) * 2 ^ (971 : Int) := by
          rw [Nat.cast_mul, Nat.cast_pow, ← zpow_natCast]
          norm_num
      _ ≤ (2 ^ 53 - 1 / 2) * 2 ^ (971 : Int) := by
          refine mul_le_mul_of_nonneg_right ?_ (by positivity)
          norm_num
  have hpower := within_ofNat (Nat.pow_pos (by norm_num)) hcast
  rw [Nat.cast_pow] at hpower
  exact hpower

/-! ### Integers that are doubles -/

/-- What is a multiple of its last place is not changed when it is rounded. -/
lemma size_nearest_of_eq (hnum : 0 < num) (hden : 0 < den) {m : Nat}
    (h : (num / den : Rat) = m * 2 ^ lastPlace num den)
    (hfinite : (nearest isNegative num den).isFinite) :
    (nearest isNegative num den).size = num / den := by
  have hunit : (0 : Rat) < 2 ^ lastPlace num den := by positivity
  have hlow : (m - 1 / 2 : Rat) * 2 ^ lastPlace num den < num / den := by
    rw [h]
    exact mul_lt_mul_of_pos_right (by linarith) hunit
  have hhigh : (num / den : Rat) < (m + 1 / 2) * 2 ^ lastPlace num den := by
    rw [h]
    exact mul_lt_mul_of_pos_right (by linarith) hunit
  rw [size_nearest hnum hden hfinite,
    rounded_eq hden rfl hlow.le hhigh.le fun _ => ⟨hlow, hhigh⟩, h]

/-- **An integer with 53 bits and zeros behind them is a double.** -/
lemma size_ofNat {m j : Nat} (hm : 0 < m) (hbits : m < 2 ^ 53) (hj : j ≤ 971) :
    (ofNat (m * 2 ^ j)).size = m * 2 ^ j := by
  have hn : 0 < m * 2 ^ j := Nat.mul_pos hm (Nat.pow_pos two_pos)
  have hquotient : ((m * 2 ^ j : Nat) : Rat) / (1 : Nat) = m * 2 ^ (j : Int) := by
    push_cast
    rw [div_one, zpow_natCast]
  have hpower : (0 : Rat) < 2 ^ (j : Int) := by positivity
  have hfinite : (ofNat (m * 2 ^ j)).isFinite := by
    refine isFinite_nearest hn one_pos ?_
    rw [hquotient]
    have hle : (m + 1 : Rat) ≤ 2 ^ 53 := by exact_mod_cast Nat.succ_le_of_lt hbits
    have hdigits : (m : Rat) < 2 ^ 53 - 1 / 2 := by linarith
    calc (m : Rat) * 2 ^ (j : Int) < (2 ^ 53 - 1 / 2) * 2 ^ (j : Int) :=
          mul_lt_mul_of_pos_right hdigits hpower
      _ ≤ (2 ^ 53 - 1 / 2) * 2 ^ (971 : Int) := by
          refine mul_le_mul_of_nonneg_left ?_ (by norm_num)
          exact zpow_le_zpow_right₀ one_le_two (by omega)
  -- the last place is not above the zeros
  have hplace : lastPlace (m * 2 ^ j) 1 ≤ j := by
    refine lastPlace_le_of_lt hn one_pos (by omega) ?_
    calc ((m * 2 ^ j : Nat) : Rat) / (1 : Nat) = m * 2 ^ (j : Int) := hquotient
      _ < 2 ^ 53 * 2 ^ (j : Int) := mul_lt_mul_of_pos_right (by exact_mod_cast hbits) hpower
      _ = 2 ^ ((j : Int) + 53) := by
          rw [two_pow_mul_two_zpow, add_comm]
          rfl
  obtain ⟨i, hi⟩ := Int.le.dest hplace
  have hmultiple : ((m * 2 ^ j : Nat) : Rat) / (1 : Nat) =
      (m * 2 ^ i : Nat) * 2 ^ lastPlace (m * 2 ^ j) 1 := by
    rw [hquotient, ← hi, zpow_add₀ two_ne_zero, zpow_natCast]
    push_cast
    ring
  rw [ofNat, size_nearest_of_eq hn one_pos hmultiple hfinite, hquotient, zpow_natCast]

/-- Integers up to `2 ^ 53` are doubles. -/
lemma size_ofNat_of_le (hn : 0 < n) (h : n ≤ 2 ^ 53) : (ofNat n).size = n := by
  rcases h.lt_or_eq with hlt | rfl
  · have hsize := size_ofNat (j := 0) hn hlt (by norm_num)
    rwa [pow_zero, pow_zero, mul_one, mul_one] at hsize
  · have hsize := size_ofNat (m := 1) (j := 53) one_pos (by norm_num) (by norm_num)
    rw [one_mul, Nat.cast_one, one_mul] at hsize
    rw [hsize, Nat.cast_pow, Nat.cast_ofNat]

/-- The powers of ten up to `1e22` are doubles. -/
lemma size_powerOfTen_of_le (hk : k ≤ 22) : (powerOfTen k).size = 10 ^ k := by
  have hdigits : 5 ^ k < 2 ^ 53 :=
    lt_of_le_of_lt (Nat.pow_le_pow_right (by norm_num) hk) (by norm_num)
  have hsize := size_ofNat (j := k) (Nat.pow_pos (by norm_num)) hdigits (by omega)
  rw [← Nat.mul_pow, Nat.cast_pow, ← mul_pow] at hsize
  norm_num at hsize
  exact hsize

/-! ### Products and quotients -/

/-- The nearest double to a scaled quotient is the nearest to some quotient. -/
lemma exists_nearest_of_scaled (isNegative : Bool) (num : Nat) (hden : 0 < den) (e : Int) :
    ∃ n d, nearestScaled isNegative num den e = nearest isNegative n d ∧ 0 < d ∧
      (n / d : Rat) = num / den * 2 ^ e := by
  refine ⟨_, _, rfl, shiftRatio_snd_pos hden (-e), ?_⟩
  have hratio := ratio_shiftRatio num den (-e)
  rwa [zpow_neg, div_inv_eq_mul] at hratio

/-- **A product is the exact one, rounded.** -/
lemma exists_nearest_of_mul (x y : Double) :
    ∃ n d, x.mul y = nearest (x.negative != y.negative) n d ∧ 0 < d ∧
      (n / d : Rat) = x.size * y.size := by
  obtain ⟨n, d, hnearest, hd, hquotient⟩ := exists_nearest_of_scaled (x.negative != y.negative)
    (x.significand * y.significand) one_pos (x.exponent + y.exponent)
  refine ⟨n, d, hnearest, hd, hquotient.trans ?_⟩
  rw [size, size, zpow_add₀ two_ne_zero]
  push_cast
  ring

/-- **A quotient is the exact one, rounded.** -/
lemma exists_nearest_of_div (x : Double) (hy : 0 < y.size) :
    ∃ n d, x.div y = nearest (x.negative != y.negative) n d ∧ 0 < d ∧
      (n / d : Rat) = x.size / y.size := by
  have hsignificand : 0 < y.significand := by
    refine Nat.pos_of_ne_zero fun hzero => ?_
    rw [size, hzero, Nat.cast_zero, zero_mul] at hy
    exact lt_irrefl _ hy
  obtain ⟨n, d, hnearest, hd, hquotient⟩ := exists_nearest_of_scaled (x.negative != y.negative)
    x.significand hsignificand (x.exponent - y.exponent)
  refine ⟨n, d, hnearest, hd, hquotient.trans ?_⟩
  rw [size, size, zpow_sub₀ two_ne_zero]
  field_simp

/-- What the size of a rounded product or quotient needs. -/
lemma num_pos_of_div_pos (h : (0 : Rat) < num / den) : 0 < num := by
  refine Nat.pos_of_ne_zero fun hzero => ?_
  rw [hzero, Nat.cast_zero, zero_div] at h
  exact lt_irrefl _ h

/-- **A product that is not very small** is changed by a small factor when it is rounded. -/
lemma within_mul (hnormal : (2 : Rat) ^ (-1022 : Int) ≤ x.size * y.size)
    (hfinite : (x.mul y).isFinite) : Within roundingFactor (x.mul y).size (x.size * y.size) := by
  obtain ⟨n, d, hnearest, hd, hquotient⟩ := exists_nearest_of_mul x y
  rw [hnearest] at hfinite ⊢
  rw [← hquotient] at hnormal ⊢
  exact within_nearest hd hnormal hfinite

/-- A product below the largest double is finite. -/
lemma isFinite_mul (hpos : 0 < x.size * y.size)
    (h : x.size * y.size < (2 ^ 53 - 1 / 2) * 2 ^ (971 : Int)) : (x.mul y).isFinite := by
  obtain ⟨n, d, hnearest, hd, hquotient⟩ := exists_nearest_of_mul x y
  rw [← hquotient] at hpos h
  rw [hnearest]
  exact isFinite_nearest (num_pos_of_div_pos hpos) hd h

/-- **A quotient** is changed by a small part of itself and half of the smallest double. -/
lemma abs_size_div_sub_le (hx : 0 < x.size) (hy : 0 < y.size) (hfinite : (x.div y).isFinite) :
    |(x.div y).size - x.size / y.size| ≤ x.size / y.size / 2 ^ 53 + 2 ^ (-1075 : Int) := by
  obtain ⟨n, d, hnearest, hd, hquotient⟩ := exists_nearest_of_div x hy
  have hpos : 0 < x.size / y.size := div_pos hx hy
  rw [← hquotient] at hpos
  rw [hnearest] at hfinite ⊢
  rw [← hquotient]
  exact abs_size_nearest_sub_le_add (num_pos_of_div_pos hpos) hd hfinite

/-- **A product that rounds to a double is that double**, up to its sign. -/
lemma mul_of_roundsTo (hfinite : z.isFinite) (hpos : 0 < x.size * y.size)
    (h : RoundsTo z (x.size * y.size)) :
    ∃ isNegative, x.mul y = ofMagnitude isNegative z.magnitude := by
  obtain ⟨n, d, hnearest, hd, hquotient⟩ := exists_nearest_of_mul x y
  rw [← hquotient] at hpos h
  exact ⟨_, hnearest.trans (nearest_of_roundsTo hfinite (num_pos_of_div_pos hpos) hd h)⟩

/-- **A quotient that rounds to a double is that double**, up to its sign. -/
lemma div_of_roundsTo (hfinite : z.isFinite) (hx : 0 < x.size) (hy : 0 < y.size)
    (h : RoundsTo z (x.size / y.size)) :
    ∃ isNegative, x.div y = ofMagnitude isNegative z.magnitude := by
  obtain ⟨n, d, hnearest, hd, hquotient⟩ := exists_nearest_of_div x hy
  have hpos : 0 < x.size / y.size := div_pos hx hy
  rw [← hquotient] at hpos h
  exact ⟨_, hnearest.trans (nearest_of_roundsTo hfinite (num_pos_of_div_pos hpos) hd h)⟩

end FieldNorm.Double
