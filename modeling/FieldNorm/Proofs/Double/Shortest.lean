import FieldNorm.Double.Shortest
import FieldNorm.Proofs.Double.Nearest

/-!
The shortest digits of a double round to it.

* `decimalOrder_spec`: the estimate of the decimal order from the numbers of binary digits, put
  right by at most one step.
* `holds_interval_iff`: the test by integers whether a decimal rounds to a double.
* `exists_onGrid?`: among the decimals with seventeen digits there is one that does, because the
  doubles lie further apart.
* `shortest_spec`: so the search ends, with a decimal that rounds to the double and has at most
  seventeen digits.
-/

namespace FieldNorm.Double

variable {x : Double} {num den c fuel : Nat} {k order : Int} {q : Rat} {tie : Tie} {d : Decimal}

/-- The positive rational number that the decimal stands for. -/
def Decimal.quantity (d : Decimal) : Rat := d.coefficient * 10 ^ d.exponent

/-! ### The decimal order -/

lemma ten_zpow_pos (k : Int) : (0 : Rat) < 10 ^ k := by positivity

/-- A thousand binary digits are about three hundred decimal ones. -/
lemma ten_pow_le_two_pow {n : Nat} (h : n < 1101) :
    10 ^ (n * 1233 / 4096) ≤ 5 * 2 ^ n ∧ 2 ^ (n + 1) ≤ 10 ^ (n * 1233 / 4096 + 2) := by
  have hall : ∀ n < 1101,
      10 ^ (n * 1233 / 4096) ≤ 5 * 2 ^ n ∧ 2 ^ (n + 1) ≤ 10 ^ (n * 1233 / 4096 + 2) := by
    decide +kernel
  exact hall n h

/-- The same of negative numbers of digits, for which the quotient is rounded the other way. -/
lemma two_pow_le_ten_pow {n : Nat} (h : n < 1101) :
    2 ^ (n + 1) ≤ 10 ^ ((n * 1233 + 4095) / 4096 + 1) ∧
      10 ^ ((n * 1233 + 4095) / 4096) ≤ 50 * 2 ^ n := by
  have hall : ∀ n < 1101, 2 ^ (n + 1) ≤ 10 ^ ((n * 1233 + 4095) / 4096 + 1) ∧
      10 ^ ((n * 1233 + 4095) / 4096) ≤ 50 * 2 ^ n := by
    decide +kernel
  exact hall n h

/-- The estimate of the decimal order from a number of binary digits. -/
lemma estimate_ofNat {n : Nat} (h : n < 1101) :
    (10 : Rat) ^ ((n : Int) * 1233 / 4096 - 1) ≤ 2 ^ ((n : Int) - 1) ∧
      (2 : Rat) ^ ((n : Int) + 1) ≤ 10 ^ ((n : Int) * 1233 / 4096 + 2) := by
  obtain ⟨hle, hge⟩ := ten_pow_le_two_pow h
  have hguess : (n : Int) * 1233 / 4096 = (n * 1233 / 4096 : Nat) := by push_cast; rfl
  rw [hguess]
  constructor
  · rw [zpow_sub_one₀ (by norm_num), zpow_sub_one₀ two_ne_zero, zpow_natCast, zpow_natCast]
    have hcast : (10 : Rat) ^ (n * 1233 / 4096) ≤ 5 * 2 ^ n := by exact_mod_cast hle
    linarith
  · exact_mod_cast hge

/-- The same from a negative one. -/
lemma estimate_neg {n : Nat} (h : n < 1101) :
    (10 : Rat) ^ (-(n : Int) * 1233 / 4096 - 1) ≤ 2 ^ (-(n : Int) - 1) ∧
      (2 : Rat) ^ (-(n : Int) + 1) ≤ 10 ^ (-(n : Int) * 1233 / 4096 + 2) := by
  obtain ⟨hge, hle⟩ := two_pow_le_ten_pow h
  have hguess : -(n : Int) * 1233 / 4096 = -((n * 1233 + 4095) / 4096 : Nat) := by
    push_cast
    omega
  have hturned : ∀ (b : Rat) (k : Nat), b ^ (-(k : Int) - 1) = (b ^ (k + 1))⁻¹ := by
    intro b k
    rw [← zpow_natCast, ← zpow_neg]
    congr 1
    push_cast
    ring
  rw [hguess]
  generalize (n * 1233 + 4095) / 4096 = g at hge hle
  constructor
  · have hcast : (2 : Rat) ^ (n + 1) ≤ 10 ^ (g + 1) := by exact_mod_cast hge
    calc (10 : Rat) ^ (-(g : Int) - 1) = ((10 : Rat) ^ (g + 1))⁻¹ := hturned 10 g
      _ ≤ ((2 : Rat) ^ (n + 1))⁻¹ := inv_anti₀ (by positivity) hcast
      _ = 2 ^ (-(n : Int) - 1) := (hturned 2 n).symm
  · have hcast : (10 : Rat) ^ g ≤ 50 * 2 ^ n := by exact_mod_cast hle
    rw [zpow_add₀ two_ne_zero, zpow_add₀ (by norm_num), zpow_neg, zpow_neg, zpow_natCast,
      zpow_natCast, inv_mul_eq_div, inv_mul_eq_div, div_le_div_iff₀ (by positivity) (by positivity)]
    norm_num
    linarith

/-- **The estimate of the decimal order is off by one at most.** -/
lemma estimate_spec {l : Int} (hlow : -1100 ≤ l) (hhigh : l ≤ 1100) :
    (10 : Rat) ^ (l * 1233 / 4096 - 1) ≤ 2 ^ (l - 1) ∧
      (2 : Rat) ^ (l + 1) ≤ 10 ^ (l * 1233 / 4096 + 2) := by
  rcases le_total 0 l with hl | hl
  · obtain ⟨n, rfl⟩ := Int.eq_ofNat_of_zero_le hl
    exact estimate_ofNat (by omega)
  · obtain ⟨n, rfl⟩ : ∃ n : Nat, l = -n := ⟨l.natAbs, by omega⟩
    exact estimate_neg (by omega)

/-- Whether a quotient is at least a power of ten is told by comparing integers. -/
lemma atLeast_iff (hden : 0 < den) :
    (if 0 ≤ k then decide (den * Nat.pow 10 k.toNat ≤ num)
      else decide (den ≤ num * Nat.pow 10 (-k).toNat)) = true ↔ (10 : Rat) ^ k ≤ num / den := by
  have hpos : (0 : Rat) < den := by exact_mod_cast hden
  rw [le_div_iff₀ hpos]
  split_ifs with hk
  · obtain ⟨n, rfl⟩ := Int.eq_ofNat_of_zero_le hk
    rw [decide_eq_true_iff, zpow_natCast, mul_comm, Int.toNat_natCast, Nat.pow_eq]
    exact_mod_cast Iff.rfl
  · obtain ⟨n, rfl⟩ : ∃ n : Nat, k = -n := ⟨(-k).toNat, by omega⟩
    rw [decide_eq_true_iff, zpow_neg, zpow_natCast, inv_mul_le_iff₀ (by positivity), mul_comm,
      neg_neg, Int.toNat_natCast, Nat.pow_eq]
    exact_mod_cast Iff.rfl

/-- **The decimal order of a quotient** of the sizes that doubles have. -/
lemma decimalOrder_spec (hnum : 0 < num) (hden : 0 < den)
    (hlow : (2 : Rat) ^ (-1074 : Int) ≤ num / den) (hhigh : (num / den : Rat) < 2 ^ (1024 : Int)) :
    (10 : Rat) ^ decimalOrder num den ≤ num / den ∧
      (num / den : Rat) < 10 ^ (decimalOrder num den + 1) := by
  have hbelow := two_zpow_lt_div hnum hden
  have habove := div_lt_two_zpow num hden
  have hleast := (zpow_lt_zpow_iff_right₀ one_lt_two).mp (hlow.trans_lt habove)
  have hgreatest := (zpow_lt_zpow_iff_right₀ one_lt_two).mp (hbelow.trans hhigh)
  obtain ⟨hge, hlt⟩ := estimate_spec (l := (num.log2 : Int) - den.log2) (by omega) (by omega)
  have hguess := hge.trans hbelow.le
  have hbound := habove.trans_le hlt
  rw [decimalOrder]
  dsimp only
  simp only [atLeast_iff hden]
  generalize ((num.log2 : Int) - den.log2) * 1233 / 4096 = guess at hguess hbound ⊢
  split_ifs with hup hsame
  · exact ⟨hup, by rwa [add_assoc]⟩
  · exact ⟨hsame, not_le.mp hup⟩
  · exact ⟨hguess, by rwa [sub_add_cancel, ← not_le]⟩

/-! ### The interval of a double -/

/-- The factor that makes integers of quarters of a unit, over the denominator. -/
lemma mul_scale_div (n : Nat) (e : Int) :
    ((n * (if 0 ≤ e then Nat.pow 2 e.toNat else 1) : Nat) : Rat) /
      (if 0 ≤ e then 1 else Nat.pow 2 (-e).toNat : Nat) = n * 2 ^ e := by
  split_ifs with he
  · obtain ⟨m, rfl⟩ := Int.eq_ofNat_of_zero_le he
    simp
  · obtain ⟨m, rfl⟩ : ∃ m : Nat, e = -m := ⟨(-e).toNat, by omega⟩
    simp [div_eq_mul_inv]

lemma interval_den_pos (x : Double) : 0 < x.interval.den := by
  simp only [interval]
  split_ifs
  · exact one_pos
  · exact Nat.pow_pos two_pos

lemma interval_mid (x : Double) : (x.interval.mid : Rat) / x.interval.den = x.size := by
  have hmid := mul_scale_div (4 * x.significand) (x.exponent - 2)
  refine hmid.trans ?_
  rw [size, zpow_sub₀ two_ne_zero]
  push_cast
  ring

lemma interval_low (h : x.significand ≠ 0) :
    (x.interval.low : Rat) / x.interval.den = x.low := by
  have hlow := mul_scale_div (if x.significand = Nat.pow 2 52 && 1 < x.exponentField then
    4 * x.significand - 1 else 4 * x.significand - 2) (x.exponent - 2)
  refine hlow.trans ?_
  rw [low, zpow_sub₀ two_ne_zero]
  simp only [Nat.pow_eq, Bool.and_eq_true, decide_eq_true_eq]
  split_ifs with hends
  · rw [Nat.cast_sub (by omega)]
    push_cast
    ring
  · rw [Nat.cast_sub (by omega)]
    push_cast
    ring

lemma interval_high (x : Double) : (x.interval.high : Rat) / x.interval.den = x.high := by
  have hhigh := mul_scale_div (4 * x.significand + 2) (x.exponent - 2)
  refine hhigh.trans ?_
  rw [high, zpow_sub₀ two_ne_zero]
  push_cast
  ring

/-- A decimal with a denominator, as an integer over the unit of its digits. -/
lemma decimal_mul (c den : Nat) (k : Int) :
    0 < (if 0 ≤ k then 1 else Nat.pow 10 (-k).toNat) ∧
      ((if 0 ≤ k then c * Nat.pow 10 k.toNat * den else c * den : Nat) : Rat) =
        c * 10 ^ k * den * (if 0 ≤ k then 1 else Nat.pow 10 (-k).toNat : Nat) := by
  split_ifs with hk
  · obtain ⟨n, rfl⟩ := Int.eq_ofNat_of_zero_le hk
    exact ⟨one_pos, by simp⟩
  · obtain ⟨n, rfl⟩ : ∃ n : Nat, k = -n := ⟨(-k).toNat, by omega⟩
    refine ⟨Nat.pow_pos (by norm_num), ?_⟩
    simp
    field_simp

/-- Rounding to a double with an even significand, or with an odd one. -/
lemma roundsTo_iff :
    RoundsTo x q ↔ if x.significand % 2 = 0 then x.low ≤ q ∧ q ≤ x.high
      else x.low < q ∧ q < x.high := by
  split_ifs with heven
  · refine ⟨fun h => ⟨h.low_le, h.le_high⟩, fun h => ⟨h.1, h.2, fun hodd => ?_⟩⟩
    omega
  · exact ⟨fun h => h.odd (by omega), fun h => ⟨h.1.le, h.2.le, fun _ => h⟩⟩

/-- **The test whether a decimal rounds to a double.** -/
lemma holds_interval_iff (h : x.significand ≠ 0) :
    x.interval.holds c k ↔ RoundsTo x (c * 10 ^ k) := by
  obtain ⟨hunit, hvalue⟩ := decimal_mul c x.interval.den k
  have hden : (0 : Rat) < x.interval.den := by exact_mod_cast x.interval_den_pos
  have hclosed : x.interval.closed = (x.significand % 2 == 0) := rfl
  rw [roundsTo_iff, ← interval_low h, ← interval_high x, Interval.holds, hclosed]
  set unit := if 0 ≤ k then 1 else Nat.pow 10 (-k).toNat
  set value := if 0 ≤ k then c * Nat.pow 10 k.toNat * x.interval.den else c * x.interval.den
  have hpos : (0 : Rat) < unit := by exact_mod_cast hunit
  have hle : ∀ n : Nat, n * unit ≤ value ↔ (n : Rat) / x.interval.den ≤ c * 10 ^ k := by
    intro n
    rw [div_le_iff₀ hden, ← mul_le_mul_iff_left₀ hpos, ← hvalue]
    exact_mod_cast Iff.rfl
  have hge : ∀ n : Nat, value ≤ n * unit ↔ (c * 10 ^ k : Rat) ≤ (n : Rat) / x.interval.den := by
    intro n
    rw [le_div_iff₀ hden, ← mul_le_mul_iff_left₀ hpos, ← hvalue]
    exact_mod_cast Iff.rfl
  by_cases heven : x.significand % 2 = 0
  · simp [heven, hle, hge]
  · simp [heven, ← not_le, hle, hge]

/-! ### The grids -/

/-- The greatest point of a grid that does not exceed the double. -/
def below (x : Double) (k : Int) : Nat :=
  (if 0 ≤ k then x.interval.mid else x.interval.mid * Nat.pow 10 (-k).toNat) /
    (if 0 ≤ k then x.interval.den * Nat.pow 10 k.toNat else x.interval.den)

/-- The double lies between two neighbours on a grid. -/
lemma below_spec (x : Double) (k : Int) :
    (x.below k * 10 ^ k : Rat) ≤ x.size ∧ x.size < (x.below k + 1 : Nat) * 10 ^ k := by
  have hden := x.interval_den_pos
  obtain ⟨num, den, hbelow, hpos, hratio⟩ : ∃ num den : Nat, x.below k = num / den ∧ 0 < den ∧
      (num / den : Rat) = x.size / 10 ^ k := by
    refine ⟨_, _, rfl, ?_, ?_⟩
    · split_ifs
      · exact Nat.mul_pos hden (Nat.pow_pos (by norm_num))
      · exact hden
    · rw [← interval_mid]
      split_ifs with hk
      · obtain ⟨n, rfl⟩ := Int.eq_ofNat_of_zero_le hk
        simp [div_div]
      · obtain ⟨n, rfl⟩ : ∃ n : Nat, k = -n := ⟨(-k).toNat, by omega⟩
        simp [div_mul_eq_mul_div]
  have hden' : (0 : Rat) < den := by exact_mod_cast hpos
  rw [hbelow, ← le_div_iff₀ (ten_zpow_pos k), ← div_lt_iff₀ (ten_zpow_pos k), ← hratio,
    le_div_iff₀ hden', div_lt_iff₀ hden']
  have hsplit := Nat.div_mul_le_self num den
  have hnext := (Nat.div_lt_iff_lt_mul hpos).mp (Nat.lt_succ_self (num / den))
  exact ⟨by exact_mod_cast hsplit, by exact_mod_cast hnext⟩

/-- What is found on a grid is one of the two neighbours, and passes the test. -/
lemma holds_of_onGrid? (h : x.interval.onGrid? tie k = some c) :
    x.interval.holds c k ∧ (c = x.below k ∨ c = x.below k + 1) := by
  rw [Interval.onGrid?.eq_def] at h
  dsimp only at h
  rw [← below] at h
  split at h
  · cases h
  · rename_i hlow _
    obtain rfl := Option.some.inj h
    exact ⟨hlow, .inl rfl⟩
  · rename_i _ hhigh
    obtain rfl := Option.some.inj h
    exact ⟨hhigh, .inr rfl⟩
  · rename_i hlow hhigh
    have hneighbour : c = x.below k ∨ c = x.below k + 1 := by
      cases tie <;> grind
    refine ⟨?_, hneighbour⟩
    rcases hneighbour with rfl | rfl
    · exact hlow
    · exact hhigh

/-- Something is found on a grid if one of the two neighbours passes the test. -/
lemma exists_of_holds (h : x.interval.holds (x.below k) k ∨ x.interval.holds (x.below k + 1) k) :
    ∃ c, x.interval.onGrid? tie k = some c := by
  rw [Interval.onGrid?.eq_def]
  dsimp only
  rw [← below]
  split
  · simp_all
  · exact ⟨_, rfl⟩
  · exact ⟨_, rfl⟩
  · cases tie <;> split_ifs <;> exact ⟨_, rfl⟩

/-- The double lies inside its interval. -/
lemma low_lt_size (x : Double) : x.low < x.size := by
  refine mul_lt_mul_of_pos_right ?_ (by positivity)
  split_ifs <;> linarith

lemma size_lt_high (x : Double) : x.size < x.high := by
  refine mul_lt_mul_of_pos_right ?_ (by positivity)
  linarith

/-- **On a grid that is finer than the interval is wide a neighbour rounds to the double.** -/
lemma exists_onGrid? (h : x.significand ≠ 0) (hfine : x.low + 10 ^ k < x.high) :
    ∃ c, x.interval.onGrid? tie k = some c := by
  obtain ⟨hbelow, habove⟩ := x.below_spec k
  push_cast at habove
  refine exists_of_holds ?_
  rw [holds_interval_iff h, holds_interval_iff h]
  have hlow := x.low_lt_size
  have hhigh := x.size_lt_high
  rcases lt_or_ge x.low (x.below k * 10 ^ k) with hlt | hge
  · left
    have hinside := hbelow.trans_lt hhigh
    exact ⟨hlt.le, hinside.le, fun _ => ⟨hlt, hinside⟩⟩
  · right
    push_cast
    have hright : x.low < (x.below k + 1) * 10 ^ k := hlow.trans habove
    have hleft : (x.below k + 1 : Rat) * 10 ^ k < x.high := by
      rw [add_mul, one_mul]
      linarith
    exact ⟨hright.le, hleft.le, fun _ => ⟨hright, hleft⟩⟩

/-! ### The search -/

/-- **The interval is wider than a grid of seventeen digits.** -/
lemma low_add_lt_high (h : (10 : Rat) ^ order ≤ x.size) : x.low + 10 ^ (order - 16) < x.high := by
  have hunit : (0 : Rat) < 2 ^ x.exponent := by positivity
  have hgrid : (10 : Rat) ^ (order - 16) = 10 ^ order / 10 ^ 16 := by
    rw [zpow_sub₀ (by norm_num)]
    rfl
  have hsize : (10 : Rat) ^ (order - 16) ≤ x.significand / 10 ^ 16 * 2 ^ x.exponent := by
    rw [hgrid, div_mul_eq_mul_div]
    exact div_le_div_of_nonneg_right h (by positivity)
  have hwidth : x.high - x.low =
      (1 / 2 + (if x.significand = 2 ^ 52 ∧ 1 < x.exponentField then 1 / 4 else 1 / 2)) *
        2 ^ x.exponent := by
    rw [high, low]
    ring
  have hdigits : (x.significand / 10 ^ 16 : Rat) <
      1 / 2 + (if x.significand = 2 ^ 52 ∧ 1 < x.exponentField then 1 / 4 else 1 / 2) := by
    have hsignificand : (x.significand : Rat) < 2 ^ 53 := by exact_mod_cast x.significand_lt
    rw [div_lt_iff₀ (by positivity)]
    split_ifs with hends
    · rw [hends.1]
      norm_num
    · norm_num at hsignificand ⊢
      linarith
  have hlt := mul_lt_mul_of_pos_right hdigits hunit
  linarith

/-- A search that gets to a grid with a point ends, on this grid or before it. -/
lemma search_spec {i : Interval} {last : Nat} (hlast : ∃ c, i.onGrid? tie (order - last) = some c) :
    ∀ {fuel count : Nat}, count ≤ last → last < count + fuel →
      ∃ n c, n ≤ last ∧ i.search tie order fuel count = ⟨c, order - n⟩ ∧
        i.onGrid? tie (order - n) = some c := by
  intro fuel
  induction fuel with
  | zero =>
      intro count hle hlt
      omega
  | succ fuel ih =>
      intro count hle hlt
      rw [Interval.search]
      cases hgrid : i.onGrid? tie (order - count) with
      | some c => exact ⟨count, c, hle, rfl, hgrid⟩
      | none =>
          have hne : count ≠ last := by
            rintro rfl
            obtain ⟨c, hc⟩ := hlast
            rw [hgrid] at hc
            cases hc
          exact ih (by omega) (by omega)

/-- **Zeros at the end of the digits are moved into the exponent.** -/
lemma trimZeros_spec (fuel : Nat) (d : Decimal) :
    (d.trimZeros fuel).quantity = d.quantity ∧ (d.trimZeros fuel).coefficient ≤ d.coefficient ∧
      d.exponent ≤ (d.trimZeros fuel).exponent := by
  induction fuel generalizing d with
  | zero => exact ⟨rfl, le_rfl, le_rfl⟩
  | succ fuel ih =>
      rw [Decimal.trimZeros]
      split_ifs with hzero
      · obtain ⟨hquantity, hcoefficient, hexponent⟩ := ih ⟨d.coefficient / 10, d.exponent + 1⟩
        simp only [Bool.and_eq_true, decide_eq_true_eq] at hzero
        refine ⟨hquantity.trans ?_, hcoefficient.trans (Nat.div_le_self _ _),
          (Int.le_add_one le_rfl).trans hexponent⟩
        have hten : (d.coefficient : Rat) = (d.coefficient / 10 : Nat) * 10 := by
          exact_mod_cast (Nat.div_mul_cancel (Nat.dvd_of_mod_eq_zero hzero.1)).symm
        rw [Decimal.quantity, Decimal.quantity, zpow_add_one₀ (by norm_num), hten]
        ring
      · exact ⟨rfl, le_rfl, le_rfl⟩

/-! ### The shortest digits -/

lemma exponent_le (hfinite : x.isFinite) : x.exponent ≤ 971 := by
  have hbits := x.exponentField_add_fraction
  have hmagnitude := isFinite_iff.mp hfinite
  have hfield : x.exponentField ≤ 2046 := by omega
  rw [exponent]
  omega

lemma two_zpow_le_size (h : x.significand ≠ 0) : (2 : Rat) ^ (-1074 : Int) ≤ x.size := by
  have hone : (1 : Rat) ≤ x.significand := by exact_mod_cast Nat.one_le_iff_ne_zero.mpr h
  calc (2 : Rat) ^ (-1074 : Int) ≤ 2 ^ x.exponent :=
        zpow_le_zpow_right₀ one_le_two x.isPlace.least
    _ ≤ x.size := le_mul_of_one_le_left (by positivity) hone

/-- What rounds to a finite double is below the first power of two behind them. -/
lemma high_lt (hfinite : x.isFinite) : x.high < 2 ^ (1024 : Int) := by
  have hsignificand : (x.significand + 1 : Rat) ≤ 2 ^ 53 := by exact_mod_cast x.significand_lt
  calc x.high < 2 ^ 53 * 2 ^ x.exponent :=
        mul_lt_mul_of_pos_right (by linarith) (by positivity)
    _ ≤ 2 ^ 53 * 2 ^ (971 : Int) := by
        refine mul_le_mul_of_nonneg_left ?_ (by positivity)
        exact zpow_le_zpow_right₀ one_le_two (exponent_le hfinite)
    _ = 2 ^ (1024 : Int) := two_pow_mul_two_zpow 53 971

/-- Zero does not round to any other double. -/
lemma low_pos (h : x.significand ≠ 0) : 0 < x.low := by
  have hone : (1 : Rat) ≤ x.significand := by exact_mod_cast Nat.one_le_iff_ne_zero.mpr h
  refine mul_pos ?_ (by positivity)
  split_ifs <;> linarith

/-- On a grid there are no more digits below a double than its decimal order leaves room for. -/
lemma below_lt {n : Nat} (h : x.size < 10 ^ (order + 1)) : x.below (order - n) < 10 ^ (n + 1) := by
  have hlt := (x.below_spec (order - n)).1.trans_lt h
  have hplaces : order + 1 - (order - n) = ((n + 1 : Nat) : Int) := by
    push_cast
    ring
  rw [← lt_div_iff₀ (ten_zpow_pos _), ← zpow_sub₀ (by norm_num), hplaces, zpow_natCast] at hlt
  exact_mod_cast hlt

/-- No double is smaller than its decimal order. -/
lemma le_order (h : x.significand ≠ 0) (hlt : x.size < 10 ^ (order + 1)) : -324 ≤ order := by
  have hsmall : (10 : Rat) ^ (-324 : Int) < 2 ^ (-1074 : Int) := by
    have hdigits : 2 ^ 1074 < 10 ^ 324 := by decide +kernel
    rw [zpow_neg, zpow_neg]
    refine inv_strictAnti₀ (by positivity) ?_
    exact_mod_cast hdigits
  have hpow := (hsmall.trans_le (two_zpow_le_size h)).trans hlt
  have horder := (zpow_lt_zpow_iff_right₀ (by norm_num)).mp hpow
  omega

/-- **The shortest digits of a double round to it**; there are at most seventeen, and their exponent
is bounded. -/
theorem shortest_spec (hfinite : x.isFinite) (h : x.significand ≠ 0) (tie : Tie) :
    RoundsTo x (x.shortest tie).quantity ∧ (x.shortest tie).coefficient ≤ 10 ^ 17 ∧
      -340 ≤ (x.shortest tie).exponent := by
  have hmid : 0 < x.interval.mid := by
    have hpos : (0 : Rat) < x.interval.mid / x.interval.den := by
      rw [interval_mid]
      exact size_pos h
    exact Nat.pos_of_ne_zero fun hzero => by simp [hzero] at hpos
  obtain ⟨horder, hnext⟩ := decimalOrder_spec hmid x.interval_den_pos
    (by rw [interval_mid]; exact two_zpow_le_size h)
    (by rw [interval_mid]; exact x.size_lt_high.trans (high_lt hfinite))
  rw [interval_mid] at horder hnext
  have hshortest : x.shortest tie =
      (x.interval.search tie (decimalOrder x.interval.mid x.interval.den) 17 0).trimZeros 17 := rfl
  rw [hshortest]
  generalize decimalOrder x.interval.mid x.interval.den = order at horder hnext ⊢
  -- with seventeen digits the grid is fine enough, so the search ends there at the latest
  have hlast : ∃ c, x.interval.onGrid? tie (order - (16 : Nat)) = some c :=
    exists_onGrid? h (low_add_lt_high horder)
  obtain ⟨n, c, hn, hsearch, hgrid⟩ :=
    search_spec hlast (Nat.zero_le 16) (show 16 < 0 + 17 by norm_num)
  obtain ⟨hholds, hneighbour⟩ := holds_of_onGrid? hgrid
  obtain ⟨hquantity, hcoefficient, hexponent⟩ := trimZeros_spec 17 ⟨c, order - n⟩
  rw [hsearch]
  refine ⟨?_, hcoefficient.trans ?_, le_trans ?_ hexponent⟩
  · rw [hquantity]
    exact (holds_interval_iff h).mp hholds
  · have hbelow := below_lt (n := n) hnext
    have hpow : 10 ^ (n + 1) ≤ 10 ^ 17 := Nat.pow_le_pow_right (by norm_num) (by omega)
    dsimp only
    omega
  · have hleast := le_order h hnext
    dsimp only
    omega

end FieldNorm.Double
