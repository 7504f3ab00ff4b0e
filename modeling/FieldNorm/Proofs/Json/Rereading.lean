import FieldNorm.Proofs.Double.Shortest
import FieldNorm.Proofs.Json.Literal
import FieldNorm.Proofs.Json.RoundTrip
import FieldNorm.Proofs.Json.Scaling

/-!
Doubles that are written and read.

The text of a double has its shortest digits (`written`), which round to it. A reader rounds the
digits and a power of ten and scales the one by the other, so what it gives (`reread`) may be
another double.

* `exists_scale_written`: what a double is written as is always read, and is hardly moved.
* `abs_size_reread_sub_le`: so a double that is written and read moves by a small part of itself or
  by the smallest double; `isFinite_reread` and `negative_reread` are the rest of it.
* `reread_eq_self`: it does not move if its digits are at most `2 ^ 53` and the power of ten at most
  `1e22`.
* `Json.Reader.reads_double`: that is what readers make of the text of a finite double.
-/

namespace FieldNorm.Double

open Json (Numeral)

variable {x y : Double} {d : Decimal} {s : List Char} {isNegative : Bool}

/-! ### Signs -/

lemma negative_ofMagnitude {m : Nat} (h : m < 2 ^ 63) :
    (ofMagnitude isNegative m).negative = isNegative := by
  have hbits : (ofMagnitude isNegative m).bits.toNat = (if isNegative then 2 ^ 63 else 0) + m := by
    refine Nat.mod_eq_of_lt ?_
    rw [Nat.pow_eq]
    split_ifs <;> omega
  rw [negative, hbits, Nat.pow_eq]
  cases isNegative
  · exact decide_eq_false (by simp; omega)
  · exact decide_eq_true (by simp)

/-- A double is its sign and the bits below it. -/
lemma withSign_negative (x : Double) : x.withSign x.negative = x := by
  have hbits := x.bits.toNat_lt
  have hsign : x.bits.toNat = (if x.negative then Nat.pow 2 63 else 0) + x.magnitude := by
    simp only [negative, magnitude, decide_eq_true_eq, Nat.pow_eq] at hbits ⊢
    split_ifs <;> omega
  rw [withSign, ofMagnitude, ← hsign, UInt64.ofNat_toNat]

lemma withSign_ofMagnitude {b : Bool} {m : Nat} (h : m < 2 ^ 63) :
    (ofMagnitude b m).withSign isNegative = ofMagnitude isNegative m := by
  rw [withSign, magnitude_ofMagnitude h]

/-- The sign does not count for the size. -/
lemma size_withSign (x : Double) : (x.withSign isNegative).size = x.size := by
  have hmagnitude : (x.withSign isNegative).magnitude = x.magnitude :=
    magnitude_ofMagnitude x.magnitude_lt
  have hfield : (x.withSign isNegative).exponentField = x.exponentField := by
    rw [exponentField, exponentField, hmagnitude]
  rw [size, size, significand_eq, significand_eq, exponent, exponent, hfield, hmagnitude]

/-! ### The digits that are written -/

/-- The digits of the text, and the exponent of the last of them: a whole number without an exponent
is written with all its zeros, and with one behind the point. -/
def Decimal.asWritten (d : Decimal) : Decimal :=
  if (-5 ≤ d.order ∧ d.order < 16) ∧ 0 ≤ d.exponent then
    ⟨d.coefficient * 10 ^ (d.exponent.toNat + 1), -1⟩
  else d

/-- The digits in the text of a finite number. -/
def written (x : Double) : Decimal :=
  if x.isZero then ⟨0, -1⟩ else (x.shortest .even).asWritten

lemma quantity_asWritten (d : Decimal) : d.asWritten.quantity = d.quantity := by
  rw [Decimal.asWritten]
  split_ifs with h
  · obtain ⟨n, hn⟩ := Int.eq_ofNat_of_zero_le h.2
    rw [Decimal.quantity, Decimal.quantity, hn, Int.toNat_natCast, zpow_natCast, zpow_neg_one]
    push_cast
    field_simp
    ring
  · rfl

/-- The text of a number that is not zero, behind its sign. -/
def Decimal.text (d : Decimal) : List Char :=
  if -5 ≤ d.order ∧ d.order < 16 then d.positional else d.scientific

lemma scientificText_eq (x : Double) :
    x.scientificText =
      x.signed (if x.isZero then ['0', '.', '0'] else (x.shortest .even).text) := by
  simp only [scientificText, Decimal.text, Bool.and_eq_true, decide_eq_true_eq]

/-- A whole number without an exponent has seventeen digits at most, the one behind the point
included. -/
lemma Decimal.whole_lt (hc : d.coefficient ≠ 0) (horder : d.order < 16) (hwhole : 0 ≤ d.exponent) :
    d.coefficient * 10 ^ (d.exponent.toNat + 1) < 2 ^ 64 := by
  have hlength : (digits d.coefficient).length + (d.exponent.toNat + 1) ≤ 17 := by
    rw [order] at horder
    omega
  calc d.coefficient * 10 ^ (d.exponent.toNat + 1)
      ≤ 10 ^ (digits d.coefficient).length * 10 ^ (d.exponent.toNat + 1) :=
        Nat.mul_le_mul_right _ (digits_length hc).1.le
    _ = 10 ^ ((digits d.coefficient).length + (d.exponent.toNat + 1)) := (pow_add _ _ _).symm
    _ ≤ 10 ^ 17 := Nat.pow_le_pow_right (by norm_num) hlength
    _ < 2 ^ 64 := by norm_num

/-- **Digits of 64 bits are written as a literal that denotes them.** -/
lemma Decimal.writes_text (isNegative : Bool) (hc : d.coefficient ≠ 0)
    (hlimit : d.coefficient ≤ 10 ^ 17) (hleast : -340 ≤ d.exponent) (hgreatest : d.exponent ≤ 308) :
    Decimal.Writes isNegative d.text d.asWritten.coefficient d.asWritten.exponent := by
  rw [text, asWritten]
  by_cases hplain : -5 ≤ d.order ∧ d.order < 16
  · rw [if_pos hplain]
    by_cases hwhole : 0 ≤ d.exponent
    · rw [if_pos ⟨hplain, hwhole⟩]
      exact writes_whole isNegative hc hwhole (whole_lt hc hplain.2 hwhole)
    · rw [if_neg fun h => hwhole h.2]
      exact writes_fraction isNegative hc (by omega) (by omega)
  · rw [if_neg hplain, if_neg fun h => hplain h.1]
    refine writes_scientific isNegative hc (by omega) ?_
    have hdigits : (digits d.coefficient).length ≤ 18 := by
      have hle := (digits_length hc).2
      have hpow : 10 ^ (digits d.coefficient).length ≤ 10 ^ 18 := by omega
      exact (Nat.pow_le_pow_iff_right (by norm_num)).mp hpow
    rw [order]
    omega

/-- The bounds of the digits stay. -/
lemma Decimal.asWritten_bounds (hc : d.coefficient ≠ 0) (hlimit : d.coefficient ≤ 10 ^ 17)
    (hleast : -340 ≤ d.exponent) (hgreatest : d.exponent ≤ 308) :
    0 < d.asWritten.coefficient ∧ d.asWritten.coefficient < 2 ^ 64 ∧
      -340 ≤ d.asWritten.exponent ∧ d.asWritten.exponent ≤ 308 := by
  have hpos : 0 < d.coefficient := Nat.pos_of_ne_zero hc
  rw [asWritten]
  split_ifs with h
  · exact ⟨Nat.mul_pos hpos (Nat.pow_pos (by norm_num)), whole_lt hc h.1.2 h.2, by norm_num,
      by norm_num⟩
  · exact ⟨hpos, by omega, hleast, hgreatest⟩

/-! ### The digits of a finite number -/

/-- The bounds of the shortest digits that the readers need. -/
lemma shortest_bounds (hfinite : x.isFinite) (h : x.significand ≠ 0) (tie : Tie) :
    (x.shortest tie).coefficient ≠ 0 ∧ (x.shortest tie).exponent ≤ 308 := by
  obtain ⟨hrounds, -, -⟩ := shortest_spec hfinite h tie
  have hpow := ten_zpow_pos (x.shortest tie).exponent
  have hquantity : 0 < (x.shortest tie).quantity := (low_pos h).trans_le hrounds.low_le
  have hcoefficient : (x.shortest tie).coefficient ≠ 0 := by
    intro hzero
    rw [Decimal.quantity, hzero, Nat.cast_zero, zero_mul] at hquantity
    exact lt_irrefl _ hquantity
  refine ⟨hcoefficient, ?_⟩
  have hone : (1 : Rat) ≤ (x.shortest tie).coefficient := by
    exact_mod_cast Nat.one_le_iff_ne_zero.mpr hcoefficient
  have hdigits : 2 ^ 1024 < 10 ^ 309 := by decide +kernel
  have hlt : (10 : Rat) ^ (x.shortest tie).exponent < 10 ^ (309 : Int) := by
    calc (10 : Rat) ^ (x.shortest tie).exponent ≤ (x.shortest tie).quantity :=
          le_mul_of_one_le_left hpow.le hone
      _ ≤ x.high := hrounds.le_high
      _ < 2 ^ (1024 : Int) := high_lt hfinite
      _ < 10 ^ (309 : Int) := by
          rw [zpow_ofNat, zpow_ofNat]
          exact_mod_cast hdigits
  have hexponent := (zpow_lt_zpow_iff_right₀ (by norm_num)).mp hlt
  omega

/-- The digits `w` with the exponent `e` round to the double. They have 64 bits at most, and the
exponent is bounded. -/
structure IsWritten (x : Double) (w : Nat) (e : Int) : Prop where
  pos : 0 < w
  lt : w < 2 ^ 64
  least : -340 ≤ e
  greatest : e ≤ 308
  rounds : RoundsTo x (w * 10 ^ e)

/-- **The digits in the text of a double round to it.** -/
lemma isWritten (hfinite : x.isFinite) (h : x.significand ≠ 0) :
    IsWritten x x.written.coefficient x.written.exponent := by
  obtain ⟨hrounds, hlimit, hleast⟩ := shortest_spec hfinite h .even
  obtain ⟨hc, hgreatest⟩ := shortest_bounds hfinite h .even
  obtain ⟨hpos, hlt, hleast', hgreatest'⟩ := Decimal.asWritten_bounds hc hlimit hleast hgreatest
  rw [← quantity_asWritten] at hrounds
  rw [written, if_neg fun hzero => h (isZero_iff.mp hzero)]
  exact ⟨hpos, hlt, hleast', hgreatest', hrounds⟩

/-! ### Reading the digits -/

/-- Below the three largest doubles there is room for a few units of the last place. -/
lemma high_le (h : x.magnitude + 3 < 2047 * 2 ^ 52) :
    x.high ≤ (2 ^ 53 - 7 / 2) * 2 ^ (971 : Int) := by
  have hbits := x.bitsOf_significand
  rw [bitsOf] at hbits
  have hexponent : x.exponent ≤ 971 := exponent_le (isFinite_iff.mpr (by omega))
  rcases hexponent.lt_or_eq with hlt | heq
  · have hsignificand : (x.significand + 1 : Rat) ≤ 2 ^ 53 := by exact_mod_cast x.significand_lt
    calc x.high ≤ 2 ^ 53 * 2 ^ x.exponent :=
          mul_le_mul_of_nonneg_right (by linarith) (by positivity)
      _ ≤ 2 ^ 53 * 2 ^ (970 : Int) := by
          refine mul_le_mul_of_nonneg_left ?_ (by positivity)
          exact zpow_le_zpow_right₀ one_le_two (by omega)
      _ = 2 ^ 52 * 2 ^ (971 : Int) := by
          rw [two_pow_mul_two_zpow, two_pow_mul_two_zpow]
          rfl
      _ ≤ (2 ^ 53 - 7 / 2) * 2 ^ (971 : Int) :=
          mul_le_mul_of_nonneg_right (by norm_num) (by positivity)
  · have hdigits : x.significand + 4 ≤ 2 ^ 53 := by
      rw [heq] at hbits
      omega
    have hcast : (x.significand + 4 : Rat) ≤ 2 ^ 53 := by exact_mod_cast hdigits
    rw [high, heq]
    exact mul_le_mul_of_nonneg_right (by linarith) (by positivity)

/-- For the three largest doubles the bounds of the roundings have no room, but the product is
finite, too. -/
lemma isFinite_product_of_largest {j : Nat} (hj : j < 3)
    (hmagnitude : x.magnitude + j + 1 = 2047 * 2 ^ 52) :
    ((ofNat x.written.coefficient).mul (powerOfTen x.written.exponent.toNat)).isFinite := by
  have hall : ∀ j < 3, ∀ b : Bool,
      ((ofNat (ofMagnitude b (2047 * 2 ^ 52 - 1 - j)).written.coefficient).mul
        (powerOfTen (ofMagnitude b (2047 * 2 ^ 52 - 1 - j)).written.exponent.toNat)).isFinite := by
    decide +kernel
  have hx : ofMagnitude x.negative (2047 * 2 ^ 52 - 1 - j) = x := by
    rw [show 2047 * 2 ^ 52 - 1 - j = x.magnitude by omega]
    exact x.withSign_negative
  rw [← hx]
  exact hall j hj x.negative

/-- **The digits times the power of ten are a finite number again.** -/
lemma isFinite_product {k : Nat} (hfinite : x.isFinite)
    (hwritten : IsWritten x x.written.coefficient x.written.exponent)
    (hk : x.written.exponent = k) :
    ((ofNat x.written.coefficient).mul (powerOfTen k)).isFinite := by
  by_cases hlargest : 2047 * 2 ^ 52 ≤ x.magnitude + 3
  · have hmagnitude := isFinite_iff.mp hfinite
    obtain ⟨j, hj⟩ : ∃ j, x.magnitude + j + 1 = 2047 * 2 ^ 52 :=
      ⟨2047 * 2 ^ 52 - 1 - x.magnitude, by omega⟩
    have hfew := isFinite_product_of_largest (by omega) hj
    rwa [hk, Int.toNat_natCast] at hfew
  · have hgreatest := hwritten.greatest
    refine Numeral.isFinite_mul_powerOfTen hwritten.pos hwritten.lt (by omega) ?_
    have hle := hwritten.rounds.le_high.trans (high_le (not_le.mp hlargest))
    rw [hk, zpow_natCast] at hle
    have hfactor : 0 ≤ roundingFactor * roundingFactor := by norm_num [roundingFactor]
    calc roundingFactor * roundingFactor * (x.written.coefficient * 10 ^ k)
        ≤ roundingFactor * roundingFactor * ((2 ^ 53 - 7 / 2) * 2 ^ (971 : Int)) :=
          mul_le_mul_of_nonneg_left hle hfactor
      _ = roundingFactor * roundingFactor * (2 ^ 53 - 7 / 2) * 2 ^ (971 : Int) := by ring
      _ < (2 ^ 53 - 1 / 2) * 2 ^ (971 : Int) := by
          refine mul_lt_mul_of_pos_right ?_ (by positivity)
          norm_num [roundingFactor]

/-- **What a double is written as is always read**, and is moved by the roundings of the reader
alone. -/
lemma exists_scale_written (hfinite : x.isFinite) (h : x.significand ≠ 0) :
    ∃ y, Numeral.scale x.written.coefficient x.written.exponent = some y ∧
      |y.size - x.written.quantity| ≤ 19 / 2 ^ 54 * x.written.quantity + 2 ^ (-1075 : Int) := by
  have hwritten := isWritten hfinite h
  rw [Decimal.quantity]
  rcases lt_or_ge x.written.exponent 0 with hneg | hge
  · obtain ⟨k, hk⟩ : ∃ k : Nat, x.written.exponent = -k := ⟨x.written.exponent.natAbs, by omega⟩
    have hleast := hwritten.least
    rw [hk, zpow_neg, zpow_natCast, ← div_eq_mul_inv]
    exact Numeral.scale_neg hwritten.pos hwritten.lt (by omega) (by omega)
  · obtain ⟨k, hk⟩ := Int.eq_ofNat_of_zero_le hge
    have hgreatest := hwritten.greatest
    obtain ⟨hscale, hwithin⟩ := Numeral.within_scale_of_isFinite hwritten.pos hwritten.lt
      (by omega) (isFinite_product hfinite hwritten hk)
    rw [hk, zpow_natCast]
    refine ⟨_, hscale, (hwithin.abs_sub_le (one_le_pow₀ Numeral.one_le_roundingFactor)).trans ?_⟩
    have hsmall : roundingFactor ^ 3 - 1 ≤ 19 / 2 ^ 54 := by norm_num [roundingFactor]
    have hbound := mul_le_mul_of_nonneg_right hsmall hwithin.pos'.le
    have hleast : (0 : Rat) ≤ 2 ^ (-1075 : Int) := by positivity
    linarith

/-! ### What is read -/

/-- **What a reader makes of the text of a finite double.** -/
def reread (x : Double) : Double :=
  ((Numeral.scale x.written.coefficient x.written.exponent).getD (zero false)).withSign x.negative

lemma reread_eq (h : Numeral.scale x.written.coefficient x.written.exponent = some y) :
    x.reread = y.withSign x.negative := by
  rw [reread, h, Option.getD_some]

/-- A zero is read with its sign. -/
lemma reread_of_isZero (h : x.isZero) : x.reread = x := by
  have hmagnitude : x.magnitude = 0 := of_decide_eq_true h
  have hscale : Numeral.scale 0 (-1) = some (zero false) := by decide +kernel
  have hwritten : x.written = ⟨0, -1⟩ := if_pos h
  conv_rhs => rw [← x.withSign_negative]
  rw [reread, hwritten, hscale, Option.getD_some, withSign, withSign, hmagnitude]
  rfl

/-- Whatever stands in the text of a double is read. -/
lemma exists_scale (hfinite : x.isFinite) :
    ∃ y, Numeral.scale x.written.coefficient x.written.exponent = some y ∧ y.isFinite := by
  by_cases hzero : x.isZero
  · have hwritten : x.written = ⟨0, -1⟩ := if_pos hzero
    rw [hwritten]
    exact ⟨zero false, by decide +kernel, isFinite_zero⟩
  · have hsignificand : x.significand ≠ 0 := fun h => hzero (isZero_iff.mpr h)
    obtain ⟨y, hscale, -⟩ := exists_scale_written hfinite hsignificand
    exact ⟨y, hscale, Numeral.isFinite_of_scale (isWritten hfinite hsignificand).lt hscale⟩

/-- What is read is finite. -/
theorem isFinite_reread (hfinite : x.isFinite) : x.reread.isFinite := by
  obtain ⟨y, hscale, hy⟩ := exists_scale hfinite
  rw [reread_eq hscale]
  exact isFinite_withSign.mpr hy

/-- What is read has the same sign. -/
theorem negative_reread (x : Double) : x.reread.negative = x.negative :=
  negative_ofMagnitude (magnitude_lt _)

/-- **A double that is written and read moves by a small part of itself**, or by the smallest
double. -/
theorem abs_size_reread_sub_le (hfinite : x.isFinite) :
    |x.reread.size - x.size| ≤ x.size / 2 ^ 49 + 2 ^ (-1074 : Int) := by
  by_cases hzero : x.isZero
  · rw [reread_of_isZero hzero, sub_self, abs_zero, size]
    positivity
  · have hsignificand : x.significand ≠ 0 := fun h => hzero (isZero_iff.mpr h)
    obtain ⟨y, hscale, hread⟩ := exists_scale_written hfinite hsignificand
    have hwritten := (isWritten hfinite hsignificand).rounds.abs_sub_le
    rw [← Decimal.quantity] at hwritten
    rw [reread_eq hscale, size_withSign]
    generalize x.written.quantity = q at hread hwritten
    -- the digits are half a unit away, and the roundings of the reader lead on from there
    have hunit := hwritten.trans x.half_unit_le
    have hleast := two_zpow_le_size hsignificand
    have htwice : (2 : Rat) ^ (-1074 : Int) = 2 * 2 ^ (-1075 : Int) := by
      rw [← zpow_one_add₀ two_ne_zero]
      rfl
    rw [htwice] at hleast ⊢
    have hpos : 0 < x.size := size_pos hsignificand
    have hq := (abs_le.mp hunit).2
    have hboth := (abs_sub_le y.size q x.size).trans (add_le_add hread hunit)
    refine hboth.trans ?_
    linarith

/-- **A double whose digits and power of ten are exact is read as it is**: the digits are at most
`2 ^ 53` and the power at most `1e22`. -/
theorem reread_eq_self (hfinite : x.isFinite) (hdigits : x.written.coefficient ≤ 2 ^ 53)
    (hpower : x.written.exponent.natAbs ≤ 22) : x.reread = x := by
  by_cases hzero : x.isZero
  · exact reread_of_isZero hzero
  · have hwritten := isWritten hfinite fun h => hzero (isZero_iff.mpr h)
    obtain ⟨b, hscale⟩ := Numeral.scale_of_roundsTo hwritten.pos hdigits hpower hfinite
      hwritten.rounds
    rw [reread_eq hscale, withSign_ofMagnitude x.magnitude_lt]
    exact x.withSign_negative

end FieldNorm.Double

namespace FieldNorm.Json.Reader

open FieldNorm.Double
open Numeral (Ends)

variable {x : Double} {inner : Option (Reader Json)}

/-- The text of a finite double is that of a literal which denotes its digits. -/
lemma exists_writes (hfinite : x.isFinite) :
    ∃ s, x.scientificText = x.signed s ∧
      Decimal.Writes x.negative s x.written.coefficient x.written.exponent := by
  refine ⟨_, x.scientificText_eq, ?_⟩
  rw [written]
  split_ifs with hzero
  · exact Decimal.writes_zero x.negative
  · have hsignificand : x.significand ≠ 0 := fun h => hzero (isZero_iff.mpr h)
    obtain ⟨-, hlimit, hleast⟩ := shortest_spec hfinite hsignificand .even
    obtain ⟨hc, hgreatest⟩ := shortest_bounds hfinite hsignificand .even
    exact Decimal.writes_text x.negative hc hlimit hleast hgreatest

/-- **The text of a finite double is read**, as what the reader makes of its digits. -/
theorem reads_double (hfinite : x.isFinite) :
    (valueWith inner).Reads (atom (.number (.double x))) (.number (.double x.reread)) := by
  obtain ⟨y, hscale, -⟩ := exists_scale hfinite
  obtain ⟨s, htext, hwrites⟩ := exists_writes hfinite
  obtain ⟨c, ds, hs, hc⟩ := hwrites.exists_cons
  have hread : ∀ rest, Ends rest → Numeral.read x.negative (s ++ rest) =
      .ok (.double x.reread, rest) := by
    obtain ⟨n, hsign, hform, htext, hdenotes⟩ := hwrites
    intro rest hrest
    rw [reread_eq hscale, ← hsign, ← htext]
    exact Numeral.read_text hform hdenotes hrest hscale
  have hatom : atom (.number (.double x)) = x.signed s := by
    rw [atom, Number.text, if_pos hfinite, htext]
  rw [hatom, signed]
  split_ifs with hnegative
  · refine valueWith_reads_scalar rfl rfl fun rest hrest => ?_
    have hnumber := hread rest hrest
    rw [hnegative] at hnumber
    simp [scalar, lead, hnumber]
  · have hlead := lead_of_isDigit hc
    refine valueWith_reads_scalar hs (by rw [hlead]; rfl) fun rest hrest => ?_
    have hnumber := hread rest hrest
    rw [Bool.eq_false_iff.mpr hnegative, hs, List.cons_append] at hnumber
    rw [hs, List.cons_append]
    simp [scalar, hlead, hnumber]

end FieldNorm.Json.Reader
