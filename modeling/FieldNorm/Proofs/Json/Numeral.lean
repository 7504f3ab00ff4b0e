import FieldNorm.Json.Numeral
import Mathlib.Tactic.Common

/-!
Integers of 64 bits as number literals.

* `Numeral.Ends`: what may follow a literal, so that nothing goes on with it.
* `Numeral.absorb_digits`: the decimal digits of a number give the number back.
* `Numeral.read_digits`, `Numeral.read_digits_negative`: so an integer that is written is read as
  the same integer, and nothing behind it is touched.
-/

namespace FieldNorm.Json.Numeral

variable {limit n : Nat} {rest : List Char}

/-! ### What follows a literal -/

/-- A text does not go on with a number literal: it starts with no digit, point or exponent. -/
def Ends (rest : List Char) : Prop :=
  ∀ c ∈ rest.head?, ¬ isDigit c ∧ c ≠ '.' ∧ c ≠ 'e' ∧ c ≠ 'E'

lemma ends_nil : Ends [] := by simp [Ends]

lemma ends_cons_iff {c : Char} :
    Ends (c :: rest) ↔ ¬ isDigit c ∧ c ≠ '.' ∧ c ≠ 'e' ∧ c ≠ 'E' := by
  simp [Ends]

instance decidableEnds : (rest : List Char) → Decidable (Ends rest)
  | [] => isTrue ends_nil
  | _ :: _ => decidable_of_iff _ ends_cons_iff.symm

/-! ### The digits of a natural number -/

/-- The digits of a number from 10 on are those of its tenth and one more. -/
lemma digits_of_ten_le (h : 10 ≤ n) :
    Double.digits n = Double.digits (n / 10) ++ [Nat.digitChar (n % 10)] :=
  Nat.toDigits_of_base_le (by decide) h

lemma digits_of_lt_ten (h : n < 10) : Double.digits n = [Nat.digitChar n] :=
  Nat.toDigits_of_lt_base h

lemma digitValue_digitChar (h : n < 10) : digitValue (Nat.digitChar n) = n :=
  Nat.toNat_digitChar_sub_48_of_lt_ten h

lemma isDigit_of_mem_digits {c : Char} (h : c ∈ Double.digits n) : isDigit c :=
  Nat.isDigit_of_mem_toDigits (by decide) (by decide) h

/-- The digits of a positive number do not start with a zero. -/
lemma digits_eq_cons (h : n ≠ 0) : ∃ c ds, Double.digits n = c :: ds ∧ c ≠ '0' := by
  induction n using Nat.strongRecOn with
  | ind n ih =>
      by_cases hn : n < 10
      · exact ⟨_, [], digits_of_lt_ten hn, fun hc => h (Nat.digitChar_eq_zero.mp hc)⟩
      · obtain ⟨c, ds, hds, hc⟩ := ih (n / 10) (by omega) (by omega)
        exact ⟨c, ds ++ [Nat.digitChar (n % 10)], by
          rw [digits_of_ten_le (Nat.le_of_not_lt hn), hds, List.cons_append], hc⟩

/-- Digits that have been gathered are gathered with those behind them. -/
lemma absorb_append {m significand : Nat} {ds : List Char}
    (h : absorb limit significand ds = (m, [])) (others : List Char) :
    absorb limit significand (ds ++ others) = absorb limit m others := by
  fun_induction absorb limit significand ds with
  | case1 significand =>
      obtain rfl : significand = m := congrArg Prod.fst h
      rfl
  | case2 significand d ds hd ih => rw [List.cons_append, absorb, if_pos hd, ih h]
  | case3 significand d ds hd => cases h

/-- **The digits of a number below the limit give the number back.** -/
lemma absorb_digits (h : n < limit) : absorb limit 0 (Double.digits n) = (n, []) := by
  induction n using Nat.strongRecOn with
  | ind n ih =>
      by_cases hn : n < 10
      · rw [digits_of_lt_ten hn, absorb, digitValue_digitChar hn, Nat.zero_mul, Nat.zero_add,
          if_pos h, absorb]
      · have hlast : n / 10 * 10 + digitValue (Nat.digitChar (n % 10)) = n := by
          rw [digitValue_digitChar (Nat.mod_lt n (by decide))]
          omega
        rw [digits_of_ten_le (Nat.le_of_not_lt hn),
          absorb_append (ih (n / 10) (by omega) (by omega)), absorb, hlast, if_pos h, absorb]

/-! ### Reading -/

lemma head?_any_isDigit (h : Ends rest) : rest.head?.any isDigit = false := by
  rw [Option.any_eq_false]
  exact fun c hc => by simpa using (h c hc).1

/-- The digits of a number are the whole part of the literal. -/
lemma scanWhole_digits (atEnd : Cause) (n : Nat) (h : Ends rest) :
    scanWhole atEnd (Double.digits n ++ rest) = .ok (Double.digits n, rest) := by
  by_cases hn : n = 0
  · subst hn
    have hzero : Double.digits 0 = ['0'] := rfl
    simp [hzero, scanWhole, head?_any_isDigit h]
  · obtain ⟨c, ds, hds, hc⟩ := digits_eq_cons hn
    have hall : ∀ d ∈ c :: ds, isDigit d := fun d hd => isDigit_of_mem_digits (hds ▸ hd)
    rw [List.forall_mem_cons] at hall
    have htake : rest.takeWhile isDigit = [] := by
      cases rest with
      | nil => rfl
      | cons d rest => simp [(ends_cons_iff.mp h).1]
    have hdrop : rest.dropWhile isDigit = rest := by
      cases rest with
      | nil => rfl
      | cons d rest => simp [(ends_cons_iff.mp h).1]
    rw [hds, List.cons_append, scanWhole]
    simp only [if_neg hc, hall.1, if_true, List.takeWhile_append_of_pos hall.2,
      List.dropWhile_append_of_pos hall.2, htake, hdrop, List.append_nil]

lemma scanFraction_of_ends (atEnd : Cause) (h : Ends rest) :
    scanFraction atEnd rest = .ok ([], rest) := by
  cases rest with
  | nil => rfl
  | cons c rest =>
      have hc := (ends_cons_iff.mp h).2.1
      rw [scanFraction]
      rintro t ⟨⟩
      exact hc rfl

lemma scanExponent_of_ends (atEnd : Cause) (h : Ends rest) :
    scanExponent atEnd rest = .ok (none, rest) := by
  cases rest with
  | nil => rfl
  | cons c rest =>
      obtain ⟨-, -, hc⟩ := ends_cons_iff.mp h
      simp [scanExponent, hc]

/-- The literal of a natural number has a whole part only. -/
lemma scan_digits (atEnd : Cause) (isNegative : Bool) (n : Nat) (h : Ends rest) :
    scan atEnd isNegative (Double.digits n ++ rest) =
      .ok (⟨isNegative, Double.digits n, [], none⟩, rest) := by
  rw [scan, scanWhole_digits atEnd n h]
  simp only [scanFraction_of_ends atEnd h, scanExponent_of_ends atEnd h]

/-- **A natural number of 64 bits is read as it is written.** -/
theorem read_digits (n : UInt64) (h : Ends rest) :
    read false (Double.digits n.toNat ++ rest) = .ok (.natural n, rest) := by
  have hvalue : value ⟨false, Double.digits n.toNat, [], none⟩ = .ok (.natural n) := by
    simp [value, absorb_digits n.toNat_lt]
  rw [read, scan_digits .endInValue false _ h]
  simp only [hvalue]

/-- **A negative integer of 64 bits is read as it is written**, behind its sign. -/
theorem read_digits_negative {n : Int64} (hn : n.toInt < 0) (h : Ends rest) :
    read true (Double.digits n.toInt.natAbs ++ rest) = .ok (.negative n, rest) := by
  have hle : n.toInt.natAbs ≤ 2 ^ 63 := by
    have := n.le_toInt
    omega
  have hlt : n.toInt.natAbs < Nat.pow 2 64 := Nat.lt_of_le_of_lt hle (by decide)
  have hneg : -(n.toInt.natAbs : Int) = n.toInt := by omega
  have hvalue : value ⟨true, Double.digits n.toInt.natAbs, [], none⟩ = .ok (.negative n) := by
    simp only [value, absorb_digits hlt, absorb, List.isEmpty_nil, and_self, if_true,
      Bool.not_true, Bool.false_eq_true, if_false, hneg, Int64.ofInt_toInt]
    rw [if_pos ⟨by omega, hle⟩]
  rw [read, scan_digits .endInValue true _ h]
  simp only [hvalue]

end FieldNorm.Json.Numeral
