import FieldNorm.Proofs.Json.Literal

/-!
Integer literals of any length.

* `Numeral.absorb_of_lt`, `Numeral.absorb_of_le`: digits are gathered in full if their number stays
  below the limit, and only then.
* `Numeral.digits_ofDigitChars`: digits without a zero in front are those of their number.
* `IntegerLiteral`: a literal without a fraction and without an exponent. `value_of_lt` and
  `value_of_le` say what it is read as, below `2 ^ 64` and from there on.
* `IntegerLiteral.value_run`: so it is read wherever a value may stand.
-/

namespace FieldNorm.Json

/-! ### The number of a list of digits -/

namespace Numeral

variable {limit significand : ℕ} {c : Char} {ds : List Char}

/-- The digits behind a number make it no smaller. -/
lemma le_ofDigitChars (significand : ℕ) (ds : List Char) :
    significand ≤ Nat.ofDigitChars 10 ds significand := by
  rw [Nat.ofDigitChars_eq_ofDigitChars_zero]
  exact le_add_right (Nat.le_mul_of_pos_left _ (Nat.pow_pos (by norm_num)))

lemma ofDigitChars_cons (significand : ℕ) (c : Char) (ds : List Char) :
    Nat.ofDigitChars 10 (c :: ds) significand =
      Nat.ofDigitChars 10 ds (significand * 10 + digitValue c) := by
  rw [Nat.ofDigitChars_cons, Nat.mul_comm]
  rfl

/-- **Digits whose number stays below the limit are all gathered.** -/
lemma absorb_of_lt (h : Nat.ofDigitChars 10 ds significand < limit) :
    absorb limit significand ds = (Nat.ofDigitChars 10 ds significand, []) := by
  induction ds generalizing significand with
  | nil => rfl
  | cons d ds ih =>
      rw [ofDigitChars_cons] at h ⊢
      rw [absorb, if_pos (lt_of_le_of_lt (le_ofDigitChars _ ds) h), ih h]

/-- Of other digits some are left. -/
lemma absorb_of_le (h : limit ≤ Nat.ofDigitChars 10 ds significand)
    (hsignificand : significand < limit) : (absorb limit significand ds).2 ≠ [] := by
  induction ds generalizing significand with
  | nil => exact absurd h (Nat.not_le.mpr hsignificand)
  | cons d ds ih =>
      rw [ofDigitChars_cons] at h
      rw [absorb]
      split_ifs with hd
      · exact ih h hd
      · exact List.cons_ne_nil d ds

lemma isDigit_iff : isDigit c ↔ 48 ≤ c.toNat ∧ c.toNat ≤ 57 := by
  simp [isDigit, Char.le_def, UInt32.le_iff_toNat_le]

lemma digitValue_lt (h : isDigit c) : digitValue c < 10 := by
  have := isDigit_iff.mp h
  have hzero : '0'.toNat = 48 := rfl
  rw [digitValue]
  omega

lemma digitChar_digitValue (h : isDigit c) : Nat.digitChar (digitValue c) = c := by
  have hbounds := isDigit_iff.mp h
  have hvalue : digitValue c = c.toNat - 48 := rfl
  rw [← Char.toNat_inj, Nat.toNat_digitChar_of_lt_ten (digitValue_lt h)]
  omega

/-- **Digits without a zero in front are those of their number.** -/
lemma digits_ofDigitChars (hc : c ≠ '0') (hdigits : ∀ d ∈ c :: ds, isDigit d) :
    0 < Nat.ofDigitChars 10 (c :: ds) 0 ∧
      Double.digits (Nat.ofDigitChars 10 (c :: ds) 0) = c :: ds := by
  induction ds using List.reverseRecOn with
  | nil =>
      have hdigit : isDigit c := hdigits c List.mem_cons_self
      have hnumber : Nat.ofDigitChars 10 [c] 0 = digitValue c := by
        rw [ofDigitChars_cons, Nat.zero_mul, Nat.zero_add]
        rfl
      rw [hnumber, digits_of_lt_ten (digitValue_lt hdigit), digitChar_digitValue hdigit]
      refine ⟨Nat.pos_of_ne_zero fun hzero => hc ?_, rfl⟩
      rw [← digitChar_digitValue hdigit, hzero]
      rfl
  | append_singleton ds d ih =>
      rw [← List.cons_append, List.forall_mem_append] at hdigits
      obtain ⟨hpositive, hds⟩ := ih hdigits.1
      have hd : isDigit d := hdigits.2 d (List.mem_singleton_self d)
      have hlt := digitValue_lt hd
      have hnumber : Nat.ofDigitChars 10 (c :: ds ++ [d]) 0 =
          Nat.ofDigitChars 10 (c :: ds) 0 * 10 + digitValue d := by
        rw [Nat.ofDigitChars_append, ofDigitChars_cons]
        rfl
      rw [← List.cons_append, hnumber, digits_of_ten_le (by omega)]
      generalize Nat.ofDigitChars 10 (c :: ds) 0 = n at *
      rw [show (n * 10 + digitValue d) / 10 = n by omega,
        show (n * 10 + digitValue d) % 10 = digitValue d by omega, hds, digitChar_digitValue hd]
      exact ⟨by omega, rfl⟩

end Numeral

/-! ### Integer literals -/

/-- The literal of an integer: a minus sign or none, and digits, of which a zero in front stands
alone. -/
structure IntegerLiteral where
  isNegative : Bool
  digits : List Char
  leading : digits = ['0'] ∨ ∃ c ds, digits = c :: ds ∧ c ≠ '0'
  isDigit_digits : ∀ c ∈ digits, Numeral.isDigit c

namespace IntegerLiteral

open Numeral

variable (l : IntegerLiteral) {rest : List Char}

/-- The number that the digits denote. -/
def magnitude : ℕ := Nat.ofDigitChars 10 l.digits 0

/-- The number that the literal denotes. -/
def number : ℤ := if l.isNegative then -l.magnitude else l.magnitude

def text : List Char := if l.isNegative then '-' :: l.digits else l.digits

/-- The literal denotes a signed integer of 64 bits, and is not `-0`. -/
def FitsSigned : Prop := -2 ^ 63 ≤ l.number ∧ l.number < 2 ^ 63 ∧ l.text ≠ ['-', '0']

/-- The literal denotes an integer that has room in 64 bits only without a sign. -/
def FitsUnsigned : Prop := 2 ^ 63 ≤ l.number ∧ l.number < 2 ^ 64

instance : Decidable l.FitsSigned := inferInstanceAs (Decidable (_ ∧ _ ∧ _))

instance : Decidable l.FitsUnsigned := inferInstanceAs (Decidable (_ ∧ _))

lemma exists_digits : ∃ c ds, l.digits = c :: ds := by
  rcases l.leading with hzero | ⟨c, ds, hdigits, -⟩
  · exact ⟨'0', [], hzero⟩
  · exact ⟨c, ds, hdigits⟩

/-- Only zero is written with a zero in front. -/
lemma magnitude_and_digits :
    l.magnitude = 0 ∧ l.digits = ['0'] ∨ 0 < l.magnitude ∧ l.digits ≠ ['0'] := by
  rcases l.leading with hzero | ⟨c, ds, hdigits, hc⟩
  · exact .inl ⟨by rw [magnitude, hzero]; rfl, hzero⟩
  · have hpositive := (digits_ofDigitChars hc (hdigits ▸ l.isDigit_digits)).1
    refine .inr ⟨by rwa [magnitude, hdigits], ?_⟩
    rw [hdigits]
    exact fun h => hc (List.cons.inj h).1

/-- **The digits are those of the magnitude.** -/
lemma digits_magnitude : Double.digits l.magnitude = l.digits := by
  rcases l.leading with hzero | ⟨c, ds, hdigits, hc⟩
  · rw [magnitude, hzero]
    rfl
  · rw [magnitude, hdigits]
    exact (digits_ofDigitChars hc (hdigits ▸ l.isDigit_digits)).2

lemma cases_sign :
    (l.isNegative = false ∧ l.number = l.magnitude ∧ l.text = l.digits) ∨
      (l.isNegative = true ∧ l.number = -l.magnitude ∧ l.text = '-' :: l.digits) := by
  cases h : l.isNegative <;> simp [number, text, h]

/-- The literals that fit with a sign, by their magnitude. -/
lemma fitsSigned_iff :
    l.FitsSigned ↔ (l.isNegative = false ∧ l.magnitude < 2 ^ 63) ∨
      (l.isNegative = true ∧ 0 < l.magnitude ∧ l.magnitude ≤ 2 ^ 63) := by
  rw [FitsSigned]
  rcases l.cases_sign with ⟨hsign, hnumber, htext⟩ | ⟨hsign, hnumber, htext⟩
  · have hminus : l.digits ≠ ['-', '0'] := fun h =>
      absurd (l.isDigit_digits '-' (by simp [h])) (by decide)
    simp only [hsign, hnumber, htext, hminus, ne_eq, not_false_eq_true, and_true, true_and,
      Bool.false_eq_true, false_and, or_false]
    omega
  · have hzero : '-' :: l.digits ≠ ['-', '0'] ↔ 0 < l.magnitude := by
      rcases l.magnitude_and_digits with ⟨hmagnitude, hdigits⟩ | ⟨hmagnitude, hdigits⟩ <;>
        simp [hmagnitude, hdigits]
    simp only [hsign, hnumber, htext, hzero, Bool.true_eq_false, false_and, true_and, false_or]
    omega

/-- The literals that fit only without a sign, by their magnitude. -/
lemma fitsUnsigned_iff :
    l.FitsUnsigned ↔ l.isNegative = false ∧ 2 ^ 63 ≤ l.magnitude ∧ l.magnitude < 2 ^ 64 := by
  rw [FitsUnsigned]
  rcases l.cases_sign with ⟨hsign, hnumber, -⟩ | ⟨hsign, hnumber, -⟩
  · simp only [hsign, hnumber, true_and]
    omega
  · simp only [hsign, hnumber, Bool.true_eq_false, false_and, iff_false]
    omega

/-- The parts of the literal. -/
def numeral : Numeral := ⟨l.isNegative, l.digits, [], none⟩

lemma wellFormed_numeral : l.numeral.WellFormed where
  whole := l.leading
  isDigit_whole := l.isDigit_digits
  isDigit_fraction := by simp [numeral]
  exponent := by simp [numeral]

/-! ### What a literal is read as -/

/-- A magnitude below `2 ^ 64` is kept, unless it is that of a negative number that is out of range
or no number below zero at all. -/
lemma value_of_lt (h : l.magnitude < 2 ^ 64) :
    l.numeral.value = .ok (if !l.isNegative then .natural (UInt64.ofNat l.magnitude)
      else if 0 < l.magnitude ∧ l.magnitude ≤ 2 ^ 63 then .negative (Int64.ofInt (-l.magnitude))
      else .double ((Double.ofNat l.magnitude).withSign true)) := by
  have habsorb : absorb (Nat.pow 2 64) 0 l.digits = (l.magnitude, []) := absorb_of_lt h
  have hpow : Nat.pow 2 63 = 2 ^ 63 := rfl
  rw [numeral, value, habsorb]
  simp only [absorb, List.isEmpty_nil, and_self, if_true, hpow]
  split_ifs <;> rfl

/-- A magnitude from `2 ^ 64` on makes a double, or is too large even for that. -/
lemma value_of_le (h : 2 ^ 64 ≤ l.magnitude) :
    (∃ x, l.numeral.value = .ok (.double x)) ∨ ∃ unread, l.numeral.value = .error unread := by
  have hdropped : (absorb (Nat.pow 2 64) 0 l.digits).2 ≠ [] := absorb_of_le h (by decide)
  rw [numeral, value]
  generalize absorb (Nat.pow 2 64) 0 l.digits = gathered at hdropped
  simp only [absorb, List.isEmpty_nil, List.isEmpty_iff, hdropped, and_false, if_false]
  split
  · exact .inl ⟨_, rfl⟩
  · exact .inr ⟨_, rfl⟩

/-- What the reader of values makes of the literal. -/
def outcome (rest : List Char) : Except Fault (Json × List Char) :=
  match l.numeral.value with
  | .ok x => .ok (.number x, rest)
  | .error unread => .error ⟨.numberOutOfRange, .settled (byteLength rest + unread)⟩

lemma read_digits_append (hrest : Ends rest) :
    Numeral.read l.isNegative (l.digits ++ rest) =
      match l.numeral.value with
      | .ok x => .ok (x, rest)
      | .error unread => .error ⟨.numberOutOfRange, .settled (byteLength rest + unread)⟩ := by
  have htext : l.numeral.text = l.digits := by
    simp [numeral, Numeral.text, fractionText, exponentText]
  have hscan : scan .endInValue l.isNegative (l.digits ++ rest) = .ok (l.numeral, rest) := by
    rw [← htext]
    exact scan_text .endInValue l.wellFormed_numeral hrest
  cases hvalue : l.numeral.value <;> simp only [Numeral.read, hscan, hvalue]

/-- **The literal is read wherever a value may stand**, whatever follows that does not go on with
it. -/
lemma value_run (depth : ℕ) {gap : List Char} (hgap : AllBlank gap) (hrest : Ends rest) :
    (Reader.value depth).run (gap ++ (l.text ++ rest)) = l.outcome rest := by
  obtain ⟨inner, hvalue⟩ : ∃ inner, Reader.value depth = Reader.valueWith inner := by
    cases depth <;> exact ⟨_, rfl⟩
  obtain ⟨c, ds, hdigits⟩ := l.exists_digits
  have hread := l.read_digits_append hrest
  rw [hvalue, Reader.valueWith_skipBlanks, skipBlanks_append hgap, text, outcome]
  cases hnegative : l.isNegative with
  | true =>
      have hlead : ∀ s, Reader.lead ('-' :: s) = .number true := fun _ => rfl
      rw [hnegative] at hread
      rw [if_pos rfl, List.cons_append, skipBlanks_cons (by decide),
        Reader.valueWith_run_of_isScalar rfl]
      simp only [Reader.scalar, hlead, if_true, hread]
      cases l.numeral.value <;> rfl
  | false =>
      have hc : isDigit c := l.isDigit_digits c (hdigits ▸ List.mem_cons_self)
      have hlead := Reader.lead_of_isDigit hc
      have hscalar : (Reader.lead [c]).isScalar := by
        rw [hlead]
        rfl
      rw [hnegative, hdigits, List.cons_append] at hread
      rw [if_neg (by decide), hdigits, List.cons_append,
        skipBlanks_cons (Reader.starts_of_isScalar hscalar).1,
        Reader.valueWith_run_of_isScalar hscalar]
      simp only [Reader.scalar, hlead, Bool.false_eq_true, if_false, hread]
      cases l.numeral.value <;> rfl

end IntegerLiteral

end FieldNorm.Json
