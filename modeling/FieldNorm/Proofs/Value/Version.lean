import FieldNorm.Proofs.Json.IntegerLiteral
import FieldNorm.Proofs.Text.Blank
import FieldNorm.Value.Version

/-!
Schema versions as they are typed.

* `Value.Denotes`: the texts of integers and the numbers they denote, by the forms such a text can
  have.
* `Value.int?_eq_some_iff`, `Value.int64?_eq_some_iff`: exactly these texts are read as integers,
  each as its number, unless 64 bits have no room for it.
* `Value.denotes_intText`: an integer is written as a text that denotes it.
* `Value.typed_version`: what a typed version stands for, also if it is shown and typed again, or
  typed with more blanks around it.
-/

namespace FieldNorm.Value

open Text (AllBlank Core isBlank trim)

variable {s ds : List Char} {z : ℤ} {n : Int64} {m : ℕ} {c : Char}

/-! ### The texts of integers -/

/-- One or more ASCII digits. There may be zeros in front. -/
def IsDigits (ds : List Char) : Prop := ds ≠ [] ∧ ∀ c ∈ ds, c.isDigit

/-- The text of an integer: digits, with at most one sign in front of them. -/
inductive Denotes : List Char → ℤ → Prop
  | unsigned {ds : List Char} (h : IsDigits ds) : Denotes ds (Nat.ofDigitChars 10 ds 0)
  | plus {ds : List Char} (h : IsDigits ds) : Denotes ('+' :: ds) (Nat.ofDigitChars 10 ds 0)
  | minus {ds : List Char} (h : IsDigits ds) : Denotes ('-' :: ds) (-Nat.ofDigitChars 10 ds 0)

lemma IsDigits.isDigit_head (h : IsDigits (c :: ds)) : c.isDigit := h.2 c List.mem_cons_self

lemma natural?_eq_some_iff : natural? ds = some m ↔ IsDigits ds ∧ Nat.ofDigitChars 10 ds 0 = m := by
  have hvalue : digitsValue ds = Nat.ofDigitChars 10 ds 0 := Nat.ofDigitChars_eq_foldl.symm
  have hdigits : (!ds.isEmpty && ds.all Json.Numeral.isDigit) = true ↔ IsDigits ds := by
    simp only [Bool.and_eq_true, Bool.not_eq_true', List.isEmpty_eq_false_iff, List.all_eq_true]
    rfl
  rw [natural?, hvalue]
  split_ifs with h
  · simp only [hdigits.mp h, Option.some.injEq, true_and]
  · simp only [mt hdigits.mpr h, false_and]

/-- The number of a text of digits, taken on as an integer. -/
lemma map_natural?_eq_some_iff (f : ℤ → ℤ) :
    Option.map f (do let m ← natural? ds; pure (m : ℤ)) = some z ↔
      IsDigits ds ∧ f (Nat.ofDigitChars 10 ds 0) = z := by
  simp [Option.bind_eq_some_iff, natural?_eq_some_iff, and_assoc]

/-- **Exactly the texts of integers are read as integers**, each as the number it denotes. -/
lemma int?_eq_some_iff : int? s = some z ↔ Denotes s z := by
  constructor
  · intro h
    rw [int?.eq_def] at h
    split at h <;> obtain ⟨hdigits, rfl⟩ := (map_natural?_eq_some_iff _).mp h
    · exact .plus hdigits
    · exact .minus hdigits
    · exact .unsigned hdigits
  · intro h
    cases h with
    | plus hdigits => exact (map_natural?_eq_some_iff _).mpr ⟨hdigits, rfl⟩
    | minus hdigits => exact (map_natural?_eq_some_iff _).mpr ⟨hdigits, rfl⟩
    | unsigned hdigits =>
        rw [int?]
        · exact (map_natural?_eq_some_iff _).mpr ⟨hdigits, rfl⟩
        · rintro ds rfl
          exact absurd hdigits.isDigit_head (by decide)
        · rintro ds rfl
          exact absurd hdigits.isDigit_head (by decide)

/-- **An integer of 64 bits is read from the texts that denote it.** -/
lemma int64?_eq_some_iff : int64? s = some n ↔ Denotes s n.toInt := by
  rw [← int?_eq_some_iff, int64?]
  cases int? s with
  | none => simp
  | some z =>
      constructor
      · intro h
        obtain ⟨⟨hle, hge⟩, rfl⟩ : (_ ∧ _) ∧ Int64.ofInt z = n := by simpa using h
        have hlt : z < 2 ^ 63 := by
          rw [Int64.toInt_maxValue] at hge
          omega
        rw [Int64.toInt_ofInt_of_le hle hlt]
      · intro h
        obtain rfl : z = n.toInt := Option.some.inj h
        simp only [n.minValue_le_toInt, n.toInt_le, and_self, if_true, Int64.ofInt_toInt]

/-! ### The text of an integer -/

lemma isDigits_digits (m : ℕ) : IsDigits (Double.digits m) :=
  ⟨Nat.toDigits_ne_nil, fun _ => Json.Numeral.isDigit_of_mem_digits⟩

/-- **An integer is written as a text that denotes it.** -/
lemma denotes_intText (z : ℤ) : Denotes (intText z) z := by
  have hdigits : Nat.ofDigitChars 10 (Double.digits z.natAbs) 0 = z.natAbs :=
    Nat.ofDigitChars_ten_toDigits
  rw [intText]
  split_ifs with hz
  · have hminus := Denotes.minus (isDigits_digits z.natAbs)
    rwa [hdigits, show -(z.natAbs : ℤ) = z by omega] at hminus
  · have hunsigned := Denotes.unsigned (isDigits_digits z.natAbs)
    rwa [hdigits, show (z.natAbs : ℤ) = z by omega] at hunsigned

lemma not_isBlank_of_isDigit (h : c.isDigit) : ¬ isBlank c := by
  have hbounds := Json.Numeral.isDigit_iff.mp h
  simp only [isBlank, Text.CodeRanges.has, Text.blanks, List.any_cons, List.any_nil,
    Bool.or_eq_true, Bool.and_eq_true, decide_eq_true_eq, Bool.false_eq_true, or_false]
  omega

/-- There is no blank in the text of an integer. -/
lemma Denotes.not_isBlank (h : Denotes s z) : ∀ c ∈ s, ¬ isBlank c := by
  cases h with
  | unsigned hdigits => exact fun c hc => not_isBlank_of_isDigit (hdigits.2 c hc)
  | plus hdigits =>
      exact List.forall_mem_cons.mpr
        ⟨by decide, fun c hc => not_isBlank_of_isDigit (hdigits.2 c hc)⟩
  | minus hdigits =>
      exact List.forall_mem_cons.mpr
        ⟨by decide, fun c hc => not_isBlank_of_isDigit (hdigits.2 c hc)⟩

/-! ### Typed versions -/

variable {raw : String}

lemma ofVersionText_eq_integer_iff :
    ofVersionText raw = .integer n ↔ Denotes (trim raw.toList) n.toInt := by
  rw [← int64?_eq_some_iff, ofVersionText]
  cases int64? (trim raw.toList) <;> simp

lemma ofVersionText_eq_text (h : ∀ n : Int64, ¬ Denotes (trim raw.toList) n.toInt) :
    ofVersionText raw = .text (String.ofList (trim raw.toList)) := by
  have hnone : int64? (trim raw.toList) = none :=
    Option.eq_none_iff_forall_ne_some.mpr fun n hn => h n (int64?_eq_some_iff.mp hn)
  rw [ofVersionText, hnone]

/-- A version depends on what is left without the blanks around it. -/
lemma ofVersionText_congr {other : String} (h : trim other.toList = trim raw.toList) :
    ofVersionText other = ofVersionText raw := by
  rw [ofVersionText, ofVersionText, h]

/-- **A version that is shown and typed again is the same version.** -/
lemma ofVersionText_display (raw : String) :
    ofVersionText (String.ofList (ofVersionText raw).display) = ofVersionText raw := by
  by_cases h : ∃ n : Int64, Denotes (trim raw.toList) n.toInt
  · obtain ⟨n, hn⟩ := h
    have htrim : trim (intText n.toInt) = intText n.toInt :=
      (Text.core_self (denotes_intText n.toInt).not_isBlank).trim_eq
    rw [ofVersionText_eq_integer_iff.mpr hn, display, ofVersionText_eq_integer_iff,
      String.toList_ofList, htrim]
    exact denotes_intText n.toInt
  · rw [not_exists] at h
    refine ofVersionText_congr ?_
    rw [ofVersionText_eq_text h, display, String.toList_ofList, String.toList_ofList,
      Text.trim_trim]

/-- **What a typed version stands for.** Let `t` be the text without the blanks at either end.

* The version is the integer `z` exactly if `t` consists of one or more digits with at most one sign
  in front, denotes `z`, and `z` has room in 64 bits. Otherwise it is the text `t`.
* A version that is shown and typed again is the same version.
* So is one that is typed with more blanks around it. -/
theorem typed_version (raw : String) :
    Core raw.toList (trim raw.toList) ∧
    (∀ z : ℤ, (∃ n, ofVersionText raw = .integer n ∧ n.toInt = z) ↔
      Denotes (trim raw.toList) z ∧ -2 ^ 63 ≤ z ∧ z < 2 ^ 63) ∧
    ((¬ ∃ z : ℤ, Denotes (trim raw.toList) z ∧ -2 ^ 63 ≤ z ∧ z < 2 ^ 63) →
      ofVersionText raw = .text (String.ofList (trim raw.toList))) ∧
    ofVersionText (String.ofList (ofVersionText raw).display) = ofVersionText raw ∧
    ∀ front back, AllBlank front → AllBlank back →
      ofVersionText (String.ofList (front ++ raw.toList ++ back)) = ofVersionText raw := by
  refine ⟨Text.core_trim _, fun z => ⟨?integer, ?ofDenotes⟩, fun h => ?text,
    ofVersionText_display raw, fun front back hfront hback => ?padded⟩
  case integer =>
    rintro ⟨n, hn, rfl⟩
    exact ⟨ofVersionText_eq_integer_iff.mp hn, n.le_toInt, n.toInt_lt⟩
  case ofDenotes =>
    rintro ⟨hdenotes, hle, hlt⟩
    have hint : (Int64.ofInt z).toInt = z := Int64.toInt_ofInt_of_le hle hlt
    exact ⟨Int64.ofInt z, ofVersionText_eq_integer_iff.mpr (hint.symm ▸ hdenotes), hint⟩
  case text =>
    exact ofVersionText_eq_text fun n hn => h ⟨n.toInt, hn, n.le_toInt, n.toInt_lt⟩
  case padded =>
    refine ofVersionText_congr ?_
    rw [String.toList_ofList, Text.trim_append_append hfront hback]

/-- The least integer of 64 bits with a zero and blanks in front of and behind it, the first one
behind the greatest, which stays a text with its sign, and more blanks around a version. -/
theorem typed_version_at_limits :
    (∃ n, ofVersionText "\u3000-09223372036854775808\n" = .integer n ∧ n.toInt = -2 ^ 63) ∧
    ofVersionText " +9223372036854775808" = .text "+9223372036854775808" ∧
    ofVersionText (String.ofList (['\u00a0'] ++ " v2 ".toList ++ ['\t', '\u2028'])) =
      ofVersionText " v2 " := by
  obtain ⟨-, hinteger, -⟩ := typed_version "\u3000-09223372036854775808\n"
  obtain ⟨-, -, htext, -⟩ := typed_version " +9223372036854775808"
  obtain ⟨-, -, -, -, hpadded⟩ := typed_version " v2 "
  refine ⟨(hinteger _).mpr ⟨int?_eq_some_iff.mp (by decide), by decide, by decide⟩, htext ?_,
    hpadded _ _ (by decide) (by decide)⟩
  rintro ⟨z, hz, -, hlt⟩
  have hread : int? (trim " +9223372036854775808".toList) = some (2 ^ 63) := by decide
  rw [int?_eq_some_iff.mpr hz] at hread
  exact absurd (Option.some.inj hread) hlt.ne

end FieldNorm.Value
