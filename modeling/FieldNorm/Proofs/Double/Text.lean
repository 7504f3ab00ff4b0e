import FieldNorm.Proofs.Json.Numeral

/-!
Which characters stand in the texts of doubles.

* `notMem_scientificText`, `notMem_plainText`: nothing but digits, signs, points and the letters of
  an exponent, of a NaN or of an infinity.
* `exists_mem_scientificText`: a point or an exponent, so the text is not that of an integer.
-/

namespace FieldNorm.Double

open Json.Numeral (isDigit isDigit_of_mem_digits)

variable {c : Char} {text : List Char}

/-! ### Characters that do not occur -/

lemma notMem_digits (hdigit : ¬ isDigit c) (n : Nat) : c ∉ digits n := fun h =>
  hdigit (isDigit_of_mem_digits h)

lemma Decimal.notMem_positional (hdigit : ¬ isDigit c) (hpoint : c ≠ '.') (d : Decimal) :
    c ∉ d.positional := by
  have hzero : c ≠ '0' := fun h => hdigit (h ▸ rfl)
  have hdigits := notMem_digits hdigit d.coefficient
  have htake : ∀ k, c ∉ (digits d.coefficient).take k := fun _ h =>
    hdigits (List.mem_of_mem_take h)
  have hdrop : ∀ k, c ∉ (digits d.coefficient).drop k := fun _ h =>
    hdigits (List.mem_of_mem_drop h)
  rw [positional]
  dsimp only
  split_ifs <;> simp [hdigits, htake, hdrop, hzero, hpoint]

lemma Decimal.notMem_scientific (hdigit : ¬ isDigit c) (hmarks : c ∉ ['.', 'e', '+', '-'])
    (d : Decimal) : c ∉ d.scientific := by
  have hdigits := notMem_digits hdigit d.coefficient
  have horder := notMem_digits hdigit d.order.natAbs
  rw [scientific]
  split <;> split_ifs <;> simp_all

lemma notMem_signed (hminus : c ≠ '-') (x : Double) (h : c ∉ text) : c ∉ x.signed text := by
  rw [signed]
  split_ifs
  · simp [h, hminus]
  · exact h

/-- The text of a finite number has nothing but digits and the marks of a decimal. -/
lemma notMem_scientificText (hdigit : ¬ isDigit c) (hmarks : c ∉ ['.', 'e', '+', '-'])
    (x : Double) : c ∉ x.scientificText := by
  have hzero : c ≠ '0' := fun h => hdigit (h ▸ rfl)
  obtain ⟨hpoint, -, -, hminus⟩ : c ≠ '.' ∧ c ≠ 'e' ∧ c ≠ '+' ∧ c ≠ '-' := by simpa using hmarks
  refine notMem_signed hminus x ?_
  dsimp only
  split_ifs
  · simp [hzero, hpoint]
  · exact Decimal.notMem_positional hdigit hpoint _
  · exact Decimal.notMem_scientific hdigit hmarks _

/-- Without an exponent there are the letters of a NaN and of an infinity besides. -/
lemma notMem_plainText (hdigit : ¬ isDigit c) (hmarks : c ∉ ['.', '-'])
    (hletters : c ∉ ['N', 'a', 'i', 'n', 'f']) (x : Double) : c ∉ x.plainText := by
  have hzero : c ≠ '0' := fun h => hdigit (h ▸ rfl)
  obtain ⟨hpoint, hminus⟩ : c ≠ '.' ∧ c ≠ '-' := by simpa using hmarks
  rw [plainText]
  split_ifs
  · simp_all
  · exact notMem_signed hminus x (by simp_all)
  · exact notMem_signed hminus x (by simp [notMem_digits hdigit, hzero, hpoint])
  · exact notMem_signed hminus x (Decimal.notMem_positional hdigit hpoint _)

/-! ### What tells a double from an integer -/

lemma Decimal.point_mem_positional (d : Decimal) : '.' ∈ d.positional := by
  rw [positional]
  dsimp only
  split_ifs <;> simp

lemma Decimal.mem_scientific (d : Decimal) : 'e' ∈ d.scientific := by
  rw [scientific]
  split <;> simp

/-- **The text of a double has a point or an exponent.** -/
lemma exists_mem_scientificText (x : Double) :
    '.' ∈ x.scientificText ∨ 'e' ∈ x.scientificText := by
  have hsigned : ∀ {c text}, c ∈ text → c ∈ x.signed text := by
    intro c text h
    rw [signed]
    split_ifs
    · exact List.mem_cons_of_mem _ h
    · exact h
  rw [scientificText]
  dsimp only
  split_ifs
  · exact .inl (hsigned (by decide))
  · exact .inl (hsigned (Decimal.point_mem_positional _))
  · exact .inr (hsigned (Decimal.mem_scientific _))

end FieldNorm.Double
