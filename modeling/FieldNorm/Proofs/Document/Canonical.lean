import FieldNorm.Proofs.Document.Reading
import FieldNorm.Proofs.Document.Values
import FieldNorm.Proofs.Double.Text
import FieldNorm.Proofs.Json.Finite

/-!
Values that JSON can carry.

A value is canonical if it is no NaN, no infinity and no unsigned integer that has room in the
signed form. What is read is canonical (`Document.canonical_of_read`,
`Document.canonical_of_readEach`), and of the canonical values only null is written as `null`
(`Value.jsonText_eq_null_iff`): a NaN and an infinity would be written so too.
-/

namespace FieldNorm

namespace Value

variable {v : Value}

/-! ### Canonical values -/

/-- The value is no unsigned integer that has room in the signed form, no NaN and no infinity. -/
structure Canonical (v : Value) : Prop where
  beyond_signed : ∀ n, v = .unsigned n → Int64.maxValue.toInt < n.toNat
  isFinite : ∀ x, v = .float x → x.isFinite

/-- The text of a value in a JSON text. -/
def jsonText (v : Value) : List Char := Json.atom v.toJson

lemma notMem_numberText {n : Json.Number} (h : n.IsFinite) : 'n' ∉ n.text := by
  have hdigit : ¬ Json.Numeral.isDigit 'n' := by decide
  cases n with
  | natural n => exact Double.notMem_digits hdigit _
  | negative n => simp [Json.Number.text, Double.notMem_digits hdigit]
  | double x =>
      rw [Json.Number.text, if_pos (h x rfl)]
      exact Double.notMem_scientificText hdigit (by decide) x

/-- **Of the canonical values only null is written as `null`.** -/
lemma jsonText_eq_null_iff (h : v.Canonical) : v.jsonText = "null".toList ↔ v = .null := by
  have hnumber : ∀ n : Json.Number, n.IsFinite → Json.atom (.number n) ≠ "null".toList := by
    intro n hn htext
    have hmem : 'n' ∈ Json.atom (.number n) := by rw [htext]; decide
    exact notMem_numberText hn hmem
  cases v with
  | null => simp [jsonText, toJson, Json.atom]
  | bool b => cases b <;> decide
  | text s => simp [jsonText, toJson, Json.atom, Json.Quoted.write]
  | integer n =>
      refine iff_of_false
        (hnumber (if n.toInt < 0 then .negative n else .natural n.toUInt64) ?_) (by simp)
      split_ifs
      · exact Json.Number.isFinite_negative n
      · exact Json.Number.isFinite_natural _
  | unsigned n =>
      exact iff_of_false (hnumber (.natural n) (Json.Number.isFinite_natural n)) (by simp)
  | float x =>
      have hfinite : (Json.Number.double x).IsFinite :=
        Json.Number.isFinite_double (h.isFinite x rfl)
      exact iff_of_false (hnumber (.double x) hfinite) (by simp)

/-- **A value taken from JSON with finite numbers is canonical.** -/
lemma canonical_of_ofJson {j : Json} (hfinite : j.AllFinite) (h : ofJson j = .ok v) :
    v.Canonical where
  beyond_signed := narrowed_eq_self_iff.mp (narrowed_of_ofJson h)
  isFinite := by
    rintro x rfl
    cases hfinite with
    | null | bool b | string s | array hitems | object hmembers => cases h
    | @number n hn =>
        obtain hx := Except.ok.inj h
        cases n with
        | natural n =>
            rw [ofNumber, ofUInt64] at hx
            split_ifs at hx
        | negative n => cases hx
        | double y =>
            obtain rfl := Value.float.inj hx
            exact hn y rfl

end Value

namespace Document

variable {d : Document} {text : String}

/-- All values in the fields are canonical. -/
def Canonical (d : Document) : Prop := ∀ v ∈ d.values, v.Canonical

lemma canonical_of_ofJson {j : Json} (hfinite : j.AllFinite) (h : ofJson j = .ok d) :
    d.Canonical := by
  intro v hv
  obtain ⟨members, rfl, m, hm, hvalue⟩ := exists_of_ofJson h hv
  cases hfinite with
  | object hmembers => exact Value.canonical_of_ofJson (hmembers m hm) hvalue

/-- **What is read holds only canonical values.** -/
lemma canonical_of_read (h : read text = .ok d) : d.Canonical := by
  rw [read] at h
  split at h
  · rename_i hparse
    exact canonical_of_ofJson ((Json.Reader.gives_value_allFinite _).of_readAll hparse) h
  · cases h

lemma canonical_of_readEach (h : readEach text = .ok d) : d.Canonical :=
  canonical_of_read (read_of_readEach h)

end Document

end FieldNorm
