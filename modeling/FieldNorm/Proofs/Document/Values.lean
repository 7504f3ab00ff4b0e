import FieldNorm.Proofs.Document.RoundTrip

/-!
The values of a document, and where those of a document that has been read come from.

* `Document.exists_of_ofJson`: every value of a document that is taken from JSON is the value of
  one of its members.
* `Value.narrowed_of_ofJson`: a value that is taken from JSON is narrowed, so a document that has
  been read once comes back unchanged (`Document.narrowed_eq_self`).
-/

namespace FieldNorm

namespace Value

lemma narrowed_narrowed (v : Value) : v.narrowed.narrowed = v.narrowed := by
  rcases v.narrowed_cases with h | ⟨n, m, -, h, -⟩
  · rw [h, h]
  · rw [h]
    rfl

/-- **A value taken from JSON is narrowed**: it is no unsigned integer that has room in the signed
form. -/
lemma narrowed_of_ofJson {j : Json} {v : Value} (h : ofJson j = .ok v) : v.narrowed = v := by
  cases j with
  | null | bool b | string s =>
      obtain rfl := Except.ok.inj h
      rfl
  | number n =>
      obtain rfl := Except.ok.inj h
      cases n with
      | natural n =>
          rw [ofNumber, ofUInt64_eq_narrowed, narrowed_narrowed]
      | negative n | double x => rfl
  | array items | object members => cases h

lemma ofJson_of_ofJsonField {j : Json} {v : Value} (h : ofJsonField j = .ok v) :
    ofJson j = .ok v := by
  rw [ofJsonField] at h
  split at h <;> cases h
  assumption

lemma ofJsonField_of_ofJson {j : Json} {v : Value} (h : ofJson j = .ok v) :
    ofJsonField j = .ok v := by
  simp only [ofJsonField, h]

/-- Only null is written as null. -/
lemma toJson_eq_null_iff {v : Value} : v.toJson = .null ↔ v = .null := by
  cases v <;> simp [toJson]

/-- Only null stands for null. -/
lemma ofJson_eq_null_iff {j : Json} : ofJson j = .ok .null ↔ j = .null := by
  cases j with
  | null | bool b | string s | array items | object members => simp [ofJson]
  | number n =>
      rcases n with n | n | x <;> simp [ofJson, ofNumber, ofUInt64]
      split_ifs <;> simp

/-- **The values that narrowing leaves alone**: an unsigned integer has no room in the signed
form. -/
lemma narrowed_eq_self_iff {v : Value} :
    v.narrowed = v ↔ ∀ n, v = .unsigned n → Int64.maxValue.toInt < n.toNat := by
  cases v with
  | null | bool b | integer n | float x | text s => simp [narrowed]
  | unsigned n =>
      rw [narrowed]
      split_ifs with hn
      case pos => simp [hn]
      case neg => simpa using hn

/-- **The pieces of JSON that stand for a value** are the scalars. -/
lemma exists_ofJson_iff {j : Json} :
    (∃ v, ofJson j = .ok v) ↔ j.kind ≠ .array ∧ j.kind ≠ .object := by
  cases j <;> simp [ofJson, Json.kind]

end Value

namespace Document

variable {d : Document} {v : Value}

/-- The values in the fields of a document. -/
def values (d : Document) : List Value := d.entries.map (·.2)

lemma mem_values_iff : v ∈ d.values ↔ ∃ key, d.get? key = some v := by
  simp [values, FieldMap.get?_eq_some_iff]

lemma floatFree_iff : d.FloatFree ↔ ∀ v ∈ d.values, ¬ v.isFloat := by
  rw [values, List.forall_mem_map, FloatFree]

/-- A document is left as it is by narrowing if each of its values is. -/
lemma narrowed_eq_self (h : ∀ v ∈ d.values, v.narrowed = v) : d.narrowed = d := by
  refine FieldMap.ext_get? fun key => ?_
  rw [narrowed, FieldMap.get?_map]
  cases hkey : d.get? key with
  | none => rfl
  | some v => rw [Option.map_some, h v (mem_values_iff.mpr ⟨key, hkey⟩)]

/-- **Every value of a document taken from JSON is the value of a member.** -/
lemma exists_of_ofJson {j : Json} (h : ofJson j = .ok d) (hv : v ∈ d.values) :
    ∃ members, j = .object members ∧ ∃ m ∈ members, Value.ofJson m.2 = .ok v := by
  cases j with
  | null | bool b | number n | string s | array items => cases h
  | object members =>
      refine ⟨members, rfl, ?_⟩
      rw [ofJson] at h
      split at h <;> cases h
      rename_i hmap
      obtain ⟨x, hx, rfl⟩ := List.mem_map.mp hv
      obtain ⟨a, ha, hvalue⟩ := FieldMap.mem_of_tryMap hmap hx
      exact ⟨(x.1, a), FieldMap.mem_of_mem_ofList ha, hvalue⟩

/-- The values of a document taken from JSON are narrowed. -/
lemma narrowed_of_ofJson {j : Json} (h : ofJson j = .ok d) (hv : v ∈ d.values) :
    v.narrowed = v := by
  obtain ⟨members, -, m, -, hvalue⟩ := exists_of_ofJson h hv
  exact Value.narrowed_of_ofJson hvalue

end Document

end FieldNorm
