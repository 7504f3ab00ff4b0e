import Mathlib.Data.String.Basic
import Mathlib.Tactic.Common

/-!
The order of strings is the order of their bytes in UTF-8.

Strings are compared character by character, by code point. Of two characters the smaller one has
the smaller byte at the first place where their bytes differ (`encode_append_lt`), and so have two
strings (`utf8_lt_iff`).
-/

namespace FieldNorm.Text

variable {c d : Char} {m n : Nat} {s t : String}

/-- The bytes of a text in UTF-8. -/
def utf8 (s : String) : List UInt8 := s.toUTF8.data.toList

/-- The bytes of a text are those of its characters. -/
lemma utf8_ofList (cs : List Char) :
    utf8 (String.ofList cs) = cs.flatMap String.utf8EncodeChar := by
  rw [utf8, String.toUTF8_eq_toByteArray]
  simp [List.utf8Encode]

/-! ### Characters -/

/-- The smaller of two numbers has fewer multiples of 64, or as many and a smaller rest. -/
lemma div_lt_or_mod_lt (h : m < n) : m / 64 < n / 64 ∨ m / 64 = n / 64 ∧ m % 64 < n % 64 := by
  omega

/-- The smaller of two numbers has the smaller digit to the base 64 at the first place where they
differ. -/
lemma digits_lt (h : m < n) :
    m / 262144 < n / 262144 ∨ m / 262144 = n / 262144 ∧
      (m / 4096 % 64 < n / 4096 % 64 ∨ m / 4096 % 64 = n / 4096 % 64 ∧
        (m / 64 % 64 < n / 64 % 64 ∨ m / 64 % 64 = n / 64 % 64 ∧ m % 64 < n % 64)) := by
  have hsquare : ∀ k, k / 4096 = k / 64 / 64 := fun k => by rw [Nat.div_div_eq_div_mul]
  have hcube : ∀ k, k / 262144 = k / 64 / 64 / 64 := fun k => by
    rw [Nat.div_div_eq_div_mul, Nat.div_div_eq_div_mul]
  simp only [hsquare, hcube]
  rcases div_lt_or_mod_lt h with h | ⟨h₁, h⟩
  · rcases div_lt_or_mod_lt h with h | ⟨h₂, h⟩
    · rcases div_lt_or_mod_lt h with h | ⟨h₃, h⟩
      · exact .inl h
      · exact .inr ⟨h₃, .inl h⟩
    · exact .inr ⟨by rw [h₂], .inr ⟨by rw [h₂], .inl h⟩⟩
  · exact .inr ⟨by rw [h₁], .inr ⟨by rw [h₁], .inr ⟨by rw [h₁], h⟩⟩⟩

lemma toNat_ofNat_byte (h : n < 256) : (UInt8.ofNat n).toNat = n := UInt8.toNat_ofNat_of_lt' h

/-- **The bytes of the smaller of two characters are smaller**, whatever follows them. -/
lemma encode_append_lt (h : c < d) (u v : List UInt8) :
    String.utf8EncodeChar c ++ u < String.utf8EncodeChar d ++ v := by
  have hlt : c.val.toNat < d.val.toNat := h
  have hmax : d.val.toNat < 0x110000 := by
    rcases d.valid with h | h <;> omega
  have hdigits := digits_lt hlt
  -- a byte is a digit behind the mark of its place, and the mark of a longer form is greater
  have htail : ∀ k, (UInt8.ofNat (k % 64 + 128)).toNat = k % 64 + 128 := fun k =>
    toNat_ofNat_byte (by omega)
  have htwo : ∀ k, (UInt8.ofNat (k % 32 + 192)).toNat = k % 32 + 192 := fun k =>
    toNat_ofNat_byte (by omega)
  have hthree : ∀ k, (UInt8.ofNat (k % 16 + 224)).toNat = k % 16 + 224 := fun k =>
    toNat_ofNat_byte (by omega)
  have hfour : ∀ k, (UInt8.ofNat (k % 8 + 240)).toNat = k % 8 + 240 := fun k =>
    toNat_ofNat_byte (by omega)
  have hfirst : ∀ k < 0x110000, k / 262144 % 8 = k / 262144 := fun k hk => by omega
  have hc := hfirst _ (hlt.trans hmax)
  have hd := hfirst _ hmax
  simp only [String.utf8EncodeChar]
  generalize c.val.toNat = m at *
  generalize d.val.toNat = n at *
  split_ifs <;>
    simp only [List.cons_append, List.nil_append, List.cons_lt_cons_iff, UInt8.lt_iff_toNat_lt,
      ← UInt8.toNat_inj, htail, htwo, hthree, hfour, UInt8.toNat_ofNat'] <;>
    omega

/-! ### Texts -/

lemma flatMap_encode_lt {cs ds : List Char} (h : cs < ds) :
    cs.flatMap String.utf8EncodeChar < ds.flatMap String.utf8EncodeChar := by
  induction cs generalizing ds with
  | nil =>
      cases ds with
      | nil => exact absurd h (List.lt_irrefl [])
      | cons d ds =>
          rw [List.flatMap_nil, List.flatMap_cons]
          have hd : String.utf8EncodeChar d ≠ [] := by
            simp only [String.utf8EncodeChar]
            split_ifs <;> exact List.cons_ne_nil _ _
          obtain ⟨b, bs, hb⟩ := List.exists_cons_of_ne_nil hd
          rw [hb]
          exact List.nil_lt_cons _ _
  | cons c cs ih =>
      cases ds with
      | nil => exact absurd h (List.not_lt_nil _)
      | cons d ds =>
          rw [List.flatMap_cons, List.flatMap_cons]
          rcases List.cons_lt_cons_iff.mp h with hlt | ⟨rfl, hlt⟩
          · exact encode_append_lt hlt _ _
          · exact List.append_left_lt (ih hlt)

/-- **Strings are ordered as their bytes.** -/
theorem utf8_lt_iff : utf8 s < utf8 t ↔ s < t := by
  rw [← String.ofList_toList (s := s), ← String.ofList_toList (s := t), utf8_ofList, utf8_ofList,
    String.lt_iff_toList_lt, String.toList_ofList, String.toList_ofList]
  refine ⟨fun h => ?_, flatMap_encode_lt⟩
  rcases lt_trichotomy s.toList t.toList with hlt | heq | hgt
  · exact hlt
  · rw [heq] at h
    exact absurd h (List.lt_irrefl _)
  · exact absurd h (List.lt_asymm (flatMap_encode_lt hgt))

lemma utf8_le_iff : utf8 s ≤ utf8 t ↔ s ≤ t := by
  rw [← List.not_lt, ← String.not_lt, utf8_lt_iff]

end FieldNorm.Text
