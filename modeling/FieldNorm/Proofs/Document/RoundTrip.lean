import FieldNorm.Document.Json
import FieldNorm.Proofs.Json.RoundTrip

/-!
Documents without floats are read as they are written, but for the form of their integers: JSON
does not tell `Value.unsigned` from `Value.integer`, and a reader takes the signed form wherever
it has room.

* `Value.narrowed`, `Document.narrowed`: the unsigned integers in the signed form, if they fit.
* `Value.ofJson_toJson`: that is what is left of a value in JSON.
* `Document.state_narrowed_eq_iff`: none of the three forms of "no value" is taken for another.
* `Document.read_compact`, `Document.read_pretty`, `Document.readEach_compact`,
  `Document.readEach_pretty`: both ways to read a document give it back from both of its texts.
-/

namespace FieldNorm

open Json (Fits LaidOut Spacing maxDepth)

/-! ### Values -/

namespace Value

def isFloat : Value → Bool
  | .float _ => true
  | _ => false

/-- The value with an unsigned integer in the signed form, if that has room for it. -/
def narrowed : Value → Value
  | .unsigned n =>
      if (n.toNat : Int) ≤ Int64.maxValue.toInt then .integer (Int64.ofNat n.toNat)
      else .unsigned n
  | v => v

lemma le_maxValue_iff {n : UInt64} :
    (n.toNat : Int) ≤ Int64.maxValue.toInt ↔ n.toNat < Nat.pow 2 63 := by
  have hmax : Int64.maxValue.toInt = 2 ^ 63 - 1 := by decide
  have hpow : Nat.pow 2 63 = 2 ^ 63 := rfl
  omega

/-- The signed form is the same number. -/
lemma toInt_ofNat_toNat {n : UInt64} (h : (n.toNat : Int) ≤ Int64.maxValue.toInt) :
    (Int64.ofNat n.toNat).toInt = n.toNat :=
  Int64.toInt_ofNat_of_lt (le_maxValue_iff.mp h)

/-- A value changes only from an unsigned integer to the signed form of the same number. -/
lemma narrowed_cases (v : Value) :
    v.narrowed = v ∨
      ∃ n m, v = .unsigned n ∧ v.narrowed = .integer m ∧ m.toInt = n.toNat := by
  cases v with
  | null | bool b | integer n | float x | text s => exact .inl rfl
  | unsigned n =>
      rw [narrowed]
      split_ifs with hn
      case pos => exact .inr ⟨n, _, rfl, rfl, toInt_ofNat_toNat hn⟩
      case neg => exact .inl rfl

/-- The smallest form of a natural number is the narrowed one. -/
lemma ofUInt64_eq_narrowed (n : UInt64) : ofUInt64 n = (unsigned n).narrowed := by
  have hsigned : n.toInt64 = Int64.ofNat n.toNat := by
    rw [← UInt64.toInt64_ofNat', UInt64.ofNat_toNat]
  simp only [ofUInt64, narrowed, le_maxValue_iff, hsigned]

/-- A number that is not negative stays the same without its sign. -/
lemma toNat_toUInt64 {n : Int64} (h : ¬ n.toInt < 0) : (n.toUInt64.toNat : Int) = n.toInt := by
  have hle : 0 ≤ n := Int64.le_iff_toInt_le.mpr (by simpa using h)
  rw [Int64.toNat_toUInt64_of_le hle]
  exact Int.toNat_of_nonneg (Int.not_lt.mp h)

lemma narrowed_unsigned_toUInt64 {n : Int64} (h : ¬ n.toInt < 0) :
    (unsigned n.toUInt64).narrowed = .integer n := by
  have hle : (n.toUInt64.toNat : Int) ≤ Int64.maxValue.toInt := by
    rw [toNat_toUInt64 h]
    exact Int64.le_iff_toInt_le.mp (Int64.le_maxValue n)
  have hsigned : Int64.ofNat n.toUInt64.toNat = n := by
    rw [← UInt64.toInt64_ofNat', UInt64.ofNat_toNat, Int64.toInt64_toUInt64]
  rw [narrowed, if_pos hle, hsigned]

/-- Without floats a value is an atom of JSON. -/
lemma atomic_toJson {v : Value} (h : ¬ v.isFloat) : Json.Atomic v.toJson := by
  cases v with
  | null => exact .null
  | bool b => exact .bool b
  | integer n =>
      rw [toJson]
      split_ifs with hn
      case pos => exact .negative hn
      case neg => exact .natural _
  | unsigned n => exact .natural n
  | float x => exact absurd rfl h
  | text s => exact .string s

/-- **What is left of a value in JSON** is the value with its integer narrowed. -/
lemma ofJson_toJson (v : Value) : ofJson v.toJson = .ok v.narrowed := by
  cases v with
  | null | bool b | float x | text s => rfl
  | unsigned n => exact congrArg Except.ok (ofUInt64_eq_narrowed n)
  | integer n =>
      rw [toJson]
      split_ifs with hn
      case pos => rfl
      case neg =>
        have hback := (ofUInt64_eq_narrowed n.toUInt64).trans (narrowed_unsigned_toUInt64 hn)
        exact congrArg Except.ok hback

lemma ofJsonField_toJson (v : Value) : ofJsonField v.toJson = .ok v.narrowed := by
  simp only [ofJsonField, ofJson_toJson]

end Value

/-! ### Documents -/

namespace Document

variable {d : Document} {print : Nat → Json → List Char} {spacing : Nat → Spacing}

/-- No field holds a float. -/
def FloatFree (d : Document) : Prop := ∀ x ∈ d.entries, ¬ x.2.isFloat

instance (d : Document) : Decidable d.FloatFree :=
  inferInstanceAs (Decidable (∀ x ∈ d.entries, ¬ x.2.isFloat))

/-- The document with its unsigned integers in the signed form, as far as that has room. -/
def narrowed (d : Document) : Document := d.map Value.narrowed

lemma state_narrowed (d : Document) (key : String) :
    d.narrowed.state key = match d.state key with
      | .value v => .value v.narrowed
      | state => state := by
  simp only [state, narrowed, FieldMap.get?_map]
  cases d.get? key with
  | none => rfl
  | some v =>
      rw [Option.map_some]
      rcases v.narrowed_cases with h | ⟨n, m, rfl, h, -⟩
      · simp only [h]
        split_ifs <;> simp only [h]
      · rw [h]
        exact congrArg FieldState.value h.symm

/-- **Absence, null and the marker stay apart**, and no value is taken for one of them. -/
lemma state_narrowed_eq_iff (d : Document) (key : String) {state : FieldState}
    (h : ∀ v, state ≠ .value v) : d.narrowed.state key = state ↔ d.state key = state := by
  rw [state_narrowed]
  cases d.state key with
  | absent | null | nullMarker => rfl
  | value v => simp [(h _).symm]

/-! ### Through JSON -/

/-- The text of a document consists of the texts of its fields, each behind its name. -/
lemma print_toJson (hprint : LaidOut print spacing) (d : Document) (outer : Nat) :
    print outer d.toJson = (spacing outer).enclosed '\x7b' '\x7d'
      (d.entries.map fun x => (spacing outer).member x.1 (print (outer + 1) x.2.toJson)) := by
  rw [toJson, hprint.object, List.map_map]
  rfl

lemma compact_toJson (v : Value) : v.toJson.compact = Json.atom v.toJson := by
  cases v <;> rfl

lemma prettyAt_toJson (v : Value) (depth : Nat) : v.toJson.prettyAt depth = Json.atom v.toJson := by
  cases v <;> rfl

lemma fits_toJson (h : d.FloatFree) (depth : Nat) : Fits (depth + 1) d.toJson := by
  refine .object fun m hm => ?_
  obtain ⟨x, hx, rfl⟩ := List.mem_map.mp hm
  exact .atom (Value.atomic_toJson (h x hx))

/-- **What is left of a document in JSON** is the document with its integers narrowed. -/
lemma ofJson_toJson (d : Document) : ofJson d.toJson = .ok d.narrowed := by
  have hmap : FieldMap.ofList (d.entries.map fun x => (x.1, x.2.toJson)) = d.map Value.toJson :=
    FieldMap.ofList_entries (d.map Value.toJson)
  have htry : (d.map Value.toJson).tryMap Value.ofJson = .ok d.narrowed :=
    FieldMap.tryMap_map fun x _ => Value.ofJson_toJson x.2
  simp only [toJson, ofJson, hmap, htry]

lemma read_of_parse {text : String} (h : Json.parse text = .ok d.toJson) :
    read text = .ok d.narrowed := by
  simp only [read, h, ofJson_toJson]

lemma read_compact (h : d.FloatFree) : read d.compact = .ok d.narrowed :=
  read_of_parse (Json.parse_compact (fits_toJson h _))

lemma read_pretty (h : d.FloatFree) : read d.pretty = .ok d.narrowed := by
  have hparse := Json.parse_pretty (fits_toJson h _) Json.allBlank_nil
  rw [List.append_nil] at hparse
  exact read_of_parse hparse

/-! ### Member by member -/

/-- The text of a value is read as the value, narrowed. -/
lemma value_reads (hprint : LaidOut print spacing) {v : Value} (h : ¬ v.isFloat)
    (depth outer : Nat) :
    ((Json.Reader.value depth).refine Value.ofJsonField).Reads (print outer v.toJson) v.narrowed :=
  (Json.Reader.value_reads hprint (.atom (Value.atomic_toJson h)) outer).refine
    (Value.ofJsonField_toJson v)

/-- The members of a document are read one by one, each as its value, narrowed. -/
lemma membersOf_toJson (hprint : LaidOut print spacing) (h : d.FloatFree) (depth outer : Nat)
    (rest : List Char) :
    (Json.Reader.membersOf Json.Reader.anyKey fun _ =>
      (Json.Reader.value depth).refine Value.ofJsonField).run (print outer d.toJson ++ rest) =
      .ok (d.narrowed.entries, rest) := by
  rw [print_toJson hprint]
  exact Json.Reader.membersOf_enclosed (fun x hx => value_reads hprint (h x hx) depth (outer + 1))
    (Json.Reader.admits_anyKey [] _) (spacing outer) rest

/-- **A reader that looks at every member where it stands gives the document back.** -/
lemma reader_reads (hprint : LaidOut print spacing) (h : d.FloatFree) (outer : Nat) :
    reader.Reads (print outer d.toJson) d.narrowed := by
  obtain ⟨t, ht⟩ : ∃ t, print outer d.toJson = '\x7b' :: t := by
    rw [print_toJson hprint]
    exact (spacing outer).enclosed_eq_cons _ _ _
  refine Json.Reader.shaped_reads_object ht fun rest _ => ?_
  have hmembers := membersOf_toJson hprint h (maxDepth - 1) outer rest
  have hmap := Json.Reader.map_run FieldMap.ofList hmembers
  rwa [FieldMap.ofList_entries] at hmap

lemma readEach_compact (h : d.FloatFree) : readEach d.compact = .ok d.narrowed :=
  Json.Reader.readAll_ofList (reader_reads Json.laidOut_compact h 0)

lemma readEach_pretty (h : d.FloatFree) : readEach d.pretty = .ok d.narrowed :=
  Json.Reader.readAll_ofList (reader_reads Json.laidOut_prettyAt h 0)

end Document

end FieldNorm
