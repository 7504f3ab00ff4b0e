import FieldNorm.Proofs.Rule.Effect

/-!
Documents that no rule can tell apart by the way it takes.

* `Document.Similar`: the same fields are there, and the same fields hold the marker. Whether a
  field is found, and whether it holds the marker, decides what a rule does.
* `Document.Similar.insert`: to put values into a field keeps documents similar, if both or neither
  are the marker.
* `Document.similar_insert`: a document is similar to the one with another such value in a field.
-/

namespace FieldNorm.Document

variable {d e : Document} {key : String} {v w : Value}

/-- The same fields are there, and the same fields hold the marker. -/
structure Similar (d e : Document) : Prop where
  isSome_eq : ∀ key, (e.get? key).isSome = (d.get? key).isSome
  marker_iff : ∀ key,
    e.get? key = some (.text Value.marker) ↔ d.get? key = some (.text Value.marker)

namespace Similar

protected lemma refl (d : Document) : d.Similar d := ⟨fun _ => rfl, fun _ => .rfl⟩

lemma eq_none_iff (h : d.Similar e) : e.get? key = none ↔ d.get? key = none :=
  Option.isSome_eq_isSome.mp (h.isSome_eq key)

lemma contains_eq (h : d.Similar e) (key : String) : e.contains key = d.contains key :=
  h.isSome_eq key

/-- Where one document has a value the other has one, and both or neither are the marker. -/
lemma exists_get? (h : d.Similar e) (hd : d.get? key = some v) :
    ∃ w, e.get? key = some w ∧ (w.isMarker ↔ v.isMarker) := by
  obtain ⟨w, he⟩ : ∃ w, e.get? key = some w := by
    rw [← Option.isSome_iff_exists, h.isSome_eq, hd, Option.isSome_some]
  exact ⟨w, he, by simpa [Value.isMarker_iff, hd, he] using h.marker_iff key⟩

/-- To put values into a field keeps documents similar, if both or neither are the marker. -/
lemma insert (h : d.Similar e) (key : String) (hvalue : w.isMarker = v.isMarker) :
    Similar (FieldMap.insert d key v) (FieldMap.insert e key w) where
  isSome_eq field := by
    rw [FieldMap.get?_insert, FieldMap.get?_insert]
    split
    · rfl
    · exact h.isSome_eq field
  marker_iff field := by
    rw [FieldMap.get?_insert, FieldMap.get?_insert]
    split
    · rw [Option.some_inj, Option.some_inj, ← Value.isMarker_iff, ← Value.isMarker_iff, hvalue]
    · exact h.marker_iff field

end Similar

/-- To put back what stands in a field changes nothing. -/
lemma insert_of_get?_eq_some (hd : d.get? key = some v) : FieldMap.insert d key v = d := by
  refine FieldMap.ext_get? fun field => ?_
  rw [FieldMap.get?_insert]
  split_ifs with hfield
  · rw [hfield, hd]
  · rfl

/-- What stands in a field is of no account, but for the marker. -/
lemma similar_insert (hd : d.get? key = some v) (hvalue : w.isMarker = v.isMarker) :
    d.Similar (FieldMap.insert d key w) := by
  have hsimilar := (Similar.refl d).insert key hvalue
  rwa [insert_of_get?_eq_some hd] at hsimilar

end FieldNorm.Document
