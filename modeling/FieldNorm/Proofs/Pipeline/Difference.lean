import FieldNorm.Proofs.Pipeline.Report

/-!
The report of a run against the documents before and behind it.

A run reports the fields that are not steady, which is a matter of its rules and of the document it
starts from. What can be seen of the two documents alone is this:

* `Pipeline.exists_target_of_not_steady`: some rule aims at a field that is reported.
* `Pipeline.vacant_of_not_steady`: a field that is reported has been vacant, the schema field apart.
* `Pipeline.changed_against_documents`: every field that differs in the end is reported, and a field
  that is reported differs in the end, the schema field apart.
-/

namespace FieldNorm.Pipeline

variable {p : Pipeline} {d : Document} {rules : List Rule} {field : String} {cell : Option Value}
  {changed : List String}

/-- There is room for a default: the field is absent, or the marker stands in it. -/
def Vacant (cell : Option Value) : Prop := cell = none ∨ cell = some (.text Value.marker)

instance : Decidable (Vacant cell) := inferInstanceAs (Decidable (_ ∨ _))

/-- Only a field at which some rule aims is not steady. -/
lemma exists_target_of_not_steady (h : ¬ Steady field rules cell) :
    ∃ rule ∈ rules, rule.target = field := by
  by_contra hnone
  push Not at hnone
  apply h
  intro rule hrule
  exact Rule.effect_of_target_ne (hnone rule hrule) cell

/-- Only a vacant field is not steady, if no version is stamped in it. -/
lemma vacant_of_not_steady (hfield : field ≠ Document.schemaField)
    (h : ¬ Steady field rules cell) : Vacant cell := by
  cases cell with
  | none => exact .inl rfl
  | some v =>
      right
      by_contra hvacant
      have hmarker : ¬ v.isMarker := by
        intro hv
        exact hvacant (congrArg some (Value.isMarker_iff.mp hv))
      apply h
      rw [steady_some_iff]
      exact ⟨fun heq => absurd heq hfield, fun hv => absurd hv hmarker⟩

/-- **The report of a run against the documents before and behind it.**

* No field is reported twice.
* Some rule aims at every field that is reported.
* Every field is reported that is absent before the run and present behind it or holds another
  value, bits of floats included.
* A field that is reported has been vacant and is not any more what it has been, unless it is the
  schema field. -/
theorem changed_against_documents (h : (p.apply d).result = .ok changed) :
    changed.Nodup ∧
    (∀ field ∈ changed, ∃ rule ∈ p.rules, rule.target = field) ∧
    (∀ field, (p.apply d).document.get? field ≠ d.get? field → field ∈ changed) ∧
    ∀ field ∈ changed, field ≠ Document.schemaField →
      (p.apply d).document.get? field ≠ d.get? field ∧ Vacant (d.get? field) := by
  have happlies := applies_of_missing?_eq_none (missing?_eq_none_iff.mpr ⟨changed, h⟩)
  refine ⟨nodup_changed h, fun field hfield => ?targets, fun field hdiffers => ?all,
    fun field hfield hschema => ⟨fun hsame => ?differs, ?vacant⟩⟩
  case targets => exact exists_target_of_not_steady ((mem_changed_iff h field).mp hfield)
  case all =>
    rw [mem_changed_iff h]
    intro hsteady
    apply hdiffers
    rw [happlies.get?_eq, hsteady.fieldAfter_eq]
  case differs =>
    -- without a stamp a field that ends as it has begun has been steady
    have hsupplied := (applies_iff.mp happlies field).1
    rw [happlies.get?_eq] at hsame
    exact (mem_changed_iff h field).mp hfield
      (steady_of_fieldAfter_eq hsupplied (fun heq => absurd heq hschema) hsame)
  case vacant => exact vacant_of_not_steady hschema ((mem_changed_iff h field).mp hfield)

/-- Rules of all kinds, of which the stamps move the version away and back. -/
def overhauling : Pipeline where
  rules :=
    [.replaceNull "printer" (.text "lab-1"), .fillMissing "ratio" (.float (.zero false)),
      .fillMissing "quota" (.text "null"), .stampSchema (some (.integer 1)),
      .replaceNull "quota" (.integer 50), .stampSchema (some (.float (.zero true)))]

/-- A document with a marker, a NaN and the version of the last stamp. -/
def overhauled : Document :=
  .ofList
    [("printer", .text "null"), ("ratio", .float ⟨0x7ff8000000000000⟩),
      ("schema", .float (.zero true))]

/-- The schema field is reported although it ends as it has begun. -/
theorem changed_against_documents_overhauling :
    (overhauling.apply overhauled).result = .ok ["printer", "quota", "schema"] ∧
      (overhauling.apply overhauled).document.get? "schema" = overhauled.get? "schema" ∧
      (overhauling.apply overhauled).document.get? "printer" ≠ overhauled.get? "printer" ∧
      Vacant (overhauled.get? "printer") := by
  have hresult : (overhauling.apply overhauled).result = .ok ["printer", "quota", "schema"] := by
    decide
  obtain ⟨-, -, -, hdiffers⟩ := changed_against_documents hresult
  obtain ⟨hprinter, hvacant⟩ := hdiffers "printer" (by decide) (by decide)
  exact ⟨hresult, by decide, hprinter, hvacant⟩

end FieldNorm.Pipeline
