import FieldNorm.Pipeline.Basic
import FieldNorm.Proofs.Document.Similar

/-!
What a run shows of the values in a document.

Two documents are alike if the same fields are there, the same fields hold the marker, and the
schema field is the same. Nothing else of a document decides which way a rule takes, so a run does
the same to documents that are alike, and reports the same.

* `Document.Alike`: documents that are alike. To put the same value into both keeps them so.
* `Rule.actsAlike`: the step of one rule.
* `Pipeline.apply_alike`: the run of a pipeline.
-/

namespace FieldNorm

/-! ### Documents that are alike -/

namespace Document

variable {d e : Document} {key : String}

/-- The same fields are there, the same fields hold the marker, and the schema field is the same. -/
structure Alike (d e : Document) : Prop extends d.Similar e where
  schema_eq : e.get? schemaField = d.get? schemaField

/-- To put the same value into both keeps documents alike. -/
lemma Alike.insert (h : d.Alike e) (key : String) (v : Value) :
    Alike (FieldMap.insert d key v) (FieldMap.insert e key v) where
  toSimilar := h.toSimilar.insert key rfl
  schema_eq := by rw [FieldMap.get?_insert, FieldMap.get?_insert, h.schema_eq]

/-- What stands in a field is of no account, unless it is the marker or a schema version. -/
lemma alike_insert {v w : Value} (hd : d.get? key = some v) (hv : ¬ v.isMarker) (hw : ¬ w.isMarker)
    (hkey : key ≠ schemaField) : Alike d (FieldMap.insert d key w) where
  toSimilar := similar_insert hd (Bool.eq_iff_iff.mpr (iff_of_false hw hv))
  schema_eq := by rw [FieldMap.get?_insert, if_neg hkey.symm]

end Document

/-! ### The step of a rule -/

namespace Rule

variable {rule : Rule} {d e : Document} {error : KeyMissing}

/-- What a rule does to `d` and to `e`: it fails alike, or it leaves both as they are, or it puts
the same value into both and reports the same. Then that value has stood there before in both or in
neither. -/
inductive ActsAlike (rule : Rule) (d e : Document) : Prop
  | fails {error : KeyMissing} (hd : rule.apply d = .error error) (he : rule.apply e = .error error)
  | keeps (hd : rule.apply d = .ok (d, [])) (he : rule.apply e = .ok (e, []))
  | puts {v : Value} {events : List Log.Event}
      (hd : rule.apply d = .ok (FieldMap.insert d rule.target v, events))
      (he : rule.apply e = .ok (FieldMap.insert e rule.target v, events))
      (hbefore : e.get? rule.target = some v ↔ d.get? rule.target = some v)

lemma actsAlike_replaceNull (h : d.Alike e) (key : String) (value : Value) :
    (replaceNull key value).ActsAlike d e := by
  cases hd : d.get? key with
  | none =>
      have he : e.get? key = none := h.eq_none_iff.mpr hd
      exact .fails (Document.replaceNull_eq_error_iff.mpr ⟨rfl, hd⟩)
        (Document.replaceNull_eq_error_iff.mpr ⟨rfl, he⟩)
  | some v =>
      obtain ⟨w, he, hmarker⟩ := h.exists_get? hd
      by_cases hv : v.isMarker
      · have hw : w.isMarker := hmarker.mpr hv
        have hbefore : e.get? key = some value ↔ d.get? key = some value := by
          rw [hd, he, Value.isMarker_iff.mp hv, Value.isMarker_iff.mp hw]
        exact .puts (by simp only [apply, Document.replaceNull, hd, hv, if_true]; rfl)
          (by simp only [apply, Document.replaceNull, he, hw, if_true]; rfl) hbefore
      · have hw : ¬ w.isMarker := fun hw => hv (hmarker.mp hw)
        exact .keeps (by simp only [apply, Document.replaceNull, hd, hv]; rfl)
          (by simp only [apply, Document.replaceNull, he, hw]; rfl)

lemma actsAlike_fillMissing (h : d.Alike e) (key : String) (value : Value) :
    (fillMissing key value).ActsAlike d e := by
  have hcontains : e.contains key = d.contains key := h.contains_eq key
  by_cases hd : d.contains key
  · have he : e.contains key := hcontains.trans hd
    exact .keeps (by rw [apply, Document.fillMissing, if_pos hd])
      (by rw [apply, Document.fillMissing, if_pos he])
  · have he : ¬ e.contains key := fun he => hd (hcontains.symm.trans he)
    have hbefore : e.get? key = some value ↔ d.get? key = some value := by
      simp_all [FieldMap.contains]
    exact .puts (by rw [apply, Document.fillMissing, if_neg hd]; rfl)
      (by rw [apply, Document.fillMissing, if_neg he]; rfl) hbefore

lemma actsAlike_stampSchema (h : d.Alike e) (version : Option Value) :
    (stampSchema version).ActsAlike d e := by
  have hbefore : ∀ v, e.get? Document.schemaField = some v ↔ d.get? Document.schemaField = some v :=
    fun v => by rw [h.schema_eq]
  rcases version with _ | v
  · exact .keeps rfl rfl
  · cases v with
    | null => exact .keeps rfl rfl
    | bool _ | integer _ | unsigned _ | float _ | text _ => exact .puts rfl rfl (hbefore _)

/-- **A rule does the same to documents that are alike.** -/
lemma actsAlike (h : d.Alike e) (rule : Rule) : rule.ActsAlike d e := by
  cases rule with
  | replaceNull key value => exact actsAlike_replaceNull h key value
  | fillMissing key value => exact actsAlike_fillMissing h key value
  | stampSchema version => exact actsAlike_stampSchema h version

end Rule

/-! ### The run of a pipeline -/

/-- Two runs report the same, come to the same result and leave documents that are alike. -/
structure Run.Alike (run other : Run) : Prop where
  events_eq : other.events = run.events
  result_eq : other.result = run.result
  document : run.document.Alike other.document

namespace Pipeline

variable {d e : Document}

lemma applyRules_alike (h : d.Alike e) (changed : List String) (rules : List Rule) :
    (applyRules d changed rules).Alike (applyRules e changed rules) := by
  induction rules generalizing d e changed with
  | nil => exact ⟨rfl, rfl, h⟩
  | cons rule rules ih =>
      rw [applyRules, applyRules]
      cases Rule.actsAlike h rule with
      | fails hd he =>
          rw [hd, he]
          exact ⟨rfl, rfl, h⟩
      | keeps hd he =>
          rw [hd, he]
          simpa using ih h changed
      | @puts v events hd he hbefore =>
          rw [hd, he]
          have hsame : (e.get? rule.target = (FieldMap.insert e rule.target v).get? rule.target) ↔
              (d.get? rule.target = (FieldMap.insert d rule.target v).get? rule.target) := by
            simpa only [FieldMap.get?_insert, if_true] using hbefore
          dsimp only
          rw [decide_eq_decide.mpr hsame]
          have hrun := ih (h.insert rule.target v)
            (if decide (d.get? rule.target =
              (FieldMap.insert d rule.target v).get? rule.target) then changed
            else note rule.target changed)
          exact ⟨congrArg (events ++ ·) hrun.events_eq, hrun.result_eq, hrun.document⟩

/-- **A run does the same to documents that are alike**: it reports the same, changes the same
fields or misses the same key, and leaves documents that are alike. -/
theorem apply_alike (p : Pipeline) (h : d.Alike e) : (p.apply d).Alike (p.apply e) := by
  have hrun := applyRules_alike h [] p.rules
  rw [apply, apply, hrun.result_eq]
  split
  · exact hrun
  · exact ⟨congrArg (· ++ _) hrun.events_eq, rfl, hrun.document⟩

end Pipeline

end FieldNorm
