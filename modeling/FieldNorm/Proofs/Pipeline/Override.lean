import FieldNorm.Proofs.Pipeline.Reordering

/-!
What a schema version given from outside changes in a run.

The version takes the place of all stamps, so that the rules without the stamps run first and one
stamp behind them. No field but the schema field can tell the difference. That field may miss a
stamp which supplied it.

* `Pipeline.aimedAt_withSchemaVersion`: the rules that are aimed at other fields stay.
* `Pipeline.Supplied.withStamps`: where the rules without the stamps are supplied, all rules are.
* `Pipeline.apply_withSchemaVersion`: what a run with the version and one without it have in common.
-/

namespace FieldNorm.Pipeline

open Document (schemaField)

variable {p : Pipeline} {rules later : List Rule} {d : Document} {field key : String}
  {cell : Option Value} {v : Value}

/-! ### Rules one list after the other -/

lemma fieldAfter_append (field : String) (rules later : List Rule) (cell : Option Value) :
    fieldAfter field (rules ++ later) cell = fieldAfter field later (fieldAfter field rules cell) :=
  List.foldl_append

/-- What is supplied in a list of rules is supplied in the first part of it. -/
lemma Supplied.of_append (h : Supplied field (rules ++ later) cell) :
    Supplied field rules cell := by
  intro i v hi
  have hlt : i < rules.length := (List.getElem?_eq_some_iff.mp hi).1
  have htake : (rules ++ later).take i = rules.take i :=
    List.take_append_of_le_length (Nat.le_of_lt hlt)
  rw [← htake]
  exact h i v (by rw [List.getElem?_append_left hlt, hi])

/-! ### Rules without their stamps -/

/-- The rules that are no stamps, in their order. -/
def withoutStamps (rules : List Rule) : List Rule := rules.filter fun rule => !rule.isStamp

/-- Stamps take nothing away: what is supplied without them is supplied with them. -/
lemma Supplied.withStamps (h : Supplied field (withoutStamps rules) cell) :
    Supplied field rules cell := by
  induction rules generalizing cell with
  | nil => exact h
  | cons rule rules ih =>
      cases rule with
      | replaceNull key v | fillMissing key v =>
          obtain ⟨hfirst, hothers⟩ := supplied_cons_iff.mp h
          exact supplied_cons_iff.mpr ⟨hfirst, ih hothers⟩
      | stampSchema version =>
          have hothers : Supplied field (withoutStamps rules) cell := h
          refine supplied_cons_iff.mpr ⟨nofun, ih (hothers.mono fun hcell => ?_)⟩
          exact (Rule.isSome_effect _ field cell).mpr (.inl hcell)

/-- No stamp is aimed at a field other than the schema field. -/
lemma aimedAt_withoutStamps (h : field ≠ schemaField) (rules : List Rule) :
    aimedAt field (withoutStamps rules) = aimedAt field rules := by
  rw [aimedAt, withoutStamps, List.filter_filter, aimedAt]
  refine List.filter_congr fun rule _ => ?_
  cases rule with
  | replaceNull key v | fillMissing key v => simp [Rule.isStamp]
  | stampSchema version => simp [Rule.isStamp, Rule.target, Ne.symm h]

/-! ### The version in place of the stamps -/

lemma rules_withSchemaVersion (p : Pipeline) (v : Value) :
    (p.withSchemaVersion (some v)).rules = withoutStamps p.rules ++ [.stampSchema (some v)] :=
  rfl

/-- **The rules that are aimed at other fields stay** as they are. -/
lemma aimedAt_withSchemaVersion (h : field ≠ schemaField) (p : Pipeline) (v : Value) :
    aimedAt field (p.withSchemaVersion (some v)).rules = aimedAt field p.rules := by
  have hstamp : aimedAt field [.stampSchema (some v)] = [] := aimedAt_cons_of_ne (Ne.symm h) []
  calc aimedAt field (p.withSchemaVersion (some v)).rules
      = aimedAt field (withoutStamps p.rules) ++ aimedAt field [.stampSchema (some v)] := by
        rw [rules_withSchemaVersion, aimedAt, List.filter_append]
        rfl
    _ = aimedAt field p.rules := by rw [aimedAt_withoutStamps h, hstamp, List.append_nil]

/-- **Every field that is supplied with the version is supplied without it.** -/
lemma Supplied.of_withSchemaVersion
    (h : Supplied field (p.withSchemaVersion (some v)).rules cell) :
    Supplied field p.rules cell :=
  (Supplied.of_append h).withStamps

/-- A field other than the schema field is supplied without the version as with it. -/
lemma supplied_withSchemaVersion (h : field ≠ schemaField) :
    Supplied field (p.withSchemaVersion (some v)).rules cell ↔ Supplied field p.rules cell := by
  rw [← supplied_aimedAt, aimedAt_withSchemaVersion h, supplied_aimedAt]

lemma fieldAfter_withSchemaVersion (h : field ≠ schemaField) :
    fieldAfter field (p.withSchemaVersion (some v)).rules cell = fieldAfter field p.rules cell := by
  rw [← fieldAfter_aimedAt, aimedAt_withSchemaVersion h, fieldAfter_aimedAt]

/-- The version stands in the schema field in the end. -/
lemma fieldAfter_withSchemaVersion_schemaField (hv : v ≠ .null) :
    fieldAfter schemaField (p.withSchemaVersion (some v)).rules cell = some v := by
  have hrecorded : Document.recorded (some v) = some v := by
    cases v with
    | null => exact absurd rfl hv
    | bool b | integer n | unsigned n | float x | text s => rfl
  have htarget : (Rule.stampSchema (some v)).target = schemaField := rfl
  rw [rules_withSchemaVersion, fieldAfter_append, fieldAfter_cons, fieldAfter_nil,
    Rule.effect_of_target_eq htarget, Rule.written, hrecorded, Option.some_or]

/-- The field for want of which a run ends is not supplied. -/
lemma not_supplied_of_missing? (h : (p.apply d).missing? = some key) :
    ¬ Supplied key p.rules (d.get? key) := by
  have hending : (p.apply d).ending = ((p.apply d).document, some key) := by rw [Run.ending, h]
  obtain ⟨i, w, hi, happlies, habsent⟩ := ending_eq_some_iff.mp hending
  obtain ⟨hd, hrules⟩ := (happlies.get?_eq_none_iff key).mp habsent
  intro hsupplied
  rcases hsupplied i w hi with hsome | ⟨rule, hrule, hadds⟩
  · rw [hd] at hsome
    cases hsome
  · exact hrules rule hrule hadds

/-- **What a schema version from outside may change.**

* If the run with the version succeeds, so does the run without it. Both leave the same in every
  field but the schema field, where the first leaves the version.
* If the run without the version succeeds and the one with it does not, the latter misses the
  schema field, which the document does not have. -/
theorem apply_withSchemaVersion (hv : v ≠ .null) (p : Pipeline) (d : Document) :
    (((p.withSchemaVersion (some v)).apply d).missing? = none →
      (p.apply d).missing? = none ∧
      (∀ field, field ≠ schemaField →
        ((p.withSchemaVersion (some v)).apply d).document.get? field =
          (p.apply d).document.get? field) ∧
      ((p.withSchemaVersion (some v)).apply d).document.get? schemaField = some v) ∧
    ∀ key, (p.apply d).missing? = none →
      ((p.withSchemaVersion (some v)).apply d).missing? = some key →
        key = schemaField ∧ d.get? schemaField = none := by
  refine ⟨fun h => ?success, fun key hp hq => ?failure⟩
  case success =>
    have hversion := applies_iff.mp (applies_of_missing?_eq_none h)
    obtain ⟨e, happlies⟩ : ∃ e, Applies p.rules d e :=
      exists_applies_iff.mpr fun field => (hversion field).1.of_withSchemaVersion
    refine ⟨missing?_eq_none_iff_applies.mpr ⟨e, happlies⟩, fun field hfield => ?_, ?_⟩
    · rw [(hversion field).2, happlies.document_eq, happlies.get?_eq,
        fieldAfter_withSchemaVersion hfield]
    · rw [(hversion schemaField).2, fieldAfter_withSchemaVersion_schemaField hv]
  case failure =>
    have hunsupplied := not_supplied_of_missing? hq
    have hsupplied := (applies_iff.mp (applies_of_missing?_eq_none hp) key).1
    have hkey : key = schemaField := by
      by_contra hne
      exact hunsupplied ((supplied_withSchemaVersion hne).mpr hsupplied)
    subst hkey
    refine ⟨rfl, Option.not_isSome_iff_eq_none.mp fun hsome => hunsupplied ?_⟩
    exact fun i w _ => .inl hsome

/-- A stamp that supplies a replacement in the schema field. -/
def stampThenReplace : Pipeline where
  rules :=
    [.stampSchema (some (.text "null")), .replaceNull "schema" (.integer 3),
      .fillMissing "quota" (.integer 100)]

/-- With a version from outside the document needs a schema field of its own. -/
theorem apply_withSchemaVersion_stampThenReplace :
    Value.text "v9" ≠ .null ∧
    ((stampThenReplace.withSchemaVersion (some (.text "v9"))).apply
      (.ofList [("schema", .null)])).missing? = none ∧
    (stampThenReplace.apply (.ofList [("schema", .null)])).missing? = none ∧
    ((stampThenReplace.withSchemaVersion (some (.text "v9"))).apply
      (.ofList [("schema", .null)])).document.get? "schema" = some (.text "v9") ∧
    (stampThenReplace.apply .empty).missing? = none ∧
    ((stampThenReplace.withSchemaVersion (some (.text "v9"))).apply .empty).missing? =
      some "schema" ∧
    (FieldMap.empty : Document).get? schemaField = none := by
  have hv : Value.text "v9" ≠ .null := nofun
  have hsuccess : ((stampThenReplace.withSchemaVersion (some (.text "v9"))).apply
      (.ofList [("schema", .null)])).missing? = none := by decide
  have hstopped : ((stampThenReplace.withSchemaVersion (some (.text "v9"))).apply
      .empty).missing? = some "schema" := by decide
  have hwithout : (stampThenReplace.apply .empty).missing? = none := by decide
  obtain ⟨hboth, -, hschema⟩ := (apply_withSchemaVersion hv stampThenReplace _).1 hsuccess
  obtain ⟨-, habsent⟩ := (apply_withSchemaVersion hv stampThenReplace _).2 _ hwithout hstopped
  exact ⟨hv, hsuccess, hboth, hschema, hwithout, hstopped, habsent⟩

end FieldNorm.Pipeline
