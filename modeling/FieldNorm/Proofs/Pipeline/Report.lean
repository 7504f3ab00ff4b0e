import FieldNorm.Proofs.Pipeline.Repetition

/-!
Which fields a run reports as changed.

The report is made rule by rule: a field is noted whenever a rule leaves another datum in it than
it has found. It says nothing of how the document is in the end, so a field that is moved away and
back is reported.

* `Pipeline.Steady`: every rule leaves the datum of the field as it is. Then the field keeps it
  through the whole list, so this is a condition on the first datum alone.
* `Pipeline.mem_changed_iff`: a run reports exactly the fields that are not steady, each of them
  once (`nodup_changed`).
* `Pipeline.steady_of_fieldAfter_eq`: a field that ends as it has begun has been steady, unless it
  is the schema field and a version is stamped in it.
* `Pipeline.report_of_apply_again`: a second run reports nothing, or the schema field alone, and it
  is the rules that decide which.
-/

namespace FieldNorm

namespace Value

/-- A replacement changes nothing but a marker, and only for something else. -/
lemma replaceMarker_eq_self_iff {substitute v : Value} :
    substitute.replaceMarker v = v ↔ (v.isMarker → substitute.isMarker) := by
  by_cases hv : v.isMarker
  · rw [replaceMarker, if_pos hv, isMarker_iff.mp hv, ← isMarker_iff]
    simp [isMarker_iff.mpr]
  · simp [replaceMarker, hv]

end Value

namespace Rule

lemma substitute?_eq_none_iff {rule : Rule} {field : String} :
    rule.substitute? field = none ↔ ∀ w, rule = .replaceNull field w → w.isMarker := by
  cases rule <;> grind [substitute?]

lemma version?_eq_some_iff {rule : Rule} {v : Value} :
    rule.version? = some v ↔ rule = .stampSchema (some v) ∧ v ≠ .null := by
  cases rule with
  | replaceNull key w => simp [version?]
  | fillMissing key w => simp [version?]
  | stampSchema version =>
      rw [version?, Document.recorded.eq_def]
      split <;> grind

/-- A rule leaves a value as it is unless it stamps another version in the schema field, or
replaces a marker by something else. -/
lemma effect_some_eq_self_iff {rule : Rule} {field : String} {v : Value} :
    rule.effect field (some v) = some v ↔
      (field = Document.schemaField → ∀ w, rule.version? = some w → w = v) ∧
        (v.isMarker → rule.substitute? field = none) := by
  cases rule with
  | replaceNull key w =>
      by_cases h : key = field
      · simp [effect, target, written, version?, substitute?, h, Value.replaceMarker_eq_self_iff]
      · simp [effect, target, version?, substitute?, h]
  | fillMissing key w => simp [effect, target, written, version?, substitute?]
  | stampSchema version =>
      by_cases h : Document.schemaField = field
      · cases hversion : Document.recorded version <;>
          simp [effect, target, written, version?, substitute?, h, hversion]
      · simp [effect, target, version?, substitute?, h, Ne.symm h]

end Rule

namespace Pipeline

variable {p : Pipeline} {rule : Rule} {rules : List Rule} {d e : Document}
  {field : String} {cell : Option Value} {v : Value} {changed report : List String}

/-! ### Steady fields -/

/-- Every rule leaves the datum `cell` of the field as it is. -/
def Steady (field : String) (rules : List Rule) (cell : Option Value) : Prop :=
  ∀ rule ∈ rules, rule.effect field cell = cell

instance : Decidable (Steady field rules cell) :=
  inferInstanceAs (Decidable (∀ rule ∈ rules, rule.effect field cell = cell))

/-- The first rule changes nothing, and the others find what it leaves steady. -/
lemma steady_cons_iff :
    Steady field (rule :: rules) cell ↔
      rule.effect field cell = cell ∧ Steady field rules (rule.effect field cell) := by
  rw [Steady, List.forall_mem_cons]
  constructor
  · rintro ⟨hrule, hrules⟩
    rw [hrule]
    exact ⟨rfl, hrules⟩
  · rintro ⟨hrule, hrules⟩
    rw [hrule] at hrules
    exact ⟨hrule, hrules⟩

/-- A steady field keeps its datum. -/
lemma Steady.fieldAfter_eq (h : Steady field rules cell) : fieldAfter field rules cell = cell := by
  induction rules with
  | nil => rfl
  | cons rule rules ih =>
      obtain ⟨hrule, hrules⟩ := List.forall_mem_cons.mp h
      rw [fieldAfter_cons, hrule, ih hrules]

/-- An absent field is steady if it stays absent. -/
lemma steady_none_iff : Steady field rules none ↔ fieldAfter field rules none = none := by
  rw [← Option.not_isSome_iff_eq_none, isSome_fieldAfter]
  simp [Steady, ← Option.not_isSome_iff_eq_none, Rule.isSome_effect]

/-- A value is steady if no other version is stamped over it, and nothing else put in its place
if it is the marker. -/
lemma steady_some_iff :
    Steady field rules (some v) ↔
      (field = Document.schemaField → ∀ rule ∈ rules, ∀ w, rule.version? = some w → w = v) ∧
        (v.isMarker → ∀ rule ∈ rules, rule.substitute? field = none) := by
  simp only [Steady, Rule.effect_some_eq_self_iff]
  exact ⟨fun h => ⟨fun hfield rule hrule => (h rule hrule).1 hfield,
    fun hv rule hrule => (h rule hrule).2 hv⟩,
    fun h rule hrule => ⟨fun hfield => h.1 hfield rule hrule, fun hv => h.2 hv rule hrule⟩⟩

/-! ### The report -/

lemma mem_note {key : String} : key ∈ note field changed ↔ key ∈ changed ∨ key = field := by
  rw [note]
  split
  · rename_i h
    rw [List.contains_iff_mem] at h
    grind
  · simp

lemma nodup_note (h : changed.Nodup) : (note field changed).Nodup := by
  rw [note]
  split
  · exact h
  · rename_i hfield
    rw [List.contains_iff_mem] at hfield
    exact List.nodup_append.mpr ⟨h, by simp, by grind⟩

/-- **One rule of a run**: it turns the document into another and notes the field that it changes,
if it changes one. -/
lemma report_step (h : (applyRules d changed (rule :: rules)).result = .ok report) :
    ∃ after noted, rule.Turns d after ∧ (changed.Nodup → noted.Nodup) ∧
      (∀ field, field ∈ noted ↔
        field ∈ changed ∨ rule.effect field (d.get? field) ≠ d.get? field) ∧
      (applyRules after noted rules).result = .ok report := by
  rw [applyRules] at h
  cases hrule : rule.apply d with
  | error missing => simp [hrule] at h
  | ok result =>
      have hturns : rule.Turns d result.1 := ⟨result.2, hrule⟩
      simp only [hrule] at h
      refine ⟨result.1, _, hturns, ?_, fun field => ?_, h⟩
      · intro hnodup
        split
        · exact hnodup
        · exact nodup_note hnodup
      · have htarget : rule.effect field (d.get? field) ≠ d.get? field → field = rule.target :=
          fun hne => by
            by_contra hfield
            exact hne (Rule.effect_of_target_ne (Ne.symm hfield) _)
        have hafter := hturns.get?_eq rule.target
        split
        · rename_i hsame
          have hsame : d.get? rule.target = result.1.get? rule.target := by simpa using hsame
          grind
        · rename_i hdiffers
          have hdiffers : d.get? rule.target ≠ result.1.get? rule.target := by
            simpa using hdiffers
          rw [mem_note]
          grind

/-- The report of a list of rules: what was there before, and the fields that are not steady. -/
lemma mem_report_iff (h : (applyRules d changed rules).result = .ok report) (field : String) :
    field ∈ report ↔ field ∈ changed ∨ ¬ Steady field rules (d.get? field) := by
  induction rules generalizing d changed with
  | nil =>
      obtain rfl : changed = report := Except.ok.inj h
      simp [Steady]
  | cons rule rules ih =>
      obtain ⟨after, noted, hturns, -, hnoted, hrest⟩ := report_step h
      rw [ih hrest, hnoted, hturns.get?_eq, steady_cons_iff]
      tauto

lemma nodup_report (h : (applyRules d changed rules).result = .ok report)
    (hchanged : changed.Nodup) : report.Nodup := by
  induction rules generalizing d changed with
  | nil =>
      obtain rfl : changed = report := Except.ok.inj h
      exact hchanged
  | cons rule rules ih =>
      obtain ⟨after, noted, -, hnoted, -, hrest⟩ := report_step h
      exact ih hrest (hnoted hchanged)

/-- The closing report of a run is no part of its result. -/
lemma result_apply (p : Pipeline) (d : Document) :
    (p.apply d).result = (applyRules d [] p.rules).result := by
  rw [apply]
  split <;> rfl

/-- **A run reports exactly the fields that are not steady.** -/
theorem mem_changed_iff (h : (p.apply d).result = .ok changed) (field : String) :
    field ∈ changed ↔ ¬ Steady field p.rules (d.get? field) := by
  rw [result_apply] at h
  rw [mem_report_iff h]
  simp

/-- A run reports no field twice. -/
theorem nodup_changed (h : (p.apply d).result = .ok changed) : changed.Nodup := by
  rw [result_apply] at h
  exact nodup_report h List.nodup_nil

/-- A run that misses nothing has a report. -/
lemma missing?_eq_none_iff :
    (p.apply d).missing? = none ↔ ∃ changed, (p.apply d).result = .ok changed := by
  rw [Run.missing?]
  split <;> simp_all

/-! ### Fields that end as they have begun -/

lemma lastStamp?_eq_none_iff : lastStamp? rules = none ↔ ∀ rule ∈ rules, rule.version? = none := by
  induction rules with
  | nil => simp [lastStamp?]
  | cons rule rules ih => simp [lastStamp?, ih, and_comm]

/-- The last effective stamp is among the rules, and so are the rules behind it. -/
lemma mem_of_lastStamp? {later : List Rule} (h : lastStamp? rules = some (v, later)) :
    (∃ rule ∈ rules, rule.version? = some v) ∧ later ⊆ rules := by
  induction rules with
  | nil => cases h
  | cons rule rules ih =>
      rw [lastStamp?] at h
      cases hlast : lastStamp? rules with
      | some stamp =>
          rw [hlast, Option.some_or] at h
          obtain rfl := Option.some.inj h
          obtain ⟨⟨stamp, hstamp, hversion⟩, hlater⟩ := ih hlast
          exact ⟨⟨stamp, List.mem_cons_of_mem _ hstamp, hversion⟩,
            fun other hother => List.mem_cons_of_mem _ (hlater hother)⟩
      | none =>
          rw [hlast, Option.none_or, Option.map_eq_some_iff] at h
          obtain ⟨w, hversion, hw⟩ := h
          obtain ⟨rfl, rfl⟩ := Prod.mk.inj hw
          exact ⟨⟨rule, List.mem_cons_self, hversion⟩, List.subset_cons_self _ _⟩

/-- A value is settled if it is no marker or no rule substitutes anything for a marker. -/
lemma settle_eq_self_iff :
    settle field rules v = v ↔ (v.isMarker → ∀ rule ∈ rules, rule.substitute? field = none) := by
  by_cases hv : v.isMarker
  · rw [settle, if_pos hv, ← List.findSome?_eq_none_iff]
    cases h : rules.findSome? (·.substitute? field) with
    | none => simp
    | some w =>
        obtain ⟨rule, -, hrule⟩ := List.exists_of_findSome?_eq_some h
        have hw := not_isMarker_of_substitute? hrule
        simp only [Option.getD_some, hv, forall_const, reduceCtorEq, iff_false]
        rintro rfl
        exact hw hv
  · simp [settle_of_not_isMarker hv, hv]

/-- **A field that ends as it has begun has been steady**, unless a version is stamped in it. -/
lemma steady_of_fieldAfter_eq (hsupplied : Supplied field rules cell)
    (hstamp : Unstamped field rules) (h : fieldAfter field rules cell = cell) :
    Steady field rules cell := by
  cases cell with
  | none => exact steady_none_iff.mpr h
  | some v =>
      rw [fieldAfter_eq_closedForm hsupplied, closedForm_of_unstamped hstamp] at h
      have hsettle : settle field rules v = v := by simpa using h
      refine steady_some_iff.mpr ⟨fun hfield rule hrule w hw => ?_, settle_eq_self_iff.mp hsettle⟩
      rw [lastStamp?_eq_none_iff.mp (hstamp hfield) rule hrule] at hw
      cases hw

/-! ### The report of a second run -/

/-- The pipeline has a stamp that records the version. -/
def Stamps (p : Pipeline) (version : Value) : Prop :=
  .stampSchema (some version) ∈ p.rules ∧ version ≠ .null

lemma stamps_iff : p.Stamps v ↔ ∃ rule ∈ p.rules, rule.version? = some v := by
  simp [Stamps, Rule.version?_eq_some_iff]

/-- All stamps record one version, and if it is the marker no rule puts anything else in its
place. -/
def StampsAgree (p : Pipeline) : Prop :=
  (∀ v w, p.Stamps v → p.Stamps w → v = w) ∧
    (p.Stamps (.text Value.marker) →
      ∀ w, .replaceNull Document.schemaField w ∈ p.rules → w = .text Value.marker)

/-- The schema field is steady under rules that have been applied if the stamps agree. -/
lemma steady_schemaField_iff (h : Applies p.rules d e) :
    Steady Document.schemaField p.rules (e.get? Document.schemaField) ↔ p.StampsAgree := by
  obtain ⟨hsupplied, hget⟩ := applies_iff.mp h.again Document.schemaField
  rcases unstamped_or_stamped Document.schemaField p.rules with hstamp | ⟨-, w, later, hlast⟩
  · have hnone : ∀ v, ¬ p.Stamps v := fun v hv => by
      obtain ⟨rule, hrule, hversion⟩ := stamps_iff.mp hv
      rw [lastStamp?_eq_none_iff.mp (hstamp rfl) rule hrule] at hversion
      cases hversion
    exact iff_of_true (steady_of_fieldAfter_eq hsupplied hstamp hget.symm)
      ⟨fun v _ hv => absurd hv (hnone v), fun hmarker => absurd hmarker (hnone _)⟩
  · obtain ⟨hw, hlater⟩ := mem_of_lastStamp? hlast
    have hw := stamps_iff.mpr hw
    rw [hget, fieldAfter_eq_closedForm hsupplied, closedForm_of_lastStamp? hlast, steady_some_iff]
    constructor
    · rintro ⟨hversions, hmarkers⟩
      have hstamps : ∀ u, p.Stamps u → u = settle Document.schemaField later w := fun u hu => by
        obtain ⟨rule, hrule, hversion⟩ := stamps_iff.mp hu
        exact hversions rfl rule hrule u hversion
      refine ⟨fun u x hu hx => (hstamps u hu).trans (hstamps x hx).symm, fun hmarker x hx => ?_⟩
      have hsettled := Value.isMarker_iff.mpr (hstamps _ hmarker).symm
      exact Value.isMarker_iff.mp
        (Rule.substitute?_eq_none_iff.mp (hmarkers hsettled _ hx) x rfl)
    · rintro ⟨hagree, hmarkers⟩
      have hidle : w.isMarker →
          ∀ rule ∈ p.rules, rule.substitute? Document.schemaField = none := by
        intro hmarker rule hrule
        obtain rfl := Value.isMarker_iff.mp hmarker
        rw [Rule.substitute?_eq_none_iff]
        rintro x rfl
        exact Value.isMarker_iff.mpr (hmarkers hw x hrule)
      rw [settle_eq_self_iff.mpr fun hmarker rule hrule => hidle hmarker rule (hlater hrule)]
      exact ⟨fun _ rule hrule u hu => hagree u w (stamps_iff.mpr ⟨rule, hrule, hu⟩) hw, hidle⟩

/-- A list without repetitions and with at most one member is empty or that member alone. -/
lemma eq_nil_or_eq_singleton (hnodup : changed.Nodup) (h : ∀ key ∈ changed, key = field) :
    changed = [] ∨ changed = [field] := by
  obtain ⟨n, rfl⟩ : ∃ n, changed = List.replicate n field := ⟨_, List.eq_replicate_of_mem h⟩
  have hn : n ≤ 1 := List.nodup_replicate.mp hnodup
  obtain rfl | rfl : n = 0 ∨ n = 1 := by omega
  · exact .inl rfl
  · exact .inr rfl

/-- **When a second run reports nothing**: if all stamps record one version and, should that be
the marker, no rule puts anything else in its place. Otherwise it reports the schema field and no
other, although it leaves the document as it is. -/
theorem report_of_apply_again (h : (p.apply d).missing? = none) :
    ∃ changed, (p.apply (p.apply d).document).result = .ok changed ∧
      (changed = [] ↔ p.StampsAgree) ∧ (changed ≠ [] → changed = [Document.schemaField]) := by
  have happlies := applies_of_missing?_eq_none h
  have hending := ending_eq_none_iff.mpr happlies.again
  obtain ⟨changed, hchanged⟩ := missing?_eq_none_iff.mp (congrArg Prod.snd hending)
  have hothers : ∀ field ∈ changed, field = Document.schemaField := by
    intro field hfield
    by_contra hne
    obtain ⟨hsupplied, hget⟩ := applies_iff.mp happlies.again field
    exact (mem_changed_iff hchanged field).mp hfield
      (steady_of_fieldAfter_eq hsupplied (fun heq => absurd heq hne) hget.symm)
  have hschema : Document.schemaField ∉ changed ↔ p.StampsAgree := by
    rw [mem_changed_iff hchanged, not_not, steady_schemaField_iff happlies]
  refine ⟨changed, hchanged, ?_, fun hne => ?_⟩
  · rw [← hschema]
    rcases eq_nil_or_eq_singleton (nodup_changed hchanged) hothers with rfl | rfl <;> simp
  · exact (eq_nil_or_eq_singleton (nodup_changed hchanged) hothers).resolve_left hne

/-- The stamps of `relabelling` disagree, so a second run reports the schema field. -/
theorem report_of_apply_again_relabelling :
    (relabelling.apply (.ofList [("printer", .null)])).missing? = none ∧
      ¬ relabelling.StampsAgree ∧
      (relabelling.apply (relabelling.apply (.ofList [("printer", .null)])).document).result =
        .ok ["schema"] := by
  have hsuccess : (relabelling.apply (.ofList [("printer", .null)])).missing? = none := by decide
  have hdisagree : ¬ relabelling.StampsAgree := fun hagree =>
    absurd (hagree.1 (.integer 1) (.text "null") ⟨by decide, nofun⟩ ⟨by decide, nofun⟩) nofun
  obtain ⟨changed, hresult, hempty, hschema⟩ := report_of_apply_again hsuccess
  rw [hschema fun hnone => hdisagree (hempty.mp hnone)] at hresult
  exact ⟨hsuccess, hdisagree, hresult⟩

end Pipeline

end FieldNorm
