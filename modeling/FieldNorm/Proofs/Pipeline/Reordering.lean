import FieldNorm.Proofs.Pipeline.Report

/-!
Rules with different targets do not meet.

* `Pipeline.aimedAt`: the rules of a list with a given target, in their order. They alone decide
  whether the field is supplied (`supplied_aimedAt`), what is left in it (`fieldAfter_aimedAt`)
  and whether it is steady (`steady_aimedAt`).
* `Pipeline.Reorders`: one pipeline has the rules of another in an order in which rules with the
  same target stay in sequence.
* `Pipeline.apply_reordered`: such pipelines succeed on the same documents, leave the same, and
  report the same fields up to their order.
-/

namespace FieldNorm.Pipeline

variable {p q : Pipeline} {rule : Rule} {rules rules' : List Rule} {d e : Document}
  {field : String} {cell : Option Value} {changed changed' : List String}

/-! ### The rules that are aimed at a field -/

/-- The rules that are aimed at `field`, in their order. -/
def aimedAt (field : String) (rules : List Rule) : List Rule :=
  rules.filter (·.target = field)

lemma aimedAt_cons_of_eq (h : rule.target = field) (rules : List Rule) :
    aimedAt field (rule :: rules) = rule :: aimedAt field rules :=
  List.filter_cons_of_pos (by simpa using h)

lemma aimedAt_cons_of_ne (h : rule.target ≠ field) (rules : List Rule) :
    aimedAt field (rule :: rules) = aimedAt field rules :=
  List.filter_cons_of_neg (by simpa using h)

/-- A field is supplied if it is so for the rules that are aimed at it. -/
lemma supplied_aimedAt :
    Supplied field (aimedAt field rules) cell ↔ Supplied field rules cell := by
  induction rules generalizing cell with
  | nil => rfl
  | cons rule rules ih =>
      by_cases h : rule.target = field
      · rw [aimedAt_cons_of_eq h, supplied_cons_iff, supplied_cons_iff, ih]
      · have hreplace : ∀ v, rule = .replaceNull field v → cell.isSome := by
          rintro v rfl
          exact absurd rfl h
        rw [aimedAt_cons_of_ne h, supplied_cons_iff, Rule.effect_of_target_ne h, ih]
        exact (and_iff_right hreplace).symm

/-- What is left in a field is made by the rules that are aimed at it. -/
lemma fieldAfter_aimedAt (field : String) (rules : List Rule) (cell : Option Value) :
    fieldAfter field (aimedAt field rules) cell = fieldAfter field rules cell := by
  induction rules generalizing cell with
  | nil => rfl
  | cons rule rules ih =>
      by_cases h : rule.target = field
      · rw [aimedAt_cons_of_eq h, fieldAfter_cons, fieldAfter_cons, ih]
      · rw [aimedAt_cons_of_ne h, fieldAfter_cons, Rule.effect_of_target_ne h, ih]

/-- Rules that are aimed elsewhere do not keep a field from being steady. -/
lemma steady_aimedAt : Steady field (aimedAt field rules) cell ↔ Steady field rules cell := by
  constructor
  · intro h rule hrule
    by_cases htarget : rule.target = field
    · exact h rule (List.mem_filter.mpr ⟨hrule, by simpa using htarget⟩)
    · exact Rule.effect_of_target_ne htarget cell
  · exact fun h rule hrule => h rule (List.mem_filter.mp hrule).1

/-! ### The same rules aimed at every field -/

/-- Rules turn documents into the same as others with the same rules aimed at every field. -/
lemma applies_congr (h : ∀ field, aimedAt field rules = aimedAt field rules') :
    Applies rules d e ↔ Applies rules' d e := by
  rw [applies_iff, applies_iff]
  refine forall_congr' fun field => ?_
  rw [← supplied_aimedAt, ← fieldAfter_aimedAt, h, supplied_aimedAt, fieldAfter_aimedAt]

lemma steady_congr (h : ∀ field, aimedAt field rules = aimedAt field rules')
    (field : String) (cell : Option Value) :
    Steady field rules cell ↔ Steady field rules' cell := by
  rw [← steady_aimedAt, h, steady_aimedAt]

/-! ### Pipelines in another order -/

/-- The rules of `q` are those of `p` in an order in which any two rules with the same target
follow each other as they do in `p`. -/
structure Reorders (q p : Pipeline) : Prop where
  perm : q.rules.Perm p.rules
  inSequence : ∀ field, aimedAt field q.rules = aimedAt field p.rules

/-- Only the fields at which some rule is aimed have to be looked at. -/
lemma reorders_iff :
    Reorders q p ↔ q.rules.Perm p.rules ∧
      ∀ rule ∈ p.rules, aimedAt rule.target q.rules = aimedAt rule.target p.rules := by
  constructor
  · exact fun h => ⟨h.perm, fun rule _ => h.inSequence rule.target⟩
  · rintro ⟨hperm, htargets⟩
    refine ⟨hperm, fun field => ?_⟩
    by_cases hfield : ∃ rule ∈ p.rules, rule.target = field
    · obtain ⟨rule, hrule, rfl⟩ := hfield
      exact htargets rule hrule
    · have hnone : aimedAt field p.rules = [] :=
        List.filter_eq_nil_iff.mpr fun rule hrule htarget =>
          hfield ⟨rule, hrule, by simpa using htarget⟩
      have hperm' : (aimedAt field q.rules).Perm (aimedAt field p.rules) := hperm.filter _
      rw [hnone] at hperm' ⊢
      exact hperm'.eq_nil

instance : Decidable (Reorders q p) := decidable_of_iff _ reorders_iff.symm

/-- **Rules on different fields are independent**: in another order, which keeps rules with the
same target in sequence, a pipeline succeeds on the same documents, leaves them the same and
reports the same fields, if in another order. -/
theorem apply_reordered (h : Reorders q p) (d : Document) :
    ((p.apply d).missing? = none ↔ (q.apply d).missing? = none) ∧
    ∀ changed, (p.apply d).result = .ok changed →
      ∃ changed', (q.apply d).result = .ok changed' ∧
        (q.apply d).document = (p.apply d).document ∧ changed'.Perm changed := by
  have hmissing : (p.apply d).missing? = none ↔ (q.apply d).missing? = none := by
    rw [missing?_eq_none_iff_applies, missing?_eq_none_iff_applies]
    exact exists_congr fun e => (applies_congr h.inSequence).symm
  refine ⟨hmissing, fun changed hchanged => ?_⟩
  have hp : (p.apply d).missing? = none := missing?_eq_none_iff.mpr ⟨changed, hchanged⟩
  obtain ⟨changed', hchanged'⟩ := missing?_eq_none_iff.mp (hmissing.mp hp)
  have happlies : Applies q.rules d (p.apply d).document :=
    (applies_congr h.inSequence).mpr (applies_of_missing?_eq_none hp)
  refine ⟨changed', hchanged', happlies.document_eq, ?_⟩
  -- neither report has a field twice, so it is enough that they have the same fields
  refine (List.perm_ext_iff_of_nodup (nodup_changed hchanged') (nodup_changed hchanged)).mpr
    fun field => ?_
  rw [mem_changed_iff hchanged', mem_changed_iff hchanged, steady_congr h.inSequence]

/-- The rules of `relabelling`, field by field, with those of the schema field at the end. -/
def regrouped : Pipeline where
  rules :=
    [.replaceNull "printer" (.text "lab-1"), .fillMissing "quota" (.text "null"),
      .replaceNull "quota" (.text "null"), .replaceNull "quota" (.bool true),
      .stampSchema (some (.integer 1)), .stampSchema (some (.text "null")),
      .replaceNull "schema" (.integer 3), .stampSchema (some .null)]

/-- The two reports differ in their order. -/
theorem apply_reordered_regrouped :
    Reorders regrouped relabelling ∧
    (relabelling.apply (.ofList [("printer", .text "null")])).result =
      .ok ["schema", "quota", "printer"] ∧
    ∃ changed', (regrouped.apply (.ofList [("printer", .text "null")])).result = .ok changed' ∧
      (regrouped.apply (.ofList [("printer", .text "null")])).document =
        (relabelling.apply (.ofList [("printer", .text "null")])).document ∧
      changed'.Perm ["schema", "quota", "printer"] := by
  have hreorders : Reorders regrouped relabelling := by decide
  have hresult : (relabelling.apply (.ofList [("printer", .text "null")])).result =
      .ok ["schema", "quota", "printer"] := by decide
  exact ⟨hreorders, hresult, (apply_reordered hreorders _).2 _ hresult⟩

end FieldNorm.Pipeline
