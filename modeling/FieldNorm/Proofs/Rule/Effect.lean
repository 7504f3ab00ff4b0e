import FieldNorm.Rule.Basic
import Mathlib.Tactic.Common

/-!
What a rule does, one field at a time. A document is known by its look-ups, so a rule is known by
what it makes of the datum of each field, where absence counts as a datum.

* `Rule.effect`: what a rule makes of the datum of a field. It is total, and every field but the
  target keeps its datum (`Rule.effect_of_target_ne`).
* `Rule.exists_turns_iff`, `Rule.Turns.get?_eq`: a rule applies unless it is a replacement in an
  absent field, and a rule that applies has its effect on every field. Later proofs use these two
  in place of the definition of `Rule.apply`.
* `Rule.Adds`: the rules behind which a field is there, however it was before; `Rule.isSome_effect`
  says that no other rule adds a field and that none removes one.
-/

namespace FieldNorm

/-! ### The marker and null -/

namespace Value

lemma isMarker_iff {v : Value} : v.isMarker ↔ v = .text marker := by
  cases v <;> simp [isMarker]

/-- What becomes of a value in a field whose marker is replaced by `substitute`. -/
def replaceMarker (substitute v : Value) : Value := if v.isMarker then substitute else v

end Value

/-! ### The three patches, field by field -/

namespace Document

/-- A replacement fails exactly if its field is absent. -/
lemma replaceNull_eq_error_iff {d : Document} {key : String} {value : Value} {e : KeyMissing} :
    d.replaceNull key value = .error e ↔ e.key = key ∧ d.get? key = none := by
  obtain ⟨missing⟩ := e
  rw [replaceNull]
  cases h : d.get? key with
  | none => simp [eq_comm]
  | some current =>
      simp only [reduceCtorEq, and_false, iff_false]
      split <;> simp

/-- A replacement that does not fail replaces the marker in its field. -/
lemma get?_of_replaceNull {d after : Document} {key : String} {value : Value}
    {events : List Log.Event} (h : d.replaceNull key value = .ok (after, events))
    (field : String) :
    after.get? field =
      if key = field then (d.get? field).map value.replaceMarker else d.get? field := by
  rw [replaceNull] at h
  cases hd : d.get? key with
  | none => simp [hd] at h
  | some current =>
      by_cases hm : current.isMarker
      · simp only [hd, hm, if_true, Except.ok.injEq, Prod.mk.injEq] at h
        rw [← h.1, FieldMap.get?_insert]
        grind [Value.replaceMarker]
      · simp only [hd, hm, Bool.false_eq_true, if_false, Except.ok.injEq, Prod.mk.injEq] at h
        rw [← h.1]
        grind [Value.replaceMarker]

/-- A field that is filled keeps its datum if it has one. -/
lemma get?_fillMissing (d : Document) (key : String) (value : Value) (field : String) :
    (d.fillMissing key value).1.get? field =
      if key = field then (d.get? field).or (some value) else d.get? field := by
  rw [fillMissing, FieldMap.contains]
  cases h : d.get? key with
  | none => grind [FieldMap.get?_insert]
  | some current => grind

/-- The version that is recorded for a stamp: null is none. -/
def recorded : (version : Option Value) → Option Value
  | none | some .null => none
  | some version => some version

/-- A version that is recorded takes the place of whatever the schema field has held. -/
lemma get?_stampSchema (d : Document) (version : Option Value) (field : String) :
    (d.stampSchema version).1.get? field =
      if schemaField = field then (recorded version).or (d.get? field) else d.get? field := by
  rw [stampSchema.eq_def, recorded.eq_def]
  split
  · simp
  · simp
  · rw [FieldMap.get?_insert]
    simp [eq_comm]

end Document

namespace Rule

/-! ### The effect of a rule on a field -/

/-- What stands in the target behind the rule, if `cell` stands there before it. -/
def written (cell : Option Value) : Rule → Option Value
  | .replaceNull _ value => cell.map value.replaceMarker
  | .fillMissing _ value => cell.or (some value)
  | .stampSchema version => (Document.recorded version).or cell

/-- What the rule makes of the datum of `field`. -/
def effect (rule : Rule) (field : String) (cell : Option Value) : Option Value :=
  if rule.target = field then rule.written cell else cell

/-- A rule leaves every field but its target alone. -/
lemma effect_of_target_ne {rule : Rule} {field : String} (h : rule.target ≠ field)
    (cell : Option Value) : rule.effect field cell = cell :=
  if_neg h

lemma effect_of_target_eq {rule : Rule} {field : String} (h : rule.target = field)
    (cell : Option Value) : rule.effect field cell = rule.written cell :=
  if_pos h

/-- A rule that leaves a field absent, and is no replacement in it, never touches it. -/
lemma effect_of_absent {rule : Rule} {field : String}
    (hreplace : ∀ v, rule ≠ .replaceNull field v) (habsent : rule.effect field none = none)
    (cell : Option Value) : rule.effect field cell = cell := by
  by_cases h : rule.target = field
  · rw [effect_of_target_eq h] at habsent ⊢
    cases rule with
    | replaceNull key v =>
        obtain rfl : key = field := h
        exact absurd rfl (hreplace v)
    | fillMissing key v => cases habsent
    | stampSchema version =>
        rw [written, Option.or_none] at habsent
        rw [written, habsent, Option.none_or]
  · exact effect_of_target_ne h cell

/-- Only a replacement can fail, and it does if its field is absent. -/
lemma apply_eq_error_iff {rule : Rule} {d : Document} {e : KeyMissing} :
    rule.apply d = .error e ↔ (∃ v, rule = .replaceNull e.key v) ∧ d.get? e.key = none := by
  cases rule with
  | replaceNull key v => grind [apply, Document.replaceNull_eq_error_iff]
  | fillMissing key v => simp [apply]
  | stampSchema version => simp [apply]

/-- The rule applies to `d` and turns it into `after`. -/
def Turns (rule : Rule) (d after : Document) : Prop :=
  ∃ events, rule.apply d = .ok (after, events)

/-- A rule that applies has its effect on every field. -/
lemma Turns.get?_eq {rule : Rule} {d after : Document} (h : rule.Turns d after)
    (field : String) : after.get? field = rule.effect field (d.get? field) := by
  obtain ⟨events, h⟩ := h
  cases rule with
  | replaceNull key v => exact Document.get?_of_replaceNull h field
  | fillMissing key v =>
      obtain rfl : (d.fillMissing key v).1 = after := congrArg Prod.fst (Except.ok.inj h)
      exact Document.get?_fillMissing d key v field
  | stampSchema version =>
      obtain rfl : (d.stampSchema version).1 = after := congrArg Prod.fst (Except.ok.inj h)
      exact Document.get?_stampSchema d version field

/-- A rule turns a document into one document only. -/
lemma Turns.unique {rule : Rule} {d after other : Document} (h : rule.Turns d after)
    (h' : rule.Turns d other) : after = other :=
  FieldMap.ext_get? fun field => by rw [h.get?_eq, h'.get?_eq]

/-- A rule applies unless it is a replacement in an absent field. -/
lemma exists_turns_iff {rule : Rule} {d : Document} :
    (∃ after, rule.Turns d after) ↔
      ∀ key v, rule = .replaceNull key v → (d.get? key).isSome := by
  cases h : rule.apply d with
  | error e =>
      obtain ⟨⟨v, hv⟩, habsent⟩ := apply_eq_error_iff.mp h
      simp only [Turns, h, reduceCtorEq, exists_const, false_iff, not_forall]
      exact ⟨e.key, v, hv, by simp [habsent]⟩
  | ok result =>
      refine iff_of_true ⟨result.1, result.2, h⟩ ?_
      rintro key v rfl
      rw [Option.isSome_iff_ne_none]
      intro habsent
      rw [apply_eq_error_iff.mpr ⟨⟨v, rfl⟩, habsent⟩] at h
      cases h

/-! ### The rules that add a field -/

/-- The rule has `field` be there, however it was before: it fills the field, or it stamps a
version other than null and `field` is the schema field. -/
inductive Adds : Rule → String → Prop
  | fill (field : String) (v : Value) : Adds (.fillMissing field v) field
  | stamp {v : Value} (h : v ≠ .null) : Adds (.stampSchema (some v)) Document.schemaField

@[simp] lemma not_adds_replaceNull (key : String) (v : Value) (field : String) :
    ¬ (replaceNull key v).Adds field :=
  nofun

@[simp] lemma adds_fillMissing_iff {key field : String} {v : Value} :
    (fillMissing key v).Adds field ↔ key = field :=
  ⟨fun h => by cases h; rfl, fun h => h ▸ .fill key v⟩

@[simp] lemma adds_stampSchema_iff {version : Option Value} {field : String} :
    (stampSchema version).Adds field ↔
      Document.schemaField = field ∧ (Document.recorded version).isSome := by
  constructor
  · rintro ⟨⟩
    rename_i v hv
    exact ⟨rfl, by grind [Document.recorded]⟩
  · rintro ⟨rfl, h⟩
    rw [Document.recorded.eq_def] at h
    split at h
    · cases h
    · cases h
    · rename_i v hv
      exact .stamp hv

/-- Behind a rule a field is there if it was there before or the rule adds it. -/
lemma isSome_effect (rule : Rule) (field : String) (cell : Option Value) :
    (rule.effect field cell).isSome ↔ cell.isSome ∨ rule.Adds field := by
  by_cases h : rule.target = field
  · rw [effect_of_target_eq h]
    cases rule with
    | replaceNull key v => simp [written]
    | fillMissing key v =>
        have hkey : key = field := h
        simp [written, hkey]
    | stampSchema version =>
        have hkey : Document.schemaField = field := h
        simp [written, hkey, or_comm]
  · rw [effect_of_target_ne h]
    cases rule with
    | replaceNull key v => simp
    | fillMissing key v => simp [show key ≠ field from h]
    | stampSchema version => simp [show Document.schemaField ≠ field from h]

end Rule

end FieldNorm
