import FieldNorm.Proofs.Pipeline.Ending

/-!
A list of rules, one field at a time. Whether the rules apply and what they leave is settled for
each field by itself, from the datum that stands there first.

* `Pipeline.fieldAfter`: what the rules make of the datum of a field; `isSome_fieldAfter` says when
  the field is there in the end.
* `Pipeline.Supplied`: every replacement in a field finds it there, at first or added by an earlier
  rule. The condition looks at the list only and runs nothing.
* `Pipeline.applies_iff`: rules turn `d` into `e` exactly if every field is supplied and `e` holds
  in it what the rules make of it.
-/

namespace FieldNorm.Pipeline

variable {field : String} {rule : Rule} {rules : List Rule} {cell cell' : Option Value}
  {d e : Document}

/-! ### The datum of a field -/

/-- What the rules make of the datum of `field`, one after the other. -/
def fieldAfter (field : String) (rules : List Rule) (cell : Option Value) : Option Value :=
  rules.foldl (fun cell rule => rule.effect field cell) cell

@[simp] lemma fieldAfter_nil (field : String) (cell : Option Value) :
    fieldAfter field [] cell = cell :=
  rfl

@[simp] lemma fieldAfter_cons (field : String) (rule : Rule) (rules : List Rule)
    (cell : Option Value) :
    fieldAfter field (rule :: rules) cell = fieldAfter field rules (rule.effect field cell) :=
  rfl

/-- A field is there in the end if it was there at first or some rule adds it. -/
lemma isSome_fieldAfter (field : String) (rules : List Rule) (cell : Option Value) :
    (fieldAfter field rules cell).isSome ↔ cell.isSome ∨ ∃ rule ∈ rules, rule.Adds field := by
  induction rules generalizing cell with
  | nil => simp
  | cons rule rules ih =>
      rw [fieldAfter_cons, ih, Rule.isSome_effect]
      simp [or_assoc]

/-- A field that no rule aims at keeps its datum. -/
lemma fieldAfter_of_target_ne (h : ∀ rule ∈ rules, rule.target ≠ field)
    (cell : Option Value) : fieldAfter field rules cell = cell := by
  induction rules with
  | nil => rfl
  | cons rule rules ih =>
      rw [List.forall_mem_cons] at h
      rw [fieldAfter_cons, Rule.effect_of_target_ne h.1, ih h.2]

/-! ### Supplied fields -/

/-- Every replacement in `field` finds the field there: `cell` is there at first, or a rule before
the replacement adds the field. -/
def Supplied (field : String) (rules : List Rule) (cell : Option Value) : Prop :=
  ∀ i v, rules[i]? = some (.replaceNull field v) →
    cell.isSome ∨ ∃ rule ∈ rules.take i, rule.Adds field

lemma supplied_nil (field : String) (cell : Option Value) : Supplied field [] cell := by
  simp [Supplied]

/-- The first rule finds its field, and the others are supplied from what it leaves. -/
lemma supplied_cons_iff :
    Supplied field (rule :: rules) cell ↔
      (∀ v, rule = .replaceNull field v → cell.isSome) ∧
        Supplied field rules (rule.effect field cell) := by
  constructor
  · intro h
    refine ⟨fun v hv => ?_, fun i v hi => ?_⟩
    · simpa using h 0 v (by simp [hv])
    · rw [Rule.isSome_effect]
      simpa [or_assoc] using h (i + 1) v (by simpa using hi)
  · rintro ⟨hfirst, hothers⟩ i v hi
    cases i with
    | zero => exact .inl (hfirst v (by simpa using hi))
    | succ i =>
        have h := hothers i v (by simpa using hi)
        rw [Rule.isSome_effect] at h
        simpa [or_assoc] using h

/-- What supplies an absent field supplies a present one. -/
lemma Supplied.mono (h : Supplied field rules cell) (hcell : cell.isSome → cell'.isSome) :
    Supplied field rules cell' :=
  fun i v hi => (h i v hi).imp_left hcell

/-! ### Rules apply field by field -/

/-- The rules apply if and only if they find every field supplied. -/
lemma exists_applies_iff :
    (∃ e, Applies rules d e) ↔ ∀ field, Supplied field rules (d.get? field) := by
  induction rules generalizing d with
  | nil => exact iff_of_true ⟨d, .nil d⟩ fun field => supplied_nil field _
  | cons rule rules ih =>
      simp only [supplied_cons_iff, forall_and]
      constructor
      · rintro ⟨e, happlies⟩
        obtain ⟨after, hturns, hrules⟩ := applies_cons_iff.mp happlies
        refine ⟨Rule.exists_turns_iff.mp ⟨after, hturns⟩, fun field => ?_⟩
        rw [← hturns.get?_eq]
        exact ih.mp ⟨e, hrules⟩ field
      · rintro ⟨hfirst, hothers⟩
        obtain ⟨after, hturns⟩ := Rule.exists_turns_iff.mpr hfirst
        obtain ⟨e, hrules⟩ := ih.mpr fun field => by
          rw [hturns.get?_eq]
          exact hothers field
        exact ⟨e, .cons hturns hrules⟩

/-- Rules that apply leave in a field what they make of its datum. -/
lemma Applies.get?_eq (h : Applies rules d e) (field : String) :
    e.get? field = fieldAfter field rules (d.get? field) := by
  induction h with
  | nil d => rfl
  | cons hturns _ ih => rw [ih, hturns.get?_eq, fieldAfter_cons]

/-- **Rules apply field by field**: they turn `d` into `e` exactly if every field is supplied and
`e` holds in it what they make of its datum. -/
theorem applies_iff :
    Applies rules d e ↔ ∀ field, Supplied field rules (d.get? field) ∧
      e.get? field = fieldAfter field rules (d.get? field) := by
  constructor
  · exact fun h field => ⟨exists_applies_iff.mp ⟨e, h⟩ field, h.get?_eq field⟩
  · intro h
    obtain ⟨e', happlies⟩ := exists_applies_iff.mpr fun field => (h field).1
    have he : e' = e := FieldMap.ext_get? fun field => by
      rw [happlies.get?_eq, (h field).2]
    exact he ▸ happlies

/-- Behind rules that apply the keys are those from before and those that the rules add. -/
lemma Applies.contains_iff (h : Applies rules d e) (key : String) :
    e.contains key ↔ d.contains key ∨ ∃ rule ∈ rules, rule.Adds key := by
  rw [FieldMap.contains, FieldMap.contains, h.get?_eq, isSome_fieldAfter]

/-- A field is absent behind rules that apply if it was absent before and no rule adds it. -/
lemma Applies.get?_eq_none_iff (h : Applies rules d e) (key : String) :
    e.get? key = none ↔ d.get? key = none ∧ ∀ rule ∈ rules, ¬ rule.Adds key := by
  rw [← Option.not_isSome_iff_eq_none, ← Option.not_isSome_iff_eq_none, h.get?_eq,
    isSome_fieldAfter]
  simp

end FieldNorm.Pipeline
