import FieldNorm.Proofs.Pipeline.ClosedForm

/-!
Running a pipeline once more.

* `Applies.again`: rules that have turned `d` into `e` apply to `e` and leave it as it is. So does
  a whole run that misses nothing (`apply_again`).
* `Applies.insert`: a field that is absent in the end has met no rule, so that it makes no
  difference what stands there. Hence a run that has stopped for want of a key can be taken up
  again from the document it has left: once the key is there, the run ends as it would have ended
  from the first document (`apply_retry`).
-/

namespace FieldNorm.Pipeline

variable {p : Pipeline} {rules : List Rule} {d e : Document} {field key : String}

/-! ### Rules that have been applied -/

/-- **Rules have nothing to change in what they leave.** -/
theorem Applies.again (h : Applies rules d e) : Applies rules e e := by
  refine applies_iff.mpr fun field => ?_
  obtain ⟨hsupplied, hget⟩ := applies_iff.mp h field
  have hsupplied' : Supplied field rules (e.get? field) := hsupplied.mono fun hd => by
    rw [hget, isSome_fieldAfter]
    exact .inl hd
  have hclosed : e.get? field = closedForm field rules (d.get? field) := by
    rw [hget, fieldAfter_eq_closedForm hsupplied]
  refine ⟨hsupplied', ?_⟩
  calc e.get? field
      = closedForm field rules (closedForm field rules (d.get? field)) := by
        rw [closedForm_closedForm, hclosed]
    _ = fieldAfter field rules (e.get? field) := by
        rw [fieldAfter_eq_closedForm hsupplied', hclosed]

/-- **A second run changes nothing**: it applies every rule and leaves the document as it is. -/
theorem apply_again (h : (p.apply d).missing? = none) :
    (p.apply (p.apply d).document).ending = ((p.apply d).document, none) :=
  ending_eq_none_iff.mpr (applies_of_missing?_eq_none h).again

theorem apply_again_relabelling :
    (relabelling.apply (.ofList [("printer", .text "null")])).missing? = none ∧
      (relabelling.apply
          (relabelling.apply (.ofList [("printer", .text "null")])).document).ending =
        ((relabelling.apply (.ofList [("printer", .text "null")])).document, none) :=
  ⟨by decide, apply_again (by decide)⟩

/-! ### Fields that are absent in the end -/

/-- Rules that leave a field absent do not touch it, whatever stands there. -/
lemma fieldAfter_of_absent (hsupplied : Supplied field rules none)
    (habsent : fieldAfter field rules none = none) (cell : Option Value) :
    fieldAfter field rules cell = cell := by
  induction rules with
  | nil => rfl
  | cons rule rules ih =>
      obtain ⟨hfirst, hothers⟩ := supplied_cons_iff.mp hsupplied
      rw [fieldAfter_cons] at habsent
      have hnone : rule.effect field none = none := by
        -- a field that the first rule added would still be there in the end
        by_contra hadded
        have hsome := (isSome_fieldAfter field rules _).mpr
          (.inl (Option.isSome_iff_ne_none.mpr hadded))
        rw [habsent] at hsome
        cases hsome
      rw [hnone] at hothers habsent
      have hreplace : ∀ v, rule ≠ .replaceNull field v := fun v hv => by cases hfirst v hv
      rw [fieldAfter_cons, Rule.effect_of_absent hreplace hnone, ih hothers habsent]

/-- A datum put into a field that is absent in the end stays there, and the rules do all else as
before. -/
theorem Applies.insert (h : Applies rules d e) (habsent : e.get? key = none) (v : Value) :
    Applies rules (d.insert key v) (e.insert key v) := by
  refine applies_iff.mpr fun field => ?_
  obtain ⟨hsupplied, hget⟩ := applies_iff.mp h field
  rw [FieldMap.get?_insert, FieldMap.get?_insert]
  by_cases hfield : field = key
  · rw [if_pos hfield, if_pos hfield]
    subst hfield
    rw [((h.get?_eq_none_iff field).mp habsent).1] at hsupplied hget
    exact ⟨hsupplied.mono fun _ => rfl,
      (fieldAfter_of_absent hsupplied (hget.symm.trans habsent) _).symm⟩
  · rw [if_neg hfield, if_neg hfield]
    exact ⟨hsupplied, hget⟩

/-- **A run can be taken up again**: if it has stopped for want of `key`, then with the key put
into what it has left it ends as it would have ended with the key there from the start. -/
theorem apply_retry (h : (p.apply d).missing? = some key) (v : Value) :
    (p.apply ((p.apply d).document.insert key v)).ending = (p.apply (d.insert key v)).ending := by
  have hending : (p.apply d).ending = ((p.apply d).document, some key) := by rw [Run.ending, h]
  obtain ⟨i, w, -, happlies, habsent⟩ := ending_eq_some_iff.mp hending
  have hinsert := happlies.insert habsent v
  -- the rules that had been applied before the stop have nothing to do the second time
  calc (p.apply ((p.apply d).document.insert key v)).ending
      = (applyRules ((p.apply d).document.insert key v) [] (p.rules.drop i)).ending :=
        ending_of_applies_take hinsert.again
    _ = (p.apply (d.insert key v)).ending := (ending_of_applies_take hinsert).symm

theorem apply_retry_relabelling :
    (relabelling.apply .empty).missing? = some "printer" ∧
      (relabelling.apply ((relabelling.apply .empty).document.insert "printer" .null)).ending =
        (relabelling.apply (FieldMap.empty.insert "printer" .null)).ending :=
  ⟨by decide, apply_retry (by decide) .null⟩

end FieldNorm.Pipeline
