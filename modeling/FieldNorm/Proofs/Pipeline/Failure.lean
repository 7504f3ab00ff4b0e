import FieldNorm.Proofs.Pipeline.Fieldwise

/-!
When a run fails, where, and what it leaves.

A rule finds its field (`Pipeline.FindsField`) if it is no replacement, or the document has the
field, or an earlier rule adds it. This is a condition on the list of the rules and on the keys of
the document. `apply_stops_at_first_unfound` says that it decides everything: a run succeeds
exactly if every rule finds its field, and otherwise it stops at the first rule that does not.
-/

namespace FieldNorm.Pipeline

variable {p : Pipeline} {d : Document} {i : Nat}

/-- The rule at place `i` finds the field it is to read: it is no replacement, or the document has
the field, or a rule before place `i` adds it. -/
def FindsField (p : Pipeline) (d : Document) (i : Nat) : Prop :=
  ∀ field v, p.rules[i]? = some (.replaceNull field v) →
    d.contains field ∨ ∃ rule ∈ p.rules.take i, rule.Adds field

/-- The pipeline of the rules before place `i`. -/
def before (p : Pipeline) (i : Nat) : Pipeline := ⟨p.rules.take i⟩

/-- A rule before place `i` finds its field in the shorter pipeline too. -/
lemma findsField_before (h : ∀ j < i, p.FindsField d j) (j : Nat) :
    (p.before i).FindsField d j := by
  intro field v hj
  obtain ⟨hij, hj⟩ : j < i ∧ p.rules[j]? = some (.replaceNull field v) := by
    simpa [before, List.getElem?_take] using hj
  simpa [before, List.take_take, Nat.min_eq_left (Nat.le_of_lt hij)] using h j hij field v hj

/-- The rules apply if and only if each of them finds its field. -/
lemma exists_applies_iff_findsField :
    (∃ e, Applies p.rules d e) ↔ ∀ i, p.FindsField d i := by
  rw [exists_applies_iff]
  exact ⟨fun h i field v hi => h field i v hi, fun h field i v hi => h i field v hi⟩

/-- What the rules before place `i` turn a document into, if they find their fields and the rule
there does not. -/
lemma exists_applies_before (hunfound : ¬ p.FindsField d i)
    (hfound : ∀ j < i, p.FindsField d j) :
    ∃ field v e, p.rules[i]? = some (.replaceNull field v) ∧ Applies (p.rules.take i) d e ∧
      e.get? field = none := by
  simp only [FindsField, not_forall, not_or] at hunfound
  obtain ⟨field, v, hi, hd, hrules⟩ := hunfound
  obtain ⟨e, happlies⟩ := exists_applies_iff_findsField.mpr (findsField_before hfound)
  refine ⟨field, v, e, hi, happlies, (happlies.get?_eq_none_iff field).mpr ⟨?_, ?_⟩⟩
  · rwa [FieldMap.contains, Option.not_isSome_iff_eq_none] at hd
  · exact fun rule hrule hadds => hrules ⟨rule, hrule, hadds⟩

/-- **A run stops at the first rule that does not find its field.**

* It succeeds if and only if there is no such rule.
* Otherwise it misses the field of the first such rule and leaves what the rules before that one
  leave: the field is still absent, no key is gone, and a field that none of these rules is aimed
  at holds what it has held.
* If it succeeds, the keys are those from before and those that some rule adds. -/
theorem apply_stops_at_first_unfound (p : Pipeline) (d : Document) :
    ((p.apply d).missing? = none ↔ ∀ i, p.FindsField d i) ∧
    (∀ i, ¬ p.FindsField d i → (∀ j < i, p.FindsField d j) →
      ∃ field v, p.rules[i]? = some (.replaceNull field v) ∧
        (p.apply d).missing? = some field ∧
        ((p.before i).apply d).ending = ((p.apply d).document, none) ∧
        (p.apply d).document.get? field = none ∧
        (∀ key, d.contains key → (p.apply d).document.contains key) ∧
        ∀ key, (∀ rule ∈ p.rules.take i, rule.target ≠ key) →
          (p.apply d).document.get? key = d.get? key) ∧
    ((p.apply d).missing? = none → ∀ key, (p.apply d).document.contains key ↔
      d.contains key ∨ ∃ rule ∈ p.rules, rule.Adds key) := by
  refine ⟨?_, ?_, fun h => (applies_of_missing?_eq_none h).contains_iff⟩
  · rw [← exists_applies_iff_findsField]
    constructor
    · exact fun h => ⟨_, applies_of_missing?_eq_none h⟩
    · rintro ⟨e, happlies⟩
      exact congrArg Prod.snd (ending_eq_none_iff.mpr happlies)
  · intro i hunfound hfound
    obtain ⟨field, v, e, hi, happlies, habsent⟩ := exists_applies_before hunfound hfound
    have hending := ending_eq_some_iff.mpr ⟨i, v, hi, happlies, habsent⟩
    obtain rfl : (p.apply d).document = e := congrArg Prod.fst hending
    refine ⟨field, v, hi, congrArg Prod.snd hending, ending_eq_none_iff.mpr happlies, habsent,
      fun key hkey => (happlies.contains_iff key).mpr (.inl hkey), fun key hkey => ?_⟩
    rw [happlies.get?_eq, fieldAfter_of_target_ne hkey]

end FieldNorm.Pipeline
