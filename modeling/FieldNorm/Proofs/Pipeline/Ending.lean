import FieldNorm.Pipeline.Basic
import FieldNorm.Proofs.Rule.Effect

/-!
How a run of a pipeline ends, its report aside: with the document it leaves and the key it misses,
if any.

* `Run.ending`: the document a run leaves, with the key for want of which it has ended.
* `Pipeline.Applies`: the rules apply one after the other and turn one document into another.
* `Pipeline.ending_eq_none_iff`, `Pipeline.ending_eq_some_iff`: a run leaves `e` and misses nothing
  exactly if its rules turn `d` into `e`; it leaves `e` and misses `key` exactly if the rules before
  some replacement in `key` turn `d` into `e`, which has no such field. Later proofs speak of
  `Applies` only and do not look into the loop.
-/

namespace FieldNorm

namespace Run

/-- The key for want of which the run has ended; none if every rule has been applied. -/
def missing? (run : Run) : Option String :=
  match run.result with
  | .ok _ => none
  | .error e => some e.key

/-- How the run ends: with the document it leaves and the key it misses. -/
def ending (run : Run) : Document × Option String := (run.document, run.missing?)

end Run

namespace Pipeline

variable {p : Pipeline} {rule : Rule} {rules : List Rule} {d after m e : Document}

/-! ### Rules that apply one after the other -/

/-- All the rules apply, one after the other, and turn `d` into `e`. -/
inductive Applies : List Rule → Document → Document → Prop
  | nil (d : Document) : Applies [] d d
  | cons {rule : Rule} {rules : List Rule} {d after e : Document} :
      rule.Turns d after → Applies rules after e → Applies (rule :: rules) d e

lemma applies_nil_iff : Applies [] d e ↔ d = e :=
  ⟨fun h => by cases h; rfl, fun h => h ▸ .nil d⟩

lemma applies_cons_iff :
    Applies (rule :: rules) d e ↔ ∃ after, rule.Turns d after ∧ Applies rules after e := by
  constructor
  · rintro ⟨⟩
    rename_i after hturns happlies
    exact ⟨after, hturns, happlies⟩
  · rintro ⟨after, hturns, happlies⟩
    exact .cons hturns happlies

/-! ### The ending of a run -/

/-- The closing report of a run is no part of its ending. -/
lemma ending_apply (p : Pipeline) (d : Document) :
    (p.apply d).ending = (applyRules d [] p.rules).ending := by
  rw [apply]
  split
  · rfl
  · rename_i changed h
    simp [Run.ending, Run.missing?, h]

lemma ending_applyRules_nil (d : Document) (changed : List String) :
    (applyRules d changed []).ending = (d, none) :=
  rfl

/-- What has changed before is no part of the ending either. -/
lemma ending_applyRules_congr (rules : List Rule) (d : Document) (changed changed' : List String) :
    (applyRules d changed rules).ending = (applyRules d changed' rules).ending := by
  induction rules generalizing d changed changed' with
  | nil => rfl
  | cons rule rules ih =>
      rw [applyRules, applyRules]
      cases rule.apply d with
      | error e => rfl
      | ok result => exact ih _ _ _

lemma ending_applyRules_of_error {missing : KeyMissing} (h : rule.apply d = .error missing)
    (changed : List String) (rules : List Rule) :
    (applyRules d changed (rule :: rules)).ending = (d, some missing.key) := by
  rw [applyRules, h]
  rfl

lemma ending_applyRules_of_turns (h : rule.Turns d after) (changed : List String)
    (rules : List Rule) :
    (applyRules d changed (rule :: rules)).ending = (applyRules after changed rules).ending := by
  obtain ⟨events, h⟩ := h
  rw [applyRules, h]
  exact ending_applyRules_congr rules after _ _

/-- Rules that apply hand over to the rules behind them. -/
lemma Applies.ending_append (h : Applies rules d m) (changed : List String)
    (later : List Rule) :
    (applyRules d changed (rules ++ later)).ending = (applyRules m changed later).ending := by
  induction h with
  | nil d => rfl
  | cons hturns _ ih => rw [List.cons_append, ending_applyRules_of_turns hturns, ih]

/-- A run that misses nothing has applied every rule. -/
lemma ending_applyRules_eq_none_iff {changed : List String} :
    (applyRules d changed rules).ending = (e, none) ↔ Applies rules d e := by
  induction rules generalizing d changed with
  | nil => simp [ending_applyRules_nil, applies_nil_iff]
  | cons rule rules ih =>
      cases h : rule.apply d with
      | error missing =>
          rw [ending_applyRules_of_error h, applies_cons_iff]
          simp [Rule.Turns, h]
      | ok result =>
          have hturns : rule.Turns d result.1 := ⟨result.2, h⟩
          rw [ending_applyRules_of_turns hturns, ih, applies_cons_iff]
          constructor
          · exact fun happlies => ⟨_, hturns, happlies⟩
          · rintro ⟨after, hturns', happlies⟩
            rwa [hturns.unique hturns']

/-- A run that misses a key has come to a replacement in that field, which is absent. -/
lemma ending_applyRules_eq_some_iff {changed : List String} {key : String} :
    (applyRules d changed rules).ending = (e, some key) ↔
      ∃ i v, rules[i]? = some (.replaceNull key v) ∧ Applies (rules.take i) d e ∧
        e.get? key = none := by
  induction rules generalizing d changed with
  | nil => simp [ending_applyRules_nil]
  | cons rule rules ih =>
      cases h : rule.apply d with
      | error missing =>
          rw [ending_applyRules_of_error h]
          obtain ⟨⟨v, hv⟩, habsent⟩ := Rule.apply_eq_error_iff.mp h
          constructor
          · intro heq
            obtain ⟨rfl, hkey⟩ := Prod.mk.inj heq
            obtain rfl := Option.some.inj hkey
            exact ⟨0, v, by simp [hv], applies_nil_iff.mpr rfl, habsent⟩
          · rintro ⟨i, w, hi, happlies, -⟩
            cases i with
            | zero =>
                obtain rfl := applies_nil_iff.mp happlies
                simp_all
            | succ i =>
                -- the rule at the head would have to apply, but it fails
                obtain ⟨after, ⟨events, hok⟩, -⟩ := applies_cons_iff.mp happlies
                rw [h] at hok
                cases hok
      | ok result =>
          have hturns : rule.Turns d result.1 := ⟨result.2, h⟩
          rw [ending_applyRules_of_turns hturns, ih]
          constructor
          · rintro ⟨i, v, hi, happlies, habsent⟩
            exact ⟨i + 1, v, hi, .cons hturns happlies, habsent⟩
          · rintro ⟨i, v, hi, happlies, habsent⟩
            cases i with
            | zero =>
                -- a replacement in an absent field would have failed
                obtain rfl := applies_nil_iff.mp happlies
                obtain rfl : rule = .replaceNull key v := by simpa using hi
                simpa [habsent] using Rule.exists_turns_iff.mp ⟨_, hturns⟩ key v rfl
            | succ i =>
                obtain ⟨after, hturns', happlies⟩ := applies_cons_iff.mp happlies
                rw [← hturns.unique hturns'] at happlies
                exact ⟨i, v, hi, happlies, habsent⟩

/-- **Success**: a run leaves `e` and misses nothing exactly if its rules turn `d` into `e`. -/
theorem ending_eq_none_iff : (p.apply d).ending = (e, none) ↔ Applies p.rules d e := by
  rw [ending_apply, ending_applyRules_eq_none_iff]

/-- **Failure**: a run leaves `e` and misses `key` exactly if it comes to a replacement in `key`,
and the rules before that one turn `d` into `e`, where the field is absent. -/
theorem ending_eq_some_iff {key : String} :
    (p.apply d).ending = (e, some key) ↔
      ∃ i v, p.rules[i]? = some (.replaceNull key v) ∧ Applies (p.rules.take i) d e ∧
        e.get? key = none := by
  rw [ending_apply, ending_applyRules_eq_some_iff]

/-- A run that misses nothing leaves what its rules make of the document. -/
lemma applies_of_missing?_eq_none (h : (p.apply d).missing? = none) :
    Applies p.rules d (p.apply d).document :=
  ending_eq_none_iff.mp (by rw [Run.ending, h])

/-- A run misses nothing if its rules apply. -/
lemma missing?_eq_none_iff_applies : (p.apply d).missing? = none ↔ ∃ e, Applies p.rules d e := by
  constructor
  · exact fun h => ⟨_, applies_of_missing?_eq_none h⟩
  · rintro ⟨e, happlies⟩
    exact congrArg Prod.snd (ending_eq_none_iff.mpr happlies)

/-- A run leaves the document into which its rules turn the first one. -/
lemma Applies.document_eq (h : Applies p.rules d e) : (p.apply d).document = e :=
  congrArg Prod.fst (ending_eq_none_iff.mpr h)

/-- A run goes on from what its first rules leave if these apply. -/
lemma ending_of_applies_take {i : Nat} (h : Applies (p.rules.take i) d m) :
    (p.apply d).ending = (applyRules m [] (p.rules.drop i)).ending := by
  rw [ending_apply, ← h.ending_append, List.take_append_drop]

end Pipeline

end FieldNorm
