import FieldNorm.Proofs.Pipeline.Fieldwise

/-!
What a run leaves in a field, without running anything.

The value of a field comes from one place, and after that it can only be a marker that is
replaced. For the schema field the place is the last stamp that records a version. For any other
field, and for the schema field when nothing is stamped, it is what the document holds, or else
the first value that fills the field. `Pipeline.closedForm` says this of a list of rules, and
`fieldAfter_eq_closedForm` proves that it is what the rules leave one after the other if the field
is supplied. `closedForm_closedForm`: the rules have nothing to change in what they leave.
-/

namespace FieldNorm

namespace Rule

/-- The value with which the rule fills `field`. -/
def filling? (field : String) : Rule → Option Value
  | .fillMissing key v => if key = field then some v else none
  | _ => none

/-- The value other than the marker by which the rule replaces a marker in `field`. -/
def substitute? (field : String) : Rule → Option Value
  | .replaceNull key v => if key = field ∧ ¬ v.isMarker then some v else none
  | _ => none

/-- The version that the rule records, if it is a stamp with a version other than null. -/
def version? : Rule → Option Value
  | .stampSchema version => Document.recorded version
  | _ => none

end Rule

namespace Pipeline

variable {field : String} {rule : Rule} {rules later : List Rule} {cell : Option Value}
  {v : Value}

/-! ### The closed form -/

/-- The version that the last effective stamp records, with the rules behind that stamp. -/
def lastStamp? : List Rule → Option (Value × List Rule)
  | [] => none
  | rule :: rules => (lastStamp? rules).or (rule.version?.map fun v => (v, rules))

/-- The value that a field comes to hold, with the rules that may replace it if it is a marker. -/
def origin? (field : String) (rules : List Rule) (cell : Option Value) :
    Option (Value × List Rule) :=
  (if field = Document.schemaField then lastStamp? rules else none).or
    ((cell.or (rules.findSome? (·.filling? field))).map fun v => (v, rules))

/-- What becomes of `v` under `later` rules: a marker gives way to the first other value. -/
def settle (field : String) (later : List Rule) (v : Value) : Value :=
  if v.isMarker then (later.findSome? (·.substitute? field)).getD v else v

/-- What the rules leave in a field in which `cell` stands at first. -/
def closedForm (field : String) (rules : List Rule) (cell : Option Value) : Option Value :=
  (origin? field rules cell).map fun (v, later) => settle field later v

/-! ### Settled values -/

lemma settle_of_not_isMarker (h : ¬ v.isMarker) (field : String) (later : List Rule) :
    settle field later v = v :=
  if_neg h

/-- A rule that substitutes nothing has no part in what becomes of a value. -/
lemma settle_cons_of_substitute?_eq_none (h : rule.substitute? field = none)
    (later : List Rule) (v : Value) :
    settle field (rule :: later) v = settle field later v := by
  rw [settle, settle, List.findSome?_cons, h]

/-- A replacement in the field is made at once or not at all. -/
lemma settle_cons_replaceNull (field : String) (later : List Rule) (w v : Value) :
    settle field (.replaceNull field w :: later) v =
      settle field later (w.replaceMarker v) := by
  by_cases hv : v.isMarker
  · by_cases hw : w.isMarker
    · rw [settle_cons_of_substitute?_eq_none (by simp [Rule.substitute?, hw]),
        Value.replaceMarker, if_pos hv, Value.isMarker_iff.mp hv, Value.isMarker_iff.mp hw]
    · rw [Value.replaceMarker, if_pos hv, settle_of_not_isMarker hw, settle, if_pos hv,
        List.findSome?_cons]
      simp [Rule.substitute?, hw]
  · rw [Value.replaceMarker, if_neg hv, settle_of_not_isMarker hv, settle_of_not_isMarker hv]

lemma not_isMarker_of_substitute? (h : rule.substitute? field = some v) : ¬ v.isMarker := by
  cases rule <;> grind [Rule.substitute?]

/-- What has settled stays so under the same rules. -/
lemma settle_settle (field : String) (later : List Rule) (v : Value) :
    settle field later (settle field later v) = settle field later v := by
  by_cases hv : v.isMarker
  · cases h : later.findSome? (·.substitute? field) with
    | none => simp [settle, hv, h]
    | some w =>
        have hsettle : settle field later v = w := by simp [settle, hv, h]
        obtain ⟨rule, -, hrule⟩ := List.exists_of_findSome?_eq_some h
        rw [hsettle, settle_of_not_isMarker (not_isMarker_of_substitute? hrule)]
  · rw [settle_of_not_isMarker hv, settle_of_not_isMarker hv]

/-! ### The closed form and its origin -/

/-- An effective stamp outdoes whatever the schema field has held. -/
lemma closedForm_of_lastStamp? (h : lastStamp? rules = some (v, later))
    (cell : Option Value) :
    closedForm Document.schemaField rules cell =
      some (settle Document.schemaField later v) := by
  simp [closedForm, origin?, h]

/-- No version is recorded in the field: it is not the schema field, or no stamp is effective. -/
def Unstamped (field : String) (rules : List Rule) : Prop :=
  field = Document.schemaField → lastStamp? rules = none

lemma unstamped_or_stamped (field : String) (rules : List Rule) :
    Unstamped field rules ∨
      field = Document.schemaField ∧ ∃ v later, lastStamp? rules = some (v, later) := by
  by_cases hfield : field = Document.schemaField
  · cases hlast : lastStamp? rules with
    | none => exact .inl fun _ => hlast
    | some stamp => exact .inr ⟨hfield, stamp.1, stamp.2, rfl⟩
  · exact .inl fun h => absurd h hfield

/-- A rule that records nothing in the field leaves it unstamped. -/
lemma Unstamped.cons (h : Unstamped field rules)
    (hversion : field = Document.schemaField → rule.version? = none) :
    Unstamped field (rule :: rules) := fun hfield => by
  rw [lastStamp?, hversion hfield, h hfield, Option.map_none, Option.or_none]

/-- Where nothing is stamped a field keeps its value or is filled. -/
lemma closedForm_of_unstamped (h : Unstamped field rules) (cell : Option Value) :
    closedForm field rules cell =
      (cell.or (rules.findSome? (·.filling? field))).map (settle field rules) := by
  have hstamp : (if field = Document.schemaField then lastStamp? rules else none) = none :=
    ite_eq_right_iff.mpr h
  rw [closedForm, origin?, hstamp, Option.none_or, Option.map_map]
  rfl

lemma closedForm_nil (field : String) (cell : Option Value) :
    closedForm field [] cell = cell := by
  rw [closedForm_of_unstamped fun _ => rfl]
  cases cell <;> simp [settle]

/-- A rule that stamps, fills and substitutes nothing is of no account. -/
lemma closedForm_cons_of_idle (hstamp : Unstamped field rules)
    (hversion : field = Document.schemaField → rule.version? = none)
    (hfilling : rule.filling? field = none) (hsubstitute : rule.substitute? field = none)
    (cell : Option Value) :
    closedForm field (rule :: rules) cell = closedForm field rules cell := by
  rw [closedForm_of_unstamped hstamp, closedForm_of_unstamped (hstamp.cons hversion),
    List.findSome?_cons, hfilling]
  congr 1
  funext v
  exact settle_cons_of_substitute?_eq_none hsubstitute rules v

/-- The closed form follows a rule that is aimed at another field. -/
lemma closedForm_cons_of_target_ne (hstamp : Unstamped field rules)
    (h : rule.target ≠ field) (cell : Option Value) :
    closedForm field (rule :: rules) cell = closedForm field rules cell := by
  apply closedForm_cons_of_idle hstamp
  · rintro rfl
    cases rule with
    | replaceNull key v => rfl
    | fillMissing key v => rfl
    | stampSchema version => exact absurd rfl h
  · cases rule with
    | replaceNull key v => rfl
    | fillMissing key v => exact if_neg h
    | stampSchema version => rfl
  · cases rule with
    | replaceNull key v => exact if_neg fun hkey => h hkey.1
    | fillMissing key v => rfl
    | stampSchema version => rfl

/-- The closed form follows a rule that is aimed at the field and finds it. -/
lemma closedForm_cons_of_target_eq (hstamp : Unstamped rule.target rules)
    (h : ∀ v, rule = .replaceNull rule.target v → cell.isSome) :
    closedForm rule.target (rule :: rules) cell =
      closedForm rule.target rules (rule.written cell) := by
  cases rule with
  | replaceNull key w =>
      obtain ⟨v, rfl⟩ := Option.isSome_iff_exists.mp (h w rfl)
      rw [closedForm_of_unstamped hstamp, closedForm_of_unstamped (hstamp.cons fun _ => rfl)]
      simp [Rule.written, Rule.target, settle_cons_replaceNull]
  | fillMissing key w =>
      rw [closedForm_of_unstamped hstamp, closedForm_of_unstamped (hstamp.cons fun _ => rfl)]
      have hsettle := settle_cons_of_substitute?_eq_none
        (rfl : (Rule.fillMissing key w).substitute? key = none) rules
      cases cell <;> simp [Rule.written, Rule.target, Rule.filling?, hsettle]
  | stampSchema version =>
      cases hversion : Document.recorded version with
      | none =>
          have hidle : (Rule.stampSchema version).version? = none := hversion
          rw [closedForm_cons_of_idle hstamp (fun _ => hidle) rfl rfl, Rule.written, hversion,
            Option.none_or]
      | some v =>
          have hlast : lastStamp? (.stampSchema version :: rules) = some (v, rules) := by
            rw [lastStamp?, hstamp rfl, Option.none_or, Rule.version?, hversion, Option.map_some]
          rw [closedForm_of_unstamped hstamp, Rule.written, hversion]
          exact closedForm_of_lastStamp? hlast cell

/-- **The closed form follows the first rule**, which finds its field. -/
lemma closedForm_cons (h : ∀ v, rule = .replaceNull field v → cell.isSome)
    (rules : List Rule) :
    closedForm field (rule :: rules) cell =
      closedForm field rules (rule.effect field cell) := by
  rcases unstamped_or_stamped field rules with hstamp | ⟨rfl, v, later, hlast⟩
  · by_cases htarget : rule.target = field
    · subst htarget
      rw [closedForm_cons_of_target_eq hstamp h, Rule.effect_of_target_eq rfl]
    · rw [closedForm_cons_of_target_ne hstamp htarget, Rule.effect_of_target_ne htarget]
  · -- a later stamp decides, whatever the first rule leaves
    have hcons : lastStamp? (rule :: rules) = some (v, later) := by
      rw [lastStamp?, hlast, Option.some_or]
    rw [closedForm_of_lastStamp? hlast, closedForm_of_lastStamp? hcons]

/-- **The closed form of a field**: it is what the rules leave one after the other. -/
theorem fieldAfter_eq_closedForm (h : Supplied field rules cell) :
    fieldAfter field rules cell = closedForm field rules cell := by
  induction rules generalizing cell with
  | nil => rw [fieldAfter_nil, closedForm_nil]
  | cons rule rules ih =>
      obtain ⟨hfirst, hothers⟩ := supplied_cons_iff.mp h
      rw [fieldAfter_cons, ih hothers, closedForm_cons hfirst]

/-- The rules have nothing to change in what they leave. -/
theorem closedForm_closedForm (field : String) (rules : List Rule) (cell : Option Value) :
    closedForm field rules (closedForm field rules cell) = closedForm field rules cell := by
  rcases unstamped_or_stamped field rules with hstamp | ⟨rfl, v, later, hlast⟩
  · rw [closedForm_of_unstamped hstamp, closedForm_of_unstamped hstamp]
    cases h : cell.or (rules.findSome? (·.filling? field)) with
    | none => rw [Option.map_none, Option.none_or, (Option.or_eq_none_iff.mp h).2, Option.map_none]
    | some v => rw [Option.map_some, Option.some_or, Option.map_some, settle_settle]
  · rw [closedForm_of_lastStamp? hlast, closedForm_of_lastStamp? hlast]

/-! ### The closed form of a run -/

/-- **The closed form of a run**: a run that misses nothing leaves in every field what the closed
form says of its rules and of what the field has held. -/
theorem get?_apply_eq_closedForm {p : Pipeline} {d : Document}
    (h : (p.apply d).missing? = none) (field : String) :
    (p.apply d).document.get? field = closedForm field p.rules (d.get? field) := by
  have happlies := applies_of_missing?_eq_none h
  rw [happlies.get?_eq, fieldAfter_eq_closedForm (applies_iff.mp happlies field).1]

/-- Rules that read what other rules of the list have written: a marker is stamped and replaced,
and so is the marker with which `quota` is filled, by the second replacement in the field. -/
def relabelling : Pipeline where
  rules :=
    [.stampSchema (some (.integer 1)), .stampSchema (some (.text "null")),
      .replaceNull "schema" (.integer 3), .fillMissing "quota" (.text "null"),
      .replaceNull "quota" (.text "null"), .replaceNull "quota" (.bool true),
      .replaceNull "printer" (.text "lab-1"), .stampSchema (some .null)]

theorem get?_apply_relabelling :
    (relabelling.apply (.ofList [("printer", .null)])).missing? = none ∧
      (relabelling.apply (.ofList [("printer", .null)])).document.get? "quota" =
        some (.bool true) :=
  ⟨by decide, get?_apply_eq_closedForm (by decide) "quota"⟩

end Pipeline

end FieldNorm
