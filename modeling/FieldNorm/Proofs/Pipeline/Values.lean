import FieldNorm.Pipeline.Json
import FieldNorm.Proofs.Document.Values
import FieldNorm.Proofs.Json.Results
import FieldNorm.Proofs.Pipeline.Fieldwise

/-!
No run makes up a value: whatever stands in a document behind a run has stood there before or is
written in a rule. So what holds of all values of the rules and the document goes on to hold.

* `Rule.values`, `Pipeline.values`: the values that are written in rules.
* `Pipeline.mem_values_of_apply`: where the values behind a run come from, also if it stops early.
* `Rule.gives_reader`, `Pipeline.of_mem_values_of_read`: the values of rules that have been read
  are taken from JSON.
-/

namespace FieldNorm

/-- Whatever value a piece of JSON stands for satisfies `P`. -/
def Json.Denotes (P : Value → Prop) (j : Json) : Prop := ∀ v, Value.ofJson j = .ok v → P v

namespace Rule

variable {P : Value → Prop} {v w : Value} {rule : Rule} {field : String} {cell : Option Value}

/-- The values that are written in a rule. -/
def values : Rule → List Value
  | .replaceNull _ v | .fillMissing _ v => [v]
  | .stampSchema version => version.toList

lemma recorded_eq_some {version : Option Value} (h : Document.recorded version = some v) :
    version = some v := by
  rw [Document.recorded.eq_def] at h
  split at h <;> simp_all

/-- What a rule leaves in a field has stood there, or is written in the rule. -/
lemma eq_some_or_mem_values (h : rule.effect field cell = some v) :
    cell = some v ∨ v ∈ rule.values := by
  by_cases htarget : rule.target = field
  · rw [effect_of_target_eq htarget] at h
    cases rule with
    | replaceNull key w =>
        obtain ⟨u, rfl, hu⟩ := Option.map_eq_some_iff.mp h
        rw [Value.replaceMarker] at hu
        split at hu
        · exact .inr (by simp [values, hu])
        · exact .inl (by rw [hu])
    | fillMissing key w =>
        rcases Option.or_eq_some_iff.mp h with hcell | ⟨-, hw⟩
        · exact .inl hcell
        · exact .inr (by simp [values, Option.some.inj hw])
    | stampSchema version =>
        rcases Option.or_eq_some_iff.mp h with hversion | ⟨-, hcell⟩
        · exact .inr (by simp [values, recorded_eq_some hversion])
        · exact .inl hcell
  · rw [effect_of_target_ne htarget] at h
    exact .inl h

/-! ### Rules that are read -/

/-- A value among members stands for what one of them holds. -/
lemma of_assignment {members : List (String × Json)} (h : ∀ m ∈ members, m.2.Denotes P)
    {known : Option String} {value : Option Value} {f : String}
    (hmembers : assignment known value members = .ok (f, v)) (hvalue : ∀ u ∈ value, P u) :
    P v := by
  induction members generalizing known value with
  | nil =>
      rw [assignment.eq_def] at hmembers
      dsimp only at hmembers
      split at hmembers <;> cases hmembers
      exact hvalue v rfl
  | cons m members ih =>
      rw [List.forall_mem_cons] at h
      rw [assignment.eq_def] at hmembers
      dsimp only at hmembers
      split at hmembers
      · split at hmembers
        · cases hmembers
        · split at hmembers
          · cases hmembers
          · exact ih h.2 hmembers hvalue
      · split at hmembers
        · split at hmembers
          · cases hmembers
          · split at hmembers
            · cases hmembers
            · rename_i u hu
              refine ih h.2 hmembers ?_
              rintro _ ⟨⟩
              exact h.1 u (Value.ofJson_of_ofJsonField hu)
        · exact ih h.2 hmembers hvalue

lemma of_versionOfJson {j : Json} (h : j.Denotes P) {version : Option Value}
    (hj : versionOfJson j = .ok version) : ∀ u ∈ version, P u := by
  rintro u rfl
  rw [versionOfJson.eq_def] at hj
  split at hj
  · cases hj
  · cases hu : Value.ofJsonField j with
    | error reason => simp [hu, Except.map] at hj
    | ok w =>
        obtain rfl : w = u := by simpa [hu, Except.map] using hj
        exact h w (Value.ofJson_of_ofJsonField hu)

/-- A version among members is the version of one of them, or there is none. -/
lemma of_stampVersion {Q : Option Value → Prop} {members : List (String × Json)}
    (h : ∀ m ∈ members, ∀ version, versionOfJson m.2 = .ok version → Q version) (hnone : Q none)
    {known : Option (Option Value)} {version : Option Value}
    (hmembers : stampVersion known members = .ok version) (hknown : ∀ version ∈ known, Q version) :
    Q version := by
  induction members generalizing known with
  | nil =>
      obtain rfl := Except.ok.inj hmembers
      cases known with
      | none => exact hnone
      | some version => exact hknown version rfl
  | cons m members ih =>
      rw [List.forall_mem_cons] at h
      rw [stampVersion] at hmembers
      split at hmembers
      · split at hmembers
        · cases hmembers
        · split at hmembers
          · cases hmembers
          · rename_i version hversion
            refine ih h.2 hmembers ?_
            rintro _ ⟨⟩
            exact h.1 version hversion
      · exact ih h.2 hmembers hknown

/-- The rule of an assignment has no value but the assigned one. -/
lemma values_ofAssignment {build : String → Value → Rule}
    (hbuild : ∀ f u, (build f u).values = [u]) {found : Except Json.Mismatch (String × Value)}
    (h : ∀ f u, found = .ok (f, u) → P u)
    (hrule : found.map (ofAssignment build) = .ok rule) : ∀ u ∈ rule.values, P u := by
  cases found with
  | error reason => cases hrule
  | ok assigned =>
      obtain rfl := Except.ok.inj hrule
      simpa [ofAssignment, hbuild] using h assigned.1 assigned.2 rfl

/-- The rule of a stamp has no value but its version. -/
lemma values_stampSchema {found : Except Json.Mismatch (Option Value)}
    (h : ∀ version, found = .ok version → ∀ u ∈ version, P u)
    (hrule : found.map .stampSchema = .ok rule) : ∀ u ∈ rule.values, P u := by
  cases found with
  | error reason => cases hrule
  | ok version =>
      obtain rfl := Except.ok.inj hrule
      simpa [values] using h version rfl

/-- The values of a rule that is an object stand in its members. -/
lemma of_ofMembers {members : List (String × Json)} (h : ∀ m ∈ members, m.2.Denotes P) {op : Op}
    (hrule : ofMembers members op = .ok rule) : ∀ u ∈ rule.values, P u := by
  cases op with
  | replaceNull | fillMissing =>
      rw [ofMembers] at hrule
      refine values_ofAssignment (fun _ _ => rfl) (fun f u hfound => ?_) hrule
      exact of_assignment h hfound nofun
  | stampSchema =>
      rw [ofMembers] at hrule
      refine values_stampSchema (fun version hfound => ?_) hrule
      exact of_stampVersion (fun m hm version => of_versionOfJson (h m hm)) nofun hfound nofun

lemma of_assignmentOfItems {variant : String} {items : List Json}
    (h : ∀ j ∈ items, j.Denotes P) {f : String}
    (hitems : assignmentOfItems variant items = .ok (f, v)) : P v := by
  rw [assignmentOfItems.eq_def] at hitems
  split at hitems
  · cases hitems
  · rw [List.forall_mem_cons] at h
    split at hitems
    · cases hitems
    · split at hitems
      · cases hitems
      · split at hitems
        · cases hitems
        · rename_i hvalue
          split at hitems <;> cases hitems
          exact h.2 _ List.mem_cons_self v (Value.ofJson_of_ofJsonField hvalue)

/-- A version among items is the version of the first, or there is none. -/
lemma of_versionOfItems {Q : Option Value → Prop} {items : List Json}
    (h : ∀ j ∈ items, ∀ version, versionOfJson j = .ok version → Q version) (hnone : Q none)
    {version : Option Value} (hitems : versionOfItems items = .ok version) : Q version := by
  rw [versionOfItems.eq_def] at hitems
  split at hitems
  · obtain rfl := Except.ok.inj hitems
    exact hnone
  · split at hitems
    · cases hitems
    · rename_i hversion
      split at hitems <;> cases hitems
      exact h _ List.mem_cons_self _ hversion

/-- The values of a rule that is an array stand in its items. -/
lemma of_ofItems {items : List Json} (h : ∀ j ∈ items, j.Denotes P) {op : Op}
    (hrule : ofItems items op = .ok rule) : ∀ u ∈ rule.values, P u := by
  cases op with
  | replaceNull | fillMissing =>
      rw [ofItems] at hrule
      refine values_ofAssignment (fun _ _ => rfl) (fun f u hfound => ?_) hrule
      exact of_assignmentOfItems h hfound
  | stampSchema =>
      rw [ofItems] at hrule
      refine values_stampSchema (fun version hfound => ?_) hrule
      exact of_versionOfItems (fun j hj version => of_versionOfJson (h j hj)) nofun hfound

/-- Members without the name of an operation are among the members. -/
lemma of_splitOp {members : List (String × Part)}
    (h : ∀ m ∈ members, ∀ j, m.2.other? = some j → j.Denotes P) {op : Op}
    {others : List (String × Json)} (hsplit : splitOp members = .ok (op, others)) :
    ∀ m ∈ others, m.2.Denotes P := by
  rw [splitOp] at hsplit
  split at hsplit <;> cases hsplit
  intro m hm
  obtain ⟨part, hpart, hother⟩ := List.mem_filterMap.mp hm
  obtain ⟨j, hj, rfl⟩ := Option.map_eq_some_iff.mp hother
  exact h part hpart j hj

/-- **The values of a rule that is read stand for pieces of JSON.** -/
lemma gives_reader {depth : Nat} (h : (Json.Reader.value depth).Gives (·.Denotes P)) :
    (reader depth).Gives fun rule => ∀ u ∈ rule.values, P u := by
  refine Json.Reader.gives_shaped (fun r hr => ?array) (fun r hr => ?object)
  case array =>
    obtain rfl := Option.mem_some_iff.mp hr
    have hitems : (Json.Reader.listHeaded opReader (Json.Reader.value depth)).Gives
        fun o => ∀ headed ∈ o, ∀ j ∈ headed.2, j.Denotes P := fun s o rest hrun headed hheaded =>
      (Json.Reader.gives_listHeaded (Json.Reader.gives_true opReader) h s o rest hrun headed
        hheaded).2
    refine (hitems.refine (Q := fun headed => ∀ j ∈ headed.2, j.Denotes P) ?_).settled.refine
      fun headed rule hheaded => of_ofItems hheaded
    rintro (_ | headed) b hheaded hb
    · cases hb
    · obtain rfl := Except.ok.inj hb
      exact hheaded headed rfl
  case object =>
    obtain rfl := Option.mem_some_iff.mp hr
    have hmember : ∀ key, (partReader depth key).Gives
        fun part => ∀ j, part.other? = some j → j.Denotes P := by
      intro key
      rw [partReader]
      split
      · exact (Json.Reader.gives_true opReader).map fun op _ j hj => by cases hj
      · refine h.map fun a ha j hj => ?_
        obtain rfl := Option.some.inj hj
        exact ha
    have hmembers := Json.Reader.gives_membersOf hmember (Json.Reader.onlyOnce "op")
    refine ((hmembers.refine fun members split hm hsplit => ?_).settled).refine
      fun split rule hsplit => of_ofMembers hsplit
    exact of_splitOp hm hsplit

/-! ### No rule that is read stamps null -/

lemma ne_null_of_versionOfJson {j : Json} {version : Option Value}
    (hj : versionOfJson j = .ok version) : version ≠ some .null := by
  rintro rfl
  rw [versionOfJson.eq_def] at hj
  split at hj
  · cases hj
  · rename_i hnull
    cases hv : Value.ofJsonField j with
    | error reason => simp [hv, Except.map] at hj
    | ok v =>
        obtain rfl : v = .null := by simpa [hv, Except.map] using hj
        exact hnull (Value.ofJson_eq_null_iff.mp (Value.ofJson_of_ofJsonField hv))

/-- The rule of an assignment is no stamp. -/
lemma ne_stamp_of_assignment {build : String → Value → Rule}
    (hbuild : ∀ f u version, build f u ≠ .stampSchema version)
    {found : Except Json.Mismatch (String × Value)}
    (hrule : found.map (ofAssignment build) = .ok rule) (version : Option Value) :
    rule ≠ .stampSchema version := by
  cases found with
  | error reason => cases hrule
  | ok assigned =>
      obtain rfl := Except.ok.inj hrule
      exact hbuild _ _ version

/-- The rule of a stamp has the version that has been found. -/
lemma ne_stampNull_of_version {found : Except Json.Mismatch (Option Value)}
    (h : ∀ version, found = .ok version → version ≠ some .null)
    (hrule : found.map .stampSchema = .ok rule) : rule ≠ .stampSchema (some .null) := by
  cases found with
  | error reason => cases hrule
  | ok version =>
      obtain rfl := Except.ok.inj hrule
      intro hstamp
      exact h version rfl (stampSchema.inj hstamp)

lemma ne_stampNull_of_ofMembers {members : List (String × Json)} {op : Op}
    (hrule : ofMembers members op = .ok rule) : rule ≠ .stampSchema (some .null) := by
  cases op with
  | replaceNull | fillMissing => exact ne_stamp_of_assignment (fun _ _ _ h => by cases h) hrule _
  | stampSchema =>
      refine ne_stampNull_of_version (fun version hfound => ?_) hrule
      exact of_stampVersion (fun _ _ _ => ne_null_of_versionOfJson) nofun hfound nofun

lemma ne_stampNull_of_ofItems {items : List Json} {op : Op}
    (hrule : ofItems items op = .ok rule) : rule ≠ .stampSchema (some .null) := by
  cases op with
  | replaceNull | fillMissing => exact ne_stamp_of_assignment (fun _ _ _ h => by cases h) hrule _
  | stampSchema =>
      refine ne_stampNull_of_version (fun version hfound => ?_) hrule
      exact of_versionOfItems (fun _ _ _ => ne_null_of_versionOfJson) nofun hfound

/-- **No rule that is read stamps null.** -/
lemma gives_reader_ne_stampNull (depth : Nat) :
    (reader depth).Gives (· ≠ .stampSchema (some .null)) := by
  refine Json.Reader.gives_shaped (fun r hr => ?array) (fun r hr => ?object)
  case array =>
    obtain rfl := Option.mem_some_iff.mp hr
    exact (Json.Reader.gives_true _).refine fun _ _ _ => ne_stampNull_of_ofItems
  case object =>
    obtain rfl := Option.mem_some_iff.mp hr
    exact (Json.Reader.gives_true _).refine fun _ _ _ => ne_stampNull_of_ofMembers

end Rule

namespace Pipeline

variable {P : Value → Prop} {p : Pipeline} {rules : List Rule} {d e : Document} {field : String}
  {cell : Option Value} {v : Value}

/-- The values that are written in the rules. -/
def values (p : Pipeline) : List Value := p.rules.flatMap Rule.values

/-! ### Where the values behind a run come from -/

lemma eq_some_or_mem_of_fieldAfter (h : fieldAfter field rules cell = some v) :
    cell = some v ∨ v ∈ rules.flatMap Rule.values := by
  induction rules generalizing cell with
  | nil => exact .inl h
  | cons rule rules ih =>
      rw [List.flatMap_cons, List.mem_append]
      rcases ih h with heffect | hrules
      · rcases Rule.eq_some_or_mem_values heffect with hcell | hrule
        · exact .inl hcell
        · exact .inr (.inl hrule)
      · exact .inr (.inr hrules)

lemma Applies.mem_values (h : Applies rules d e) (hv : v ∈ e.values) :
    v ∈ d.values ∨ v ∈ rules.flatMap Rule.values := by
  obtain ⟨field, hfield⟩ := Document.mem_values_iff.mp hv
  rw [h.get?_eq] at hfield
  exact (eq_some_or_mem_of_fieldAfter hfield).imp_left fun hcell =>
    Document.mem_values_iff.mpr ⟨field, hcell⟩

/-- **No run makes up a value**: what it leaves in the document has been there before or is written
in a rule, also if the run stops for want of a key. -/
lemma mem_values_of_apply (hv : v ∈ (p.apply d).document.values) :
    v ∈ d.values ∨ v ∈ p.values := by
  cases h : (p.apply d).missing? with
  | none => exact (applies_of_missing?_eq_none h).mem_values hv
  | some key =>
      have hending : (p.apply d).ending = ((p.apply d).document, some key) := by rw [Run.ending, h]
      obtain ⟨i, w, -, happlies, -⟩ := ending_eq_some_iff.mp hending
      refine (happlies.mem_values hv).imp_right fun hrules => ?_
      obtain ⟨rule, hrule, hmem⟩ := List.mem_flatMap.mp hrules
      exact List.mem_flatMap.mpr ⟨rule, List.mem_of_mem_take hrule, hmem⟩

/-- With a version from outside there is no value but those of the rules and the version. -/
lemma mem_values_withSchemaVersion {version : Option Value}
    (hv : v ∈ (p.withSchemaVersion version).values) : v ∈ p.values ∨ version = some v := by
  cases version with
  | none => exact .inl hv
  | some w =>
      obtain ⟨rule, hrule, hmem⟩ := List.mem_flatMap.mp hv
      rcases List.mem_append.mp hrule with hrule | hrule
      · exact .inl (List.mem_flatMap.mpr ⟨rule, (List.mem_filter.mp hrule).1, hmem⟩)
      · obtain rfl := List.mem_singleton.mp hrule
        exact .inr (by rw [List.mem_singleton.mp hmem])

/-! ### Pipelines that are read -/

/-- **The rules of a pipeline that is read are given by the reader of rules.** -/
lemma gives_reader {Q : Rule → Prop} (h : (Rule.reader (Json.maxDepth - 3)).Gives Q) :
    reader.Gives fun p => ∀ rule ∈ p.rules, Q rule := by
  have hlist : rulesReader.Gives fun rules => ∀ rule ∈ rules, Q rule := by
    refine Json.Reader.gives_shaped (fun r hr => ?_) nofun
    obtain rfl := Option.mem_some_iff.mp hr
    exact Json.Reader.gives_listOf h
  refine Json.Reader.gives_shaped (fun r hr => ?array) (fun r hr => ?object)
  case array =>
    obtain rfl := Option.mem_some_iff.mp hr
    refine (Json.Reader.gives_listOfOne hlist).map fun rules hrules => ?_
    cases rules with
    | none => exact nofun
    | some rules => exact hrules rules rfl
  case object =>
    obtain rfl := Option.mem_some_iff.mp hr
    have hmember : ∀ key, (memberReader key).Gives
        fun o => ∀ rules ∈ o, ∀ rule ∈ rules, Q rule := by
      intro key
      rw [memberReader]
      split
      · refine hlist.map fun rules hrules => ?_
        rintro _ ⟨⟩
        exact hrules
      · exact (Json.Reader.gives_true _).map fun _ _ => nofun
    refine (Json.Reader.gives_membersOf hmember _).map fun members hmembers => ?_
    cases hfound : members.findSome? (·.2) with
    | none => exact nofun
    | some rules =>
        obtain ⟨m, hm, hrules⟩ := List.exists_of_findSome?_eq_some hfound
        exact hmembers m hm rules hrules

/-- **The values of rules that are read stand for pieces of JSON.** -/
lemma of_mem_values_of_read
    (h : (Json.Reader.value (Json.maxDepth - 3)).Gives (·.Denotes P)) {text : String}
    (hread : read text = .ok p) : ∀ u ∈ p.values, P u := by
  intro u hu
  obtain ⟨rule, hrule, hmem⟩ := List.mem_flatMap.mp hu
  exact (gives_reader (Rule.gives_reader h)).of_readAll hread rule hrule u hmem

/-- No rule that is read stamps null. -/
lemma stampNull_notMem_of_read {text : String} (hread : read text = .ok p) :
    .stampSchema (some .null) ∉ p.rules := fun hmem =>
  (gives_reader (Rule.gives_reader_ne_stampNull _)).of_readAll hread _ hmem rfl

/-- The values of rules that are read are narrowed. -/
lemma narrowed_of_read {text : String} (hread : read text = .ok p) (hv : v ∈ p.values) :
    v.narrowed = v :=
  of_mem_values_of_read (fun _ _ _ _ _ => Value.narrowed_of_ofJson) hread v hv

end Pipeline

end FieldNorm
