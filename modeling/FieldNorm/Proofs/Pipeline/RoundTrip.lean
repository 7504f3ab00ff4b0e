import FieldNorm.Proofs.Pipeline.Values

/-!
Rules without floats are read as they are written, but for the form of their integers and for
stamps of null: JSON does not tell a version that is null from a version that is missing.

* `Rule.withoutNull`, `Pipeline.withoutNull`: the same rules with a stamp of null as a stamp without
  a version. No run can tell the difference (`Pipeline.apply_withoutNull`).
* `Rule.reader_reads`, `Pipeline.reader_reads`: what is written for rules is read as these rules.
* `Pipeline.written_rules_reload`: for whole texts, and for rules that have been read before.
-/

namespace FieldNorm

open Json (LaidOut Spacing)
open Json.Reader (Reads)

variable {print : Nat → Json → List Char} {spacing : Nat → Spacing}

namespace Rule

variable {rule : Rule} {v : Value}

/-! ### Stamps of null -/

/-- The same rule; a stamp of null is one without a version. -/
def withoutNull : Rule → Rule
  | .stampSchema version => .stampSchema (Document.recorded version)
  | rule => rule

lemma target_withoutNull (rule : Rule) : rule.withoutNull.target = rule.target := by
  cases rule <;> rfl

/-- A stamp of null does what a stamp without a version does, and reports the same. -/
lemma apply_withoutNull (rule : Rule) (d : Document) : rule.withoutNull.apply d = rule.apply d := by
  cases rule with
  | replaceNull field value | fillMissing field value => rfl
  | stampSchema version =>
      have hstamp : d.stampSchema (Document.recorded version) = d.stampSchema version := by
        rcases version with _ | (_ | _ | _ | _ | _ | _) <;> rfl
      rw [withoutNull, apply, apply, hstamp]

lemma withoutNull_of_ne (h : rule ≠ .stampSchema (some .null)) : rule.withoutNull = rule := by
  rcases rule with _ | _ | (_ | _ | _ | _ | _ | _ | _) <;> first | rfl | exact absurd rfl h

/-! ### Rules as objects -/

/-- The operation of a rule. -/
def op : Rule → Op
  | .replaceNull _ _ => .replaceNull
  | .fillMissing _ _ => .fillMissing
  | .stampSchema _ => .stampSchema

/-- The members of the object of a rule behind its operation. -/
def arguments : Rule → List (String × Json)
  | .replaceNull field value | .fillMissing field value =>
      [("field", .string field), ("value", value.toJson)]
  | .stampSchema version => [("version", (version.getD .null).toJson)]

lemma toJson_eq (rule : Rule) :
    rule.toJson = .object (("op", .string rule.op.name) :: rule.arguments) := by
  cases rule <;> rfl

lemma ofName_name (op : Op) : Op.ofName op.name = .ok op := by
  cases op <;> rfl

/-- A field and a value are found among the members that are written for them. -/
lemma assignment_arguments (field : String) (h : v.narrowed = v) :
    assignment none none [("field", .string field), ("value", v.toJson)] = .ok (field, v) := by
  simp [assignment, fieldOfJson, Value.ofJsonField_toJson, h]

lemma versionOfJson_of_ne_null {j : Json} (h : j ≠ .null) :
    versionOfJson j = (Value.ofJsonField j).map some := by
  cases j <;> first | rfl | exact absurd rfl h

lemma recorded_of_ne_null (h : v ≠ .null) : Document.recorded (some v) = some v := by
  cases v <;> first | rfl | exact absurd rfl h

/-- A version is read back from its member, if it is not null. -/
lemma versionOfJson_toJson {version : Option Value} (h : ∀ v ∈ version, v.narrowed = v) :
    versionOfJson (version.getD .null).toJson = .ok (Document.recorded version) := by
  cases version with
  | none => rfl
  | some v =>
      have hread : Value.ofJsonField v.toJson = .ok v := by
        rw [Value.ofJsonField_toJson, h v rfl]
      by_cases hnull : v = .null
      · subst hnull
        rfl
      · have hjson : v.toJson ≠ .null := fun hv => hnull (Value.toJson_eq_null_iff.mp hv)
        rw [Option.getD_some, versionOfJson_of_ne_null hjson, hread, recorded_of_ne_null hnull]
        rfl

/-- **The members of a rule give the rule back.** -/
lemma ofMembers_arguments (h : ∀ v ∈ rule.values, v.narrowed = v) :
    ofMembers rule.arguments rule.op = .ok rule.withoutNull := by
  cases rule with
  | replaceNull field value | fillMissing field value =>
      have hvalue : value.narrowed = value := h value (List.mem_singleton.mpr rfl)
      simp only [op, arguments, ofMembers, assignment_arguments field hvalue]
      rfl
  | stampSchema version =>
      have hversion : ∀ v ∈ version, v.narrowed = v := fun v hv => h v (by simpa [values] using hv)
      simp only [op, arguments, ofMembers, stampVersion, versionOfJson_toJson hversion, if_true]
      rfl

/-! ### Reading a rule -/

/-- What is read for a member of a rule. -/
def partsOf (rule : Rule) : List (String × Json × Part) :=
  ("op", .string rule.op.name, .operation rule.op) ::
    rule.arguments.map fun m => (m.1, m.2, .other m.2)

/-- The operation is told apart from the other members. -/
lemma splitOp_partsOf (rule : Rule) :
    splitOp (rule.partsOf.map fun m => (m.1, m.2.2)) = .ok (rule.op, rule.arguments) := by
  cases rule <;> rfl

/-- The name of an operation is read as the operation. -/
lemma opReader_reads (op : Op) : opReader.Reads (Json.Quoted.write op.name.toList) op :=
  ((Json.Reader.string_reads _ op.name).refine (ofName_name op)).settled

/-- No operation is named twice. -/
lemma admits_partsOf (rule : Rule) :
    Json.Reader.Admits (Json.Reader.onlyOnce "op") [] (rule.partsOf.map (·.1)) := by
  cases rule <;> simp [partsOf, arguments, Json.Reader.Admits, Json.Reader.onlyOnce]

/-- The arguments of a rule are atoms, and none of them has the name of the operation. -/
lemma of_mem_arguments (h : ∀ v ∈ rule.values, ¬ v.isFloat) {m : String × Json}
    (hm : m ∈ rule.arguments) : m.1 ≠ "op" ∧ Json.Atomic m.2 := by
  cases rule with
  | replaceNull field value | fillMissing field value =>
      have hvalue : Json.Atomic value.toJson :=
        Value.atomic_toJson (h value (List.mem_singleton.mpr rfl))
      rcases List.mem_pair.mp hm with rfl | rfl
      · exact ⟨by simp, .string field⟩
      · exact ⟨by simp, hvalue⟩
  | stampSchema version =>
      obtain rfl := List.mem_singleton.mp hm
      refine ⟨by simp, Value.atomic_toJson ?_⟩
      cases version with
      | none => exact nofun
      | some v => exact h v (by simp [values])

/-- Each member of a rule is read as it is written. -/
lemma partReader_reads (hprint : LaidOut print spacing) (h : ∀ v ∈ rule.values, ¬ v.isFloat)
    (depth outer : Nat) :
    ∀ m ∈ rule.partsOf, (partReader depth m.1).Reads (print outer m.2.1) m.2.2 := by
  refine List.forall_mem_cons.mpr ⟨?operation, fun m hm => ?argument⟩
  case operation =>
    rw [partReader, if_pos rfl, hprint.atom (.string _)]
    exact (opReader_reads rule.op).map _
  case argument =>
    obtain ⟨a, ha, rfl⟩ := List.mem_map.mp hm
    obtain ⟨hname, hatomic⟩ := of_mem_arguments h ha
    rw [partReader, if_neg hname]
    exact (Json.Reader.value_reads hprint (.atom hatomic) outer).map _

/-- **A rule is read as it is written.** -/
lemma reader_reads (hprint : LaidOut print spacing)
    (h : ∀ v ∈ rule.values, ¬ v.isFloat ∧ v.narrowed = v) (depth outer : Nat) :
    (reader depth).Reads (print outer rule.toJson) rule.withoutNull := by
  have htext : print outer rule.toJson = (spacing outer).enclosed '\x7b' '\x7d'
      (rule.partsOf.map fun m => (spacing outer).member m.1 (print (outer + 1) m.2.1)) := by
    rw [toJson_eq, hprint.object, partsOf, List.map_cons, List.map_cons, List.map_map]
    rfl
  obtain ⟨t, ht⟩ := (spacing outer).enclosed_eq_cons '\x7b' '\x7d'
    (rule.partsOf.map fun m => (spacing outer).member m.1 (print (outer + 1) m.2.1))
  rw [htext]
  refine Json.Reader.shaped_reads_object ht fun rest _ => ?_
  have hparts := partReader_reads hprint (fun v hv => (h v hv).1) depth (outer + 1)
  have hmembers := Json.Reader.membersOf_enclosed hparts (admits_partsOf rule) (spacing outer) rest
  have hsplit := Json.Reader.settled_run (Json.Reader.refine_run hmembers (splitOp_partsOf rule))
  exact Json.Reader.refine_run hsplit (ofMembers_arguments fun v hv => (h v hv).2)

end Rule

namespace Pipeline

variable {p : Pipeline} {text : String}

/-! ### Pipelines -/

/-- The same rules; a stamp of null is one without a version. -/
def withoutNull (p : Pipeline) : Pipeline := ⟨p.rules.map Rule.withoutNull⟩

lemma applyRules_withoutNull (d : Document) (changed : List String) (rules : List Rule) :
    applyRules d changed (rules.map Rule.withoutNull) = applyRules d changed rules := by
  induction rules generalizing d changed with
  | nil => rfl
  | cons rule rules ih =>
      simp only [List.map_cons, applyRules, Rule.apply_withoutNull, Rule.target_withoutNull, ih]

/-- **No run can tell a stamp of null from one without a version**, neither by what it does nor by
what it reports. -/
lemma apply_withoutNull (p : Pipeline) (d : Document) : p.withoutNull.apply d = p.apply d := by
  have hlength : p.withoutNull.length = p.length := List.length_map _
  rw [apply, apply, hlength, withoutNull, applyRules_withoutNull]

/-- The list of the rules is read as it is written. -/
lemma rulesReader_reads (hprint : LaidOut print spacing)
    (h : ∀ v ∈ p.values, ¬ v.isFloat ∧ v.narrowed = v) (outer : Nat) :
    rulesReader.Reads (print outer (.array (p.rules.map Rule.toJson))) p.withoutNull.rules := by
  rw [hprint.array, List.map_map]
  obtain ⟨t, ht⟩ := (spacing outer).enclosed_eq_cons '[' ']'
    (p.rules.map (print (outer + 1) ∘ Rule.toJson))
  refine Json.Reader.shaped_reads_array ht fun rest _ => ?_
  refine Json.Reader.listOf_enclosed (fun rule hrule => ?_) (spacing outer) rest
  have hvalues : ∀ v ∈ rule.values, ¬ v.isFloat ∧ v.narrowed = v := fun v hv =>
    h v (List.mem_flatMap.mpr ⟨rule, hrule, hv⟩)
  exact Rule.reader_reads hprint hvalues _ (outer + 1)

/-- **A pipeline is read as it is written.** -/
lemma reader_reads (hprint : LaidOut print spacing)
    (h : ∀ v ∈ p.values, ¬ v.isFloat ∧ v.narrowed = v) (outer : Nat) :
    reader.Reads (print outer p.toJson) p.withoutNull := by
  have htext : print outer p.toJson = (spacing outer).enclosed '\x7b' '\x7d'
      ([p].map fun p => (spacing outer).member "rules"
        (print (outer + 1) (.array (p.rules.map Rule.toJson)))) := by
    rw [toJson, hprint.object]
    rfl
  obtain ⟨t, ht⟩ := (spacing outer).enclosed_eq_cons '\x7b' '\x7d'
    ([p].map fun p => (spacing outer).member "rules"
      (print (outer + 1) (.array (p.rules.map Rule.toJson))))
  rw [htext]
  refine Json.Reader.shaped_reads_object ht fun rest _ => ?_
  have hrules : ∀ q ∈ [p], (memberReader "rules").Reads
      (print (outer + 1) (.array (q.rules.map Rule.toJson))) (some q.withoutNull.rules) := by
    rw [List.forall_mem_singleton, memberReader, if_pos rfl]
    exact (rulesReader_reads hprint h (outer + 1)).map some
  have hmembers :
      (Json.Reader.membersOf (Json.Reader.onlyOnce "rules") memberReader).run
          ((spacing outer).enclosed '\x7b' '\x7d' ([p].map fun p => (spacing outer).member "rules"
            (print (outer + 1) (.array (p.rules.map Rule.toJson)))) ++ rest) =
        .ok ([("rules", some p.withoutNull.rules)], rest) :=
    Json.Reader.membersOf_enclosed hrules ⟨rfl, trivial⟩ (spacing outer) rest
  exact Json.Reader.map_run _ hmembers

/-- The texts of a pipeline are read as the pipeline. -/
lemma read_of_mem_texts (h : ∀ v ∈ p.values, ¬ v.isFloat ∧ v.narrowed = v)
    (htext : text ∈ [p.compact, String.ofList p.toJson.pretty]) :
    read text = .ok p.withoutNull := by
  rcases List.mem_pair.mp htext with rfl | rfl
  · exact Json.Reader.readAll_ofList (reader_reads Json.laidOut_compact h 0)
  · exact Json.Reader.readAll_ofList (reader_reads Json.laidOut_prettyAt h 0)

/-- Without stamps of null nothing changes. -/
lemma withoutNull_of_notMem (h : .stampSchema (some .null) ∉ p.rules) : p.withoutNull = p := by
  have hrules : p.rules.map Rule.withoutNull = p.rules := by
    have heach : ∀ rule ∈ p.rules, rule.withoutNull = id rule := fun rule hrule =>
      Rule.withoutNull_of_ne fun hnull => h (hnull ▸ hrule)
    rw [List.map_congr_left heach, List.map_id]
  rw [withoutNull, hrules]

/-- **Rules without floats survive writing and reading.**

* Rules are read back from both texts that can be written for them, if no unsigned integer among
  their values has room in the signed form; only a stamp of null comes back as one without a
  version. What is read back does the same to every document and reports the same.
* Rules that have been read come back as they are. -/
theorem written_rules_reload :
    (∀ p : Pipeline,
      (∀ v ∈ p.values, ¬ v.isFloat ∧ ∀ n, v = .unsigned n → Int64.maxValue.toInt < n.toNat) →
        (∀ text ∈ [p.compact, String.ofList p.toJson.pretty], read text = .ok p.withoutNull) ∧
        ∀ d, p.withoutNull.apply d = p.apply d) ∧
    ∀ (text : String) (p : Pipeline), read text = .ok p → (∀ v ∈ p.values, ¬ v.isFloat) →
      ∀ written ∈ [p.compact, String.ofList p.toJson.pretty], read written = .ok p := by
  refine ⟨fun p h => ⟨fun text htext => ?written, apply_withoutNull p⟩,
    fun text p hread hfloat written hwritten => ?again⟩
  case written =>
    refine read_of_mem_texts (fun v hv => ?_) htext
    exact ⟨(h v hv).1, Value.narrowed_eq_self_iff.mpr (h v hv).2⟩
  case again =>
    have hvalues : ∀ v ∈ p.values, ¬ v.isFloat ∧ v.narrowed = v := fun v hv =>
      ⟨hfloat v hv, narrowed_of_read hread hv⟩
    have hsame : p.withoutNull = p := withoutNull_of_notMem (stampNull_notMem_of_read hread)
    rw [read_of_mem_texts hvalues hwritten, hsame]

/-- Rules of every kind, with a text to be escaped, an integer beyond the signed ones and a stamp
of null. -/
def varied : Pipeline :=
  ⟨[.replaceNull "a\"\n" (.unsigned 9223372036854775808), .fillMissing "op" (.text "\\"),
    .stampSchema (some .null), .stampSchema (some (.integer (-1)))]⟩

/-- The rules come back but for the stamp of null, and then stay as they are. -/
theorem written_rules_reload_varied :
    varied.withoutNull ≠ varied ∧ read varied.compact = .ok varied.withoutNull ∧
    read (String.ofList varied.toJson.pretty) = .ok varied.withoutNull ∧
    (∀ d, varied.withoutNull.apply d = varied.apply d) ∧
    read varied.withoutNull.compact = .ok varied.withoutNull := by
  have hvalues : ∀ v ∈ varied.values, ¬ v.isFloat ∧ v.narrowed = v := by decide +kernel
  obtain ⟨htexts, hrun⟩ := written_rules_reload.1 varied fun v hv =>
    (hvalues v hv).imp_right Value.narrowed_eq_self_iff.mp
  have hcompact := htexts _ List.mem_cons_self
  have hpretty := htexts _ (List.mem_cons_of_mem _ List.mem_cons_self)
  refine ⟨by decide, hcompact, hpretty, hrun, ?_⟩
  exact written_rules_reload.2 _ _ hcompact (by decide) _ List.mem_cons_self

end Pipeline

end FieldNorm
