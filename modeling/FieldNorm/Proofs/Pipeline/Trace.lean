import FieldNorm.Proofs.Document.Similar
import FieldNorm.Proofs.Pipeline.Report
import Mathlib.Data.List.Forall2

/-!
What the trace of a run tells of values: of which kinds they are, and no more.

The values in the rules and those in the document may both be others. Which way a rule takes depends
on the fields that are there and on those that hold the marker, and what it reports depends on the
kind of the value it puts there.

* `Value.Similar`, `Rule.Similar`: what is the same for the trace, in documents that are
  `Document.Similar`.
* `Rule.Similar.apply`: the step of a rule keeps documents similar and reports the same.
* `Pipeline.applyRules_similar`: so does the run of a list of rules, whatever has changed before it.
* `Pipeline.trace_of_similar`: the trace of a pipeline.
-/

namespace FieldNorm

/-! ### What is the same for the trace -/

/-- Values of one kind, both or neither of them the marker. -/
structure Value.Similar (v w : Value) : Prop where
  kind_eq : w.kind = v.kind
  isMarker_eq : w.isMarker = v.isMarker

namespace Document

variable {v : Value}

/-- A stamp without a version to record does nothing. -/
lemma stampSchema_of_recorded_eq_none {version : Option Value} (h : recorded version = none)
    (d : Document) : d.stampSchema version = (d, []) := by
  rw [recorded.eq_def] at h
  split at h
  · rfl
  · rfl
  · cases h

/-- A stamp with a version puts it into the schema field, and tells its kind. -/
lemma stampSchema_of_ne_null (hv : v ≠ .null) (d : Document) :
    d.stampSchema (some v) = (FieldMap.insert d schemaField v,
      [{ level := .trace, source := .schema, message := "stamped schema version",
         data := [("kind", .text v.kind.name)] }]) := by
  cases v with
  | null => exact absurd rfl hv
  | bool _ | integer _ | unsigned _ | float _ | text _ => rfl

end Document

/-! ### The step of a rule -/

namespace Rule

variable {rule other : Rule} {d e : Document}

/-- Rules with the same operation and field and with similar values. Two stamps are similar if
neither has a version to record, or both have and the versions are similar. -/
inductive Similar : Rule → Rule → Prop
  | replaceNull (field : String) {v w : Value} (h : v.Similar w) :
      Similar (.replaceNull field v) (.replaceNull field w)
  | fillMissing (field : String) {v w : Value} (h : v.Similar w) :
      Similar (.fillMissing field v) (.fillMissing field w)
  | noVersion {version version' : Option Value} (h : Document.recorded version = none)
      (h' : Document.recorded version' = none) :
      Similar (.stampSchema version) (.stampSchema version')
  | version {v w : Value} (hv : v ≠ .null) (hw : w ≠ .null) (h : v.Similar w) :
      Similar (.stampSchema (some v)) (.stampSchema (some w))

/-- Both steps fail for want of the same key, or both report the same and leave similar
documents. -/
inductive Agree :
    (step step' : Except KeyMissing (Document × List Log.Event)) → Prop
  | fails (error : KeyMissing) : Agree (.error error) (.error error)
  | goesOn {d e : Document} (events : List Log.Event) (h : d.Similar e) :
      Agree (.ok (d, events)) (.ok (e, events))

lemma agree_replaceNull (hd : d.Similar e) (key : String) {v w : Value} (hvalue : v.Similar w) :
    Agree (d.replaceNull key v) (e.replaceNull key w) := by
  rw [Document.replaceNull, Document.replaceNull, hvalue.kind_eq]
  cases hfound : d.get? key with
  | none =>
      rw [hd.eq_none_iff.mpr hfound]
      exact .fails _
  | some current =>
      obtain ⟨current', hfound', hmarker⟩ := hd.exists_get? hfound
      rw [hfound']
      dsimp only
      rw [if_congr hmarker rfl rfl]
      split
      · exact .goesOn _ (hd.insert key hvalue.isMarker_eq)
      · exact .goesOn _ hd

lemma agree_fillMissing (hd : d.Similar e) (key : String) {v w : Value} (hvalue : v.Similar w) :
    Agree (.ok (d.fillMissing key v)) (.ok (e.fillMissing key w)) := by
  rw [Document.fillMissing, Document.fillMissing, hd.contains_eq, hvalue.kind_eq]
  split
  · exact .goesOn _ hd
  · exact .goesOn _ (hd.insert key hvalue.isMarker_eq)

/-- **Similar rules do the same to similar documents**, and report the same. -/
lemma Similar.apply (h : rule.Similar other) (hd : d.Similar e) :
    Agree (rule.apply d) (other.apply e) := by
  cases h with
  | replaceNull field hvalue => exact agree_replaceNull hd field hvalue
  | fillMissing field hvalue => exact agree_fillMissing hd field hvalue
  | noVersion hversion hversion' =>
      rw [Rule.apply, Rule.apply, Document.stampSchema_of_recorded_eq_none hversion,
        Document.stampSchema_of_recorded_eq_none hversion']
      exact .goesOn _ hd
  | version hv hw hvalue =>
      rw [Rule.apply, Rule.apply, Document.stampSchema_of_ne_null hv,
        Document.stampSchema_of_ne_null hw, hvalue.kind_eq]
      exact .goesOn _ (hd.insert _ hvalue.isMarker_eq)

end Rule

/-! ### The run of a pipeline -/

namespace Run

/-- What a run reports at the most detailed level. -/
def trace (run : Run) : List Log.Event := run.events.filter (·.level = .trace)

/-- Two runs have the same trace, both succeed or both miss the same key, and they leave similar
documents. They need not change the same fields. -/
structure Similar (run other : Run) : Prop where
  trace_eq : other.trace = run.trace
  error_iff : ∀ error, other.result = .error error ↔ run.result = .error error
  document : run.document.Similar other.document

/-- What both runs report before it makes them no less similar. -/
lemma Similar.report {run other : Run} (h : run.Similar other) (events : List Log.Event) :
    Similar { run with events := events ++ run.events }
      { other with events := events ++ other.events } where
  trace_eq := by
    have htrace := h.trace_eq
    rw [trace, trace] at htrace ⊢
    rw [List.filter_append, List.filter_append, htrace]
  error_iff := h.error_iff
  document := h.document

end Run

namespace Pipeline

variable {p q : Pipeline} {d e : Document}

/-- **Lists of similar rules do the same to similar documents.** -/
lemma applyRules_similar {rules rules' : List Rule}
    (hrules : List.Forall₂ Rule.Similar rules rules') (hd : d.Similar e)
    (changed changed' : List String) :
    (applyRules d changed rules).Similar (applyRules e changed' rules') := by
  -- The same step may change a field in one run only, so the lists of changed fields are any two.
  induction hrules generalizing d e changed changed' with
  | nil => exact ⟨rfl, fun _ => by simp [applyRules], hd⟩
  | @cons rule rule' rules rules' hrule _ ih =>
      rw [applyRules, applyRules]
      have hstep := hrule.apply hd
      generalize rule.apply d = step, rule'.apply e = step' at hstep
      cases hstep with
      | fails error => exact ⟨rfl, fun _ => .rfl, hd⟩
      | goesOn events hafter =>
          exact (ih hafter _ _).report events

lemma document_apply (p : Pipeline) (d : Document) :
    (p.apply d).document = (applyRules d [] p.rules).document := by
  rw [apply]
  split <;> rfl

/-- The closing report of a run is no part of its trace. -/
lemma trace_apply (p : Pipeline) (d : Document) :
    (p.apply d).trace = (applyRules d [] p.rules).trace := by
  rw [apply]
  split
  · rfl
  · rw [Run.trace, List.filter_append]
    exact List.append_nil _

/-- **The trace of a run tells of which kinds values are, and no more.** Let two pipelines have
rules that are similar one by one: the same operation on the same field, with values of one kind,
both or neither of them the marker; or stamps, of which both or neither have a version to record.
Let the same fields be there in two documents, and the same fields hold the marker. Then both runs
report the same at the most detailed level, both succeed or both miss the same key, and the
documents behind them are alike in the same sense. -/
theorem trace_of_similar (hrules : List.Forall₂ Rule.Similar p.rules q.rules)
    (hd : d.Similar e) :
    (q.apply e).trace = (p.apply d).trace ∧
    (∀ error, (q.apply e).result = .error error ↔ (p.apply d).result = .error error) ∧
    (p.apply d).document.Similar (q.apply e).document := by
  have hrun := applyRules_similar hrules hd [] []
  rw [trace_apply, trace_apply, result_apply, result_apply, document_apply, document_apply]
  exact ⟨hrun.trace_eq, hrun.error_iff, hrun.document⟩

/-- Rules for a print job, the last of which misses a field. -/
def assigning (printer owner : String) (version : Value) : Pipeline where
  rules := [.replaceNull "printer" (.text printer), .fillMissing "owner" (.text owner),
    .stampSchema (some version), .replaceNull "room" .null]

/-- A print job without a printer. -/
def job (pages : Value) : Document :=
  FieldMap.insert (.ofList [("printer", .text "null")]) "pages" pages

/-- Two runs with other printers, owners, versions and pages fail alike behind the same trace. -/
theorem trace_of_similar_assigning :
    ((assigning "cellar" "O'Brien" (.unsigned 3)).apply (job (.text "many"))).trace =
      ((assigning "lab-1" "nobody" (.integer (-7))).apply (job (.integer 12))).trace ∧
    ((assigning "lab-1" "nobody" (.integer (-7))).apply (job (.integer 12))).trace.map (·.message) =
      ["replaced null marker", "filled missing field", "stamped schema version"] ∧
    ((assigning "cellar" "O'Brien" (.unsigned 3)).apply (job (.text "many"))).result =
      .error ⟨"room"⟩ := by
  have hrules : List.Forall₂ Rule.Similar (assigning "lab-1" "nobody" (.integer (-7))).rules
      (assigning "cellar" "O'Brien" (.unsigned 3)).rules :=
    .cons (.replaceNull _ ⟨rfl, by decide⟩) <| .cons (.fillMissing _ ⟨rfl, by decide⟩) <|
      .cons (.version nofun nofun ⟨rfl, rfl⟩) <| .cons (.replaceNull _ ⟨rfl, rfl⟩) .nil
  have hjobs : (job (.integer 12)).Similar (job (.text "many")) :=
    (Document.Similar.refl _).insert "pages" (by decide)
  obtain ⟨htrace, herror, -⟩ := trace_of_similar hrules hjobs
  exact ⟨htrace, by decide, (herror _).mpr rfl⟩

end Pipeline

end FieldNorm
