import FieldNorm.Command.Batch
import FieldNorm.Proofs.Pipeline.Report

/-!
What the totals of a batch count.

* `Batch.runFrom_eq_ok_iff`: a batch that succeeds leaves what its pipeline leaves of each document,
  and its totals are made of the fields that the runs report, one run after the other.
* `Batch.changedDocuments_countAll`, `Batch.get?_fieldChanges_countAll`: a document is counted if
  its run reports anything, and a field once for every run that reports it.
* `Pipeline.not_steady_iff`: a run reports the fields that differ in the end and, if it moves the
  schema field away and back, that one as well.
* `Batch.totals_of_run`: so the totals count the documents and fields that differ in the end, and
  besides the documents whose schema field has come back.
-/

namespace FieldNorm

namespace Run

/-- The fields that the run reports as changed; a run that fails reports none. -/
def changedFields (run : Run) : List String :=
  match run.result with
  | .ok changed => changed
  | .error _ => []

end Run

namespace Pipeline

variable {p : Pipeline} {d : Document}

/-- A run that misses nothing reports its changed fields. -/
lemma result_eq_ok_iff_missing? :
    (p.apply d).result = .ok (p.apply d).changedFields ↔ (p.apply d).missing? = none := by
  rw [Run.changedFields, Run.missing?]
  cases (p.apply d).result <;> simp

/-- The run moves the schema field away from its datum and back. -/
def Restores (p : Pipeline) (d : Document) : Prop :=
  (p.apply d).document.get? Document.schemaField = d.get? Document.schemaField ∧
    ¬ Steady Document.schemaField p.rules (d.get? Document.schemaField)

instance : Decidable (p.Restores d) :=
  inferInstanceAs (Decidable (_ ∧ ¬ Steady _ _ _))

/-- A field that is not steady differs in the end, or it is the schema field and comes back. -/
lemma not_steady_iff (h : (p.apply d).missing? = none) (field : String) :
    ¬ Steady field p.rules (d.get? field) ↔
      (p.apply d).document.get? field ≠ d.get? field ∨
        field = Document.schemaField ∧ p.Restores d := by
  obtain ⟨hsupplied, hget⟩ := applies_iff.mp (applies_of_missing?_eq_none h) field
  constructor
  · intro hsteady
    by_cases hsame : (p.apply d).document.get? field = d.get? field
    · have hschema : field = Document.schemaField := by
        by_contra hne
        exact hsteady (steady_of_fieldAfter_eq hsupplied (fun heq => absurd heq hne)
          (hget.symm.trans hsame))
      subst hschema
      exact .inr ⟨rfl, hsame, hsteady⟩
    · exact .inl hsame
  · rintro (hdiffers | ⟨rfl, hrestores⟩)
    · exact fun hsteady => hdiffers (hget.trans hsteady.fieldAfter_eq)
    · exact hrestores.2

/-- A run reports the fields that differ in the end, and the schema field if it comes back. -/
lemma mem_changedFields_iff (h : (p.apply d).missing? = none) (field : String) :
    field ∈ (p.apply d).changedFields ↔
      (p.apply d).document.get? field ≠ d.get? field ∨
        field = Document.schemaField ∧ p.Restores d := by
  rw [mem_changed_iff (result_eq_ok_iff_missing?.mpr h), not_steady_iff h]

/-- A run reports something if the document differs in the end or the schema field comes back. -/
lemma changedFields_ne_nil_iff (h : (p.apply d).missing? = none) :
    (p.apply d).changedFields ≠ [] ↔ (p.apply d).document ≠ d ∨ p.Restores d := by
  have hdiffers : (p.apply d).document ≠ d ↔
      ∃ field, (p.apply d).document.get? field ≠ d.get? field := by
    rw [← not_forall, not_iff_not]
    exact ⟨fun heq field => by rw [heq], FieldMap.ext_get?⟩
  rw [hdiffers, ne_eq, List.eq_nil_iff_forall_not_mem, not_forall_not]
  simp only [mem_changedFields_iff h, exists_or, exists_eq_left]

lemma nodup_changedFields (p : Pipeline) (d : Document) : (p.apply d).changedFields.Nodup := by
  rw [Run.changedFields]
  split
  · rename_i changed h
    exact nodup_changed h
  · exact List.nodup_nil

end Pipeline

namespace Command.Batch

variable {p : Pipeline} {showsData : Bool} {index : Nat} {t totals : Totals} {d : Document}
  {ds normalized : List Document} {report : List String} {field : String}

/-! ### Counting -/

/-- The totals `t` with the changes of more documents. -/
def countAll (p : Pipeline) (ds : List Document) (t : Totals) : Totals :=
  ds.foldl (fun t d => count (p.apply d).changedFields t) t

/-- The number of documents under a field that has changed in `n` of them: a field that has
changed in none is not listed. -/
def listed (n : Nat) : Option Nat := if n = 0 then none else some n

/-- **The first document of a batch that succeeds** is normalized and counted. -/
lemma runFrom_cons_eq_ok_iff :
    (runFrom p showsData index t (d :: ds)).result = .ok (normalized, totals) ↔
      (p.apply d).missing? = none ∧ ∃ others, normalized = (p.apply d).document :: others ∧
        (runFrom p showsData (index + 1) (count (p.apply d).changedFields t) ds).result =
          .ok (others, totals) := by
  rw [runFrom, Run.missing?, Run.changedFields]
  cases (p.apply d).result with
  | error e => simp
  | ok report =>
      cases h : (runFrom p showsData (index + 1) (count report t) ds).result with
      | error e => simp [h, Except.map]
      | ok later => grind [Except.map]

/-- **A batch that succeeds** normalizes every document and counts what the runs report. -/
lemma runFrom_eq_ok_iff :
    (runFrom p showsData index t ds).result = .ok (normalized, totals) ↔
      (∀ d ∈ ds, (p.apply d).missing? = none) ∧
        normalized = ds.map (fun d => (p.apply d).document) ∧ totals = countAll p ds t := by
  induction ds generalizing index t normalized with
  | nil => simp [runFrom, countAll, eq_comm]
  | cons d ds ih =>
      simp only [runFrom_cons_eq_ok_iff, ih, List.forall_mem_cons, List.map_cons, countAll,
        List.foldl_cons]
      grind

/-- A document is counted if its run reports anything. -/
lemma changedDocuments_countAll :
    (countAll p ds t).changedDocuments =
      t.changedDocuments + ds.countP fun d => (p.apply d).changedFields ≠ [] := by
  induction ds generalizing t with
  | nil => rfl
  | cons d ds ih =>
      have hcount : (countAll p (d :: ds) t).changedDocuments =
          (count (p.apply d).changedFields t).changedDocuments +
            ds.countP fun d => (p.apply d).changedFields ≠ [] := ih
      rw [hcount, count, List.countP_cons]
      by_cases h : (p.apply d).changedFields = [] <;> simp [h]
      omega

/-- A report adds one to the count of every field that it names. -/
lemma get?_fieldChanges_count (h : report.Nodup) (field : String) :
    (count report t).fieldChanges.get? field =
      if field ∈ report then some ((t.fieldChanges.get? field).getD 0 + 1)
      else t.fieldChanges.get? field := by
  rw [count]
  dsimp only
  generalize t.fieldChanges = m
  induction report generalizing m with
  | nil => rfl
  | cons key report ih =>
      obtain ⟨hkey, hreport⟩ := List.nodup_cons.mp h
      rw [List.foldl_cons, ih hreport, FieldMap.get?_insert]
      grind

/-- A field is counted once for every run that reports it. -/
lemma get?_fieldChanges_countAll (field : String) :
    (countAll p ds t).fieldChanges.get? field =
      if ds.countP (fun d => field ∈ (p.apply d).changedFields) = 0 then t.fieldChanges.get? field
      else some ((t.fieldChanges.get? field).getD 0 +
        ds.countP fun d => field ∈ (p.apply d).changedFields) := by
  induction ds generalizing t with
  | nil => rfl
  | cons d ds ih =>
      have hcount := ih (t := count (p.apply d).changedFields t)
      rw [get?_fieldChanges_count (Pipeline.nodup_changedFields p d)] at hcount
      rw [countAll, List.foldl_cons, ← countAll, hcount, List.countP_cons]
      grind

/-! ### The totals of a batch -/

/-- **What the totals of a batch count.**

* A document is counted if it differs from what it was, or if its schema field has come back.
* A field is counted for every document in which it differs from what it was, and the schema field
  also for every document in which it has come back. A field with nothing to count is not listed. -/
theorem totals_of_run (h : (run p showsData ds).result = .ok (normalized, totals)) :
    normalized = ds.map (fun d => (p.apply d).document) ∧
    totals.changedDocuments = ds.countP (fun d => (p.apply d).document ≠ d ∨ p.Restores d) ∧
    ∀ field, totals.fieldChanges.get? field =
      listed (ds.countP fun d => (p.apply d).document.get? field ≠ d.get? field ∨
        field = Document.schemaField ∧ p.Restores d) := by
  obtain ⟨hmissing, hnormalized, rfl⟩ := runFrom_eq_ok_iff.mp h
  refine ⟨hnormalized, ?_, fun field => ?_⟩
  · rw [changedDocuments_countAll, Nat.zero_add]
    refine List.countP_congr fun d hd => ?_
    simp only [decide_eq_true_eq, Pipeline.changedFields_ne_nil_iff (hmissing d hd)]
  · have hcount : (ds.countP fun d => field ∈ (p.apply d).changedFields) =
        ds.countP fun d => (p.apply d).document.get? field ≠ d.get? field ∨
          field = Document.schemaField ∧ p.Restores d := by
      refine List.countP_congr fun d hd => ?_
      simp only [decide_eq_true_eq, Pipeline.mem_changedFields_iff (hmissing d hd)]
    rw [get?_fieldChanges_countAll, hcount, listed]
    simp

/-- Two stamps, the first of which moves the schema field away from the version of the second. -/
def restamping : Pipeline where
  rules := [.stampSchema (some (.integer 1)), .stampSchema (some (.integer 2))]

/-- **A document that is left as it is can count as changed.** -/
theorem run_restamping :
    (run restamping false [.ofList [("schema", .integer 2)]]).result =
      .ok ([.ofList [("schema", .integer 2)]],
        { documents := 1, changedDocuments := 1, fieldChanges := .ofList [("schema", 1)] }) := by
  decide

theorem totals_of_run_restamping :
    (run restamping false [.ofList [("schema", .integer 2)]]).result =
        .ok ([.ofList [("schema", .integer 2)]], ⟨1, 1, .ofList [("schema", 1)]⟩) ∧
      1 = [FieldMap.ofList [("schema", Value.integer 2)]].countP fun d =>
        (restamping.apply d).document ≠ d ∨ restamping.Restores d := by
  have hrun : (run restamping false [.ofList [("schema", .integer 2)]]).result =
      .ok ([.ofList [("schema", .integer 2)]], ⟨1, 1, .ofList [("schema", 1)]⟩) := by decide
  exact ⟨hrun, (totals_of_run hrun).2.1⟩

end Command.Batch

end FieldNorm
