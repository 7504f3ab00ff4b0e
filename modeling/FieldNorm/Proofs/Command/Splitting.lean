import FieldNorm.Proofs.Command.Totals

/-!
Batches in two parts.

* `Batch.runFrom_eq_error_iff`: a batch that fails does so at the first of its documents whose run
  misses a key.
* `Batch.get?_fieldChanges_append`, `Batch.changedDocuments_append`, `Batch.documents_append`: the
  totals of two lists of documents put together are the sums of the totals of each.
* `Batch.run_append`: so a batch can be split anywhere.
-/

namespace FieldNorm

/-- The totals `sum` are those of two lists of documents put together. -/
structure Totals.IsSum (t u sum : Totals) : Prop where
  documents : sum.documents = t.documents + u.documents
  changedDocuments : sum.changedDocuments = t.changedDocuments + u.changedDocuments
  /-- A field is listed if it is listed in one of the two, with what is counted in both. -/
  fieldChanges : ∀ field, sum.fieldChanges.get? field =
    Option.merge (· + ·) (t.fieldChanges.get? field) (u.fieldChanges.get? field)

namespace Command.Batch

variable {p : Pipeline} {showsData : Bool} {index i : Nat} {t totals : Totals}
  {d : Document} {ds es normalized : List Document} {e : KeyMissing} {field : String}

/-! ### The first document that fails -/

/-- A document that fails ends the batch, and one that does not fail hands over to the others. -/
lemma runFrom_cons_eq_error_iff :
    (runFrom p showsData index t (d :: ds)).result = .error (i, e) ↔
      ((p.apply d).result = .error e ∧ i = index) ∨
        ((p.apply d).missing? = none ∧
          (runFrom p showsData (index + 1) (count (p.apply d).changedFields t) ds).result =
            .error (i, e)) := by
  rw [runFrom, Run.missing?, Run.changedFields]
  cases (p.apply d).result with
  | error missing => simp [eq_comm, and_comm]
  | ok report =>
      cases h : (runFrom p showsData (index + 1) (count report t) ds).result with
      | error failure => simp [h, Except.map]
      | ok later => simp [h, Except.map]

/-- **A batch that fails** does so at its first document that fails, and with the error of that
one; the documents in front of it have missed nothing. -/
lemma runFrom_eq_error_iff :
    (runFrom p showsData index t ds).result = .error (i, e) ↔
      ∃ before d later, ds = before ++ d :: later ∧ i = index + before.length ∧
        (∀ c ∈ before, (p.apply c).missing? = none) ∧ (p.apply d).result = .error e := by
  induction ds generalizing index t with
  | nil => simp [runFrom]
  | cons d ds ih =>
      rw [runFrom_cons_eq_error_iff, ih]
      constructor
      · rintro (⟨hfails, rfl⟩ | ⟨hd, before, c, later, rfl, rfl, hbefore, hfails⟩)
        · exact ⟨[], d, ds, rfl, rfl, by simp, hfails⟩
        · refine ⟨d :: before, c, later, rfl, ?_, List.forall_mem_cons.mpr ⟨hd, hbefore⟩, hfails⟩
          rw [List.length_cons]
          omega
      · rintro ⟨before, c, later, hsplit, rfl, hbefore, hfails⟩
        cases before with
        | nil =>
            obtain ⟨rfl, rfl⟩ := List.cons.inj hsplit
            exact .inl ⟨hfails, rfl⟩
        | cons b before =>
            obtain ⟨rfl, rfl⟩ := List.cons.inj hsplit
            rw [List.forall_mem_cons] at hbefore
            refine .inr ⟨hbefore.1, before, c, later, rfl, ?_, hbefore.2, hfails⟩
            rw [List.length_cons]
            omega

/-- A batch succeeds if no run misses anything. -/
lemma exists_run_eq_ok_iff :
    (∃ result, (run p showsData ds).result = .ok result) ↔
      ∀ d ∈ ds, (p.apply d).missing? = none := by
  constructor
  · rintro ⟨⟨normalized, totals⟩, h⟩
    exact (runFrom_eq_ok_iff.mp h).1
  · intro h
    exact ⟨_, runFrom_eq_ok_iff.mpr ⟨h, rfl, rfl⟩⟩

/-- **The index that a batch reports is the least index of a document that fails.** -/
lemma run_eq_error_iff :
    (run p showsData ds).result = .error (i, e) ↔
      ∃ d, ds[i]? = some d ∧ (p.apply d).result = .error e ∧
        ∀ j c, j < i → ds[j]? = some c → (p.apply c).missing? = none := by
  rw [run, runFrom_eq_error_iff]
  constructor
  · rintro ⟨before, d, later, rfl, rfl, hbefore, hfails⟩
    refine ⟨d, by simp, hfails, fun j c hj hc => ?_⟩
    rw [List.getElem?_append_left (by omega)] at hc
    exact hbefore c (List.mem_of_getElem? hc)
  · rintro ⟨d, hd, hfails, hbefore⟩
    obtain ⟨hi, rfl⟩ := List.getElem?_eq_some_iff.mp hd
    refine ⟨ds.take i, ds[i], ds.drop (i + 1), ?_, ?_, fun c hc => ?_, hfails⟩
    · rw [← List.drop_eq_getElem_cons hi, List.take_append_drop]
    · rw [List.length_take]
      omega
    · obtain ⟨j, hj, hc⟩ := List.mem_take_iff_getElem.mp hc
      exact hbefore j c (by omega) (List.getElem?_eq_some_iff.mpr ⟨by omega, hc⟩)

/-! ### The totals of two lists of documents -/

/-- The totals of no documents. -/
def nothing : Totals := ⟨0, 0, .empty⟩

lemma documents_countAll : (countAll p ds t).documents = t.documents + ds.length := by
  induction ds generalizing t with
  | nil => rfl
  | cons d ds ih =>
      have hcount : (countAll p (d :: ds) t).documents =
          t.documents + 1 + ds.length := ih
      rw [hcount, List.length_cons]
      omega

lemma documents_append :
    (countAll p (ds ++ es) nothing).documents =
      (countAll p ds nothing).documents + (countAll p es nothing).documents := by
  simp only [documents_countAll, List.length_append, nothing]
  omega

lemma changedDocuments_append :
    (countAll p (ds ++ es) nothing).changedDocuments =
      (countAll p ds nothing).changedDocuments + (countAll p es nothing).changedDocuments := by
  simp only [changedDocuments_countAll, List.countP_append, nothing]
  omega

/-- What has been counted in none of the documents is not listed, and is as good as zero. -/
lemma merge_listed (m n : Nat) :
    Option.merge (· + ·) (listed m) (listed n) = listed (m + n) := by
  by_cases hm : m = 0 <;> by_cases hn : n = 0 <;> simp [listed, hm, hn]

/-- A field is listed with the number of runs that report it. -/
lemma get?_fieldChanges_nothing (p : Pipeline) (ds : List Document) (field : String) :
    (countAll p ds nothing).fieldChanges.get? field =
      listed (ds.countP fun d => field ∈ (p.apply d).changedFields) := by
  rw [get?_fieldChanges_countAll, listed]
  simp [nothing]

lemma get?_fieldChanges_append (field : String) :
    (countAll p (ds ++ es) nothing).fieldChanges.get? field =
      Option.merge (· + ·) ((countAll p ds nothing).fieldChanges.get? field)
        ((countAll p es nothing).fieldChanges.get? field) := by
  simp only [get?_fieldChanges_nothing, List.countP_append, merge_listed]

lemma isSum_countAll (p : Pipeline) (ds es : List Document) :
    Totals.IsSum (countAll p ds nothing) (countAll p es nothing)
      (countAll p (ds ++ es) nothing) where
  documents := documents_append
  changedDocuments := changedDocuments_append
  fieldChanges := get?_fieldChanges_append

/-! ### Splitting -/

/-- **A batch can be split anywhere.**

* It succeeds exactly if both parts do. Then its documents are those of the first part and behind
  them those of the second one, and its totals are the sums of theirs.
* If the first part fails, the batch fails with the same error at the same index.
* If only the second part fails, the batch fails with its error, at an index that counts the
  documents of the first part as well.
* The index is always the least one of a document that fails. -/
theorem run_append (p : Pipeline) (showsData : Bool) (ds es : List Document) :
    ((∃ result, (run p showsData (ds ++ es)).result = .ok result) ↔
      (∃ result, (run p showsData ds).result = .ok result) ∧
        ∃ result, (run p showsData es).result = .ok result) ∧
    (∀ first t second u, (run p showsData ds).result = .ok (first, t) →
      (run p showsData es).result = .ok (second, u) →
        ∃ sum, (run p showsData (ds ++ es)).result = .ok (first ++ second, sum) ∧
          t.IsSum u sum) ∧
    (∀ i e, (run p showsData ds).result = .error (i, e) →
      (run p showsData (ds ++ es)).result = .error (i, e)) ∧
    (∀ first t j e, (run p showsData ds).result = .ok (first, t) →
      (run p showsData es).result = .error (j, e) →
        (run p showsData (ds ++ es)).result = .error (ds.length + j, e)) ∧
    ∀ i e, (run p showsData (ds ++ es)).result = .error (i, e) →
      ∃ d, (ds ++ es)[i]? = some d ∧ (p.apply d).result = .error e ∧
        ∀ j c, j < i → (ds ++ es)[j]? = some c → (p.apply c).missing? = none := by
  refine ⟨?success, ?sums, ?first, ?second, fun i e h => run_eq_error_iff.mp h⟩
  case success => simp only [exists_run_eq_ok_iff, List.forall_mem_append]
  case sums =>
    intro first t second u hfirst hsecond
    obtain ⟨hds, rfl, rfl⟩ := runFrom_eq_ok_iff.mp hfirst
    obtain ⟨hes, rfl, rfl⟩ := runFrom_eq_ok_iff.mp hsecond
    refine ⟨countAll p (ds ++ es) nothing, ?_, isSum_countAll p ds es⟩
    refine runFrom_eq_ok_iff.mpr ⟨List.forall_mem_append.mpr ⟨hds, hes⟩, ?_, rfl⟩
    rw [List.map_append]
  case first =>
    intro i e h
    obtain ⟨before, d, later, rfl, hi, hbefore, hfails⟩ := runFrom_eq_error_iff.mp h
    exact runFrom_eq_error_iff.mpr
      ⟨before, d, later ++ es, by simp, hi, hbefore, hfails⟩
  case second =>
    intro first t j e hfirst hsecond
    obtain ⟨hds, -, -⟩ := runFrom_eq_ok_iff.mp hfirst
    obtain ⟨before, d, later, rfl, hj, hbefore, hfails⟩ := runFrom_eq_error_iff.mp hsecond
    refine runFrom_eq_error_iff.mpr ⟨ds ++ before, d, later, by simp, ?_,
      List.forall_mem_append.mpr ⟨hds, hbefore⟩, hfails⟩
    rw [List.length_append]
    omega

/-- A pipeline for documents that have a printer. -/
def printing : Pipeline where
  rules := [.replaceNull "printer" (.text "lab-1"), .fillMissing "quota" (.integer 50)]

def printers : List Document :=
  [.ofList [("printer", .text "null")], .ofList [("printer", .null), ("quota", .integer 1)]]

/-- The second document of the second part has no printer. -/
def strays : List Document := [.ofList [("printer", .text "lab-2")], .ofList [("id", .integer 9)]]

/-- The first part is counted; the batch fails where its second part does. -/
theorem run_append_printing :
    (run printing false printers).result =
        .ok ([.ofList [("printer", .text "lab-1"), ("quota", .integer 50)],
          .ofList [("printer", .null), ("quota", .integer 1)]],
          ⟨2, 1, .ofList [("printer", 1), ("quota", 1)]⟩) ∧
      (run printing false strays).result = .error (1, ⟨"printer"⟩) ∧
      (run printing false (printers ++ strays)).result = .error (3, ⟨"printer"⟩) ∧
      ∃ sum, (run printing false (printers ++ printers)).result =
        .ok ([.ofList [("printer", .text "lab-1"), ("quota", .integer 50)],
          .ofList [("printer", .null), ("quota", .integer 1)]] ++
            [.ofList [("printer", .text "lab-1"), ("quota", .integer 50)],
              .ofList [("printer", .null), ("quota", .integer 1)]], sum) ∧
        sum.changedDocuments = 2 := by
  have hprinters : (run printing false printers).result =
      .ok ([.ofList [("printer", .text "lab-1"), ("quota", .integer 50)],
        .ofList [("printer", .null), ("quota", .integer 1)]],
        ⟨2, 1, .ofList [("printer", 1), ("quota", 1)]⟩) := by decide
  have hstrays : (run printing false strays).result = .error (1, ⟨"printer"⟩) := by decide
  obtain ⟨-, -, -, hsecond, -⟩ := run_append printing false printers strays
  obtain ⟨-, hsums, -⟩ := run_append printing false printers printers
  obtain ⟨sum, hrun, hsum⟩ := hsums _ _ _ _ hprinters hprinters
  exact ⟨hprinters, hstrays, hsecond _ _ _ _ hprinters hstrays, sum, hrun, hsum.changedDocuments⟩

end Command.Batch

end FieldNorm
