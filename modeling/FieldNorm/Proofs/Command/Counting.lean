import FieldNorm.Proofs.Command.Course
import FieldNorm.Proofs.Command.Splitting
import FieldNorm.Proofs.Pipeline.Difference
import Mathlib.Algebra.GroupWithZero.Nat

/-!
How the totals of a normalize command hang together.

The changed documents and the fields that changed are counted apart. What ties them is that a run
reports no field twice: then a document that counts as changed adds at least one to the counts of
the fields, and at most one to each.

* `Totals.Consistent`: the bounds between the counts, kept by one more document
  (`Batch.consistent_count`) and so by a list of them (`Batch.consistent_countAll`).
* `normalize_totals_consistent`: the totals that a normalize command gives.
-/

namespace FieldNorm

/-! ### Sums of counts -/

namespace FieldMap

/-- The sum over a sorted list grows by what is put under a key, less what has been there. -/
lemma sum_insertEntry (key : String) (n : Nat) {l : List (String × Nat)}
    (h : l.Pairwise (·.1 < ·.1)) :
    ((insertEntry key n l).map (·.2)).sum + (l.lookup key).getD 0 = (l.map (·.2)).sum + n := by
  induction l with
  | nil => simp [insertEntry]
  | cons entry rest ih =>
      obtain ⟨hentry, hrest⟩ := List.pairwise_cons.mp h
      rw [insertEntry]
      split_ifs with hlt heq
      · have habsent : (entry :: rest).lookup key = none := by
          refine List.lookup_eq_none_iff.mpr (List.forall_mem_cons.mpr ⟨?_, fun x hx => ?_⟩)
          · exact bne_iff_ne.mpr (String.ne_of_lt hlt)
          · exact bne_iff_ne.mpr (String.ne_of_lt (String.lt_trans hlt (hentry x hx)))
        rw [habsent]
        simp only [List.map_cons, List.sum_cons, Option.getD_none]
        omega
      · rw [List.lookup_cons, beq_iff_eq.mpr heq]
        simp only [List.map_cons, List.sum_cons, Option.getD_some]
        omega
      · rw [List.lookup_cons, beq_eq_false_iff_ne.mpr heq]
        have hlater := ih hrest
        simp only [List.map_cons, List.sum_cons]
        omega

end FieldMap

namespace Totals

/-- The sum of the counts of all fields. -/
def changes (t : Totals) : Nat := (t.fieldChanges.entries.map (·.2)).sum

/-- **The counts hang together**: there are no more changed documents than documents, every field
that is listed is the target of a rule and has changed in some of the changed documents, and no
document counts as changed without a field. -/
structure Consistent (rules : List Rule) (t : Totals) : Prop where
  changed_le : t.changedDocuments ≤ t.documents
  aimed : ∀ field n, t.fieldChanges.get? field = some n → ∃ rule ∈ rules, rule.target = field
  bounds : ∀ field n, t.fieldChanges.get? field = some n → 1 ≤ n ∧ n ≤ t.changedDocuments
  le_changes : t.changedDocuments ≤ t.changes

/-- No document has changed if no field has. -/
lemma Consistent.eq_zero_iff {rules : List Rule} {t : Totals} (h : t.Consistent rules) :
    t.changedDocuments = 0 ↔ t.fieldChanges.entries = [] := by
  constructor
  · intro hzero
    refine List.eq_nil_iff_forall_not_mem.mpr fun x hx => ?_
    have hbounds := h.bounds x.1 x.2 (FieldMap.get?_eq_some_iff.mpr hx)
    omega
  · intro hempty
    have hle := h.le_changes
    rw [changes, hempty] at hle
    exact Nat.le_zero.mp hle

end Totals

namespace Pipeline

/-- Some rule aims at every field that a run reports. -/
lemma exists_target_of_mem_changedFields {p : Pipeline} {d : Document} {field : String}
    (h : field ∈ (p.apply d).changedFields) : ∃ rule ∈ p.rules, rule.target = field := by
  rw [Run.changedFields] at h
  split at h
  · rename_i changed hresult
    exact exists_target_of_not_steady ((mem_changed_iff hresult field).mp h)
  · cases h

end Pipeline

namespace Command

namespace Batch

variable {p : Pipeline} {rules : List Rule} {t : Totals} {report : List String}

/-! ### One more document -/

/-- A report adds one to the sum of all counts for every field that it names. -/
lemma changes_count (report : List String) (t : Totals) :
    (count report t).changes = t.changes + report.length := by
  rw [Totals.changes, Totals.changes, count]
  dsimp only
  generalize t.fieldChanges = m
  induction report generalizing m with
  | nil => rfl
  | cons field report ih =>
      have hinsert : ((m.insert field ((m.get? field).getD 0 + 1)).entries.map (·.2)).sum +
          (m.get? field).getD 0 = (m.entries.map (·.2)).sum + ((m.get? field).getD 0 + 1) :=
        FieldMap.sum_insertEntry field _ m.sorted
      rw [List.foldl_cons, ih, List.length_cons]
      omega

/-- **One more document keeps the counts together**, if its run reports no field twice and only
targets of rules. -/
lemma consistent_count (h : t.Consistent rules) (hnodup : report.Nodup)
    (htargets : ∀ field ∈ report, ∃ rule ∈ rules, rule.target = field) :
    (count report t).Consistent rules where
  changed_le := by
    have hle := h.changed_le
    simp only [count]
    split <;> omega
  aimed := by
    intro field n hn
    rw [get?_fieldChanges_count hnodup] at hn
    split_ifs at hn with hmem
    · exact htargets field hmem
    · exact h.aimed field n hn
  bounds := by
    intro field n hn
    rw [get?_fieldChanges_count hnodup] at hn
    split_ifs at hn with hmem
    · -- the field is reported, so the document counts as well
      obtain rfl := Option.some.inj hn
      have hchanged : (count report t).changedDocuments = t.changedDocuments + 1 := by
        rw [count, if_neg fun hempty => by simp_all]
      rw [hchanged]
      cases hfield : t.fieldChanges.get? field with
      | none => simp
      | some m =>
          have hbounds := h.bounds field m hfield
          rw [Option.getD_some]
          omega
    · have hbounds := h.bounds field n hn
      simp only [count]
      omega
  le_changes := by
    have hle := h.le_changes
    rw [changes_count]
    cases report with
    | nil => exact hle
    | cons field report =>
        simp only [count, List.isEmpty_cons, Bool.false_eq_true, if_false, List.length_cons]
        omega

/-- **A list of documents keeps the counts together.** -/
lemma consistent_countAll (p : Pipeline) (ds : List Document) (h : t.Consistent p.rules) :
    (countAll p ds t).Consistent p.rules := by
  induction ds generalizing t with
  | nil => exact h
  | cons d ds ih =>
      exact ih (consistent_count h (Pipeline.nodup_changedFields p d) fun _ =>
        Pipeline.exists_target_of_mem_changedFields)

lemma consistent_nothing (rules : List Rule) : nothing.Consistent rules where
  changed_le := Nat.le_refl _
  aimed := nofun
  bounds := nofun
  le_changes := Nat.le_refl _

/-- The totals of a batch that succeeds hang together. -/
lemma consistent_of_run {showsData : Bool} {ds es : List Document}
    (h : (run p showsData ds).result = .ok (es, t)) :
    t.documents = ds.length ∧ t.Consistent p.rules := by
  obtain ⟨-, -, rfl⟩ := runFrom_eq_ok_iff.mp h
  refine ⟨?_, consistent_countAll p ds (consistent_nothing p.rules)⟩
  rw [documents_countAll, Nat.zero_add]

end Batch

/-! ### The totals of a command -/

variable {request : NormalizeRequest} {showsData : Bool} {s s' : Scene} {report : NormalizeReport}

namespace NormalizeRequest

/-- The task that closes a command gives the report that has been made. -/
lemma eq_of_closing {events : List Log.Event} {made : NormalizeReport}
    (h : (do Task.report events; return made : Task NormalizeReport).run.run s =
      (.ok report, s')) : report = made := by
  obtain ⟨_, m, -, hreturn⟩ := Task.bind_run_eq_ok_iff.mp h
  cases hreturn
  rfl

/-- The totals of a command are those of its batch. -/
lemma totals_of_complete {es : List Document} {totals : Totals}
    (h : (request.complete es totals).run.run s = (.ok report, s')) : report.totals = totals := by
  rw [complete] at h
  cases houtput : request.output with
  | some path =>
      rw [houtput] at h
      obtain ⟨_, m, -, hclosing⟩ := Task.bind_run_eq_ok_iff.mp h
      exact congrArg NormalizeReport.totals (eq_of_closing hclosing)
  | none =>
      rw [houtput] at h
      obtain ⟨_, m, -, hclosing⟩ := Task.bind_run_eq_ok_iff.mp h
      exact congrArg NormalizeReport.totals (eq_of_closing hclosing)

end NormalizeRequest

/-- **The totals of a normalize command hang together.** With the rules it carries out, which are
those it loads and the version that was typed, and with the documents it loads:

* all documents are counted, and no more of them as changed;
* every field that is listed is the target of one of the rules, and has changed in at least one
  document and in no more than the changed ones;
* the counts of the fields add up to the number of changed documents at least;
* no document has changed exactly if no field is listed. -/
theorem normalize_totals_consistent
    (h : (normalize request showsData).run.run s = (.ok report, s')) :
    ∃ loaded ds, loadPipeline s.workspace request.rules = .ok loaded ∧
      (∃ m, s.OnlyLogs m ∧ loadDocuments m.workspace request.input = .ok ds) ∧
      report.totals.documents = ds.length ∧
      report.totals.changedDocuments ≤ report.totals.documents ∧
      (∀ field n, (field, n) ∈ report.totals.fieldChanges.entries →
        (∃ rule ∈ (request.pipeline loaded).rules, rule.target = field) ∧
          1 ≤ n ∧ n ≤ report.totals.changedDocuments) ∧
      report.totals.changedDocuments ≤ (report.totals.fieldChanges.entries.map (·.2)).sum ∧
      (report.totals.changedDocuments = 0 ↔ report.totals.fieldChanges.entries = []) := by
  obtain ⟨loaded, ds, es, totals, m, m', hrules, hlogs, hdocuments, hresult, -, hcomplete⟩ :=
    stages_of_run h
  obtain ⟨hlength, hconsistent⟩ := Batch.consistent_of_run hresult
  rw [NormalizeRequest.totals_of_complete hcomplete]
  refine ⟨loaded, ds, hrules, ⟨m, hlogs, hdocuments⟩, hlength, hconsistent.changed_le,
    fun field n hn => ?_, hconsistent.le_changes, hconsistent.eq_zero_iff⟩
  have hlisted := FieldMap.get?_eq_some_iff.mpr hn
  exact ⟨hconsistent.aimed field n hlisted, hconsistent.bounds field n hlisted⟩

/-- The first printer lacks everything, the second nothing. -/
def printersText : String :=
  "[\x7b\"name\": \"null\"\x7d, \x7b\"name\": \"lab-2\", \"quota\": 50, \"schema\": 3\x7d]"

/-- The stamp among the rules gives way to the version that is typed. -/
def supplyingText : String :=
  "\x7b\"rules\": [\x7b\"op\": \"stamp_schema\", \"version\": 1\x7d, " ++
    "\x7b\"op\": \"replace_null\", \"field\": \"name\", \"value\": \"lab-1\"\x7d, " ++
    "\x7b\"op\": \"fill_missing\", \"field\": \"quota\", \"value\": 50\x7d]\x7d"

def supplyingScene : Scene :=
  .initial
    { entries := .ofList
        [("in.json", .file printersText.toUTF8), ("rules.json", .file supplyingText.toUTF8)] } none

def supplyingRequest : NormalizeRequest where
  input := "in.json"
  rules := "rules.json"
  output := none
  schemaVersion := some "3"

/-- One of two documents changes, and in three fields. -/
theorem normalize_totals_consistent_supplying :
    ∃ report s', (normalize supplyingRequest false).run.run supplyingScene = (.ok report, s') ∧
      report.totals = ⟨2, 1, .ofList [("name", 1), ("quota", 1), ("schema", 1)]⟩ ∧
      ∃ loaded, ∃ ds : List Document,
        loadPipeline supplyingScene.workspace "rules.json" = .ok loaded ∧
        report.totals.documents = ds.length ∧
        (∃ rule ∈ (supplyingRequest.pipeline loaded).rules, rule.target = "quota") ∧
        1 ≤ report.totals.changedDocuments ∧
        report.totals.changedDocuments ≤ (report.totals.fieldChanges.entries.map (·.2)).sum := by
  have htotals : ((normalize supplyingRequest false).run.run supplyingScene).1.toOption =
      some ⟨⟨2, 1, .ofList [("name", 1), ("quota", 1), ("schema", 1)]⟩, none⟩ := by decide +kernel
  cases hrun : (normalize supplyingRequest false).run.run supplyingScene with
  | mk result s' =>
      rw [hrun] at htotals
      cases result with
      | error e => cases htotals
      | ok report =>
          obtain rfl := Option.some.inj htotals
          obtain ⟨loaded, ds, hrules, -, hlength, -, hlisted, hsum, -⟩ :=
            normalize_totals_consistent hrun
          obtain ⟨haimed, -, hle⟩ := hlisted "quota" 1 (by decide)
          exact ⟨_, s', rfl, rfl, loaded, ds, hrules, hlength, haimed, hle, hsum⟩

end Command

end FieldNorm
