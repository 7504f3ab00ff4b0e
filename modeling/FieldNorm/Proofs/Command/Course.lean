import FieldNorm.Proofs.Command.Steps

/-!
The course of the two commands.

* `careful_normalize`: a normalize command that fails has changed nothing but the log, since it
  writes last. `discreet_statements`: nor does the other command, whatever comes of it.
* `stages_of_run`: what a normalize command that succeeds has loaded, what its batch has given, and
  the step that is left. `Course` is everything that it does (`course_of_run`).
* `exists_run`: when it succeeds, told from the files it starts from.
-/

namespace FieldNorm.Command

open Command.Task
open Workspace (SameBut keyOf)

variable {request : NormalizeRequest} {showsData : Bool} {s s' : Scene} {loaded : Pipeline}
  {ds es : List Document} {totals : Totals} {report : NormalizeReport}

/-! ### The end of a normalize command -/

namespace NormalizeRequest

/-- What is left to do behind the output changes nothing but the log, and cannot fail. -/
lemma discreet_closing (events : List Log.Event) (report : NormalizeReport) :
    Discreet (do Task.report events; return report) :=
  (discreet_report events).bind fun _ => discreet_pure report

lemma neverFails_closing (events : List Log.Event) (report : NormalizeReport) :
    NeverFails (do Task.report events; return report) :=
  (neverFails_report events).bind fun _ => neverFails_pure report

lemma careful_complete (request : NormalizeRequest) (es : List Document) (totals : Totals) :
    Careful (request.complete es totals) := by
  rw [complete]
  cases request.output with
  | some path => exact (careful_write _ _).bind_neverFails fun _ => neverFails_closing _ _
  | none => exact ((neverFails_print _).bind fun _ => neverFails_closing _ _).careful

lemma puts_of_complete (h : (request.complete es totals).run.run s = (.ok report, s')) :
    ∃ m, s.Puts request.output (outputText es) m ∧ m.OnlyLogs s' := by
  rw [complete] at h
  cases houtput : request.output with
  | some path =>
      rw [houtput] at h
      obtain ⟨_, m, hput, h⟩ := bind_run_eq_ok_iff.mp h
      exact ⟨m, write_run_eq_ok_iff.mp hput, (discreet_closing _ _).onlyLogs h⟩
  | none =>
      rw [houtput] at h
      obtain ⟨_, m, hput, h⟩ := bind_run_eq_ok_iff.mp h
      exact ⟨m, print_run_eq_ok_iff.mp hput, (discreet_closing _ _).onlyLogs h⟩

lemma exists_complete (h : ∃ m, s.Puts request.output (outputText es) m) :
    ∃ report s', (request.complete es totals).run.run s = (.ok report, s') := by
  obtain ⟨m, hput⟩ := h
  rw [complete]
  cases houtput : request.output with
  | some path =>
      rw [houtput] at hput
      dsimp only
      rw [bind_run (write_run_eq_ok_iff.mpr hput)]
      exact neverFails_closing _ _ m
  | none =>
      rw [houtput] at hput
      dsimp only
      rw [bind_run (print_run_eq_ok_iff.mpr hput)]
      exact neverFails_closing _ _ m

/-! ### A normalize command as a whole -/

/-- The documents as they are written. -/
def normalized (request : NormalizeRequest) (loaded : Pipeline) (ds : List Document) :
    List Document :=
  ds.map fun d => ((request.pipeline loaded).apply d).document

end NormalizeRequest

/-- What a normalize command does on the way from `s` to `s'`, with the rules and the documents it
loads: no document misses a key, and the text of all of them is put where it belongs. Before and
behind that nothing is changed but the log. -/
structure Course (request : NormalizeRequest) (loaded : Pipeline) (ds : List Document)
    (s s' : Scene) : Prop where
  rules_eq : loadPipeline s.workspace request.rules = .ok loaded
  documents_eq : ∃ m, s.OnlyLogs m ∧ loadDocuments m.workspace request.input = .ok ds
  missing?_eq : ∀ d ∈ ds, ((request.pipeline loaded).apply d).missing? = none
  puts : ∃ m m', s.OnlyLogs m ∧
    m.Puts request.output (outputText (request.normalized loaded ds)) m' ∧ m'.OnlyLogs s'

/-- **A normalize command that fails has changed nothing but the log.** -/
lemma careful_normalize (request : NormalizeRequest) (showsData : Bool) :
    Careful (normalize request showsData) := by
  rw [normalize]
  refine (discreet_enter _).bind_careful fun _ => (discreet_load _).bind_careful fun loaded =>
    (discreet_report _).bind_careful fun _ => (discreet_load _).bind_careful fun ds =>
    (discreet_report _).bind_careful fun _ => (discreet_report _).bind_careful fun _ => ?_
  cases (Batch.run _ showsData ds).result with
  | error e => exact (discreet_throw _).careful
  | ok found => exact request.careful_complete found.1 found.2

/-- **The stages of a normalize command that succeeds**: rules and documents are loaded, all of the
documents are normalized, and what comes of them is put out. In front of that nothing is changed but
the log. -/
lemma stages_of_run (h : (normalize request showsData).run.run s = (.ok report, s')) :
    ∃ loaded ds es totals m m', loadPipeline s.workspace request.rules = .ok loaded ∧
      s.OnlyLogs m ∧ loadDocuments m.workspace request.input = .ok ds ∧
      (Batch.run (request.pipeline loaded) showsData ds).result = .ok (es, totals) ∧
      s.OnlyLogs m' ∧ (request.complete es totals).run.run m' = (.ok report, s') := by
  rw [normalize] at h
  obtain ⟨_, s₁, henter, h⟩ := bind_run_eq_ok_iff.mp h
  obtain ⟨loaded, s₂, hloaded, h⟩ := bind_run_eq_ok_iff.mp h
  obtain ⟨_, s₃, hwarn, h⟩ := bind_run_eq_ok_iff.mp h
  obtain ⟨ds, s₄, hds, h⟩ := bind_run_eq_ok_iff.mp h
  obtain ⟨_, s₅, hinput, h⟩ := bind_run_eq_ok_iff.mp h
  obtain ⟨_, s₆, hbatch, h⟩ := bind_run_eq_ok_iff.mp h
  have hfirst : s.OnlyLogs s₃ :=
    (((discreet_enter _).onlyLogs henter).trans ((discreet_load _).onlyLogs hloaded)).trans
      ((discreet_report _).onlyLogs hwarn)
  have hsecond : s₃.OnlyLogs s₆ :=
    (((discreet_load _).onlyLogs hds).trans ((discreet_report _).onlyLogs hinput)).trans
      ((discreet_report _).onlyLogs hbatch)
  have hworkspace : s₁.workspace = s.workspace := by
    cases henter
    rfl
  have hrules := (load_run_eq_ok_iff.mp hloaded).1
  have hdocuments := (load_run_eq_ok_iff.mp hds).1
  rw [hworkspace] at hrules
  cases hresult : (Batch.run (request.pipeline loaded) showsData ds).result with
  | error e =>
      rw [hresult] at h
      cases h
  | ok found =>
      rw [hresult] at h
      exact ⟨loaded, ds, found.1, found.2, s₃, s₆, hrules, hfirst, hdocuments, hresult,
        hfirst.trans hsecond, h⟩

/-- **The course of a normalize command that succeeds.** -/
lemma course_of_run (h : (normalize request showsData).run.run s = (.ok report, s')) :
    ∃ loaded ds, Course request loaded ds s s' := by
  obtain ⟨loaded, ds, es, totals, m, m', hrules, hlogs, hdocuments, hresult, hlogs', hcomplete⟩ :=
    stages_of_run h
  obtain ⟨hmissing, rfl, -⟩ := Batch.runFrom_eq_ok_iff.mp hresult
  obtain ⟨m'', hput, hclosing⟩ := NormalizeRequest.puts_of_complete hcomplete
  exact ⟨loaded, ds, hrules, ⟨m, hlogs, hdocuments⟩, hmissing, m', m'', hlogs', hput, hclosing⟩

/-- The documents are those of the file as it was before the run, unless the log is kept in it. -/
lemma Course.loadDocuments_eq (h : Course request loaded ds s s')
    (hinput : keyOf request.input ∉ s.logKeys) :
    loadDocuments s.workspace request.input = .ok ds := by
  obtain ⟨m, hlogs, hds⟩ := h.documents_eq
  exact (loadDocuments_iff_of_sameBut hlogs.files hinput).mp hds

/-- What has been put out is there in the end, unless the log is kept in the same file. -/
lemma Course.shows (h : Course request loaded ds s s')
    (houtput : ∀ path ∈ request.output, keyOf path ∉ s.logKeys) :
    s.Shows request.output (outputText (request.normalized loaded ds)) s' := by
  obtain ⟨m, m', hbefore, hput, hbehind⟩ := h.puts
  have hkeys : m'.logKeys = s.logKeys := hput.logKeys_eq.trans hbefore.logKeys_eq
  exact hput.shows.of_onlyLogs hbefore hbehind (hkeys ▸ houtput)

/-- The log is kept where it was kept before. -/
lemma Course.logKeys_eq (h : Course request loaded ds s s') : s'.logKeys = s.logKeys := by
  obtain ⟨m, m', hbefore, hput, hbehind⟩ := h.puts
  rw [hbehind.logKeys_eq, hput.logKeys_eq, hbefore.logKeys_eq]

/-- No file is changed but that of the output and that of the log. -/
lemma Course.files (h : Course request loaded ds s s') :
    SameBut (Scene.outputKeys request.output ++ s.logKeys) s.workspace s'.workspace := by
  obtain ⟨m, m', hbefore, hput, hbehind⟩ := h.puts
  have hkeys : m'.logKeys = s.logKeys := hput.logKeys_eq.trans hbefore.logKeys_eq
  exact ((hbefore.files.mono (List.subset_append_right _ _)).trans
    (hput.files.mono (List.subset_append_left _ _))).trans
      (hbehind.files.mono (hkeys ▸ List.subset_append_right _ _))

lemma exists_run_eq_ok (showsData : Bool)
    (hrules : loadPipeline s.workspace request.rules = .ok loaded)
    (hdocuments : loadDocuments s.workspace request.input = .ok ds)
    (hinput : keyOf request.input ∉ s.logKeys)
    (hmissing : ∀ d ∈ ds, ((request.pipeline loaded).apply d).missing? = none)
    (hput : s.CanPut request.output) :
    ∃ report s', (normalize request showsData).run.run s = (.ok report, s') := by
  let m : Scene :=
    { s with span := some { name := "normalize", datumName := "input", datum := request.input } }
  have henter : (Task.enter { name := "normalize", datumName := "input", datum := request.input }
    ).run.run s = (.ok (), m) := rfl
  have hlogs : s.OnlyLogs (m.report (ruleWarnings request.rules loaded)) :=
    ((discreet_enter _).onlyLogs henter).trans (m.onlyLogs_report _)
  have hds := (loadDocuments_iff_of_sameBut hlogs.files hinput).mpr hdocuments
  have hresult : (Batch.run (request.pipeline loaded) showsData ds).result =
      .ok (request.normalized loaded ds, Batch.countAll (request.pipeline loaded) ds _) :=
    Batch.runFrom_eq_ok_iff.mpr ⟨hmissing, rfl, rfl⟩
  rw [normalize, bind_run henter, bind_run (load_run hrules), bind_run (report_run _ _),
    bind_run (load_run hds), bind_run (report_run _ _), bind_run (report_run _ _), hresult]
  refine NormalizeRequest.exists_complete (Scene.OnlyLogs.exists_puts ?_ hput _)
  exact (hlogs.trans (Scene.onlyLogs_report _ _)).trans (Scene.onlyLogs_report _ _)

/-- **When a normalize command succeeds**: rules and documents can be loaded, no document misses a
key, and there is room for the output. -/
lemma exists_run (showsData : Bool) (hrules : loadPipeline s.workspace request.rules = .ok loaded)
    (hdocuments : loadDocuments s.workspace request.input = .ok ds)
    (hinput : keyOf request.input ∉ s.logKeys)
    (hmissing : ∀ d ∈ ds, ((request.pipeline loaded).apply d).missing? = none)
    (hput : s.CanPut request.output) :
    ∃ report s', (normalize request showsData).run.run s = (.ok report, s') ∧
      Course request loaded ds s s' := by
  obtain ⟨report, s', hrun⟩ := exists_run_eq_ok showsData hrules hdocuments hinput hmissing hput
  obtain ⟨loaded', ds', hcourse⟩ := course_of_run hrun
  obtain rfl := Except.ok.inj (hcourse.rules_eq.symm.trans hrules)
  obtain rfl := Except.ok.inj ((hcourse.loadDocuments_eq hinput).symm.trans hdocuments)
  exact ⟨report, s', hrun, hcourse⟩

/-! ### The other command -/

lemma discreet_statements (request : SqlRequest) : Discreet (statements request) := by
  rw [statements]
  exact (discreet_enter _).bind fun _ => (discreet_load _).bind fun ds =>
    (discreet_report _).bind fun _ => (discreet_report _).bind fun _ => discreet_pure _

end FieldNorm.Command
