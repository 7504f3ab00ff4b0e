import FieldNorm.Proofs.Command.Canonical

/-!
What a run of the program leaves behind.

* `careful_task`: a subcommand that fails has changed nothing but the log.
* `Invocation.run_cases`: the log cannot be opened, or the subcommand is carried out behind it.
* `outcome_of_run`: a run that fails puts nothing out and leaves all files alone but that of the
  log. A run that normalizes documents into a file leaves the lines of the documents there and
  changes no other.
-/

namespace FieldNorm.Command

open Workspace (SameBut keyOf)

variable {w v : Workspace} {recorder : Recorder} {fromOutside : Option String} {i : Invocation}
  {request : NormalizeRequest} {arguments : List String}

/-! ### Subcommands -/

/-- **A subcommand that fails has changed nothing but the log.** -/
lemma careful_task (showsData : Bool) (subcommand : Subcommand) :
    Task.Careful (subcommand.task showsData) := by
  cases subcommand with
  | normalize request =>
      rw [Subcommand.task]
      exact (careful_normalize request showsData).bind_neverFails fun _ => Task.neverFails_pure _
  | sql request =>
      rw [Subcommand.task]
      refine (discreet_statements request).bind_careful fun texts => ?_
      dsimp only
      rw [Sink.writeStatements_succeeds rfl rfl texts]
      exact ((Task.neverFails_print _).bind fun _ => Task.neverFails_pure _).careful

/-! ### Runs -/

/-- The key of the log file that is named on the command line, if one is. -/
def logKeysOf (arguments : List String) : List String :=
  match Invocation.read arguments with
  | .ok i => (i.logFile.map keyOf).toList
  | .error _ => []

/-- To open the log changes nothing but its file. -/
lemma files_of_openLog (h : openLog w recorder = .ok v) :
    SameBut (recorder.file.map keyOf).toList w v := by
  rw [openLog] at h
  split at h
  · obtain rfl := Except.ok.inj h
    exact .refl _ _
  · rename_i path hfile
    rw [hfile]
    exact .of_update h

/-- **A run of a command line**: its log cannot be opened, or the subcommand is carried out with the
log open and tells what is left behind. -/
lemma Invocation.run_cases (i : Invocation) (fromOutside : Option String) (w : Workspace) :
    ((i.run fromOutside w).exitCode = 1 ∧ (i.run fromOutside w).output = .empty ∧
      (i.run fromOutside w).workspace = w) ∨
    ∃ v result s, openLog w (i.recorder fromOutside) = .ok v ∧
      (i.subcommand.task i.showsData).run.run (.initial v (some (i.recorder fromOutside))) =
        (result, s) ∧
      (i.run fromOutside w).output = s.output ∧ (i.run fromOutside w).workspace = s.workspace ∧
      (i.run fromOutside w).exitCode = (match result with | .ok _ => 0 | .error _ => 1) := by
  rw [run]
  split
  · exact .inl ⟨rfl, rfl, rfl⟩
  · rename_i v hopen
    split
    · rename_i message s hrun
      exact .inr ⟨v, .ok message, s, hopen, hrun, rfl, rfl, rfl⟩
    · rename_i e s hrun
      exact .inr ⟨v, .error e, s, hopen, hrun, rfl, rfl, rfl⟩

namespace Invocation

/-- A command line that fails puts nothing out and changes nothing but the log. -/
lemma leaves_alone_of_run (h : (i.run fromOutside w).exitCode ≠ 0) :
    (i.run fromOutside w).output = .empty ∧
      SameBut (i.logFile.map keyOf).toList w (i.run fromOutside w).workspace := by
  rcases i.run_cases fromOutside w with
    ⟨-, houtput, hworkspace⟩ | ⟨v, result, s, hopen, hrun, houtput, hworkspace, hexit⟩
  · rw [hworkspace]
    exact ⟨houtput, .refl _ _⟩
  · cases result with
    | ok message => exact absurd hexit h
    | error e =>
        have hlogs := careful_task i.showsData i.subcommand _ e s hrun
        rw [houtput, hworkspace]
        exact ⟨hlogs.output_eq, (files_of_openLog hopen).trans hlogs.files⟩

/-- A command line that normalizes documents takes the course of a normalize command, behind the
opening of the log. -/
lemma course_of_run (hnormalize : i.subcommand = .normalize request)
    (h : (i.run fromOutside w).exitCode = 0) :
    ∃ v s loaded ds, openLog w (i.recorder fromOutside) = .ok v ∧
      Course request loaded ds (.initial v (some (i.recorder fromOutside))) s ∧
      (i.run fromOutside w).workspace = s.workspace := by
  rcases i.run_cases fromOutside w with
    ⟨hfails, -, -⟩ | ⟨v, result, s, hopen, hrun, -, hworkspace, hexit⟩
  · rw [h] at hfails
    cases hfails
  · cases result with
    | error e =>
        rw [h] at hexit
        cases hexit
    | ok message =>
        rw [hnormalize, Subcommand.task] at hrun
        obtain ⟨report, s', hnormal, hpure⟩ := Task.bind_run_eq_ok_iff.mp hrun
        cases hpure
        obtain ⟨loaded, ds, hcourse⟩ := Command.course_of_run hnormal
        exact ⟨v, s, loaded, ds, hopen, hcourse, hworkspace⟩

/-- A command line whose normalize command succeeds does so too. -/
lemma exitCode_of_normalize {report : NormalizeReport} {s : Scene}
    (hnormalize : i.subcommand = .normalize request)
    (hopen : openLog w (i.recorder fromOutside) = .ok v)
    (h : (normalize request i.showsData).run.run (.initial v (some (i.recorder fromOutside))) =
      (.ok report, s)) : (i.run fromOutside w).exitCode = 0 := by
  have htask : (i.subcommand.task i.showsData).run.run
      (.initial v (some (i.recorder fromOutside))) = (.ok report.message, s) := by
    rw [hnormalize, Subcommand.task]
    exact Task.bind_run_eq_ok_iff.mpr ⟨report, s, h, rfl⟩
  simp only [run, hopen, htask, Scene.outcome]

end Invocation

lemma run_of_read (h : Invocation.read arguments = .ok i) :
    run arguments fromOutside w = i.run fromOutside w := by
  rw [run, h]

lemma logKeysOf_of_read (h : Invocation.read arguments = .ok i) :
    logKeysOf arguments = (i.logFile.map keyOf).toList := by
  rw [logKeysOf, h]

/-- A command line that is refused puts nothing out and changes nothing at all. -/
lemma leaves_alone_of_refused {e : ArgumentError} (h : Invocation.read arguments = .error e)
    (hexit : (run arguments fromOutside w).exitCode ≠ 0) :
    (run arguments fromOutside w).output = .empty ∧
      (run arguments fromOutside w).workspace = w := by
  rw [run, h] at hexit ⊢
  dsimp only at hexit ⊢
  split
  · rename_i hzero
    rw [if_pos hzero] at hexit
    exact absurd rfl hexit
  · exact ⟨rfl, rfl⟩

/-- **What a run leaves behind.** A run that fails, for whatever reason, has put nothing out and
has changed no file but that of the log, if one is named. A run that normalizes documents into a
file, and does not fail, leaves there the lines of all documents it has loaded, each normalized, and
a line break, and changes no other file but that of the log. Rules and documents are loaded from the
files as they are before the run, unless one of them is the log. -/
theorem outcome_of_run (arguments : List String) (fromOutside : Option String) (w : Workspace) :
    ((run arguments fromOutside w).exitCode ≠ 0 →
      (run arguments fromOutside w).output = .empty ∧
      SameBut (logKeysOf arguments) w (run arguments fromOutside w).workspace) ∧
    ∀ i request path, Invocation.read arguments = .ok i → i.subcommand = .normalize request →
      request.output = some path → keyOf path ∉ logKeysOf arguments →
      (run arguments fromOutside w).exitCode = 0 →
        (∃ loaded ds,
          (∃ v, SameBut (logKeysOf arguments) w v ∧ loadPipeline v request.rules = .ok loaded) ∧
          (∃ v, SameBut (logKeysOf arguments) w v ∧ loadDocuments v request.input = .ok ds) ∧
          (∀ d ∈ ds, ((request.pipeline loaded).apply d).missing? = none) ∧
          (run arguments fromOutside w).workspace.readBytes path =
            .ok (String.ofList (layout (request.normalized loaded ds) ++ ['\n'])).toUTF8) ∧
        SameBut (keyOf path :: logKeysOf arguments) w (run arguments fromOutside w).workspace := by
  cases hread : Invocation.read arguments with
  | error e =>
      refine ⟨fun hexit => ?_, fun i request path hi => nomatch hi⟩
      obtain ⟨houtput, hworkspace⟩ := leaves_alone_of_refused hread hexit
      rw [hworkspace]
      exact ⟨houtput, .refl _ _⟩
  | ok i =>
      rw [run_of_read hread, logKeysOf_of_read hread]
      refine ⟨Invocation.leaves_alone_of_run, ?_⟩
      rintro _ request path ⟨⟩ hnormalize houtput hapart hexit
      obtain ⟨v, s, loaded, ds, hopen, hcourse, hworkspace⟩ := i.course_of_run hnormalize hexit
      have hopened := files_of_openLog hopen
      obtain ⟨m, hlogs, hdocuments⟩ := hcourse.documents_eq
      rw [hworkspace]
      refine ⟨⟨loaded, ds, ⟨v, hopened, hcourse.rules_eq⟩,
        ⟨m.workspace, hopened.trans hlogs.files, hdocuments⟩, hcourse.missing?_eq, ?shows⟩, ?files⟩
      case shows =>
        have hkeys : ∀ p ∈ request.output, keyOf p ∉ (i.logFile.map keyOf).toList := by
          rintro p hp
          obtain rfl : path = p := Option.some.inj (houtput.symm.trans hp)
          exact hapart
        have hshows := hcourse.shows hkeys
        rw [houtput, outputText_eq] at hshows
        exact hshows
      case files =>
        have hfiles := hcourse.files
        rw [houtput] at hfiles
        exact (hopened.mono (List.subset_cons_self _ _)).trans hfiles

/-- The files of a run on some documents, whose rules ask for a printer. -/
def filesWith (documents : String) : Workspace where
  entries := .ofList
    [("in.json", .file documents.toUTF8),
      ("rules.json", .file ("\x7b\"rules\": [\x7b\"op\": \"replace_null\", " ++
        "\"field\": \"printer\", \"value\": \"lab-1\"\x7d]\x7d").toUTF8)]

def asking : Pipeline where
  rules := [.replaceNull "printer" (.text "lab-1")]

/-- A command line that names an output, such as one of the files it loads. -/
def argumentsFor (output : String) : List String :=
  ["normalize", "in.json", "--rules", "rules.json", "-o", output]

def requestFor (output : String) : NormalizeRequest where
  input := "in.json"
  rules := "rules.json"
  output := some output
  schemaVersion := none

def invocationFor (output : String) : Invocation :=
  ⟨.normalize (requestFor output), ⟨2⟩, false, .auto, none, .pretty, none, false⟩

lemma read_argumentsFor :
    Invocation.read (argumentsFor "rules.json") = .ok (invocationFor "rules.json") := by
  decide +kernel

/-- Two documents, of which the second has no printer. -/
def lacking : Workspace := filesWith "[\x7b\"printer\": null\x7d, \x7b\x7d]"

/-- Two documents with a printer and values of every kind. -/
def complete : Workspace :=
  filesWith ("[\x7b\"room\":null,\"printer\":\"null\",\"site\":\"Z\u00fcrich \\\"A\\\"\"," ++
    "\"copies\":-2,\"serial\":18446744073709551615,\"duplex\":true,\"scale\":25e-1\x7d," ++
    "\x7b\"printer\":false,\"pages\":7\x7d]")

def printJobs : List Document :=
  [.ofList
    [("copies", .integer (-2)), ("duplex", .bool true), ("printer", .text "null"), ("room", .null),
      ("scale", .float ⟨0x4004000000000000⟩), ("serial", .unsigned 18446744073709551615),
      ("site", .text "Z\u00fcrich \"A\"")],
    .ofList [("pages", .integer 7), ("printer", .bool false)]]

lemma loadPipeline_complete : loadPipeline complete "rules.json" = .ok asking := by
  decide +kernel

lemma loadDocuments_complete : loadDocuments complete "in.json" = .ok printJobs := by
  decide +kernel

lemma exitCode_complete : (run (argumentsFor "rules.json") none complete).exitCode = 0 := by
  have hnoKeys : (Scene.initial complete
      (some ((invocationFor "rules.json").recorder none))).logKeys = [] := rfl
  obtain ⟨report, s, hrun⟩ : ∃ report s, (normalize (requestFor "rules.json") false).run.run
      (.initial complete (some ((invocationFor "rules.json").recorder none))) = (.ok report, s) :=
    exists_run_eq_ok false loadPipeline_complete loadDocuments_complete
      (hnoKeys ▸ List.not_mem_nil) (by decide +kernel) ⟨"", _, _, by rfl, rfl⟩
  rw [run_of_read read_argumentsFor]
  exact Invocation.exitCode_of_normalize rfl rfl hrun

/-- The lines of these documents with a printer in the place of the marker. -/
def assignedText : String :=
  "[\n  \x7b\n    \"copies\": -2,\n    \"duplex\": true,\n    \"printer\": \"lab-1\",\n" ++
    "    \"room\": null,\n    \"scale\": 2.5,\n    \"serial\": 18446744073709551615,\n" ++
    "    \"site\": \"Z\u00fcrich \\\"A\\\"\"\n  \x7d,\n" ++
    "  \x7b\n    \"pages\": 7,\n    \"printer\": false\n  \x7d\n]\n"

lemma layout_printJobs :
    String.ofList (layout ((requestFor "rules.json").normalized asking printJobs) ++ ['\n']) =
      assignedText := by
  decide +kernel

/-- Where a document has no printer the input stays as it is, and where all documents have one they
come to stand in the place of the rules. -/
theorem outcome_of_run_overwriting :
    (run (argumentsFor "in.json") none lacking).exitCode = 1 ∧
    (run (argumentsFor "in.json") none lacking).output = .empty ∧
    SameBut [] lacking (run (argumentsFor "in.json") none lacking).workspace ∧
    (run (argumentsFor "rules.json") none complete).exitCode = 0 ∧
    SameBut ["rules.json"] complete (run (argumentsFor "rules.json") none complete).workspace ∧
    loadPipeline complete "rules.json" = .ok asking ∧
    loadDocuments complete "in.json" = .ok printJobs ∧
    (run (argumentsFor "rules.json") none complete).workspace.readBytes "rules.json" =
      .ok assignedText.toUTF8 := by
  have hfails : (run (argumentsFor "in.json") none lacking).exitCode = 1 := by decide +kernel
  have hnoLog : logKeysOf (argumentsFor "in.json") = [] := by decide +kernel
  have hnoLog' : logKeysOf (argumentsFor "rules.json") = [] := logKeysOf_of_read read_argumentsFor
  have hkey : keyOf "rules.json" = "rules.json" := by decide +kernel
  obtain ⟨hempty, hsame⟩ := (outcome_of_run (argumentsFor "in.json") none lacking).1
    (hfails ▸ Nat.one_ne_zero)
  obtain ⟨⟨loaded, ds, ⟨v, hv, hrules⟩, ⟨v', hv', hdocuments⟩, -, hbytes⟩, hfiles⟩ :=
    (outcome_of_run (argumentsFor "rules.json") none complete).2 _ _ "rules.json" read_argumentsFor
      rfl rfl (hnoLog' ▸ List.not_mem_nil) exitCode_complete
  rw [hnoLog] at hsame
  rw [hnoLog'] at hv hv'
  rw [hnoLog', hkey] at hfiles
  -- what is loaded on the way is what stands in the files before the run
  have hloaded : loadPipeline complete "rules.json" = .ok loaded :=
    (loadPipeline_iff_of_sameBut hv List.not_mem_nil).mp hrules
  have hds : loadDocuments complete "in.json" = .ok ds :=
    (loadDocuments_iff_of_sameBut hv' List.not_mem_nil).mp hdocuments
  obtain rfl : asking = loaded := Except.ok.inj (loadPipeline_complete.symm.trans hloaded)
  obtain rfl : printJobs = ds := Except.ok.inj (loadDocuments_complete.symm.trans hds)
  rw [layout_printJobs] at hbytes
  exact ⟨hfails, hempty, hsame, exitCode_complete, hfiles, loadPipeline_complete,
    loadDocuments_complete, hbytes⟩

end FieldNorm.Command
