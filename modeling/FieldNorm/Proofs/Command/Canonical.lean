import FieldNorm.Proofs.Command.FixedPoint
import FieldNorm.Proofs.Document.Canonical

/-!
No value decays to null on its way through the program.

* `Pipeline.canonical_of_loadPipeline`, `canonical_of_loadDocuments`, `canonical_ofVersionText`:
  whatever is loaded or asked for is canonical.
* `Pipeline.canonical_apply`: rules with canonical values keep a document canonical, also if they
  stop early.
* `outputText_eq`: the output, field by field.
* `canonical_throughout`: the whole way, up to the fields that are written as `null`.
-/

namespace FieldNorm

/-! ### Rules -/

namespace Pipeline

variable {p : Pipeline} {d : Document} {text : String}

/-- All values that are written in the rules are canonical. -/
def Canonical (p : Pipeline) : Prop := ∀ v ∈ p.values, v.Canonical

/-- **The values of rules that are read are canonical.** -/
lemma canonical_of_read (h : read text = .ok p) : p.Canonical := by
  refine of_mem_values_of_read (fun s j rest hrun v hv => ?_) h
  exact Value.canonical_of_ofJson (Json.Reader.gives_value_allFinite _ s j rest hrun) hv

/-- **Rules with canonical values keep a document canonical**, also if they stop early. -/
lemma canonical_apply (hp : p.Canonical) (hd : d.Canonical) : (p.apply d).document.Canonical :=
  fun v hv => (mem_values_of_apply hv).elim (hd v) (hp v)

end Pipeline

namespace Command

open Json (Spacing)

variable {request : NormalizeRequest} {showsData : Bool} {s s' : Scene} {w : Workspace}
  {path : String} {loaded : Pipeline} {ds : List Document} {report : NormalizeReport}

/-! ### What is loaded and asked for -/

lemma canonical_of_loadDocuments (h : loadDocuments w path = .ok ds) :
    ∀ d ∈ ds, d.Canonical := by
  intro d hd
  obtain ⟨text, items, hparse, hitems⟩ := exists_of_loadDocuments h
  obtain ⟨j, hj, hdocument⟩ := hitems d hd
  cases (Json.Reader.gives_value_allFinite _).of_readAll hparse with
  | array hall => exact Document.canonical_of_ofJson (hall j hj) hdocument

/-- Rules that are loaded have canonical values, and none of them stamps null. -/
lemma canonical_of_loadPipeline (h : loadPipeline w path = .ok loaded) :
    loaded.Canonical ∧ .stampSchema (some .null) ∉ loaded.rules := by
  obtain ⟨text, -, hread⟩ := loadPipeline_eq_ok_iff.mp h
  exact ⟨Pipeline.canonical_of_read hread, Pipeline.stampNull_notMem_of_read hread⟩

/-- A version that is typed is canonical and not null. -/
lemma canonical_ofVersionText (raw : String) :
    (Value.ofVersionText raw).Canonical ∧ Value.ofVersionText raw ≠ .null := by
  rcases ofVersionText_cases raw with ⟨n, h⟩ | ⟨text, h⟩ <;> rw [h] <;>
    exact ⟨⟨nofun, nofun⟩, nofun⟩

/-- **What is written is canonical.** -/
lemma canonical_of_mem_normalized (h : Course request loaded ds s s') :
    ∀ e ∈ request.normalized loaded ds, e.Canonical := by
  obtain ⟨m, -, hdocuments⟩ := h.documents_eq
  exact NormalizeRequest.of_mem_normalized (canonical_of_loadPipeline h.rules_eq).1
    (fun raw _ => (canonical_ofVersionText raw).1) (canonical_of_loadDocuments hdocuments)

/-! ### The output -/

/-- The lines of a document inside a list. -/
def documentLayout (d : Document) : List Char :=
  (Spacing.lines 1).enclosed '\x7b' '\x7d'
    (d.entries.map fun x => (Spacing.lines 1).member x.1 x.2.jsonText)

/-- The lines of a list of documents. -/
def layout (ds : List Document) : List Char :=
  (Spacing.lines 0).enclosed '[' ']' (ds.map documentLayout)

lemma prettyAt_document (d : Document) : d.toJson.prettyAt 1 = documentLayout d := by
  rw [Document.print_toJson Json.laidOut_prettyAt]
  simp only [Document.prettyAt_toJson]
  rfl

/-- **The output consists of the texts of the fields**, each behind its name. -/
lemma outputText_eq (ds : List Document) : outputText ds = String.ofList (layout ds ++ ['\n']) := by
  have htext : (Json.array (ds.map Document.toJson)).pretty = layout ds := by
    rw [Json.pretty, Json.laidOut_prettyAt.array, List.map_map, layout]
    exact congrArg _ (List.map_congr_left fun d _ => prettyAt_document d)
  rw [outputText, Document.prettyList, htext, String.ofList_append]

/-- **No value decays to null.**

* What is read as a document, loaded as a list of documents or as rules, or typed as a version is
  canonical; no rule that is loaded stamps null, and no version that is typed is null.
* Rules with canonical values leave a canonical document canonical, whether they succeed or not.
* If a command succeeds, its output consists of the fields of documents, and exactly those that
  hold null are written as `null`. -/
theorem canonical_throughout :
    (∀ text d, Document.read text = .ok d → d.Canonical) ∧
    (∀ text d, Document.readEach text = .ok d → d.Canonical) ∧
    (∀ w path ds, loadDocuments w path = .ok ds → ∀ d ∈ ds, d.Canonical) ∧
    (∀ w path p, loadPipeline w path = .ok p →
      p.Canonical ∧ .stampSchema (some .null) ∉ p.rules) ∧
    (∀ raw, (Value.ofVersionText raw).Canonical ∧ Value.ofVersionText raw ≠ .null) ∧
    (∀ (p : Pipeline) (d : Document), p.Canonical → d.Canonical →
      (p.apply d).document.Canonical) ∧
    ∀ request showsData s report s', (normalize request showsData).run.run s = (.ok report, s') →
      ∃ loaded ds, Course request loaded ds s s' ∧
        outputText (request.normalized loaded ds) =
          String.ofList (layout (request.normalized loaded ds) ++ ['\n']) ∧
        ∀ e ∈ request.normalized loaded ds, ∀ v ∈ e.values,
          v.jsonText = "null".toList ↔ v = .null := by
  refine ⟨fun _ _ => Document.canonical_of_read, fun _ _ => Document.canonical_of_readEach,
    fun _ _ _ => canonical_of_loadDocuments, fun _ _ _ => canonical_of_loadPipeline,
    canonical_ofVersionText, fun _ _ => Pipeline.canonical_apply, ?output⟩
  case output =>
    intro request showsData s report s' hrun
    obtain ⟨loaded, ds, hcourse⟩ := course_of_run hrun
    refine ⟨loaded, ds, hcourse, outputText_eq _, fun e he v hv => ?_⟩
    exact Value.jsonText_eq_null_iff (canonical_of_mem_normalized hcourse e he v hv)

/-- A document with decimals, an integer that only has room in the unsigned form, a marker and a
null. -/
def measured : Document :=
  .ofList
    [("far", .float ⟨0x7e41eb2d66005835⟩), ("many", .unsigned 18446744073709551615),
      ("near", .float ⟨0x8000000000000fd0⟩), ("note", .text "null"), ("rest", .null)]

def measuredText : String :=
  "\x7b\"far\": 1.5e300, \"many\": 18446744073709551615, \"near\": -2E-320, " ++
    "\"note\": \"null\", \"rest\": null\x7d"

/-- Rules that put a decimal in the place of the marker. -/
def measuring : Pipeline where
  rules := [.replaceNull "note" (.float ⟨0x3fb999999999999a⟩), .stampSchema none]

def measuringText : String :=
  "\x7b\"rules\": [\x7b\"op\": \"replace_null\", \"field\": \"note\", \"value\": 0.1\x7d, " ++
    "\x7b\"op\": \"stamp_schema\", \"version\": null\x7d]\x7d"

def measuringScene : Scene :=
  .initial
    { entries := .ofList
        [("in.json", .file ("[" ++ measuredText ++ "]").toUTF8),
          ("rules.json", .file measuringText.toUTF8)] } none

def measuringRequest : NormalizeRequest where
  input := "in.json"
  rules := "rules.json"
  output := none
  schemaVersion := some " 2.50 "

/-- The text of the version is no integer, so it stays a text. -/
theorem canonical_throughout_measuring :
    (Document.read measuredText = .ok measured ∧ measured.Canonical) ∧
    (Document.readEach measuredText = .ok measured ∧ measured.Canonical) ∧
    (loadDocuments measuringScene.workspace "in.json" = .ok [measured] ∧
      ∀ d ∈ [measured], d.Canonical) ∧
    (loadPipeline measuringScene.workspace "rules.json" = .ok measuring ∧ measuring.Canonical) ∧
    (Value.ofVersionText " 2.50 " = .text "2.50" ∧ (Value.ofVersionText " 2.50 ").Canonical) ∧
    ((measuring.apply measured).document ≠ measured ∧
      (measuring.apply measured).document.Canonical) ∧
    ∃ report s' loaded ds,
      (normalize measuringRequest false).run.run measuringScene = (.ok report, s') ∧
      Course measuringRequest loaded ds measuringScene s' ∧
      ∀ e ∈ measuringRequest.normalized loaded ds, ∀ v ∈ e.values,
        v.jsonText = "null".toList ↔ v = .null := by
  obtain ⟨hread, heach, hdocuments, hrules, hversion, happly, hrun⟩ := canonical_throughout
  have hmeasured : Document.read measuredText = .ok measured := by decide +kernel
  have hmeasured' : Document.readEach measuredText = .ok measured := by decide +kernel
  have hloaded : loadDocuments measuringScene.workspace "in.json" = .ok [measured] := by
    decide +kernel
  have hmeasuring : loadPipeline measuringScene.workspace "rules.json" = .ok measuring := by
    decide +kernel
  have hcanonical : measured.Canonical := hread _ _ hmeasured
  have hpipeline : measuring.Canonical := (hrules _ _ _ hmeasuring).1
  have hlog : measuringScene.logKeys = [] := rfl
  obtain ⟨report, s', hsuccess⟩ : ∃ report s',
      (normalize measuringRequest false).run.run measuringScene = (.ok report, s') :=
    exists_run_eq_ok false hmeasuring hloaded (by simp [hlog]) (by decide +kernel) ⟨"", _, rfl⟩
  obtain ⟨loaded, ds, hcourse, -, hnull⟩ := hrun _ _ _ _ _ hsuccess
  exact ⟨⟨hmeasured, hcanonical⟩, ⟨hmeasured', heach _ _ hmeasured'⟩,
    ⟨hloaded, hdocuments _ _ _ hloaded⟩, ⟨hmeasuring, hpipeline⟩,
    ⟨by decide +kernel, (hversion _).1⟩, ⟨by decide +kernel, happly _ _ hpipeline hcanonical⟩,
    report, s', loaded, ds, hsuccess, hcourse, hnull⟩

end Command

end FieldNorm
