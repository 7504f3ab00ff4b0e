import FieldNorm.Proofs.Command.Course
import FieldNorm.Proofs.Command.Reloading
import FieldNorm.Proofs.Pipeline.Repetition
import FieldNorm.Proofs.Pipeline.Values

/-!
Normalizing what has been normalized.

* `NormalizeRequest.normalized_normalized`: rules have nothing to do for documents they have been
  applied to.
* `NormalizeRequest.of_mem_normalized`: what holds of every value that is loaded or asked for holds
  of every value that is written. So the documents that are written are those that are read again.
* `normalize_again`: a command on the output of another one writes the same bytes.
-/

namespace FieldNorm.Command

open Workspace (keyOf)

variable {request : NormalizeRequest} {showsData : Bool} {s s' : Scene} {w w' : Workspace}
  {path path' : String} {loaded : Pipeline} {ds : List Document} {report : NormalizeReport}
  {P : Value → Prop}

/-! ### The rules once more -/

namespace NormalizeRequest

lemma again_of_mem_normalized
    (h : ∀ d ∈ ds, ((request.pipeline loaded).apply d).missing? = none) :
    ∀ e ∈ request.normalized loaded ds, ((request.pipeline loaded).apply e).missing? = none ∧
      ((request.pipeline loaded).apply e).document = e := by
  intro e he
  obtain ⟨d, hd, rfl⟩ := List.mem_map.mp he
  have hagain := (Pipeline.applies_of_missing?_eq_none (h d hd)).again
  exact ⟨Pipeline.missing?_eq_none_iff_applies.mpr ⟨_, hagain⟩, hagain.document_eq⟩

/-- **Rules have nothing to do for documents they have been applied to.** -/
lemma normalized_normalized
    (h : ∀ d ∈ ds, ((request.pipeline loaded).apply d).missing? = none) :
    request.normalized loaded (request.normalized loaded ds) = request.normalized loaded ds := by
  have hagain := again_of_mem_normalized h
  rw [normalized, List.map_congr_left fun e he => (hagain e he).2, List.map_id']

/-! ### The values that are written -/

/-- **No value is made up**: what holds of every value that is loaded or asked for holds of every
value that is written. -/
lemma of_mem_normalized (hrules : ∀ v ∈ loaded.values, P v)
    (hversion : ∀ raw ∈ request.schemaVersion, P (.ofVersionText raw))
    (hdocuments : ∀ d ∈ ds, ∀ v ∈ d.values, P v) :
    ∀ e ∈ request.normalized loaded ds, ∀ v ∈ e.values, P v := by
  intro e he v hv
  obtain ⟨d, hd, rfl⟩ := List.mem_map.mp he
  rcases Pipeline.mem_values_of_apply hv with hbefore | hpipeline
  · exact hdocuments d hd v hbefore
  · rcases Pipeline.mem_values_withSchemaVersion hpipeline with hloaded | hasked
    · exact hrules v hloaded
    · obtain ⟨raw, hraw, rfl⟩ := Option.map_eq_some_iff.mp hasked
      exact hversion raw hraw

end NormalizeRequest

/-- A version that is typed is an integer in the signed form, or a text. -/
lemma ofVersionText_cases (raw : String) :
    (∃ n, Value.ofVersionText raw = .integer n) ∨ ∃ text, Value.ofVersionText raw = .text text := by
  rw [Value.ofVersionText]
  split
  · exact .inl ⟨_, rfl⟩
  · exact .inr ⟨_, rfl⟩

/-- Documents that are loaded are taken from JSON, each from an item. -/
lemma exists_of_documentsFrom {index : Nat} {items : List Json}
    (h : documentsFrom index items = .ok ds) :
    ∀ d ∈ ds, ∃ j ∈ items, Document.ofJson j = .ok d := by
  induction items generalizing index ds with
  | nil =>
      obtain rfl := Except.ok.inj h
      exact nofun
  | cons j items ih =>
      rw [documentsFrom] at h
      split at h
      · cases h
      · rename_i d hd
        split at h <;> cases h
        rename_i others hothers
        exact List.forall_mem_cons.mpr
          ⟨⟨j, List.mem_cons_self, hd⟩, fun e he =>
            (ih hothers e he).imp fun _ => .imp_left (List.mem_cons_of_mem _)⟩

/-- Documents that are loaded are those of the items of a text. -/
lemma exists_of_loadDocuments (h : loadDocuments w path = .ok ds) :
    ∃ text items, Json.parse text = .ok (.array items) ∧
      ∀ d ∈ ds, ∃ j ∈ items, Document.ofJson j = .ok d := by
  obtain ⟨text, -, htext⟩ := loadDocuments_eq_ok_iff.mp h
  rw [documentsOfText] at htext
  split at htext
  · cases htext
  · rename_i items hparse
    exact ⟨text, items, hparse, exists_of_documentsFrom htext⟩
  · cases htext

/-- What is written is narrowed, whatever has been loaded. -/
lemma narrowed_of_mem_normalized (hrules : loadPipeline w path = .ok loaded)
    (hdocuments : loadDocuments w' path' = .ok ds) :
    ∀ e ∈ request.normalized loaded ds, e.narrowed = e := by
  intro e he
  refine Document.narrowed_eq_self
    (NormalizeRequest.of_mem_normalized (fun v hv => ?rules) (fun raw _ => ?version)
      (fun d hd v hv => ?documents) e he)
  case rules =>
    obtain ⟨text, -, hread⟩ := loadPipeline_eq_ok_iff.mp hrules
    exact Pipeline.narrowed_of_read hread hv
  case version =>
    rcases ofVersionText_cases raw with ⟨n, h⟩ | ⟨text, h⟩ <;> rw [h] <;> rfl
  case documents =>
    obtain ⟨-, items, -, hitems⟩ := exists_of_loadDocuments hdocuments
    obtain ⟨j, -, hj⟩ := hitems d hd
    exact Document.narrowed_of_ofJson hj hv

/-- No float is written where none has been loaded. -/
lemma floatFree_of_mem_normalized (hrules : ∀ v ∈ loaded.values, ¬ v.isFloat)
    (hdocuments : ∀ d ∈ ds, d.FloatFree) :
    ∀ e ∈ request.normalized loaded ds, e.FloatFree := by
  intro e he
  refine Document.floatFree_iff.mpr (NormalizeRequest.of_mem_normalized hrules (fun raw _ => ?_)
    (fun d hd => Document.floatFree_iff.mp (hdocuments d hd)) e he)
  rcases ofVersionText_cases raw with ⟨n, h⟩ | ⟨text, h⟩ <;> rw [h] <;> exact nofun

/-! ### A command on the output of another one -/

/-- Rules are loaded alike from files with the same bytes. -/
lemma loadPipeline_iff_of_readBytes (h : w'.readBytes path' = w.readBytes path) :
    loadPipeline w' path' = .ok loaded ↔ loadPipeline w path = .ok loaded := by
  simp only [loadPipeline_eq_ok_iff, Workspace.readText_eq_ok_iff, h]

/-- The log is kept neither in the file with the documents nor in the file of the output, where its
lines would stand behind the documents. Without a log, or with one that is not kept in a file, this
is so. -/
def Scene.LogsApart (s : Scene) (request : NormalizeRequest) : Prop :=
  keyOf request.input ∉ s.logKeys ∧ ∀ path ∈ request.output, keyOf path ∉ s.logKeys

/-- **A command on the output of another one writes the same bytes.** Let a normalize command
succeed that has loaded no float, neither with the rules nor with the documents. Then it puts out a
text, and a normalize command on any file with this text, with the same rules and the same version,
succeeds as well and puts out the same text. -/
theorem normalize_again (hrun : (normalize request showsData).run.run s = (.ok report, s'))
    (hlog : s.LogsApart request)
    (hrules : ∀ p, loadPipeline s.workspace request.rules = .ok p → ∀ v ∈ p.values, ¬ v.isFloat)
    (hdocuments : ∀ ds, loadDocuments s.workspace request.input = .ok ds →
      ∀ d ∈ ds, d.FloatFree) :
    ∃ text, s.Shows request.output text s' ∧
      ∀ (again : NormalizeRequest) (showsMore : Bool) (t : Scene),
        t.workspace.readBytes again.input = .ok text.toUTF8 →
        t.workspace.readBytes again.rules = s.workspace.readBytes request.rules →
        again.schemaVersion = request.schemaVersion →
        t.LogsApart again → t.CanPut again.output →
          ∃ reported t', (normalize again showsMore).run.run t = (.ok reported, t') ∧
            t.Shows again.output text t' := by
  obtain ⟨loaded, ds, hcourse⟩ := course_of_run hrun
  have hloaded := hcourse.loadDocuments_eq hlog.1
  have hnarrowed : ∀ e ∈ request.normalized loaded ds, e.narrowed = e :=
    narrowed_of_mem_normalized hcourse.rules_eq hloaded
  have hfree : ∀ e ∈ request.normalized loaded ds, e.FloatFree :=
    floatFree_of_mem_normalized (hrules loaded hcourse.rules_eq) (hdocuments ds hloaded)
  refine ⟨_, hcourse.shows hlog.2, fun again showsMore t hinput hsame hversion hapart hput => ?_⟩
  have hpipeline : again.pipeline loaded = request.pipeline loaded := by
    rw [NormalizeRequest.pipeline, hversion, NormalizeRequest.pipeline]
  have hreloaded : loadDocuments t.workspace again.input = .ok (request.normalized loaded ds) := by
    rw [loadDocuments_of_readBytes hfree hinput, List.map_congr_left hnarrowed, List.map_id']
  have hmissing : ∀ e ∈ request.normalized loaded ds,
      ((again.pipeline loaded).apply e).missing? = none := by
    rw [hpipeline]
    exact fun e he => (NormalizeRequest.again_of_mem_normalized hcourse.missing?_eq e he).1
  have hsettled : again.normalized loaded (request.normalized loaded ds) =
      request.normalized loaded ds := by
    rw [NormalizeRequest.normalized, hpipeline]
    exact NormalizeRequest.normalized_normalized hcourse.missing?_eq
  obtain ⟨reported, t', hrun', hcourse'⟩ := exists_run showsMore
    ((loadPipeline_iff_of_readBytes hsame).mpr hcourse.rules_eq) hreloaded hapart.1 hmissing hput
  have hshows := hcourse'.shows hapart.2
  rw [hsettled] at hshows
  exact ⟨reported, t', hrun', hshows⟩

/-- Rules that give a document a printer, and stamp it. -/
def labelling : Pipeline where
  rules := [.stampSchema (some (.integer 1)), .replaceNull "printer" (.text "lab-1")]

def labellingText : String :=
  "\x7b\"rules\": [\x7b\"op\": \"stamp_schema\", \"version\": 1\x7d, " ++
    "\x7b\"op\": \"replace_null\", \"field\": \"printer\", \"value\": \"lab-1\"\x7d]\x7d"

/-- A document with a marker, an integer that has only room in the unsigned form and a text with
characters that are escaped. -/
def unlabelled : Document :=
  .ofList
    [("count", .unsigned 9223372036854775808), ("note", .text "\" \n \\ \x01"),
      ("printer", .text "null")]

def labellingScene : Scene :=
  .initial
    { entries := .ofList
        [("in.json", .file (outputText [unlabelled]).toUTF8),
          ("rules.json", .file labellingText.toUTF8)] } none

/-- The version is typed as a text with blanks around a number. -/
def labellingRequest : NormalizeRequest where
  input := "in.json"
  rules := "rules.json"
  output := some "out.json"
  schemaVersion := some " 7 "

lemma read_labellingText : Pipeline.read labellingText = .ok labelling := by decide +kernel

lemma readBytes_labellingScene :
    labellingScene.workspace.readBytes "rules.json" = .ok labellingText.toUTF8 := by rfl

lemma loadPipeline_labellingScene :
    loadPipeline labellingScene.workspace "rules.json" = .ok labelling :=
  loadPipeline_eq_ok_iff.mpr
    ⟨labellingText, readText_of_readBytes readBytes_labellingScene, read_labellingText⟩

lemma loadDocuments_labellingScene :
    loadDocuments labellingScene.workspace "in.json" = .ok [unlabelled.narrowed] := by
  have hinput : labellingScene.workspace.readBytes "in.json" =
      .ok (outputText [unlabelled]).toUTF8 := by rfl
  have hfree : ∀ d ∈ [unlabelled], d.FloatFree := by decide
  exact loadDocuments_of_readBytes hfree hinput

theorem normalize_again_labelling :
    ∃ report s' reported t', ∃ text : String,
      (normalize labellingRequest false).run.run labellingScene = (.ok report, s') ∧
      s'.workspace.readBytes "out.json" = .ok text.toUTF8 ∧
      (normalize { labellingRequest with input := "out.json", output := none } false).run.run s' =
        (.ok reported, t') ∧
      t'.output = s'.output ++ text.toUTF8 := by
  have hlog : labellingScene.logKeys = [] := rfl
  obtain ⟨report, s', hrun, hcourse⟩ : ∃ report s',
      (normalize labellingRequest false).run.run labellingScene = (.ok report, s') ∧
        Course labellingRequest labelling [unlabelled.narrowed] labellingScene s' :=
    exists_run false loadPipeline_labellingScene loadDocuments_labellingScene (by simp [hlog])
      (by decide) ⟨"", _, _, by rfl, rfl⟩
  have hsame : s'.workspace.readBytes "rules.json" = .ok labellingText.toUTF8 :=
    (hcourse.files.readBytes_iff (by decide)).mpr readBytes_labellingScene
  have hlog' : s'.logKeys = [] := hcourse.logKeys_eq.trans hlog
  have hfreeRules : ∀ p, loadPipeline labellingScene.workspace "rules.json" = .ok p →
      ∀ v ∈ p.values, ¬ v.isFloat := by
    intro p hp
    obtain rfl := Except.ok.inj (loadPipeline_labellingScene.symm.trans hp)
    decide
  have hfreeDocuments : ∀ ds, loadDocuments labellingScene.workspace "in.json" = .ok ds →
      ∀ d ∈ ds, d.FloatFree := by
    intro ds hds
    obtain rfl := Except.ok.inj (loadDocuments_labellingScene.symm.trans hds)
    decide
  obtain ⟨text, hshows, hagain⟩ :=
    normalize_again hrun ⟨by simp [hlog], by simp [hlog]⟩ hfreeRules hfreeDocuments
  obtain ⟨reported, t', hrun', hshows'⟩ :=
    hagain { labellingRequest with input := "out.json", output := none } false s' hshows
      (hsame.trans readBytes_labellingScene.symm) rfl ⟨by simp [hlog'], nofun⟩ ⟨"", _, rfl⟩
  exact ⟨report, s', reported, t', text, hrun, hshows, hrun', hshows'⟩

end FieldNorm.Command
